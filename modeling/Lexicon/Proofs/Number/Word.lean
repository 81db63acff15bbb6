import Lexicon.Number.Word

namespace Lexicon

/-!
# Integers that words hold

* `fitsInt64_toInt`, `int64OfInt?_eq_some` — the integers of 64 bits are those that words have;
* `int64OfInt?_toInt`, `uint64OfInt?_toNat`, `uint32OfInt?_toNat` — a word is found again from its
  value.
-/

theorem fitsInt64_iff {n : Int} :
    fitsInt64 n = true ↔ Int64.minValue.toInt ≤ n ∧ n ≤ Int64.maxValue.toInt := by
  simp [fitsInt64]

theorem fitsInt64_toInt (i : Int64) : fitsInt64 i.toInt = true :=
  fitsInt64_iff.2 ⟨i.minValue_le_toInt, i.toInt_le⟩

/-- An integer is a word iff it is the value of that word. -/
theorem int64OfInt?_eq_some {n : Int} {i : Int64} : int64OfInt? n = some i ↔ i.toInt = n := by
  unfold int64OfInt?
  constructor
  · intro h
    split at h
    · rename_i hn
      obtain ⟨hmin, hmax⟩ := fitsInt64_iff.1 hn
      cases h
      rw [Int64.toInt_minValue] at hmin
      rw [Int64.toInt_maxValue] at hmax
      exact Int64.toInt_ofInt_of_le hmin (by omega)
    · cases h
  · rintro rfl
    rw [if_pos (fitsInt64_toInt i), Int64.ofInt_toInt]

theorem int64OfInt?_toInt (i : Int64) : int64OfInt? i.toInt = some i :=
  int64OfInt?_eq_some.2 rfl

/-- An integer is no word iff 64 bits do not hold it. -/
theorem int64OfInt?_eq_none {n : Int} : int64OfInt? n = none ↔ fitsInt64 n = false := by
  simp [int64OfInt?]

section NoWord

variable {n : Int} (hn : fitsInt64 n = false) (i : Int64)
include hn

/-- An integer that 64 bits do not hold lies beyond all words on its side of zero. -/
theorem lt_or_lt_of_not_fits : (0 < n ∧ i.toInt < n) ∨ (n < 0 ∧ n < i.toInt) := by
  have hmin := i.minValue_le_toInt
  have hmax := i.toInt_le
  have hout : ¬ (Int64.minValue.toInt ≤ n ∧ n ≤ Int64.maxValue.toInt) := by
    rw [← fitsInt64_iff, hn]; exact Bool.false_ne_true
  rw [Int64.toInt_minValue] at hmin hout
  rw [Int64.toInt_maxValue] at hmax hout
  omega

theorem ne_toInt_of_not_fits : n ≠ i.toInt := by
  have := lt_or_lt_of_not_fits hn i
  omega

end NoWord

theorem uint64OfInt?_toNat (n : UInt64) : uint64OfInt? n.toNat = some n := by
  have h : n.toNat < UInt64.size := n.toNat_lt
  simp [uint64OfInt?, h]

theorem uint32OfInt?_toNat (n : UInt32) : uint32OfInt? n.toNat = some n := by
  have h : n.toNat < UInt32.size := n.toNat_lt
  simp [uint32OfInt?, h]

end Lexicon
