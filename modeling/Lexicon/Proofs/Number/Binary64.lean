import Lexicon.Number.Binary64
import Mathlib.Data.Rat.Defs
import Mathlib.Algebra.Order.Field.Rat
import Mathlib.Tactic.FieldSimp
import Mathlib.Tactic.Ring

namespace Lexicon.Binary64

/-!
# The value of a double-precision number

* `toRat` — the exact value `±m · 2^q` of a finite number;
* `IsWhole x n` — a finite number whose value is the integer `n`;
* `integer?_eq_some` — reading a number as an integer finds exactly that.
-/

/-- The magnitude `m · 2^q` of a finite number. -/
def magnitude (x : Binary64) : ℚ :=
  x.significand * (2 : ℚ) ^ x.scale

/-- The exact value of a finite number. -/
def toRat (x : Binary64) : ℚ :=
  if x.isNegative then -x.magnitude else x.magnitude

/-- A finite number has an integer as its value. -/
def IsWhole (x : Binary64) (n : ℤ) : Prop :=
  x.isFinite ∧ x.toRat = n

/-- The magnitude is the fraction that `ratio` gives. -/
theorem magnitude_eq_ratio (x : Binary64) : x.magnitude = (x.ratio.1 : ℚ) / x.ratio.2 := by
  unfold magnitude ratio
  obtain ⟨k, hk | hk⟩ := Int.eq_nat_or_neg x.scale
  · simp [hk]
  · simp [hk, div_eq_mul_inv]

theorem ratio_snd_pos (x : Binary64) : 0 < x.ratio.2 :=
  Nat.pow_pos Nat.two_pos

/-- A magnitude is a natural number iff the fraction has no remainder, and then it is the
    quotient. -/
theorem magnitude_eq_natCast_iff {x : Binary64} {k : ℕ} :
    x.magnitude = k ↔ x.ratio.1 % x.ratio.2 = 0 ∧ x.ratio.1 / x.ratio.2 = k := by
  have hpos := x.ratio_snd_pos
  have hne : (x.ratio.2 : ℚ) ≠ 0 := by exact_mod_cast hpos.ne'
  rw [magnitude_eq_ratio, div_eq_iff hne]
  constructor
  · intro h
    have hnum : x.ratio.1 = k * x.ratio.2 := by exact_mod_cast h
    rw [hnum]
    exact ⟨Nat.mul_mod_left _ _, Nat.mul_div_cancel _ hpos⟩
  · rintro ⟨hmod, rfl⟩
    exact_mod_cast (Nat.div_mul_cancel (Nat.dvd_of_mod_eq_zero hmod)).symm

theorem magnitude_nonneg (x : Binary64) : 0 ≤ x.magnitude := by
  rw [magnitude_eq_ratio]
  exact div_nonneg (Nat.cast_nonneg _) (Nat.cast_nonneg _)

/-- The value is an integer iff the magnitude is a natural number. -/
theorem toRat_eq_intCast_iff {x : Binary64} {n : ℤ} :
    x.toRat = n ↔ ∃ k : ℕ, x.magnitude = k ∧ (if x.isNegative then -(k : ℤ) else k) = n := by
  have hmag := x.magnitude_nonneg
  unfold toRat
  cases x.isNegative with
  | true =>
    simp only [if_true]
    constructor
    · intro h
      -- The value has the sign of the number, so an integer value does, too.
      have hn : n ≤ 0 := by
        have : (n : ℚ) ≤ 0 := by rw [← h]; exact neg_nonpos.2 hmag
        exact_mod_cast this
      obtain ⟨k, rfl⟩ := Int.exists_eq_neg_ofNat hn
      exact ⟨k, by push_cast at h; exact neg_inj.1 h, rfl⟩
    · rintro ⟨k, hk, rfl⟩
      rw [hk]; push_cast; rfl
  | false =>
    simp only [Bool.false_eq_true, if_false]
    constructor
    · intro h
      have hn : 0 ≤ n := by rw [h] at hmag; exact_mod_cast hmag
      obtain ⟨k, rfl⟩ := Int.eq_ofNat_of_zero_le hn
      exact ⟨k, by exact_mod_cast h, rfl⟩
    · rintro ⟨k, hk, rfl⟩
      rw [hk]; rfl

/-- Reading a number as an integer finds its exact value, if that is an integer. -/
theorem integer?_eq_some {x : Binary64} {n : ℤ} : x.integer? = some n ↔ x.IsWhole n := by
  have h : x.integer? = some n ↔ x.isFinite ∧ x.ratio.1 % x.ratio.2 = 0 ∧
      (if x.isNegative then -((x.ratio.1 / x.ratio.2 : ℕ) : ℤ) else (x.ratio.1 / x.ratio.2 : ℕ))
        = n := by
    simp [integer?, and_assoc]
  rw [h, IsWhole, toRat_eq_intCast_iff]
  simp only [magnitude_eq_natCast_iff, and_assoc, exists_and_left, exists_eq_left']

end Lexicon.Binary64
