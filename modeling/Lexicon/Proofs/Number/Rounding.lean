import Lexicon.Proofs.Number.Binary64
import Mathlib.Data.Nat.Log

namespace Lexicon.Binary64

/-!
# Rounding large natural numbers

A natural number of more than 53 bits is rounded to a multiple of a power of two, which is the exact
value of the double-precision number that it becomes.

* `roundDiv_bounds`, `roundDiv_within` — the nearest integer is next to the quotient, so it stays
  within bounds that the quotient keeps;
* `integer?_of_significand` — the number that is made from a significand, a carry included;
* `scaleFor_eq`, `integer?_ofNat` — the value that a large natural number is rounded to.
-/

variable {num den q m n : ℕ}

/-- Rounding goes down to the quotient or up to the next number. -/
theorem roundDiv_bounds (num den : ℕ) :
    num / den ≤ roundDiv num den ∧ roundDiv num den ≤ num / den + 1 := by
  unfold roundDiv
  dsimp only
  split <;> omega

/-- Rounding does not leave an interval between integers. -/
theorem roundDiv_within {low high : ℕ} (hden : 0 < den) (hlow : low * den ≤ num)
    (hhigh : num < high * den) : low ≤ roundDiv num den ∧ roundDiv num den ≤ high := by
  have hbounds := roundDiv_bounds num den
  have hquotient : low ≤ num / den := (Nat.le_div_iff_mul_le hden).2 hlow
  have hquotient' : num / den < high := (Nat.div_lt_iff_lt_mul hden).2 hhigh
  omega

/-- **A significand of 53 bits and its exponent make the number of their value.**  A significand that
    has been rounded up to 54 bits carries into the exponent, and the value is the same. -/
theorem integer?_of_significand (hlow : fractionBound ≤ m) (hhigh : m ≤ 2 * fractionBound)
    (hq : q ≤ 970) :
    integer? ⟨.ofNat ((q + 1074) * fractionBound + m)⟩ = some ((m * 2 ^ q : ℕ) : ℤ) := by
  unfold fractionBound at hlow hhigh
  have hbits : (UInt64.ofNat ((q + 1074) * fractionBound + m)).toNat =
      (q + 1074) * fractionBound + m := by
    rw [UInt64.toNat_ofNat', Nat.mod_eq_of_lt]
    unfold fractionBound
    omega
  generalize hx : (⟨.ofNat ((q + 1074) * fractionBound + m)⟩ : Binary64) = x
  replace hbits : x.bits.toNat = (q + 1074) * 0x10000000000000 + m := by
    rw [← hx]
    exact hbits
  have hnegative : x.isNegative = false := by
    unfold isNegative
    rw [decide_eq_false_iff_not]
    omega
  -- The exponent, and what it leaves of the significand.
  obtain ⟨e, f, hexponent, hfraction, hvalue⟩ : ∃ e f, x.exponentField = q + 1075 + e ∧
      x.fraction = f ∧ (0x10000000000000 + f) * 2 ^ e = m ∧ e ≤ 1 := by
    unfold exponentField fraction fractionBound
    by_cases hcarry : m = 2 * 0x10000000000000
    · exact ⟨1, 0, by omega, by omega, by omega⟩
    · exact ⟨0, m - 0x10000000000000, by omega, by omega, by omega⟩
  have hne : x.exponentField ≠ 0 := by omega
  have hscale : x.scale.toNat = q + e ∧ (-x.scale).toNat = 0 := by
    rw [scale, if_neg hne, hexponent]
    omega
  have hsignificand : x.significand = 0x10000000000000 + f := by
    rw [significand, if_neg hne, hfraction, fractionBound]
  have hratio : x.ratio = (m * 2 ^ q, 1) := by
    rw [ratio, hscale.1, hscale.2, hsignificand, ← hvalue.1, Nat.pow_eq, Nat.pow_eq, Nat.pow_add,
      Nat.pow_zero]
    congr 1
    ring
  have hfinite : x.isFinite = true := by
    unfold isFinite
    rw [bne_iff_ne, hexponent]
    omega
  unfold integer?
  rw [hratio, hfinite, hnegative]
  simp [Nat.mod_one]

/-- The exponent that leaves 53 bits of a large number. -/
theorem scaleFor_eq (hlow : 2 ^ (52 + q) ≤ n) (hhigh : n < 2 ^ (53 + q)) : scaleFor n 1 = q := by
  have hne : n ≠ 0 := (Nat.lt_of_lt_of_le (Nat.two_pow_pos _) hlow).ne'
  have hlog : n.log2 = 52 + q := by
    rw [Nat.log2_eq_iff hne]
    exact ⟨hlow, by rwa [show 52 + q + 1 = 53 + q by omega]⟩
  -- The guess is right at once, as the denominator is 1.
  have hguess : ((n.log2 : ℤ) - (Nat.log2 1 : ℕ)) = ((52 + q : ℕ) : ℤ) := by
    rw [hlog]
    rfl
  have hnat : ((52 + q : ℕ) : ℤ).toNat = 52 + q ∧ (-((52 + q : ℕ) : ℤ)).toNat = 0 := by omega
  have hfits : 1 * Nat.pow 2 (52 + q) ≤ n * Nat.pow 2 0 := by
    rw [Nat.pow_eq, Nat.pow_eq, Nat.one_mul, Nat.pow_zero, Nat.mul_one]
    exact hlow
  unfold scaleFor
  simp only [hguess, hnat]
  rw [if_pos hfits]
  omega

/-- **Large natural numbers are rounded to multiples of a power of two.**  The number that one of
    `53 + q` bits becomes has the nearest multiple of `2 ^ q` as its exact value. -/
theorem integer?_ofNat (hlow : 2 ^ (52 + q) ≤ n) (hhigh : n < 2 ^ (53 + q)) (hq : q ≤ 970) :
    (ofNat n).integer? = some ((roundDiv n (2 ^ q) * 2 ^ q : ℕ) : ℤ) := by
  have hne : n ≠ 0 := (Nat.lt_of_lt_of_le (Nat.two_pow_pos _) hlow).ne'
  have hbound : fractionBound = 2 ^ 52 := by decide
  have hbound' : 2 * fractionBound = 2 ^ 53 := by decide
  obtain ⟨hm, hm'⟩ : fractionBound ≤ roundDiv n (2 ^ q) ∧
      roundDiv n (2 ^ q) ≤ 2 * fractionBound := by
    rw [hbound', hbound]
    refine roundDiv_within (Nat.two_pow_pos q) ?_ ?_
    · rwa [← Nat.pow_add]
    · rwa [← Nat.pow_add]
  -- The number is far from infinity, to which larger ones are cut off.
  have hbits : min ((q + 1074) * fractionBound + roundDiv n (2 ^ q)) (0x7ff * fractionBound) =
      (q + 1074) * fractionBound + roundDiv n (2 ^ q) := by
    unfold fractionBound at hm' ⊢
    omega
  have hnat : (-(q : ℤ)).toNat = 0 ∧ (q : ℤ).toNat = q ∧ ((q : ℤ) + 1074).toNat = q + 1074 := by
    omega
  have hexact : ofNat n = ⟨.ofNat ((q + 1074) * fractionBound + roundDiv n (2 ^ q))⟩ := by
    rw [← hbits, ofNat, ofRatio, if_neg hne, scaleFor_eq hlow hhigh]
    dsimp only
    rw [hnat.1, hnat.2.1, hnat.2.2, Nat.pow_eq, Nat.pow_eq, Nat.pow_zero, Nat.mul_one,
      Nat.one_mul]
  rw [hexact, integer?_of_significand hm hm' hq]

end Lexicon.Binary64
