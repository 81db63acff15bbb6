import Lexicon.Datetime
import Lexicon.Proofs.Text.Sequence

namespace Lexicon.Datetime

open Lexicon.Text

/-!
# Numbers of a fixed width

The numbers of a date-time have as many digits as there are places for them.

* `digits` — writing a number in so many digits;
* `ofDigitChars_digits`, `digits_ofDigitChars` — reading undoes writing, and writing undoes reading;
* `number?_eq_some` — what is read in front of a text;
* `mem_pow_isDigit` — the pattern of numbers of so many digits;
* `twoDigits`, `mem_twoDigits` — the pattern of numbers of two digits up to a first one.
-/

/-- The last decimal digits of a number, so many of them. -/
def digits : (count : Nat) → Nat → List Char
  | 0, _ => []
  | count + 1, n => digits count (n / 10) ++ [Nat.digitChar (n % 10)]

/-- The pattern of numbers of two digits, the first of which is at most `tens`. -/
def twoDigits (tens : Nat) : Language Char :=
  one (fun c => '0' ≤ c && c ≤ Nat.digitChar tens) * one Char.isDigit

variable {cs rest : List Char} {c : Char} {count n : Nat}

/-! ### Writing and reading -/

/-- There are as many digits as the count. -/
theorem length_digits (count n : Nat) : (digits count n).length = count := by
  induction count generalizing n with
  | zero => rfl
  | succ count ih => rw [digits, List.length_append, ih, List.length_singleton]

/-- The digits of a number are digits. -/
theorem isDigit_of_mem_digits (h : c ∈ digits count n) : c.isDigit = true := by
  induction count generalizing n with
  | zero => cases h
  | succ count ih =>
    rw [digits, List.mem_append, List.mem_singleton] at h
    rcases h with h | rfl
    · exact ih h
    · rw [Nat.isDigit_digitChar, decide_eq_true_eq]
      omega

/-- One more digit. -/
theorem ofDigitChars_concat (cs : List Char) (c : Char) :
    Nat.ofDigitChars 10 (cs ++ [c]) 0 = 10 * Nat.ofDigitChars 10 cs 0 + (c.toNat - '0'.toNat) := by
  rw [Nat.ofDigitChars_append, Nat.ofDigitChars_cons, Nat.ofDigitChars_nil]

/-- A digit is told by its distance from zero. -/
theorem digitChar_toNat_sub (h : c.isDigit = true) :
    c.toNat - '0'.toNat < 10 ∧ Nat.digitChar (c.toNat - '0'.toNat) = c := by
  obtain ⟨hlow, hhigh⟩ := Char.isDigit_iff_toNat.1 h
  have hzero : '0'.toNat = 48 := by decide
  have hnine : '9'.toNat = 57 := by decide
  have hlt : c.toNat - '0'.toNat < 10 := by omega
  refine ⟨hlt, Char.toNat_inj.1 ?_⟩
  rw [Nat.toNat_digitChar_of_lt_ten hlt]
  omega

/-- A number that has so many digits is read back from them. -/
theorem ofDigitChars_digits (h : n < 10 ^ count) : Nat.ofDigitChars 10 (digits count n) 0 = n := by
  induction count generalizing n with
  | zero =>
    rw [pow_zero, Nat.lt_one_iff] at h
    rw [h]
    rfl
  | succ count ih =>
    rw [pow_succ'] at h
    have hfront : n / 10 < 10 ^ count := Nat.div_lt_of_lt_mul h
    have hdigit : (Nat.digitChar (n % 10)).toNat - '0'.toNat = n % 10 :=
      Nat.toNat_digitChar_sub_48_of_lt_ten (Nat.mod_lt n (by decide))
    rw [digits, ofDigitChars_concat, ih hfront, hdigit]
    omega

/-- Digits are those of the number that is read from them. -/
theorem digits_ofDigitChars (h : ∀ c ∈ cs, c.isDigit = true) :
    Nat.ofDigitChars 10 cs 0 < 10 ^ cs.length ∧
      digits cs.length (Nat.ofDigitChars 10 cs 0) = cs := by
  induction cs using List.reverseRecOn with
  | nil => exact ⟨Nat.one_pos, rfl⟩
  | append_singleton front c ih =>
    rw [List.forall_mem_append, List.forall_mem_singleton] at h
    obtain ⟨hlt, hfront⟩ := ih h.1
    obtain ⟨hdigit, hchar⟩ := digitChar_toNat_sub h.2
    rw [ofDigitChars_concat, List.length_append, List.length_singleton, digits, pow_succ']
    generalize Nat.ofDigitChars 10 front 0 = value at *
    -- The last digit is the remainder, and the digits in front of it are the quotient.
    have hdiv : (10 * value + (c.toNat - '0'.toNat)) / 10 = value := by omega
    have hmod : (10 * value + (c.toNat - '0'.toNat)) % 10 = c.toNat - '0'.toNat := by omega
    rw [hdiv, hmod, hfront, hchar]
    exact ⟨by omega, rfl⟩

/-- **Reading a number** takes its digits off the front of a text. -/
theorem number?_eq_some :
    number? count cs = some (n, rest) ↔ n < 10 ^ count ∧ cs = digits count n ++ rest := by
  unfold number?
  constructor
  · intro h
    dsimp only at h
    split at h
    · rename_i hdigits
      obtain ⟨hlength, hchars⟩ := hdigits
      -- The first characters are digits, and so those of the number that they spell.
      obtain ⟨hlt, hfront⟩ := digits_ofDigitChars (List.all_eq_true.1 hchars)
      rw [Option.some.injEq, Prod.mk.injEq] at h
      obtain ⟨rfl, rfl⟩ := h
      rw [hlength] at hlt hfront
      refine ⟨hlt, ?_⟩
      conv_lhs => rw [← List.take_append_drop count cs, ← hfront]
      rfl
    · cases h
  · rintro ⟨hlt, rfl⟩
    have htake : (digits count n ++ rest).take count = digits count n :=
      List.take_left' (length_digits count n)
    have hdrop : (digits count n ++ rest).drop count = rest :=
      List.drop_left' (length_digits count n)
    have hall : (digits count n).all Char.isDigit = true :=
      List.all_eq_true.2 fun _ => isDigit_of_mem_digits
    have hvalue := ofDigitChars_digits hlt
    rw [Nat.ofDigitChars_eq_foldl] at hvalue
    simp only [htake, hdrop, hvalue, hall, length_digits, and_self, if_true]

/-! ### Patterns of numbers -/

/-- As many digits as a count are the digits of a number that fits in them. -/
theorem mem_pow_isDigit :
    cs ∈ one Char.isDigit ^ count ↔ ∃ n < 10 ^ count, cs = digits count n := by
  rw [mem_pow_one]
  constructor
  · rintro ⟨rfl, hchars⟩
    obtain ⟨hlt, hdigits⟩ := digits_ofDigitChars hchars
    exact ⟨_, hlt, hdigits.symm⟩
  · rintro ⟨n, -, rfl⟩
    exact ⟨length_digits count n, fun _ => isDigit_of_mem_digits⟩

/-- A digit that is at most another one has at most the value of it. -/
theorem isDigitUpTo_iff {top : Nat} (htop : top < 10) :
    (decide ('0' ≤ c) && decide (c ≤ Nat.digitChar top)) = true ↔
      ∃ n ≤ top, c = Nat.digitChar n := by
  have htopChar := Nat.toNat_digitChar_of_lt_ten htop
  -- Digits stand in a row, from the code of zero on.
  have hrange : (decide ('0' ≤ c) && decide (c ≤ Nat.digitChar top)) = true ↔
      48 ≤ c.toNat ∧ c.toNat ≤ 48 + top := by
    rw [Bool.and_eq_true, decide_eq_true_eq, decide_eq_true_eq, Char.le_def, Char.le_def,
      UInt32.le_iff_toNat_le, UInt32.le_iff_toNat_le, ← htopChar]
    rfl
  rw [hrange]
  constructor
  · rintro ⟨hlow, hhigh⟩
    refine ⟨c.toNat - 48, by omega, Char.toNat_inj.1 ?_⟩
    rw [Nat.toNat_digitChar_of_lt_ten (by omega)]
    omega
  · rintro ⟨n, hn, rfl⟩
    rw [Nat.toNat_digitChar_of_lt_ten (by omega)]
    omega

/-- Two digits, the first of which is at most `tens`, are a number that has at most so many tens. -/
theorem mem_twoDigits {tens : Nat} (htens : tens < 10) :
    cs ∈ twoDigits tens ↔ ∃ n < 10 * (tens + 1), cs = digits 2 n := by
  have hdigits (n : Nat) : digits 2 n = [Nat.digitChar (n / 10 % 10), Nat.digitChar (n % 10)] := rfl
  unfold twoDigits
  rw [Language.mem_mul]
  constructor
  · rintro ⟨_, ⟨c, hc, rfl⟩, _, ⟨d, hd, rfl⟩, rfl⟩
    obtain ⟨ten, hten, rfl⟩ := (isDigitUpTo_iff htens).1 hc
    obtain ⟨hone, hchar⟩ := digitChar_toNat_sub hd
    -- What the second digit is worth is all that matters of it.
    generalize d.toNat - '0'.toNat = one at *
    refine ⟨10 * ten + one, by omega, ?_⟩
    have hfirst : (10 * ten + one) / 10 % 10 = ten := by omega
    have hsecond : (10 * ten + one) % 10 = one := by omega
    rw [hdigits, hfirst, hsecond, hchar]
    rfl
  · rintro ⟨n, hn, rfl⟩
    rw [hdigits]
    have hfirst : n / 10 % 10 ≤ tens := by omega
    have hsecond : (Nat.digitChar (n % 10)).isDigit = true := by
      rw [Nat.isDigit_digitChar, decide_eq_true_eq]
      omega
    exact ⟨_, ⟨_, (isDigitUpTo_iff htens).2 ⟨_, hfirst, rfl⟩, rfl⟩, _, ⟨_, hsecond, rfl⟩, rfl⟩

end Lexicon.Datetime
