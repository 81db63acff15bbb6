import Lexicon.Proofs.Conformance.Faults
import Lexicon.Proofs.Json.Literal
import Lexicon.Proofs.Number.Rounding
import Mathlib

namespace Lexicon

/-!
# Integers of any magnitude

Bounds and choices are words of 64 bits, but a value may be an integer that no word holds: a
double-precision number goes far beyond them, and a literal without a sign has one bit more.  The
check goes three ways for these, and all of them come to one rule about integers of any magnitude.

* `IntegerRules.breaches`, `IntegerRules.ideal` — the rules that an integer breaks, in order, and the
  first of them;
* `check_eq_ideal`, `checkBeyond_eq_ideal` — both checks of integers are the ideal one;
* `integerCheck_eq_ideal`, `integerCheck_eq_notInteger`, `integerCheck_eq_notNumber` — so is the check
  of any value that is an integer, and the outcome for any other value;
* `integerCheck_ofNumber` — and that of an integer that is rounded on the way, as the value that it
  is rounded to breaks the same rules;
* `integer_check_is_exact` — all of this for the validator, from JSON texts on.
-/

/-! ### The first violation -/

/-- The outcome of a check that would find some violations, in order. -/
def Check.first : List Violation → Check
  | [] => .ok ()
  | violation :: _ => .error violation

/-- The first of two lists of violations is that of the second one, if the first has none. -/
theorem Check.first_append (violations violations' : List Violation) :
    first (violations ++ violations') = (do first violations; first violations') := by
  cases violations <;> rfl

/-- A rule that may be absent. -/
theorem Check.first_optional {α : Type} (rule : Option α) (broken : α → Bool)
    (violation : α → Violation) :
    first ((rule.toList.filter broken).map violation) =
      rule.elim (.ok ()) fun a => Check.unless (broken a) (violation a) := by
  cases rule with
  | none => rfl
  | some a =>
    cases hbroken : broken a <;>
      simp [hbroken, first, Check.unless]

namespace IntegerRules

variable {rules : IntegerRules} {n : Int}

/-- The rules that an integer of any magnitude breaks: its bounds come before its choices. -/
def breaches (rules : IntegerRules) (n : Int) : List Violation :=
  (rules.minimum.toList.filter fun min => n < min.toInt).map
    (fun min => Violation.belowMinimum min.toInt) ++
  ((rules.maximum.toList.filter fun max => max.toInt < n).map
    (fun max => Violation.aboveMaximum max.toInt) ++
  ((rules.allowed.toList.filter fun values => n ∉ values.map Int64.toInt).map
    (fun values => Violation.notInEnum (values.map text)) ++
  (rules.const.toList.filter fun expected => n ≠ expected.toInt).map
    fun expected => Violation.constMismatch (text expected)))

/-- The first rule that an integer of any magnitude breaks. -/
def ideal (rules : IntegerRules) (n : Int) : Check :=
  .first (rules.breaches n)

/-- The ideal check as a sequence of one check for each rule. -/
theorem ideal_eq (rules : IntegerRules) (n : Int) :
    rules.ideal n = (do
      rules.minimum.elim (.ok ()) fun min =>
        Check.unless (n < min.toInt) (.belowMinimum min.toInt)
      rules.maximum.elim (.ok ()) fun max =>
        Check.unless (max.toInt < n) (.aboveMaximum max.toInt)
      rules.allowed.elim (.ok ()) fun values =>
        Check.unless (n ∉ values.map Int64.toInt) (.notInEnum (values.map text))
      rules.const.elim (.ok ()) fun expected =>
        Check.unless (n ≠ expected.toInt) (.constMismatch (text expected))) := by
  rw [ideal, breaches, Check.first_append, Check.first_append, Check.first_append,
    Check.first_optional, Check.first_optional, Check.first_optional, Check.first_optional]

/-- The check of a word is the ideal check of its value. -/
theorem check_eq_ideal (rules : IntegerRules) (i : Int64) :
    rules.check i = rules.ideal i.toInt := by
  have hminimum : notBelow rules.minimum i = rules.minimum.elim (.ok ()) fun min =>
      Check.unless (i.toInt < min.toInt) (.belowMinimum min.toInt) := by
    cases rules.minimum <;> simp [notBelow, Int64.lt_iff_toInt_lt]
  have hmaximum : notAbove rules.maximum i = rules.maximum.elim (.ok ()) fun max =>
      Check.unless (max.toInt < i.toInt) (.aboveMaximum max.toInt) := by
    cases rules.maximum <;> simp [notAbove, Int64.lt_iff_toInt_lt]
  have hallowed : oneOf rules.allowed i text = rules.allowed.elim (.ok ()) fun values =>
      Check.unless (i.toInt ∉ values.map Int64.toInt) (.notInEnum (values.map text)) := by
    cases rules.allowed <;> simp [oneOf, Int64.toInt_inj]
  have hconst : equalTo rules.const i text = rules.const.elim (.ok ()) fun expected =>
      Check.unless (i.toInt ≠ expected.toInt) (.constMismatch (text expected)) := by
    cases rules.const <;> simp [equalTo, Int64.toInt_inj, bne, beq_eq_decide]
  rw [ideal_eq, check, hminimum, hmaximum, hallowed, hconst]

/-- The check of an integer that no word holds is its ideal check: the side on which it lies decides
    about every bound, and it is none of the choices. -/
theorem checkBeyond_eq_ideal (rules : IntegerRules) (hn : fitsInt64 n = false) :
    rules.checkBeyond (0 < n) = rules.ideal n := by
  have hside := lt_or_lt_of_not_fits hn
  -- All bounds are words, so the side of the integer tells the comparison with each of them.
  have hminimum (min : Int64) : (!decide (0 < n)) = decide (n < min.toInt) := by
    have := hside min
    rw [← decide_not, decide_eq_decide]
    omega
  have hmaximum (max : Int64) : decide (0 < n) = decide (max.toInt < n) := by
    have := hside max
    rw [decide_eq_decide]
    omega
  have hallowed (values : List Int64) : n ∉ values.map Int64.toInt := by
    intro hmem
    obtain ⟨i, -, hi⟩ := List.mem_map.1 hmem
    exact ne_toInt_of_not_fits hn i hi.symm
  rw [ideal_eq, checkBeyond_eq]
  simp only [← hminimum, ← hmaximum, hallowed, ne_toInt_of_not_fits hn, ne_eq, not_false_eq_true,
    decide_true]
  rfl

end IntegerRules

/-! ### Values -/

variable {rules : IntegerRules} {value : Value} {n : Int}

/-- **Integers are checked by their exact value**, however they are written. -/
theorem integerCheck_eq_ideal (hvalue : value.IsInteger n) :
    integerCheck rules value = rules.ideal n := by
  cases value with
  | integer i =>
    rw [← show i.toInt = n from hvalue, ← rules.check_eq_ideal]
    rfl
  | float x =>
    have hx : x.integer? = some n := Binary64.integer?_eq_some.2 hvalue
    -- A float is given to the check of words where a word holds its value.
    cases hn : int64OfInt? n with
    | some i =>
      rw [← int64OfInt?_eq_some.1 hn, ← rules.check_eq_ideal]
      simp [integerCheck, Value.integer?, hx, hn]
    | none =>
      rw [← rules.checkBeyond_eq_ideal (int64OfInt?_eq_none.1 hn)]
      simp [integerCheck, Value.integer?, hx, hn]
  | _ => exact hvalue.elim

/-- A number that is not finite, or has a fractional part, is no integer. -/
theorem integerCheck_eq_notInteger {x : Binary64}
    (hx : x.isFinite = false ∨ ∀ n : Int, x.toRat ≠ n) :
    integerCheck rules (.float x) = .error .notInteger := by
  have hnone : x.integer? = none := by
    rw [Option.eq_none_iff_forall_ne_some]
    intro n hn
    obtain ⟨hfinite, hvalue⟩ := Binary64.integer?_eq_some.1 hn
    rcases hx with hx | hx
    · rw [hfinite] at hx
      cases hx
    · exact hx n hvalue
  simp only [integerCheck, Value.integer?, hnone, Option.bind_none]

/-- A value that is no number is refused as such, whatever the rules. -/
theorem integerCheck_eq_notNumber (hvalue : value.isNumber = false) :
    integerCheck rules value = .error .notNumber := by
  cases value with
  | integer | float => cases hvalue
  | _ => rfl

/-- Integers on one side of all words break the same rules. -/
theorem IntegerRules.ideal_congr {n' : Int} (hn : fitsInt64 n = false) (hn' : fitsInt64 n' = false)
    (hside : 0 < n ↔ 0 < n') : rules.ideal n = rules.ideal n' := by
  rw [← rules.checkBeyond_eq_ideal hn, ← rules.checkBeyond_eq_ideal hn', decide_eq_decide.2 hside]

/-- A natural number of 64 bits that is no word is rounded to one that is no word either. -/
theorem exists_isWhole_ofInt (hlow : 2 ^ 63 ≤ n) (hhigh : n < 2 ^ 64) :
    ∃ m : Int, (Binary64.ofInt n).IsWhole m ∧ 2 ^ 63 ≤ m := by
  obtain ⟨k, rfl⟩ := Int.eq_ofNat_of_zero_le (show 0 ≤ n by omega)
  have hlow' : 2 ^ (52 + 11) ≤ k := by omega
  have hhigh' : k < 2 ^ (53 + 11) := by omega
  have hrounded := Binary64.integer?_ofNat hlow' hhigh' (by decide)
  have hofInt : Binary64.ofInt k = Binary64.ofNat k := by
    rw [Binary64.ofInt, if_neg (by omega)]
    rfl
  -- Of the 64 bits 53 are left, and rounding does not make them fewer.
  have hlow'' : 2 ^ 52 * 2 ^ 11 ≤ k := by omega
  have hhigh'' : k < 2 ^ 53 * 2 ^ 11 := by omega
  have hbound : 2 ^ 52 ≤ Binary64.roundDiv k (2 ^ 11) :=
    (Binary64.roundDiv_within (by decide) hlow'' hhigh'').1
  refine ⟨_, Binary64.integer?_eq_some.1 (hofInt ▸ hrounded), ?_⟩
  omega

/-- **Rounding does not change the outcome.**  An integer that is spelled in JSON may be rounded, but
    not back into the words. -/
theorem integerCheck_ofNumber (hmin : -2 ^ 63 ≤ n) (hmax : n < 2 ^ 64) :
    integerCheck rules (Value.ofNumber (.integer n)) = rules.ideal n := by
  cases hn : int64OfInt? n with
  | some i =>
    have hvalue : Value.ofNumber (.integer n) = .integer i := by simp only [Value.ofNumber, hn]
    rw [hvalue]
    exact integerCheck_eq_ideal (int64OfInt?_eq_some.1 hn)
  | none =>
    have hvalue : Value.ofNumber (.integer n) = .float (.ofInt n) := by
      simp only [Value.ofNumber, hn]
    have hbeyond {m : Int} (hm : 2 ^ 63 ≤ m) : fitsInt64 m = false := by
      rw [← Bool.not_eq_true, fitsInt64_iff, Int64.toInt_maxValue]
      omega
    have hfits : fitsInt64 n = false := int64OfInt?_eq_none.1 hn
    have hlow : 2 ^ 63 ≤ n := by
      rw [← Bool.not_eq_true, fitsInt64_iff, Int64.toInt_maxValue, Int64.toInt_minValue] at hfits
      omega
    obtain ⟨m, hwhole, hm⟩ := exists_isWhole_ofInt hlow hmax
    -- The rounded value is another integer, but on the same side of all bounds and choices.
    have hrounded : (Value.float (.ofInt n)).IsInteger m := hwhole
    rw [hvalue, integerCheck_eq_ideal hrounded]
    exact IntegerRules.ideal_congr (hbeyond hm) hfits (by omega)

/-! ### The validator -/

/-- The texts of integers in JSON: an integer in decimal digits, and zero with a sign. -/
inductive IsIntegerLiteral : String → Int → Prop where
  | plain (n : Int) : IsIntegerLiteral (toString n) n
  | negativeZero : IsIntegerLiteral "-0" 0

/-- The double-precision number with the sign bit alone is zero. -/
theorem Binary64.isWhole_negativeZero : (⟨0x8000000000000000⟩ : Binary64).IsWhole 0 := by
  have hsignificand : (⟨0x8000000000000000⟩ : Binary64).significand = 0 := by decide
  refine ⟨by decide, ?_⟩
  unfold toRat magnitude
  rw [hsignificand]
  simp

/-- The text of an integer of 64 bits is checked as the integer, though some of these are rounded
    when they become values. -/
theorem exists_parse?_and_integerCheck {text : String} (hliteral : IsIntegerLiteral text n)
    (hmin : -2 ^ 63 ≤ n) (hmax : n < 2 ^ 64) :
    ∃ json, Json.parse? text = some json ∧
      ∀ rules : IntegerRules, integerCheck rules (Value.ofJson json) = rules.ideal n := by
  cases hliteral with
  | plain =>
    refine ⟨_, Json.parse?_toString ?_ ?_, fun rules => ?_⟩
    · rwa [Int64.toInt_minValue]
    · exact hmax
    · rw [Value.ofJson]
      exact integerCheck_ofNumber hmin hmax
  -- Zero with a minus is read as a float, to keep its sign.
  | negativeZero =>
    refine ⟨_, Json.parse?_negativeZero, fun rules => ?_⟩
    have hvalue : (Value.float ⟨0x8000000000000000⟩).IsInteger 0 := Binary64.isWhole_negativeZero
    rw [Value.ofJson]
    exact integerCheck_eq_ideal hvalue

/-- **The check of integers is exact.**  A number whose exact value is an integer, of any magnitude
    and however it is written, is judged by the first rule that the integer breaks; another number is
    no integer, and any other value no number.  This includes the integers of 64 bits that a JSON
    text spells, although those beyond the words are rounded. -/
theorem integer_check_is_exact (registry : Registry) (base : String) (description : Option String)
    (rules : IntegerRules) (path : Path) (hops : Nat) :
    let check (value : Value) : Verdict :=
      registry.checkValue base (.integer description rules) value path hops
    (∀ i : Int64, check (.integer i) = (rules.ideal i.toInt).at path) ∧
    (∀ (x : Binary64) (n : Int), x.IsWhole n → check (.float x) = (rules.ideal n).at path) ∧
    (∀ x : Binary64, (x.isFinite = false ∨ ∀ n : Int, x.toRat ≠ n) →
      check (.float x) = violates path .notInteger) ∧
    (∀ value : Value, value.isNumber = false → check value = violates path .notNumber) ∧
    ∀ (text : String) (n : Int), IsIntegerLiteral text n → -2 ^ 63 ≤ n → n < 2 ^ 64 →
      ∃ json, Json.parse? text = some json ∧
        check (Value.ofJson json) = (rules.ideal n).at path := by
  intro check
  have hcheck (value : Value) : check value = (integerCheck rules value).at path := by
    show registry.checkValue base (.integer description rules) value path hops = _
    rw [Registry.checkValue]
  refine ⟨?_, ?_, ?_, ?_, ?_⟩
  · intro i
    have hvalue : (Value.integer i).IsInteger i.toInt := rfl
    rw [hcheck, integerCheck_eq_ideal hvalue]
  · intro x n hx
    have hvalue : (Value.float x).IsInteger n := hx
    rw [hcheck, integerCheck_eq_ideal hvalue]
  · intro x hx
    rw [hcheck, integerCheck_eq_notInteger hx]
    rfl
  · intro value hvalue
    rw [hcheck, integerCheck_eq_notNumber hvalue]
    rfl
  · -- A literal may be rounded only beyond the words, where all are judged alike.
    intro text n hliteral hmin hmax
    obtain ⟨json, hjson, hideal⟩ := exists_parse?_and_integerCheck hliteral hmin hmax
    exact ⟨json, hjson, by rw [hcheck, hideal]⟩

/-- Ten at most: the number with the exact value `2 ^ 63` is more, zero with a sign is not, infinity
    is no integer, a text is no number, and the largest literal is more, although it is rounded. -/
theorem integer_check_is_exact_ten :
    let check (value : Value) : Verdict :=
      Registry.checkValue {} "" (.integer none { maximum := some 10 }) value "Limit" 0
    check (.float ⟨0x43E0000000000000⟩) = violates "Limit" (.aboveMaximum 10) ∧
      check (.float ⟨0x8000000000000000⟩) = .ok () ∧
      check (.float ⟨0x7FF0000000000000⟩) = violates "Limit" .notInteger ∧
      check (.string "10") = violates "Limit" .notNumber ∧
      ∃ json, Json.parse? "18446744073709551615" = some json ∧
        check (Value.ofJson json) = violates "Limit" (.aboveMaximum 10) := by
  intro check
  obtain ⟨-, hwhole, hother, hnumber, hliteral⟩ :=
    integer_check_is_exact {} "" none { maximum := some 10 } "Limit" 0
  have hbeyond : (⟨0x43E0000000000000⟩ : Binary64).IsWhole (2 ^ 63) :=
    Binary64.integer?_eq_some.1 (by decide)
  refine ⟨hwhole _ _ hbeyond, hwhole _ _ Binary64.isWhole_negativeZero,
    hother _ (.inl (by decide)), hnumber _ rfl, ?_⟩
  exact hliteral _ _ (.plain 18446744073709551615) (by decide) (by decide)

end Lexicon
