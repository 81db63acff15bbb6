import Lexicon.Proofs.Number.Word
import Lexicon.Proofs.Outcome
import Lexicon.Rules.Basic

namespace Lexicon

open Lexicon.Text
open Lexicon.Outcome

/-!
# What rules admit

Checks stop at the first rule that a value breaks.  Here the rules of each sort are told as a
predicate without any order, and a check succeeds exactly on what the predicate admits.

* `WithinBounds lower upper n` — a measure within inclusive bounds;
* `Allowed allowed const a` — a value among those listed, and the one demanded;
* `Admits` for `StringRules`, `IntegerRules`, `BooleanRules`, `LengthRules` and `BlobRules`;
* `check_eq_ok` for each of them.  Integers are admitted as integers of any magnitude:
  `IntegerRules.check_eq_ok` is about those that 64 bits hold, and `IntegerRules.checkBeyond_eq_ok`
  about the others.
-/

/-! ### Bounds and choices -/

/-- A measure lies within inclusive bounds, where they are given. -/
def WithinBounds (lower upper : Option UInt64) (n : Nat) : Prop :=
  (∀ min ∈ lower, min.toNat ≤ n) ∧ ∀ max ∈ upper, n ≤ max.toNat

/-- A value is among the listed ones if some are listed, and the one demanded if one is. -/
def Allowed {α : Type} (allowed : Option (List α)) (const : Option α) (a : α) : Prop :=
  (∀ values ∈ allowed, a ∈ values) ∧ ∀ expected ∈ const, a = expected

theorem Check.unless_eq_ok {failed : Bool} {violation : Violation} :
    Check.unless failed violation = .ok () ↔ failed = false := by
  cases failed <;> simp [Check.unless]

theorem atLeast_eq_ok {bound : Option UInt64} {n : Nat} {violation : Nat → Violation} :
    atLeast bound n violation = .ok () ↔ ∀ min ∈ bound, min.toNat ≤ n := by
  cases bound with
  | none => simp [atLeast]
  | some min => simp [atLeast, Check.unless_eq_ok]

theorem atMost_eq_ok {bound : Option UInt64} {n : Nat} {violation : Nat → Violation} :
    atMost bound n violation = .ok () ↔ ∀ max ∈ bound, n ≤ max.toNat := by
  cases bound with
  | none => simp [atMost]
  | some max => simp [atMost, Check.unless_eq_ok]

section Choices

variable {α : Type} [BEq α] [LawfulBEq α]

theorem oneOf_eq_ok {allowed : Option (List α)} {a : α} {text : α → String} :
    oneOf allowed a text = .ok () ↔ ∀ values ∈ allowed, a ∈ values := by
  cases allowed with
  | none => simp [oneOf]
  | some values => simp [oneOf, Check.unless_eq_ok]

theorem equalTo_eq_ok {const : Option α} {a : α} {text : α → String} :
    equalTo const a text = .ok () ↔ ∀ expected ∈ const, a = expected := by
  cases const with
  | none => simp [equalTo]
  | some expected => simp [equalTo, Check.unless_eq_ok, bne_eq_false_iff_eq]

end Choices

/-! ### Strings, booleans and lengths -/

/-- The rules for strings admit a string. -/
def StringRules.Admits (rules : StringRules) (s : String) : Prop :=
  WithinBounds rules.minLength rules.maxLength (utf16Length s) ∧
    WithinBounds rules.minGraphemes rules.maxGraphemes (graphemeLength s) ∧
    Allowed rules.allowed rules.const s

/-- A string passes the rules if they admit it. -/
theorem StringRules.check_eq_ok {rules : StringRules} {s : String} :
    rules.check s = .ok () ↔ rules.Admits s := by
  simp only [StringRules.check, then_eq_ok, atLeast_eq_ok, atMost_eq_ok, oneOf_eq_ok,
    equalTo_eq_ok, Admits, WithinBounds, Allowed, and_assoc]

/-- The rules for booleans admit a boolean. -/
def BooleanRules.Admits (rules : BooleanRules) (b : Bool) : Prop :=
  ∀ expected ∈ rules.const, b = expected

theorem BooleanRules.check_eq_ok {rules : BooleanRules} {b : Bool} :
    rules.check b = .ok () ↔ rules.Admits b := by
  rw [BooleanRules.check, equalTo_eq_ok, Admits]

namespace LengthRules

variable {rules : LengthRules} {count : Nat}

/-- The rules for lengths admit a number of items or bytes. -/
def Admits (rules : LengthRules) (count : Nat) : Prop :=
  WithinBounds rules.minLength rules.maxLength count

theorem checkItems_eq_ok : rules.checkItems count = .ok () ↔ rules.Admits count := by
  rw [checkItems, then_eq_ok, atLeast_eq_ok, atMost_eq_ok, Admits, WithinBounds]

theorem checkBytes_eq_ok : rules.checkBytes count = .ok () ↔ rules.Admits count := by
  rw [checkBytes, then_eq_ok, atLeast_eq_ok, atMost_eq_ok, Admits, WithinBounds]

end LengthRules

/-! ### Blobs -/

/-- The rules for blobs admit a MIME type and a size. -/
def BlobRules.Admits (rules : BlobRules) (mimeType : String) (size : Nat) : Prop :=
  (∀ max ∈ rules.maxSize, size ≤ max.toNat) ∧
    ∀ patterns ∈ rules.accept, ∃ pattern ∈ patterns, mimeMatches pattern mimeType

/-- A blob passes the rules if they admit its media type and its size. -/
theorem BlobRules.check_eq_ok {rules : BlobRules} {mimeType : String} {size : Nat} :
    rules.check mimeType size = .ok () ↔ rules.Admits mimeType size := by
  rw [BlobRules.check, then_eq_ok, atMost_eq_ok, Admits]
  cases rules.accept with
  | none => simp
  | some patterns => simp [Check.unless_eq_ok]

/-! ### Integers -/

/-- The rules for integers admit an integer of any magnitude. -/
def IntegerRules.Admits (rules : IntegerRules) (n : Int) : Prop :=
  (∀ min ∈ rules.minimum, min.toInt ≤ n) ∧ (∀ max ∈ rules.maximum, n ≤ max.toInt) ∧
    Allowed (rules.allowed.map (·.map Int64.toInt)) (rules.const.map Int64.toInt) n

namespace IntegerRules

variable {rules : IntegerRules}

theorem notBelow_eq_ok {bound : Option Int64} {n : Int64} :
    notBelow bound n = .ok () ↔ ∀ min ∈ bound, min.toInt ≤ n.toInt := by
  cases bound with
  | none => simp [notBelow]
  | some min => simp [notBelow, Check.unless_eq_ok, Int64.le_iff_toInt_le]

theorem notAbove_eq_ok {bound : Option Int64} {n : Int64} :
    notAbove bound n = .ok () ↔ ∀ max ∈ bound, n.toInt ≤ max.toInt := by
  cases bound with
  | none => simp [notAbove]
  | some max => simp [notAbove, Check.unless_eq_ok, Int64.le_iff_toInt_le]

/-- The choices of an integer of 64 bits are those of its value. -/
theorem allowed_toInt_iff {n : Int64} :
    Allowed (rules.allowed.map (·.map Int64.toInt)) (rules.const.map Int64.toInt) n.toInt ↔
      Allowed rules.allowed rules.const n := by
  simp [Allowed, Int64.toInt_inj]

theorem check_eq_ok {n : Int64} : rules.check n = .ok () ↔ rules.Admits n.toInt := by
  rw [check, then_eq_ok, then_eq_ok, then_eq_ok, notBelow_eq_ok, notAbove_eq_ok, oneOf_eq_ok,
    equalTo_eq_ok, Admits, allowed_toInt_iff, Allowed]

/-- An integer that 64 bits do not hold is admitted iff no bound lies on its side and there is no
    choice at all: every bound and every choice is an integer of 64 bits. -/
theorem admits_iff_of_not_fits {n : Int} (hn : fitsInt64 n = false) :
    rules.Admits n ↔ (if 0 < n then rules.maximum = none else rules.minimum = none) ∧
      rules.allowed = none ∧ rules.const = none := by
  -- The integer lies beyond all words, on one side, and so beyond every bound on that side.
  have hside := lt_or_lt_of_not_fits hn
  constructor
  · rintro ⟨hmin, hmax, hallowed, hconst⟩
    refine ⟨?_, ?_, ?_⟩
    · split
      · refine Option.eq_none_iff_forall_not_mem.2 fun max hmem => ?_
        have := hmax max hmem; have := hside max; omega
      · refine Option.eq_none_iff_forall_not_mem.2 fun min hmem => ?_
        have := hmin min hmem; have := hside min; omega
    · cases h : rules.allowed with
      | none => rfl
      | some values =>
        obtain ⟨i, -, hi⟩ := List.mem_map.1 (hallowed (values.map Int64.toInt) (by simp [h]))
        exact absurd hi.symm (ne_toInt_of_not_fits hn i)
    · cases h : rules.const with
      | none => rfl
      | some i => exact absurd (hconst i.toInt (by simp [h])) (ne_toInt_of_not_fits hn i)
  · rintro ⟨hbound, hallowed, hconst⟩
    refine ⟨fun min hmem => ?_, fun max hmem => ?_, by simp [Allowed, hallowed, hconst]⟩
    · have := hside min
      split at hbound
      · omega
      · rw [hbound] at hmem; cases hmem
    · have := hside max
      split at hbound
      · rw [hbound] at hmem; cases hmem
      · omega

/-- An integer that no word holds passes the rules if they admit it. -/
theorem checkBeyond_eq_ok {n : Int} (hn : fitsInt64 n = false) :
    rules.checkBeyond (0 < n) = .ok () ↔ rules.Admits n := by
  rw [admits_iff_of_not_fits hn]
  obtain ⟨maximum, minimum, allowed, const, default⟩ := rules
  by_cases hpos : 0 < n <;> cases minimum <;> cases maximum <;> cases allowed <;> cases const <;>
    simp [checkBeyond, hpos]

end IntegerRules

end Lexicon
