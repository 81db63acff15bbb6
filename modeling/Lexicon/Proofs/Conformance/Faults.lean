import Lexicon.Proofs.Conformance.Check
import Mathlib

namespace Lexicon

open Lexicon.Outcome
open Lexicon.Text

/-!
# What violations say, and which one is told

A violation is a statement about a value.  The rules of a descriptor are such statements in a fixed
order, and a check tells the first one that holds.

* `Violation.HoldsOf` — what a violation says of a value, with `Value.WrittenAs` for the texts that
  stand for values in it;
* `Violation.IsFirstOf` — the first of some violations that holds of a value;
* `Tells check violations value` — a check tells the first of the violations that holds of a value,
  and passes if none does.  It is kept by sequencing (`Tells.andThen`);
* `StringRules.check_tells`, `integerCheck_tells`, … — that is what the rules do.
-/

/-! ### Violations as statements -/

/-- A text stands for a value in the lists of what is allowed. -/
inductive Value.WrittenAs : Value → String → Prop where
  | string (s : String) : WrittenAs (.string s) s
  | boolean (b : Bool) : WrittenAs (.boolean b) (toString b)
  | integer {value : Value} {n : Int} : value.IsInteger n → WrittenAs value (toString n)

/-- A string is written as itself. -/
theorem Value.writtenAs_string_iff {s text : String} :
    (Value.string s).WrittenAs text ↔ text = s := by
  constructor
  · rintro (_ | _ | h)
    · rfl
    · exact h.elim
  · rintro rfl
    exact .string text

/-- A boolean is written as `true` or `false`. -/
theorem Value.writtenAs_boolean_iff {b : Bool} {text : String} :
    (Value.boolean b).WrittenAs text ↔ text = toString b := by
  constructor
  · rintro (_ | _ | h)
    · rfl
    · exact h.elim
  · rintro rfl
    exact .boolean b

/-- What a violation says of a value. -/
def Violation.HoldsOf (violation : Violation) (value : Value) : Prop :=
  match violation with
  | notObject => ∀ fields, value ≠ .object fields
  | missingTypeProperty => ∀ type, value.get? "$type" ≠ some (.string type)
  | missingProperty name => ∃ fields, value = .object fields ∧ name ∉ Assoc.keys fields
  | notArray => ∀ items, value ≠ .array items
  | tooFewElements min => ∃ items, value = .array items ∧ items.length < min
  | tooManyElements max => ∃ items, value = .array items ∧ max < items.length
  | notString => ∀ s, value ≠ .string s
  | invalidFormat format => ∃ s, value = .string s ∧ ¬ format.accepts s
  | stringTooShort min => ∃ s, value = .string s ∧ utf16Length s < min
  | stringTooLong max => ∃ s, value = .string s ∧ max < utf16Length s
  | tooFewGraphemes min => ∃ s, value = .string s ∧ graphemeLength s < min
  | tooManyGraphemes max => ∃ s, value = .string s ∧ max < graphemeLength s
  | notInEnum allowed => ∃ text, value.WrittenAs text ∧ text ∉ allowed
  | constMismatch expected => ∃ text, value.WrittenAs text ∧ text ≠ expected
  | notNumber => value.isNumber = false
  | notInteger => value.isNumber = true ∧ ∀ n, ¬ value.IsInteger n
  | belowMinimum min => ∃ n, value.IsInteger n ∧ n < min
  | aboveMaximum max => ∃ n, value.IsInteger n ∧ max < n
  | notBoolean => ∀ b, value ≠ .boolean b
  | notBytes => ∀ data, value ≠ .bytes data
  | bytesTooShort min => ∃ data, value = .bytes data ∧ data.length < min
  | bytesTooLong max => ∃ data, value = .bytes data ∧ max < data.length
  | notCidLink => ∀ cid, value ≠ .link cid
  | notBlob => ∀ mimeType size, ¬ value.IsBlob mimeType size
  | blobTooLarge max => ∃ mimeType size, value.IsBlob mimeType size ∧ max < size
  | mimeTypeNotAccepted accepted => ∃ mimeType size, value.IsBlob mimeType size ∧
      ∀ pattern ∈ accepted, ¬ mimeMatches pattern mimeType
  -- The type that the value names is told apart from the members in canonical form.
  | unionTypeNotAllowed members => ∃ type given, value.get? "$type" = some (.string type) ∧
      Address.parse type none = .ok given ∧ given.render ∉ members
  | recordTypeMismatch expected actual => value.get? "$type" = some (.string actual) ∧
      ∀ given, Address.parse actual none = .ok given → given.render ≠ expected

/-- The first of some violations that holds of a value: it does, and none before it. -/
def Violation.IsFirstOf (reason : Violation) (violations : List Violation) (value : Value) : Prop :=
  reason.HoldsOf value ∧ ∃ earlier later, violations = earlier ++ reason :: later ∧
    ∀ other ∈ earlier, ¬ other.HoldsOf value

/-- The first violation is one of the violations. -/
theorem Violation.IsFirstOf.mem {reason : Violation} {violations : List Violation} {value : Value}
    (h : reason.IsFirstOf violations value) : reason ∈ violations := by
  obtain ⟨-, earlier, later, rfl, -⟩ := h
  exact List.mem_append_right _ List.mem_cons_self

/-- A list is split in one way only at the first item that a property fails of. -/
theorem eq_of_splits {α : Type} {P : α → Prop} {earlier earlier' later later' : List α} {a a' : α}
    (h : earlier ++ a :: later = earlier' ++ a' :: later') (hearlier : ∀ b ∈ earlier, P b)
    (ha : ¬ P a) (hearlier' : ∀ b ∈ earlier', P b) (ha' : ¬ P a') :
    earlier' = earlier ∧ a' = a ∧ later' = later := by
  induction earlier generalizing earlier' with
  | nil =>
    cases earlier' with
    | nil =>
      obtain ⟨rfl, rfl⟩ := List.cons_eq_cons.1 h
      exact ⟨rfl, rfl, rfl⟩
    | cons b rest' =>
      obtain ⟨rfl, -⟩ := List.cons_eq_cons.1 h
      exact absurd (hearlier' a List.mem_cons_self) ha
  | cons b rest ih =>
    rw [List.forall_mem_cons] at hearlier
    cases earlier' with
    | nil =>
      obtain ⟨rfl, -⟩ := List.cons_eq_cons.1 h
      exact absurd hearlier.1 ha'
    | cons b' rest' =>
      rw [List.forall_mem_cons] at hearlier'
      obtain ⟨rfl, htail⟩ := List.cons_eq_cons.1 h
      obtain ⟨rfl, rfl, rfl⟩ := ih htail hearlier.2 hearlier'.2
      exact ⟨rfl, rfl, rfl⟩

/-- A value has one first violation at most. -/
theorem Violation.IsFirstOf.unique {reason reason' : Violation} {violations : List Violation}
    {value : Value} (h : reason.IsFirstOf violations value)
    (h' : reason'.IsFirstOf violations value) : reason' = reason := by
  obtain ⟨hholds, earlier, later, hsplit, hearlier⟩ := h
  obtain ⟨hholds', earlier', later', hsplit', hearlier'⟩ := h'
  exact (eq_of_splits (P := fun other => ¬ other.HoldsOf value) (hsplit.symm.trans hsplit')
    hearlier (not_not_intro hholds) hearlier' (not_not_intro hholds')).2.1

/-! ### Checks that tell the first violation -/

/-- A check tells the first of some violations that holds of a value, and passes if none does. -/
structure Tells (check : Check) (violations : List Violation) (value : Value) : Prop where
  passes : check = .ok () → ∀ violation ∈ violations, ¬ violation.HoldsOf value
  fails : ∀ reason, check = .error reason → reason.IsFirstOf violations value

namespace Tells

variable {check : Check} {violation : Violation} {violations : List Violation} {value : Value}

theorem nil : Tells (.ok ()) [] value where
  passes _ := by simp
  fails _ h := by cases h

/-- The first violation holds, and is told. -/
theorem head (h : violation.HoldsOf value) :
    Tells (.error violation) (violation :: violations) value where
  passes h := by cases h
  fails reason hreason := by
    cases hreason
    exact ⟨h, [], violations, rfl, by simp⟩

/-- The first violation does not hold, and is passed over. -/
theorem skip (h : ¬ violation.HoldsOf value) (hrest : Tells check violations value) :
    Tells check (violation :: violations) value where
  passes hok := List.forall_mem_cons.2 ⟨h, hrest.passes hok⟩
  fails reason hreason := by
    obtain ⟨hholds, earlier, later, rfl, hearlier⟩ := hrest.fails reason hreason
    exact ⟨hholds, violation :: earlier, later, rfl, List.forall_mem_cons.2 ⟨h, hearlier⟩⟩

/-- A check followed by another one tells the first of all their violations. -/
theorem andThen {check' : Check} {violations' : List Violation}
    (hfirst : Tells check violations value) (hsecond : Tells check' violations' value) :
    Tells (do check; check') (violations ++ violations') value where
  passes hok := by
    obtain ⟨hok, hok'⟩ := then_eq_ok.1 hok
    exact List.forall_mem_append.2 ⟨hfirst.passes hok, hsecond.passes hok'⟩
  fails reason hreason := by
    rcases then_eq_error.1 hreason with hreason | ⟨hok, hreason⟩
    · obtain ⟨hholds, earlier, later, rfl, hearlier⟩ := hfirst.fails reason hreason
      exact ⟨hholds, earlier, later ++ violations', by simp, hearlier⟩
    · -- The first check has passed, so none of its violations holds.
      obtain ⟨hholds, earlier, later, rfl, hearlier⟩ := hsecond.fails reason hreason
      exact ⟨hholds, violations ++ earlier, later, by simp,
        List.forall_mem_append.2 ⟨hfirst.passes hok, hearlier⟩⟩

/-- A test for one violation. -/
theorem test {failed : Bool} (h : failed = true ↔ violation.HoldsOf value) :
    Tells (Check.unless failed violation) [violation] value := by
  cases failed with
  | false => exact .skip (fun hholds => Bool.false_ne_true (h.2 hholds)) .nil
  | true => exact .head (h.1 rfl)

/-- A rule that need not be given. -/
theorem optional {α : Type} {rule : Option α} {violation : α → Violation}
    (hnone : rule = none → check = .ok ())
    (hsome : ∀ a, rule = some a → Tells check [violation a] value) :
    Tells check (rule.toList.map violation) value := by
  cases rule with
  | none => rw [hnone rfl]; exact .nil
  | some a => exact hsome a rfl

end Tells

/-! ### Bounds and choices -/

section Rules

variable {value : Value}

/-- A lower bound on a measure. -/
theorem atLeast_tells {bound : Option UInt64} {measure : Nat} {violation : Nat → Violation}
    (h : ∀ min, (violation min).HoldsOf value ↔ measure < min) :
    Tells (atLeast bound measure violation) (bound.toList.map fun min => violation min.toNat)
      value := by
  refine .optional (by rintro rfl; rfl) fun min hmin => ?_
  subst hmin
  refine .test ?_
  rw [decide_eq_true_iff, h]

/-- An upper bound on a measure. -/
theorem atMost_tells {bound : Option UInt64} {measure : Nat} {violation : Nat → Violation}
    (h : ∀ max, (violation max).HoldsOf value ↔ max < measure) :
    Tells (atMost bound measure violation) (bound.toList.map fun max => violation max.toNat)
      value := by
  refine .optional (by rintro rfl; rfl) fun max hmax => ?_
  subst hmax
  refine .test ?_
  rw [decide_eq_true_iff, h]

section Choices

variable {α : Type} [BEq α] [LawfulBEq α] {a : α} {text : α → String}
  (hwritten : ∀ t, value.WrittenAs t ↔ t = text a) (htext : Function.Injective text)
include hwritten htext

/-- A list of what is allowed, told as texts. -/
theorem oneOf_tells {allowed : Option (List α)} :
    Tells (oneOf allowed a text)
      (allowed.toList.map fun values => .notInEnum (values.map text)) value := by
  refine .optional (by rintro rfl; rfl) fun values hvalues => ?_
  subst hvalues
  refine .test ?_
  have hmem : text a ∈ values.map text ↔ a ∈ values := List.mem_map_of_injective htext
  have hholds : (Violation.notInEnum (values.map text)).HoldsOf value ↔
      text a ∉ values.map text := by
    constructor
    · rintro ⟨t, ht, hnot⟩
      rwa [(hwritten t).1 ht] at hnot
    · exact fun hnot => ⟨text a, (hwritten _).2 rfl, hnot⟩
  rw [hholds, hmem]
  simp

/-- The one value that is allowed, told as a text. -/
theorem equalTo_tells {const : Option α} :
    Tells (equalTo const a text) (const.toList.map fun expected => .constMismatch (text expected))
      value := by
  refine .optional (by rintro rfl; rfl) fun expected hexpected => ?_
  subst hexpected
  refine .test ?_
  simp [Violation.HoldsOf, hwritten, htext.eq_iff]

end Choices

end Rules

/-! ### Strings, booleans, lengths and blobs -/

/-- What the rules for strings look for, in order. -/
def StringRules.violations (rules : StringRules) : List Violation :=
  rules.minLength.toList.map (fun min => Violation.stringTooShort min.toNat) ++
  rules.maxLength.toList.map (fun max => Violation.stringTooLong max.toNat) ++
  rules.minGraphemes.toList.map (fun min => Violation.tooFewGraphemes min.toNat) ++
  rules.maxGraphemes.toList.map (fun max => Violation.tooManyGraphemes max.toNat) ++
  rules.allowed.toList.map (fun values => Violation.notInEnum (values.map id)) ++
  rules.const.toList.map Violation.constMismatch

/-- The check of a string tells the first of the violations that holds: the lengths come before the
    choices. -/
theorem StringRules.check_tells (rules : StringRules) (s : String) :
    Tells (rules.check s) rules.violations (.string s) := by
  have hwritten (t : String) : (Value.string s).WrittenAs t ↔ t = id s :=
    Value.writtenAs_string_iff
  have hid : Function.Injective (id : String → String) := Function.injective_id
  unfold StringRules.check StringRules.violations
  simp only [List.append_assoc]
  -- Two lengths, with a lower and an upper bound each.
  refine .andThen (atLeast_tells (by simp [Violation.HoldsOf])) ?_
  refine .andThen (atMost_tells (by simp [Violation.HoldsOf])) ?_
  refine .andThen (atLeast_tells (by simp [Violation.HoldsOf])) ?_
  refine .andThen (atMost_tells (by simp [Violation.HoldsOf])) ?_
  exact (oneOf_tells hwritten hid).andThen (equalTo_tells hwritten hid)

/-- What the rules for booleans look for. -/
def BooleanRules.violations (rules : BooleanRules) : List Violation :=
  rules.const.toList.map fun expected => .constMismatch (toString expected)

/-- The check of a boolean tells the first of the violations that holds. -/
theorem BooleanRules.check_tells (rules : BooleanRules) (b : Bool) :
    Tells (rules.check b) rules.violations (.boolean b) := by
  have hwritten (t : String) : (Value.boolean b).WrittenAs t ↔ t = toString b :=
    Value.writtenAs_boolean_iff
  have htext : Function.Injective (toString : Bool → String) := by decide
  exact equalTo_tells hwritten htext

namespace LengthRules

/-- What the rules for the length of an array look for, in order. -/
def itemViolations (rules : LengthRules) : List Violation :=
  rules.minLength.toList.map (fun min => Violation.tooFewElements min.toNat) ++
  rules.maxLength.toList.map (fun max => Violation.tooManyElements max.toNat)

theorem checkItems_tells (rules : LengthRules) (items : List Value) :
    Tells (rules.checkItems items.length) rules.itemViolations (.array items) :=
  (atLeast_tells (by simp [Violation.HoldsOf])).andThen (atMost_tells (by simp [Violation.HoldsOf]))

/-- What the rules for the length of a byte string look for, in order. -/
def byteViolations (rules : LengthRules) : List Violation :=
  rules.minLength.toList.map (fun min => Violation.bytesTooShort min.toNat) ++
  rules.maxLength.toList.map (fun max => Violation.bytesTooLong max.toNat)

theorem checkBytes_tells (rules : LengthRules) (data : List UInt8) :
    Tells (rules.checkBytes data.length) rules.byteViolations (.bytes data) :=
  (atLeast_tells (by simp [Violation.HoldsOf])).andThen (atMost_tells (by simp [Violation.HoldsOf]))

end LengthRules

/-- What the rules for blobs look for, in order. -/
def BlobRules.violations (rules : BlobRules) : List Violation :=
  rules.maxSize.toList.map (fun max => Violation.blobTooLarge max.toNat) ++
  rules.accept.toList.map Violation.mimeTypeNotAccepted

/-- A value is the reference to one blob at most. -/
theorem Value.IsBlob.unique {value : Value} {mimeType mimeType' : String} {size size' : Nat}
    (h : value.IsBlob mimeType size) (h' : value.IsBlob mimeType' size') :
    mimeType' = mimeType ∧ size' = size := by
  rw [← blobOf?_eq_some] at h h'
  rw [h, Option.some.injEq, Prod.mk.injEq] at h'
  exact ⟨h'.1.symm, h'.2.symm⟩

/-- The check of a blob tells the first of the violations that holds: the size comes before the
    media type. -/
theorem BlobRules.check_tells (rules : BlobRules) {value : Value} {mimeType : String} {size : Nat}
    (hvalue : value.IsBlob mimeType size) :
    Tells (rules.check mimeType size) rules.violations value := by
  have hsize (max : Nat) : (Violation.blobTooLarge max).HoldsOf value ↔ max < size := by
    constructor
    · rintro ⟨_, _, hblob, h⟩
      rwa [(hvalue.unique hblob).2] at h
    · exact fun h => ⟨_, _, hvalue, h⟩
  unfold BlobRules.check BlobRules.violations
  refine (atMost_tells hsize).andThen (.optional (fun h => by rw [h]) fun patterns h => ?_)
  rw [h]
  refine .test ?_
  have hholds : (Violation.mimeTypeNotAccepted patterns).HoldsOf value ↔
      ∀ pattern ∈ patterns, ¬ mimeMatches pattern mimeType := by
    constructor
    · rintro ⟨_, _, hblob, h⟩
      rwa [(hvalue.unique hblob).1] at h
    · exact fun h => ⟨_, _, hvalue, h⟩
  rw [hholds]
  simp

/-! ### Integers -/

/-- A value is one integer at most. -/
theorem Value.IsInteger.unique {value : Value} {n m : Int} (hn : value.IsInteger n)
    (hm : value.IsInteger m) : m = n := by
  cases value with
  | integer i => exact hm.symm.trans hn
  | float x =>
    have hx := Binary64.integer?_eq_some.2 hn
    rw [Binary64.integer?_eq_some.2 hm] at hx
    exact Option.some.inj hx
  | _ => exact hn.elim

/-- An integer is written in decimal, and in no other way. -/
theorem Value.IsInteger.writtenAs_iff {value : Value} {n : Int} (hn : value.IsInteger n)
    (t : String) : value.WrittenAs t ↔ t = toString n := by
  constructor
  · rintro (s | b | hm)
    · exact hn.elim
    · exact hn.elim
    · rw [hn.unique hm]
  · rintro rfl
    exact .integer hn

theorem toString_int_injective : Function.Injective (toString : Int → String) := by
  intro n m h
  rwa [Int.toString_eq_repr, Int.toString_eq_repr, Int.repr_inj] at h

namespace IntegerRules

/-- What the rules for integers look for, in order. -/
def violations (rules : IntegerRules) : List Violation :=
  rules.minimum.toList.map (fun min => Violation.belowMinimum min.toInt) ++
  rules.maximum.toList.map (fun max => Violation.aboveMaximum max.toInt) ++
  rules.allowed.toList.map (fun values => Violation.notInEnum (values.map text)) ++
  rules.const.toList.map fun expected => Violation.constMismatch (text expected)

section

variable {value : Value} {n : Int} (hvalue : value.IsInteger n)
include hvalue

/-- That an integer is too small is about its value, however it is given. -/
theorem belowMinimum_holdsOf_iff {min : Int} :
    (Violation.belowMinimum min).HoldsOf value ↔ n < min := by
  constructor
  · rintro ⟨m, hm, h⟩
    rwa [hvalue.unique hm] at h
  · exact fun h => ⟨n, hvalue, h⟩

/-- That an integer is too great is about its value, however it is given. -/
theorem aboveMaximum_holdsOf_iff {max : Int} :
    (Violation.aboveMaximum max).HoldsOf value ↔ max < n := by
  constructor
  · rintro ⟨m, hm, h⟩
    rwa [hvalue.unique hm] at h
  · exact fun h => ⟨n, hvalue, h⟩

end

theorem text_injective : Function.Injective text := by
  intro i j h
  exact Int64.toInt_inj.1 (toString_int_injective h)

/-- An integer that 64 bits hold. -/
theorem check_tells (rules : IntegerRules) {value : Value} {i : Int64}
    (hvalue : value.IsInteger i.toInt) : Tells (rules.check i) rules.violations value := by
  have hwritten (t : String) : value.WrittenAs t ↔ t = text i := hvalue.writtenAs_iff t
  unfold check violations
  simp only [List.append_assoc]
  refine .andThen ?_ (.andThen ?_ ((oneOf_tells hwritten text_injective).andThen
    (equalTo_tells hwritten text_injective)))
  · refine .optional (fun h => by rw [h]; rfl) fun min h => ?_
    rw [h]
    refine .test ?_
    rw [decide_eq_true_iff, belowMinimum_holdsOf_iff hvalue, Int64.lt_iff_toInt_lt]
  · refine .optional (fun h => by rw [h]; rfl) fun max h => ?_
    rw [h]
    refine .test ?_
    rw [decide_eq_true_iff, aboveMaximum_holdsOf_iff hvalue, Int64.lt_iff_toInt_lt]

/-- The rules for an integer that 64 bits do not hold, as a sequence of rules. -/
theorem checkBeyond_eq (rules : IntegerRules) (positive : Bool) :
    rules.checkBeyond positive = (do
      rules.minimum.elim (.ok ()) fun min => Check.unless (!positive) (.belowMinimum min.toInt)
      rules.maximum.elim (.ok ()) fun max => Check.unless positive (.aboveMaximum max.toInt)
      rules.allowed.elim (.ok ()) fun values => .error (.notInEnum (values.map text))
      rules.const.elim (.ok ()) fun expected => .error (.constMismatch (text expected))) := by
  obtain ⟨maximum, minimum, allowed, const, default⟩ := rules
  cases positive <;> cases minimum <;> cases maximum <;> cases allowed <;> cases const <;> rfl

/-- An integer that 64 bits do not hold: it differs from everything that is listed. -/
theorem checkBeyond_tells (rules : IntegerRules) {value : Value} {n : Int}
    (hn : fitsInt64 n = false) (hvalue : value.IsInteger n) :
    Tells (rules.checkBeyond (0 < n)) rules.violations value := by
  have htext (i : Int64) : toString n ≠ text i := fun h =>
    ne_toInt_of_not_fits hn i (toString_int_injective h)
  have hwritten : value.WrittenAs (toString n) := .integer hvalue
  rw [checkBeyond_eq]
  unfold violations
  simp only [List.append_assoc]
  refine .andThen ?_ (.andThen ?_ (.andThen ?_ ?_))
  · -- An integer beyond the words is on the same side of every bound, which is a word.
    refine .optional (fun h => by rw [h]; rfl) fun min h => ?_
    rw [h]
    refine .test ?_
    rw [belowMinimum_holdsOf_iff hvalue]
    have hside := lt_or_lt_of_not_fits hn min
    simp only [Bool.not_eq_true', decide_eq_false_iff_not]
    omega
  · refine .optional (fun h => by rw [h]; rfl) fun max h => ?_
    rw [h]
    refine .test ?_
    rw [aboveMaximum_holdsOf_iff hvalue, decide_eq_true_iff]
    have hside := lt_or_lt_of_not_fits hn max
    omega
  · -- No word is written like this integer, so neither a choice nor a constant is.
    refine .optional (fun h => by rw [h]; rfl) fun values h => ?_
    rw [h]
    refine .head ⟨toString n, hwritten, fun hmem => ?_⟩
    obtain ⟨i, -, hi⟩ := List.mem_map.1 hmem
    exact htext i hi.symm
  · refine .optional (fun h => by rw [h]; rfl) fun expected h => ?_
    rw [h]
    exact .head ⟨toString n, hwritten, htext expected⟩

end IntegerRules

/-- A number that is no integer is told apart from a value that is no number. -/
theorem integerCheck_tells (rules : IntegerRules) (value : Value) :
    Tells (integerCheck rules value) (.notNumber :: .notInteger :: rules.violations) value := by
  -- The first two violations hold of no integer.
  have hinteger {n : Int} {check : Check} (hn : value.IsInteger n)
      (h : Tells check rules.violations value) :
      Tells check (.notNumber :: .notInteger :: rules.violations) value := by
    refine .skip (fun hnumber => ?_) (.skip (fun hnone => hnone.2 n hn) h)
    cases value with
    | integer | float => cases hnumber
    | _ => exact hn
  cases value with
  | integer i =>
    have hi : (Value.integer i).IsInteger i.toInt := rfl
    exact hinteger hi (rules.check_tells hi)
  | float x =>
    cases hx : x.integer? with
    | none =>
      have hnone (n : Int) : ¬ (Value.float x).IsInteger n := by
        intro hn
        rw [Binary64.integer?_eq_some.2 hn] at hx
        cases hx
      have hcheck : integerCheck rules (.float x) = .error .notInteger := by
        simp [integerCheck, Value.integer?, hx]
      rw [hcheck]
      exact .skip (by simp [Violation.HoldsOf, Value.isNumber]) (.head ⟨rfl, hnone⟩)
    | some n =>
      have hvalue : (Value.float x).IsInteger n := Binary64.integer?_eq_some.1 hx
      -- A whole float is judged as a word where it fits in one, and by its side otherwise.
      cases hn : int64OfInt? n with
      | none =>
        have hcheck : integerCheck rules (.float x) = rules.checkBeyond (0 < n) := by
          simp [integerCheck, Value.integer?, hx, hn]
        rw [hcheck]
        exact hinteger hvalue (rules.checkBeyond_tells (int64OfInt?_eq_none.1 hn) hvalue)
      | some i =>
        have hcheck : integerCheck rules (.float x) = rules.check i := by
          simp [integerCheck, Value.integer?, hx, hn]
        rw [hcheck]
        rw [← int64OfInt?_eq_some.1 hn] at hvalue
        exact hinteger hvalue (rules.check_tells hvalue)
  | _ => exact .head rfl

end Lexicon
