import Lexicon.Proofs.Conformance.Faults

namespace Lexicon

open Lexicon.Outcome

/-!
# What a descriptor looks for in the value itself

Before a check goes into items and properties, or follows references, it looks at the value alone.

* `Descriptor.violations` — what a descriptor looks for in the value itself, in order;
* `TellsAt path verdict violations value` — a verdict tells, at a path, the first of some violations
  that holds of a value;
* `checkBoolean_tells`, `checkString_tells`, … — that is what a check does for each kind.
-/

/-- What a descriptor looks for in the value itself, in order.  What it looks for in items and
    properties, or by following references, comes later. -/
def Descriptor.violations : Descriptor → List Violation
  | .boolean _ rules => .notBoolean :: rules.violations
  | .integer _ rules => .notNumber :: .notInteger :: rules.violations
  | .string _ format rules => .notString :: (format.toList.map .invalidFormat ++ rules.violations)
  | .bytes _ rules => .notBytes :: rules.byteViolations
  | .cidLink _ => [.notCidLink]
  | .blob _ rules => .notBlob :: rules.violations
  | .array _ _ rules => .notArray :: rules.itemViolations
  | .object schema => .notObject :: schema.required.map .missingProperty
  | .union .. => [.missingTypeProperty]
  | _ => []

/-- A verdict tells, at a path, the first of some violations that holds of a value. -/
def TellsAt (path : Path) (verdict : Verdict) (violations : List Violation) (value : Value) :
    Prop :=
  ∃ check : Check, verdict = check.at path ∧ Tells check violations value

namespace TellsAt

variable {path : Path} {verdict : Verdict} {violations : List Violation} {value : Value}

theorem head {violation : Violation} (h : violation.HoldsOf value) :
    TellsAt path (violates path violation) (violation :: violations) value :=
  ⟨.error violation, rfl, .head h⟩

/-- A violation that does not hold may come before all others. -/
theorem skip {violation : Violation} (h : ¬ violation.HoldsOf value)
    (hrest : TellsAt path verdict violations value) :
    TellsAt path verdict (violation :: violations) value := by
  obtain ⟨check, hverdict, htells⟩ := hrest
  exact ⟨check, hverdict, htells.skip h⟩

/-- A verdict that fails does so at the path, with the first violation that holds. -/
theorem fails (h : TellsAt path verdict violations value) {path' : Path} {reason : Violation}
    (hverdict : verdict = .error (.violation path' reason)) :
    path' = path ∧ reason.IsFirstOf violations value := by
  obtain ⟨check, rfl, htells⟩ := h
  obtain ⟨reason', hcheck, hreason⟩ := mapError_eq_error.1 hverdict
  cases hreason
  exact ⟨rfl, htells.fails reason hcheck⟩

/-- If the verdict is that all is well, then no violation holds. -/
theorem passes (h : TellsAt path verdict violations value) (hverdict : verdict = .ok ()) :
    ∀ violation ∈ violations, ¬ violation.HoldsOf value := by
  obtain ⟨check, rfl, htells⟩ := h
  exact htells.passes (Registry.Check.at_eq_ok.1 hverdict)

end TellsAt

namespace Registry

variable {registry : Registry} {base : String} {value : Value} {path : Path} {hops : Nat}

section Scalars

variable {description : Option String}

/-- That a value is no boolean comes before the rules. -/
theorem checkBoolean_tells (rules : BooleanRules) :
    TellsAt path (registry.checkValue base (.boolean description rules) value path hops)
      (Descriptor.boolean description rules).violations value := by
  unfold checkValue
  cases value with
  | boolean b =>
    exact .skip (fun h => h b rfl) ⟨rules.check b, rfl, rules.check_tells b⟩
  | _ => exact .head (by simp [Violation.HoldsOf])

/-- The kind of number comes before the rules. -/
theorem checkInteger_tells (rules : IntegerRules) :
    TellsAt path (registry.checkValue base (.integer description rules) value path hops)
      (Descriptor.integer description rules).violations value := by
  unfold checkValue
  exact ⟨integerCheck rules value, rfl, integerCheck_tells rules value⟩

/-- The format comes before all other rules. -/
theorem checkString_tells (format : Option Format) (rules : StringRules) :
    TellsAt path (registry.checkValue base (.string description format rules) value path hops)
      (Descriptor.string description format rules).violations value := by
  unfold checkValue
  cases value with
  | string s =>
    have hrules : TellsAt path ((rules.check s).at path) rules.violations (.string s) :=
      ⟨rules.check s, rfl, rules.check_tells s⟩
    refine .skip (fun h => h s rfl) ?_
    cases format with
    | none => exact hrules
    | some format =>
      by_cases hformat : format.accepts s
      · have hnot : ¬ (Violation.invalidFormat format).HoldsOf (.string s) := by
          rintro ⟨_, hs, h⟩
          cases hs
          exact h hformat
        simpa [Option.filter, hformat] using hrules.skip hnot
      · have hholds : (Violation.invalidFormat format).HoldsOf (.string s) := ⟨s, rfl, hformat⟩
        simpa [Option.filter, hformat] using TellsAt.head hholds
  | _ => exact .head (by simp [Violation.HoldsOf])

/-- That a value is no bytes comes before the lengths. -/
theorem checkBytes_tells (rules : LengthRules) :
    TellsAt path (registry.checkValue base (.bytes description rules) value path hops)
      (Descriptor.bytes description rules).violations value := by
  unfold checkValue
  cases value with
  | bytes data =>
    exact .skip (fun h => h data rfl)
      ⟨rules.checkBytes data.length, rfl, rules.checkBytes_tells data⟩
  | _ => exact .head (by simp [Violation.HoldsOf])

/-- A link has one violation only: that the value is none. -/
theorem checkLink_tells :
    TellsAt path (registry.checkValue base (.cidLink description) value path hops)
      (Descriptor.cidLink description).violations value := by
  unfold checkValue
  cases value with
  | link cid => exact .skip (fun h => h cid rfl) ⟨.ok (), rfl, .nil⟩
  | _ => exact .head (by simp [Violation.HoldsOf])

/-- That a value is no blob comes before the size and the media types. -/
theorem checkBlob_tells (rules : BlobRules) :
    TellsAt path (registry.checkValue base (.blob description rules) value path hops)
      (Descriptor.blob description rules).violations value := by
  unfold checkValue
  cases hblob : blobOf? value with
  | none =>
    refine .head fun mimeType size h => ?_
    rw [blobOf?_eq_some.2 h] at hblob
    cases hblob
  | some blob =>
    have hvalue : value.IsBlob blob.1 blob.2 := blobOf?_eq_some.1 hblob
    exact .skip (fun h => h _ _ hvalue)
      ⟨rules.check blob.1 blob.2, rfl, rules.check_tells hvalue⟩

end Scalars

/-- The required names of an object, the first one that is missing being told. -/
theorem checkRequiredNames_tells (required : List String) (fields : List (String × Value)) :
    TellsAt path (checkRequiredNames required fields path) (required.map .missingProperty)
      (.object fields) := by
  -- A name is told as missing by the look-up of its key.
  have hmissing (name : String) : (Violation.missingProperty name).HoldsOf (.object fields) ↔
      Assoc.hasKey fields name = false := by
    simp [Violation.HoldsOf, ← Assoc.hasKey_iff]
  unfold checkRequiredNames
  induction required with
  | nil => exact ⟨.ok (), rfl, .nil⟩
  | cons name rest ih =>
    rw [List.find?_cons]
    cases hname : Assoc.hasKey fields name with
    | false => exact .head ((hmissing name).2 hname)
    | true =>
      refine .skip (fun h => ?_) ih
      rw [hmissing, hname] at h
      cases h

/-- An array as a whole has the violations of its length. -/
theorem checkArray_tells (path : Path) (description : Option String) (items : Descriptor)
    (rules : LengthRules) (values : List Value) :
    TellsAt path ((rules.checkItems values.length).at path)
      (Descriptor.array description items rules).violations (.array values) :=
  .skip (fun h => h values rfl) ⟨rules.checkItems values.length, rfl, rules.checkItems_tells values⟩

/-- An object as a whole has the violations of its required names. -/
theorem checkObject_tells (path : Path) (schema : ObjectSchema) (fields : List (String × Value)) :
    TellsAt path (checkRequiredNames schema.required fields path)
      (Descriptor.object schema).violations (.object fields) :=
  .skip (fun h => h fields rfl) (checkRequiredNames_tells schema.required fields)

end Registry

end Lexicon
