import Lexicon.Proofs.Defaults.Agreement
import Lexicon.Proofs.Registry.Counterparts

namespace Lexicon.Registry

open Lexicon.Outcome

/-!
# Two registries, one answer

A registry answers questions of eight sorts: what a reference leads to, whether a value passes one
of five checks, and what a value is with its defaults filled in.

* `AnswersAgree excused registry registry'` — the second registry gives every answer of the first
  one, up to excused failures;
* `answersAgree` — it does so if the two agree on every definition, and the second one leaves room.
-/

/-- Every answer of the first registry is an answer of the second one, unless it is an excused
    failure. -/
structure AnswersAgree (excused : Failure → Prop) (registry registry' : Registry) : Prop where
  definition : ∀ reference,
    Agree excused (registry.definition reference) (registry'.definition reference)
  validate : ∀ reference value,
    Agree excused (registry.validate reference value) (registry'.validate reference value)
  validateRecord : ∀ reference value,
    Agree excused (registry.validateRecord reference value)
      (registry'.validateRecord reference value)
  validateParams : ∀ reference value,
    Agree excused (registry.validateParams reference value)
      (registry'.validateParams reference value)
  validateInput : ∀ reference value,
    Agree excused (registry.validateInput reference value)
      (registry'.validateInput reference value)
  validateOutput : ∀ reference value,
    Agree excused (registry.validateOutput reference value)
      (registry'.validateOutput reference value)
  fillRecord : ∀ reference value,
    Agree excused (registry.fillRecord reference value) (registry'.fillRecord reference value)
  fillParams : ∀ reference value,
    Agree excused (registry.fillParams reference value) (registry'.fillParams reference value)

variable {excused : Failure → Prop} {registry registry' : Registry}

section

variable
  (hlookUp : ∀ address, Agree excused (registry.lookUp address) (registry'.lookUp address))
include hlookUp

/-- Where look-up agrees, every definition is met by itself. -/
theorem meetCounterparts_of_agree (α : Type) :
    MeetCounterparts (Agree excused : Except Failure α → Except Failure α → Prop) (fun _ => Eq)
      (fun _ => Eq) registry registry' where
  refl := .refl
  lookUp _ hstep := (hlookUp _).bind fun definition _ =>
    hstep definition definition (.refl (fun _ => rfl) (fun _ => rfl) definition)

/-! ### Checks -/

variable (hroom : LeavesRoom excused registry registry' 0 0)
include hroom

/-- Parameters are checked as properties, each of them by itself. -/
theorem checkParams_agree (base : String) (schema : ParamsSchema) (value : Value) (label : Path) :
    Agree excused (registry.checkParams base schema value label)
      (registry'.checkParams base schema value label) := by
  cases value with
  | object fields =>
    rw [checkParams_eq, checkParams_eq]
    refine (Agree.refl _).bind fun _ _ => Agree.forM fun property _ => ?_
    exact checkProperty_agree fun field _ =>
      checkValue_agree hlookUp hroom base property.2 field _
  | _ => exact .refl _

/-! ### All answers -/

/-- **Agreement of answers.**  If two registries agree on every definition, and the second one
    leaves room, then they agree on all answers. -/
theorem answersAgree : AnswersAgree excused registry registry' := by
  have hvalue : ∀ document schema schema' value path, schema = schema' →
      Agree excused (registry.checkValue document schema value path 0)
        (registry'.checkValue document schema' value path 0) := by
    rintro document schema _ value path rfl
    exact checkValue_agree hlookUp hroom document schema value path
  have hparams : ∀ document schema schema' value label, schema = schema' →
      Agree excused (registry.checkParams document schema value label)
        (registry'.checkParams document schema' value label) := by
    rintro document schema _ value label rfl
    exact checkParams_agree hlookUp hroom document schema value label
  have hrecord : ∀ document schema schema' value label,
      Descriptor.object schema = .object schema' →
      Agree excused (registry.fill document schema.properties value label)
        (registry'.fill document schema'.properties value label) := by
    rintro document schema _ value label ⟨⟩
    exact fill_agree hlookUp hroom document schema.properties value label
  have hfill : ∀ document schema schema' value label, schema = schema' →
      Agree excused (registry.fill document (ParamsSchema.properties schema) value label)
        (registry'.fill document schema'.properties value label) := by
    rintro document schema _ value label rfl
    exact fill_agree hlookUp hroom document schema.properties value label
  -- Each way in meets the same definitions, and what it does with them agrees.
  have hchecks := meetCounterparts_of_agree hlookUp Unit
  have hfillings := meetCounterparts_of_agree hlookUp Value
  exact ⟨fun reference => (Agree.refl _).bind fun address _ => hlookUp address,
    hchecks.validate hvalue, hchecks.validateRecord hvalue, hchecks.validateParams hparams,
    hchecks.validateInput hvalue, hchecks.validateOutput hvalue, hfillings.fillRecord hrecord,
    hfillings.fillParams hfill⟩

end

end Lexicon.Registry
