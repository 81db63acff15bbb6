import Lexicon.Defaults
import Lexicon.Proofs.Conformance.Roles
import Lexicon.Proofs.Reference

namespace Lexicon

open Lexicon.Outcome

/-!
# Definitions with counterparts in another registry

Many changes of schemas lead to a second registry in which every definition has a counterpart.  All
that a way in does with a definition is to take the part of it that its role asks for, and to check
or to fill a value against that part.  So ways in come out the same in both registries, if the parts
of counterparts do.  What the same outcome is depends on the change: an equal one, or a success
where the other is one, or one that is equal up to excused failures.

* `Descriptor.Counterparts` — two definitions whose parts correspond, role by role;
* `Registry.MeetCounterparts` — an address leads to counterparts in the two registries;
* `MeetCounterparts.located`, `MeetCounterparts.inRole` — so what is done with the definition behind
  a reference comes out the same, and what is done with its part for a role;
* `MeetCounterparts.validate`, …, `MeetCounterparts.fillParams` — hence so does every way in.
-/

/-- Two definitions whose parts correspond, role by role: what they describe, under the same label,
    and the schemas of records, the parameters, and the schemas of bodies that they have. -/
structure Descriptor.Counterparts (schemas : Descriptor → Descriptor → Prop)
    (params : ParamsSchema → ParamsSchema → Prop) (definition definition' : Descriptor) :
    Prop where
  described : schemas definition.described definition'.described
  rootLabel : definition.rootLabel = definition'.rootLabel
  record : Option.Rel (fun schema schema' => schemas (.object schema) (.object schema'))
    definition.recordSchema? definition'.recordSchema?
  parameters : Option.Rel (Option.Rel params) definition.parameters? definition'.parameters?
  input : Option.Rel (fun body body' =>
    Option.Rel schemas (body.bind Body.schema) (body'.bind Body.schema))
      definition.input? definition'.input?
  output : Option.Rel (fun body body' =>
    Option.Rel schemas (body.bind Body.schema) (body'.bind Body.schema))
      definition.output? definition'.output?

namespace Descriptor.Counterparts

variable {schemas : Descriptor → Descriptor → Prop} {params : ParamsSchema → ParamsSchema → Prop}

/-- Where schemas and parameters correspond to themselves, every definition is its own
    counterpart. -/
theorem refl (hschemas : ∀ schema, schemas schema schema) (hparams : ∀ schema, params schema schema)
    (definition : Descriptor) : Counterparts schemas params definition definition where
  described := hschemas _
  rootLabel := rfl
  record := relOption_refl fun _ _ => hschemas _
  parameters := relOption_refl fun _ _ => relOption_refl fun schema _ => hparams schema
  input := relOption_refl fun _ _ => relOption_refl fun schema _ => hschemas schema
  output := relOption_refl fun _ _ => relOption_refl fun schema _ => hschemas schema

end Descriptor.Counterparts

namespace Registry

section

variable {α : Type}

/-- An address leads to counterparts in the two registries, or to failures that count as the same:
    whatever is done behind it comes out the same, if it does on counterparts. -/
structure MeetCounterparts (same : Except Failure α → Except Failure α → Prop)
    (schemas : String → Descriptor → Descriptor → Prop)
    (params : String → ParamsSchema → ParamsSchema → Prop) (registry registry' : Registry) :
    Prop where
  refl : ∀ outcome, same outcome outcome
  lookUp : ∀ {address : Address} {step step' : Descriptor → Except Failure α},
    IsReferencePart address.document →
    (∀ definition definition', Descriptor.Counterparts (schemas address.document)
      (params address.document) definition definition' → same (step definition) (step' definition')) →
    same (registry.lookUp address >>= step) (registry'.lookUp address >>= step')

namespace MeetCounterparts

variable {same : Except Failure α → Except Failure α → Prop}
  {schemas : String → Descriptor → Descriptor → Prop}
  {params : String → ParamsSchema → ParamsSchema → Prop} {registry registry' : Registry}

/-- Two registries meet counterparts, if an address leads to counterparts in them or to the same
    failure. -/
theorem of_related (hrefl : ∀ outcome, same outcome outcome)
    (h : ∀ address, IsReferencePart address.document →
      Related (Descriptor.Counterparts (schemas address.document) (params address.document))
        (registry.lookUp address) (registry'.lookUp address)) :
    MeetCounterparts same schemas params registry registry' where
  refl := hrefl
  lookUp := by
    intro address step step' hdocument hstep
    have hfound := h address hdocument
    generalize registry.lookUp address = found at hfound ⊢
    generalize registry'.lookUp address = found' at hfound ⊢
    cases hfound with
    | ok hcounterparts => exact hstep _ _ hcounterparts
    | error failure => exact hrefl _

/-- What is done with the definition behind a reference comes out the same, if it does on
    counterparts.  The reference is read from outside all documents, so it names its document. -/
theorem located (h : MeetCounterparts same schemas params registry registry') (reference : String)
    {step step' : Address → Descriptor → Except Failure α}
    (hstep : ∀ address definition definition', Descriptor.Counterparts (schemas address.document)
      (params address.document) definition definition' →
      same (step address definition) (step' address definition')) :
    same
      (do let address ← Address.locate reference none
          let definition ← registry.lookUp address
          step address definition)
      (do let address ← Address.locate reference none
          let definition ← registry'.lookUp address
          step' address definition) := by
  cases hlocate : Address.locate reference none with
  | error failure => exact h.refl _
  | ok address =>
    -- A reference that stands alone names its document.
    have hproper : address.IsProper :=
      Address.isProper_of_parse (by simp) (Address.locate_eq_ok.1 hlocate)
    exact h.lookUp hproper.document (hstep address)

/-- What is done with the part of a definition for a role comes out the same, if the parts of
    counterparts correspond, and it does on parts that do. -/
theorem inRole (h : MeetCounterparts same schemas params registry registry') (reference : String)
    {β : Type} {role : Role} {part? : Descriptor → Option β} {parts : String → β → β → Prop}
    {step step' : Address × β → Except Failure α}
    (hpart : ∀ document definition definition',
      Descriptor.Counterparts (schemas document) (params document) definition definition' →
      Option.Rel (parts document) (part? definition) (part? definition'))
    (hstep : ∀ address part part', parts address.document part part' →
      same (step (address, part)) (step' (address, part'))) :
    same (registry.inRole reference role part? >>= step)
      (registry'.inRole reference role part? >>= step') := by
  unfold Registry.inRole
  simp only [bind_assoc]
  refine h.located reference fun address definition definition' hcounterparts => ?_
  have hparts := hpart address.document definition definition' hcounterparts
  -- Both definitions have the part for the role, or neither does.
  generalize part? definition = found at hparts ⊢
  generalize part? definition' = found' at hparts ⊢
  cases hparts with
  | none => exact h.refl _
  | some hrelated => exact hstep address _ _ hrelated

end MeetCounterparts

end

namespace MeetCounterparts

variable {schemas : String → Descriptor → Descriptor → Prop}
  {params : String → ParamsSchema → ParamsSchema → Prop} {registry registry' : Registry}

/-! ### Checks -/

section

variable {same : Verdict → Verdict → Prop}
  (h : MeetCounterparts same schemas params registry registry')
  (hvalue : ∀ document schema schema' value path, schemas document schema schema' →
    same (registry.checkValue document schema value path 0)
      (registry'.checkValue document schema' value path 0))

section

include hvalue

/-- An object is checked as a value against its schema. -/
theorem checkObject {document : String} {schema schema' : ObjectSchema}
    (hschema : schemas document (.object schema) (.object schema')) (value : Value) (path : Path) :
    same (registry.checkObject document schema value path)
      (registry'.checkObject document schema' value path) := by
  have hobject := hvalue document (.object schema) (.object schema') value path hschema
  rw [checkValue, checkValue] at hobject
  exact hobject

end

include h

section

include hvalue

/-- A body without a schema may be anything, in both registries. -/
theorem checkBody {address : Address} {body body' : Option Body}
    (hbody : Option.Rel (schemas address.document) (body.bind Body.schema)
      (body'.bind Body.schema)) (value : Value) (label : Path) :
    same (registry.checkBody address body value label)
      (registry'.checkBody address body' value label) := by
  unfold Registry.checkBody
  generalize body.bind Body.schema = schema at hbody
  generalize body'.bind Body.schema = schema' at hbody
  cases hbody with
  | none => exact h.refl _
  | some hschema => exact hvalue _ _ _ value label hschema

/-- Values are judged alike by definitions of any kind. -/
theorem validate (reference : String) (value : Value) :
    same (registry.validate reference value) (registry'.validate reference value) := by
  rw [validate_eq, validate_eq]
  refine h.located reference fun address definition definition' hcounterparts => ?_
  rw [← hcounterparts.rootLabel]
  exact hvalue _ _ _ value _ hcounterparts.described

/-- Which type a record must name depends on the reference only. -/
theorem validateRecord (reference : String) (value : Value) :
    same (registry.validateRecord reference value) (registry'.validateRecord reference value) := by
  unfold Registry.validateRecord
  rw [recordAt_eq, recordAt_eq]
  refine h.inRole reference (fun _ _ _ hcounterparts => hcounterparts.record)
    fun address schema schema' hschema => ?_
  have hobject := checkObject hvalue hschema value "Record"
  cases value with
  | object fields =>
    dsimp only
    cases (fields.lookup "$type").bind Value.string? with
    | none => exact h.refl _
    | some type =>
      dsimp only
      -- The type is compared with the address, which is the same in both.
      by_cases hnamed : address.isNamedBy type
      · rw [if_pos hnamed, if_pos hnamed]
        exact hobject
      · rw [if_neg hnamed, if_neg hnamed]
        exact h.refl _
  | _ => exact h.refl _

/-- Inputs are judged alike. -/
theorem validateInput (reference : String) (value : Value) :
    same (registry.validateInput reference value) (registry'.validateInput reference value) := by
  unfold Registry.validateInput
  rw [inputAt_eq, inputAt_eq]
  exact h.inRole reference (fun _ _ _ hcounterparts => hcounterparts.input)
    fun _ _ _ hbody => h.checkBody hvalue hbody value "Input"

/-- Outputs are judged alike. -/
theorem validateOutput (reference : String) (value : Value) :
    same (registry.validateOutput reference value) (registry'.validateOutput reference value) := by
  unfold Registry.validateOutput
  rw [outputAt_eq, outputAt_eq]
  exact h.inRole reference (fun _ _ _ hcounterparts => hcounterparts.output)
    fun _ _ _ hbody => h.checkBody hvalue hbody value "Output"

end

/-- A call without parameters takes any, in both registries. -/
theorem validateParams
    (hparams : ∀ document schema schema' value label, params document schema schema' →
      same (registry.checkParams document schema value label)
        (registry'.checkParams document schema' value label))
    (reference : String) (value : Value) :
    same (registry.validateParams reference value) (registry'.validateParams reference value) := by
  unfold Registry.validateParams
  rw [parametersAt_eq, parametersAt_eq]
  refine h.inRole reference (fun _ _ _ hcounterparts => hcounterparts.parameters)
    fun address parameters parameters' hparameters => ?_
  cases hparameters with
  | none => exact h.refl _
  | some hschema => exact hparams _ _ _ value "Params" hschema

end

/-! ### Fillings -/

section

variable {same : Except Failure Value → Except Failure Value → Prop}
  (h : MeetCounterparts same schemas params registry registry')
include h

/-- Records are filled alike if their schemas fill alike. -/
theorem fillRecord
    (hfill : ∀ document schema schema' value label,
      schemas document (.object schema) (.object schema') →
      same (registry.fill document schema.properties value label)
        (registry'.fill document schema'.properties value label))
    (reference : String) (value : Value) :
    same (registry.fillRecord reference value) (registry'.fillRecord reference value) := by
  unfold Registry.fillRecord
  rw [recordAt_eq, recordAt_eq]
  exact h.inRole reference (fun _ _ _ hcounterparts => hcounterparts.record)
    fun _ _ _ hschema => hfill _ _ _ value "Record" hschema

/-- Parameters are filled alike if their schemas fill alike. -/
theorem fillParams
    (hfill : ∀ document schema schema' value label, params document schema schema' →
      same (registry.fill document schema.properties value label)
        (registry'.fill document schema'.properties value label))
    (reference : String) (value : Value) :
    same (registry.fillParams reference value) (registry'.fillParams reference value) := by
  unfold Registry.fillParams
  rw [parametersAt_eq, parametersAt_eq]
  refine h.inRole reference (fun _ _ _ hcounterparts => hcounterparts.parameters)
    fun address parameters parameters' hparameters => ?_
  cases hparameters with
  | none => exact h.refl _
  | some hschema => exact hfill _ _ _ value "Params" hschema

end

end MeetCounterparts

end Registry

end Lexicon
