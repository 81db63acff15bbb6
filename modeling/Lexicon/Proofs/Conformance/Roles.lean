import Lexicon.Proofs.Conformance.Check
import Lexicon.Validation

namespace Lexicon

open Lexicon.Outcome

/-!
# Records and calls, and what their checks come to

* `Descriptor.described`, `Descriptor.rootLabel` — what `validate` checks against, and under which
  label;
* `Descriptor.recordSchema?`, …, `Descriptor.output?` — what a definition has for each role;
* `inRole`, `inRole_eq_ok` — looking for a definition in a role, whichever it is;
* `Descriptor.Exchanges` — the bodies of a call;
* `validate_eq`, `validateRecord_eq_ok`, `validateParams_eq_ok` — one law for each way in;
* `checkParams_eq` — parameters are checked as properties under the empty path, none of which may
  be null.
-/

namespace Descriptor

/-- What a definition describes: a record definition stands for its records. -/
def described : Descriptor → Descriptor
  | record _ _ schema => object schema
  | descriptor => descriptor

/-- The label of the root of a value, checked against a definition. -/
def rootLabel : Descriptor → Path
  | record .. => "Record"
  | _ => "Object"

/-- The schema of the records of a collection. -/
def recordSchema? : Descriptor → Option ObjectSchema
  | record _ _ schema => some schema
  | _ => none

/-- The parameters of a call. -/
def parameters? : Descriptor → Option (Option ParamsSchema)
  | query _ parameters _ _ | procedure _ parameters _ _ _ => some parameters
  | _ => none

/-- The input of a procedure. -/
def input? : Descriptor → Option (Option Body)
  | procedure _ _ input _ _ => some input
  | _ => none

/-- The output of a call. -/
def output? : Descriptor → Option (Option Body)
  | query _ _ output _ | procedure _ _ _ output _ => some output
  | _ => none

/-- A call takes a body as its input, or answers with it. -/
def Exchanges (definition : Descriptor) (body : Option Body) : Prop :=
  definition.input? = some body ∨ definition.output? = some body

end Descriptor

namespace Registry

variable {registry : Registry} {base reference : String} {value : Value}

/-! ### Definitions in a role -/

/-- A definition is looked up where the reference leads. -/
theorem definition_eq_ok {definition : Descriptor} :
    registry.definition reference = .ok definition ↔ ∃ address,
      Address.parse reference none = .ok address ∧ registry.resolve address = .ok definition := by
  simp only [Registry.definition, bind_eq_ok, Address.locate_eq_ok, lookUp_eq_ok]

/-- The address behind a reference, and what the definition there has for a role. -/
def inRole {α : Type} (registry : Registry) (reference : String) (role : Role)
    (part? : Descriptor → Option α) : Except Failure (Address × α) := do
  let address ← Address.locate reference none
  let definition ← registry.lookUp address
  match part? definition with
  | some part => return (address, part)
  | none => throw (.wrongKind address role)

/-- Validating a record needs a definition in the role of a record. -/
theorem recordAt_eq :
    registry.recordAt reference = registry.inRole reference .record Descriptor.recordSchema? := by
  unfold recordAt inRole
  congr 1; funext address
  congr 1; funext definition
  cases definition <;> rfl

/-- Validating parameters needs a definition in the role of a call. -/
theorem parametersAt_eq :
    registry.parametersAt reference = registry.inRole reference .call Descriptor.parameters? := by
  unfold parametersAt inRole
  congr 1; funext address
  congr 1; funext definition
  cases definition <;> rfl

/-- Validating an input needs a definition in the role of a procedure. -/
theorem inputAt_eq :
    registry.inputAt reference = registry.inRole reference .procedure Descriptor.input? := by
  unfold inputAt inRole
  congr 1; funext address
  congr 1; funext definition
  cases definition <;> rfl

/-- Validating an output needs a definition in the role of a call. -/
theorem outputAt_eq :
    registry.outputAt reference = registry.inRole reference .call Descriptor.output? := by
  unfold outputAt inRole
  congr 1; funext address
  congr 1; funext definition
  cases definition <;> rfl

/-- A definition is found in a role if the reference leads to one that has something for it. -/
theorem inRole_eq_ok {α : Type} {role : Role} {part? : Descriptor → Option α} {address : Address}
    {part : α} :
    registry.inRole reference role part? = .ok (address, part) ↔
      Address.parse reference none = .ok address ∧
        ∃ definition, registry.resolve address = .ok definition ∧ part? definition = some part := by
  simp only [inRole, bind_eq_ok, Address.locate_eq_ok, lookUp_eq_ok]
  constructor
  · rintro ⟨address, hparse, definition, hresolve, h⟩
    cases hpart : part? definition with
    | none =>
      rw [hpart] at h
      cases h
    | some found =>
      rw [hpart] at h
      cases h
      exact ⟨hparse, definition, hresolve, hpart⟩
  · rintro ⟨hparse, definition, hresolve, hpart⟩
    exact ⟨address, hparse, definition, hresolve, by rw [hpart]; rfl⟩

/-- A record schema is found where the reference resolves to a record. -/
theorem recordAt_eq_ok {address : Address} {schema : ObjectSchema} :
    registry.recordAt reference = .ok (address, schema) ↔
      Address.parse reference none = .ok address ∧
        ∃ description key, registry.resolve address = .ok (.record description key schema) := by
  rw [recordAt_eq, inRole_eq_ok]
  refine and_congr_right fun _ => ?_
  constructor
  · rintro ⟨definition, hresolve, h⟩
    cases definition <;> cases h
    exact ⟨_, _, hresolve⟩
  · rintro ⟨description, key, hresolve⟩
    exact ⟨_, hresolve, rfl⟩

/-- A definition is that of a call with the given parameters. -/
inductive HasParameters (parameters : Option ParamsSchema) : Descriptor → Prop where
  | query {description output errors} :
      HasParameters parameters (.query description parameters output errors)
  | procedure {description input output errors} :
      HasParameters parameters (.procedure description parameters input output errors)

/-- Parameters are found where the reference resolves to a call; it may have none. -/
theorem parametersAt_eq_ok {address : Address} {parameters : Option ParamsSchema} :
    registry.parametersAt reference = .ok (address, parameters) ↔
      Address.parse reference none = .ok address ∧
        ∃ definition, registry.resolve address = .ok definition ∧
          HasParameters parameters definition := by
  rw [parametersAt_eq, inRole_eq_ok]
  refine and_congr_right fun _ => exists_congr fun definition => and_congr_right fun _ => ?_
  constructor
  · intro h
    cases definition <;> cases h
    · exact .query
    · exact .procedure
  · intro hcall
    cases hcall <;> rfl

/-- The input that is checked is a body of the definition that the reference leads to. -/
theorem exchanges_of_inputAt {address : Address} {body : Option Body}
    (h : registry.inputAt reference = .ok (address, body)) :
    ∃ definition, registry.resolve address = .ok definition ∧ definition.Exchanges body := by
  rw [inputAt_eq] at h
  obtain ⟨-, definition, hresolve, hinput⟩ := inRole_eq_ok.1 h
  exact ⟨definition, hresolve, .inl hinput⟩

/-- The output that is checked is a body of the definition that the reference leads to. -/
theorem exchanges_of_outputAt {address : Address} {body : Option Body}
    (h : registry.outputAt reference = .ok (address, body)) :
    ∃ definition, registry.resolve address = .ok definition ∧ definition.Exchanges body := by
  rw [outputAt_eq] at h
  obtain ⟨-, definition, hresolve, houtput⟩ := inRole_eq_ok.1 h
  exact ⟨definition, hresolve, .inr houtput⟩

/-! ### Ways in -/

/-- To validate against a definition is to check against what it describes, from its root label. -/
theorem validate_eq : registry.validate reference value = (do
    let address ← Address.locate reference none
    let definition ← registry.lookUp address
    registry.checkValue address.document definition.described value definition.rootLabel 0) := by
  unfold validate
  congr 1; funext address
  congr 1; funext definition
  cases definition with
  | record => rw [Descriptor.described, checkValue]; rfl
  | _ => rfl

/-- A value that is no object has no type to compare, but the collection has to be there. -/
theorem validateRecord_of_plain (h : value.object? = none) :
    registry.validateRecord reference value = (do
      let _ ← registry.recordAt reference
      violates "Record" .notObject) := by
  cases value <;> first | rfl | cases h

/-- A record is an object that names its collection and is as the record schema says. -/
theorem validateRecord_eq_ok : registry.validateRecord reference value = .ok () ↔
    ∃ address schema fields type, registry.recordAt reference = .ok (address, schema) ∧
      value = .object fields ∧ fields.lookup "$type" = some (.string type) ∧
      address.isNamedBy type ∧
      registry.checkObject address.document schema value "Record" = .ok () := by
  unfold validateRecord
  simp only [← Value.bind_string?_eq_some, bind_eq_ok, Prod.exists]
  refine exists_congr fun address => exists_congr fun schema => ?_
  cases value with
  | object fields =>
    cases htype : (fields.lookup "$type").bind Value.string? with
    | none => simp [violates, htype]
    | some type =>
      cases hnamed : address.isNamedBy type <;> simp [violates, htype, hnamed]
  | _ => simp [violates]

/-- Parameters that are no object fail at the label. -/
theorem checkParams_of_plain (h : value.object? = none) (schema : ParamsSchema) (label : Path) :
    registry.checkParams base schema value label = violates label .notObject := by
  cases value <;> first | rfl | cases h

/-- Parameters are checked for the required names at the label, and each property then at its bare
    name. -/
theorem checkParams_eq (schema : ParamsSchema) (fields : List (String × Value)) (label : Path) :
    registry.checkParams base schema (.object fields) label = (do
      checkRequiredNames schema.required fields label
      schema.properties.forM fun property =>
        registry.checkProperty base false property.1 property.2 fields "") := by
  refine congrArg (fun check => checkRequiredNames schema.required fields label >>= fun _ =>
    schema.properties.forM check) (funext fun property => ?_)
  cases h : fields.lookup property.1 with
  | none => simp only [checkProperty_of_none h, h]
  | some field => simp [checkProperty_of_some h, h, Path.child]

/-- Parameters pass if they have the required names and all their properties pass. -/
theorem checkParams_eq_ok {schema : ParamsSchema} {label : Path} :
    registry.checkParams base schema value label = .ok () ↔
      ∃ fields, value = .object fields ∧ (∀ name ∈ schema.required, name ∈ Assoc.keys fields) ∧
        ∀ name descriptor, (name, descriptor) ∈ schema.properties →
          registry.checkProperty base false name descriptor fields "" = .ok () := by
  cases value with
  | object fields =>
    rw [checkParams_eq, then_eq_ok, checkRequiredNames_eq_ok, forM_eq_ok]
    simp
  | _ => simp [checkParams, violates]

/-- A call without parameters takes any value. -/
theorem validateParams_of_none {address : Address}
    (h : registry.parametersAt reference = .ok (address, none)) :
    registry.validateParams reference value = .ok () := by
  rw [validateParams, h]; rfl

/-- Parameters are checked against the schema that is found for them. -/
theorem validateParams_of_some {address : Address} {schema : ParamsSchema}
    (h : registry.parametersAt reference = .ok (address, some schema)) :
    registry.validateParams reference value =
      registry.checkParams address.document schema value "Params" := by
  rw [validateParams, h]; rfl

/-- Parameters are valid if they are as the call declares, where it declares any. -/
theorem validateParams_eq_ok : registry.validateParams reference value = .ok () ↔
    ∃ address parameters, registry.parametersAt reference = .ok (address, parameters) ∧
      ∀ schema ∈ parameters,
        registry.checkParams address.document schema value "Params" = .ok () := by
  simp only [validateParams, bind_eq_ok, Prod.exists]
  refine exists_congr fun address => exists_congr fun parameters => and_congr_right fun _ => ?_
  cases parameters <;> simp

end Registry

end Lexicon
