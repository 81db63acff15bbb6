import Lexicon.Proofs.Conformance.Origins

namespace Lexicon.Registry

open Lexicon.Outcome

/-!
# Where the failures of a registry come from

The checks of a registry start behind a reference: at a definition, at the properties of a record or
of parameters, or at the schema of a body.  All but the first are children of a definition.

* `Lost`, `lost_of_inRole` — a reference behind which there is no definition, and that looking for a
  definition in a role fails otherwise for its kind only;
* `HasParameters.children_subset`, `children_subset_of_exchanges` — the parts of a call that are
  checked are children of its definition;
* `Cause` — why a check fails otherwise than with a violation: the reference, or a child of the
  definition behind it;
* `cause_of_validate`, …, `cause_of_validateOutput` — one law for each way in.
-/

variable {registry : Registry} {address : Address} {base reference : String}
  {descriptor child definition : Descriptor} {value : Value} {path label : Path} {hops : Nat}
  {error : ResolutionError}

/-! ### Definitions that are not found -/

/-- There is no definition behind a reference: it cannot be read, or it leads nowhere. -/
inductive Lost (registry : Registry) (reference : String) : ResolutionError → Prop where
  | unreadable {reason : ReferenceError} : Address.parse reference none = .error reason →
      Lost registry reference (.invalidReference reason)
  | absent {address : Address} {error : ResolutionError} :
      Address.parse reference none = .ok address → registry.resolve address = .error error →
      Lost registry reference error

/-- Where something is done with the definition behind a reference, there is no definition, or what
    is done fails. -/
theorem lost_or_of_located {α : Type} {step : Address → Descriptor → Except Failure α}
    (h : (do
      let address ← Address.locate reference none
      let definition ← registry.lookUp address
      step address definition) = .error (.resolution error)) :
    registry.Lost reference error ∨ ∃ address definition,
      Address.parse reference none = .ok address ∧ registry.resolve address = .ok definition ∧
        step address definition = .error (.resolution error) := by
  rcases bind_eq_error.1 h with h | ⟨address, hlocate, h⟩
  · obtain ⟨reason, hparse, rfl⟩ := Address.locate_eq_resolution h
    exact .inl (.unreadable hparse)
  have hparse := Address.locate_eq_ok.1 hlocate
  -- From here on the reference has been read, and its address may not resolve.
  rcases bind_eq_error.1 h with h | ⟨definition, hlookUp, h⟩
  · obtain ⟨_, hresolve, herror⟩ := mapError_eq_error.1 h
    cases herror
    exact .inl (.absent hparse hresolve)
  · exact .inr ⟨address, definition, hparse, lookUp_eq_ok.1 hlookUp, h⟩

/-- Looking for a definition in a role has no other failures of this sort. -/
theorem lost_of_inRole {α : Type} {role : Role} {part? : Descriptor → Option α}
    (h : registry.inRole reference role part? = .error (.resolution error)) :
    registry.Lost reference error := by
  rcases lost_or_of_located h with hlost | ⟨address, definition, -, -, h⟩
  · exact hlost
  · -- A definition that has nothing for the role is of the wrong kind, which is told otherwise.
    cases hpart : part? definition with
    | none =>
      rw [hpart] at h
      cases h
    | some part =>
      rw [hpart] at h
      cases h

/-! ### Children of definitions -/

/-- The parameters of a call are children of its definition. -/
theorem HasParameters.children_subset {parameters : Option ParamsSchema}
    (h : HasParameters parameters definition) :
    ParamsSchema.children parameters ⊆ definition.children := by
  intro child hchild
  cases h <;> simp [Descriptor.children, hchild]

/-- The schema of a body of a call is a child of its definition. -/
theorem children_subset_of_exchanges {body : Option Body} (h : definition.Exchanges body) :
    Body.children body ⊆ definition.children := by
  intro child hchild
  unfold Descriptor.Exchanges at h
  rcases h with h | h <;> cases definition <;> cases h <;> simp [Descriptor.children, hchild]

/-! ### Causes -/

/-- Why a check of a value fails otherwise than with a violation: there is no definition behind the
    reference, or a child of the definition fails on the value or on a part of it. -/
inductive Cause (registry : Registry) (reference : String) (value : Value) :
    ResolutionError → Prop where
  | lost {error : ResolutionError} : registry.Lost reference error →
      Cause registry reference value error
  | child {address : Address} {definition child : Descriptor} {part : Value} {path : Path}
      {error : ResolutionError} :
      registry.resolve address = .ok definition → child ∈ definition.children →
      part = value ∨ value.HasPart part →
      registry.checkValue address.document child part path 0 = .error (.resolution error) →
      Cause registry reference value error

/-- The properties of a record are children of its definition. -/
theorem cause_of_record {description key : Option String} {schema : ObjectSchema}
    (hresolve : registry.resolve address = .ok (.record description key schema))
    (h : registry.checkObject address.document schema value path = .error (.resolution error)) :
    registry.Cause reference value error := by
  obtain ⟨fields, rfl, property, hmem, field, hfield, h⟩ := checkObject_fails_below h
  exact .child hresolve (List.mem_map_of_mem hmem) (.inr (.field hfield)) h

/-- The schema of a body is a child of the definition of the call. -/
theorem cause_of_body {body : Option Body} (hresolve : registry.resolve address = .ok definition)
    (hbody : definition.Exchanges body)
    (h : registry.checkBody address body value label = .error (.resolution error)) :
    registry.Cause reference value error := by
  unfold checkBody at h
  cases hschema : body.bind Body.schema with
  | none =>
    rw [hschema] at h
    cases h
  | some schema =>
    rw [hschema] at h
    -- The schema of a body is something that the call holds.
    have hchild : schema ∈ definition.children := by
      apply children_subset_of_exchanges hbody
      rw [Body.children, Option.mem_toList]
      exact hschema
    exact .child hresolve hchild (.inl rfl) h

/-! ### Ways in -/

/-- A check against any definition may fail at the definition itself, too. -/
theorem cause_of_validate (h : registry.validate reference value = .error (.resolution error)) :
    registry.Cause reference value error ∨ ∃ address definition path,
      Address.parse reference none = .ok address ∧ registry.resolve address = .ok definition ∧
        registry.checkValue address.document definition value path 0 =
          .error (.resolution error) := by
  rw [validate_eq] at h
  rcases lost_or_of_located h with hlost | ⟨address, definition, hparse, hresolve, h⟩
  · exact .inl (.lost hlost)
  · cases definition with
    | record description key schema =>
      -- A record definition stands for its records, which are no part of the document by themselves.
      rw [Descriptor.described, checkValue] at h
      exact .inl (cause_of_record hresolve h)
    | _ => exact .inr ⟨address, _, _, hparse, hresolve, h⟩

/-- A record fails to resolve for its collection, or for something that its check meets. -/
theorem cause_of_validateRecord
    (h : registry.validateRecord reference value = .error (.resolution error)) :
    registry.Cause reference value error := by
  rcases bind_eq_error.1 h with h | ⟨⟨address, schema⟩, hrecord, h⟩
  · exact .lost (lost_of_inRole (recordAt_eq ▸ h))
  obtain ⟨-, description, key, hresolve⟩ := recordAt_eq_ok.1 hrecord
  -- What comes before the check of the object is about the type, and tells violations only.
  cases value with
  | object fields =>
    dsimp only at h
    cases htype : (fields.lookup "$type").bind Value.string? with
    | none =>
      simp only [htype] at h
      cases h
    | some type =>
      simp only [htype] at h
      by_cases hnamed : address.isNamedBy type
      · rw [if_pos hnamed] at h
        exact cause_of_record hresolve h
      · rw [if_neg hnamed] at h
        cases h
  | _ => cases h

/-- Parameters fail to resolve for their call, or for something that their check meets. -/
theorem cause_of_validateParams
    (h : registry.validateParams reference value = .error (.resolution error)) :
    registry.Cause reference value error := by
  rcases bind_eq_error.1 h with h | ⟨⟨address, parameters⟩, hparameters, h⟩
  · exact .lost (lost_of_inRole (parametersAt_eq ▸ h))
  obtain ⟨-, definition, hresolve, hcall⟩ := parametersAt_eq_ok.1 hparameters
  cases parameters with
  | none => cases h
  | some schema =>
    obtain ⟨fields, rfl, property, hmem, field, hfield, h⟩ := checkParams_fails_below h
    have hparameter : property.2 ∈ ParamsSchema.children (some schema) := by
      simpa [ParamsSchema.children] using ⟨property.1, hmem⟩
    exact .child hresolve (hcall.children_subset hparameter) (.inr (.field hfield)) h

/-- An input fails to resolve for its procedure, or for something that its check meets. -/
theorem cause_of_validateInput
    (h : registry.validateInput reference value = .error (.resolution error)) :
    registry.Cause reference value error := by
  rcases bind_eq_error.1 h with h | ⟨⟨address, body⟩, hbody, h⟩
  · exact .lost (lost_of_inRole (inputAt_eq ▸ h))
  obtain ⟨definition, hresolve, hbody⟩ := exchanges_of_inputAt hbody
  exact cause_of_body hresolve hbody h

/-- An output fails to resolve for its call, or for something that its check meets. -/
theorem cause_of_validateOutput
    (h : registry.validateOutput reference value = .error (.resolution error)) :
    registry.Cause reference value error := by
  rcases bind_eq_error.1 h with h | ⟨⟨address, body⟩, hbody, h⟩
  · exact .lost (lost_of_inRole (outputAt_eq ▸ h))
  obtain ⟨definition, hresolve, hbody⟩ := exchanges_of_outputAt hbody
  exact cause_of_body hresolve hbody h

end Lexicon.Registry
