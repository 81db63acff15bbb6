import Lexicon.Proofs.Conformance.Parameters
import Lexicon.Proofs.Descriptor.Parts

namespace Lexicon

open Lexicon.Outcome

/-!
# Where failures come from

A check fails with a violation where it looks at a value.  Any other failure comes from references:
one cannot be read, one leads nowhere, or one leads to a definition that describes no value.  Such a
failure is told unchanged, so it can be followed back step by step.

* `Descriptor.IsScalar`, `checkValue_fails_of_isScalar` — descriptors that never cause one;
* `Value.HasPart` — what a value holds directly;
* `checkEntries_fail_below`, `checkObject_fails_below`, `checkParams_fails_below` — of a value with
  named entries, one of the entries causes it;
* `Registry.Origin`, `origin_of_checkValue` — one step back for each kind of descriptor.
-/

namespace Descriptor

variable {descriptor : Descriptor}

/-! ### Descriptors that look at no other one -/

/-- A descriptor that looks at a value as a whole, and at no other descriptor. -/
def IsScalar : Descriptor → Prop
  | boolean .. | integer .. | string .. | bytes .. | cidLink .. | blob .. | unknown .. => True
  | _ => False

/-- A scalar descriptor judges values by itself. -/
theorem exists_judges_of_isScalar (h : descriptor.IsScalar) (value : Value) :
    ∃ check, descriptor.Judges value check := by
  cases descriptor with
  | boolean | integer | string | unknown => exact exists_judges_of_isParamPrimitive rfl value
  -- The other scalars are no parameters, but they have no parts either.
  | bytes description rules =>
    unfold Judges Registry.checkValue
    cases value with
    | bytes data => exact ⟨rules.checkBytes data.length, fun _ _ _ _ => rfl⟩
    | _ => exact ⟨.error .notBytes, fun _ _ _ _ => rfl⟩
  | cidLink description =>
    unfold Judges Registry.checkValue
    cases value with
    | link cid => exact ⟨.ok (), fun _ _ _ _ => rfl⟩
    | _ => exact ⟨.error .notCidLink, fun _ _ _ _ => rfl⟩
  | blob description rules =>
    unfold Judges Registry.checkValue
    cases blobOf? value with
    | some blob => exact ⟨rules.check blob.1 blob.2, fun _ _ _ _ => rfl⟩
    | none => exact ⟨.error .notBlob, fun _ _ _ _ => rfl⟩
  | _ => exact h.elim

/-- So it fails with violations only. -/
theorem checkValue_fails_of_isScalar {registry : Registry} {base : String} {value : Value}
    {path : Path} {hops : Nat} {failure : Failure}
    (h : registry.checkValue base descriptor value path hops = .error failure)
    (hscalar : descriptor.IsScalar) : ∃ reason, failure = .violation path reason := by
  obtain ⟨check, hjudges⟩ := exists_judges_of_isScalar hscalar value
  rw [hjudges] at h
  exact Check.at_eq_error h

end Descriptor

/-! ### What a value holds -/

/-- A value holds another one directly, as an item or under a name. -/
inductive Value.HasPart : Value → Value → Prop where
  | item {items : List Value} {item : Value} : item ∈ items → HasPart (.array items) item
  | field {fields : List (String × Value)} {name : String} {field : Value} :
      fields.lookup name = some field → HasPart (.object fields) field

/-- A part is smaller than the value. -/
theorem Value.HasPart.sizeOf_lt {value part : Value} (h : value.HasPart part) :
    sizeOf part < sizeOf value := by
  cases h with
  | item hmem => exact Registry.sizeOf_item_lt hmem
  | field hfield => exact Registry.sizeOf_field_lt hfield

/-! ### References that cannot be read -/

/-- If locating a reference fails in resolving, then the reference does not parse. -/
theorem Address.locate_eq_resolution {reference : String} {base : Option String}
    {error : ResolutionError} (h : Address.locate reference base = .error (.resolution error)) :
    ∃ reason, Address.parse reference base = .error reason ∧
      error = .invalidReference reason := by
  unfold Address.locate at h
  cases hparse : Address.parse reference base with
  | ok address =>
    rw [hparse] at h
    cases h
  | error reason =>
    rw [hparse] at h
    cases h
    exact ⟨reason, rfl, rfl⟩

namespace Registry

variable {registry : Registry} {base : String} {descriptor : Descriptor} {value : Value}
  {path label : Path} {hops : Nat} {error : ResolutionError}

/-! ### Addresses that lead nowhere -/

/-- An address does not resolve for one of two reasons: the document is missing, or the definition
    in it. -/
theorem resolve_eq_error {address : Address} (h : registry.resolve address = .error error) :
    error = .documentNotFound address.document ∨
      error = .definitionNotFound address.document address.name := by
  unfold resolve at h
  cases hdocument : registry.find? address.document with
  | none =>
    rw [hdocument] at h
    exact .inl (Except.error.inj h).symm
  | some document =>
    cases hdefinition : document.find? address.name with
    | none =>
      simp only [hdocument, hdefinition] at h
      exact .inr (Except.error.inj h).symm
    | some definition =>
      simp only [hdocument, hdefinition] at h
      cases h

/-! ### Named entries -/

/-- What the check of named entries fails with, violations apart, the check of one of them does. -/
theorem checkEntries_fail_below {required : List String} {properties : List (String × Descriptor)}
    {fields : List (String × Value)} (mayBeNull : String → Bool)
    (h : (do
      checkRequiredNames required fields label
      properties.forM fun property =>
        registry.checkProperty base (mayBeNull property.1) property.1 property.2 fields path) =
          .error (.resolution error)) :
    ∃ property ∈ properties, ∃ field, fields.lookup property.1 = some field ∧
      registry.checkValue base property.2 field (path.child property.1) 0 =
        .error (.resolution error) := by
  rcases then_eq_error.1 h with h | ⟨-, h⟩
  · -- A missing name is a violation, not a failure to resolve.
    obtain ⟨_, -, -, h⟩ := checkRequiredNames_fails h
    cases h
  · obtain ⟨earlier, property, later, hsplit, -, h⟩ := forM_eq_error.1 h
    have hmem : property ∈ properties := hsplit ▸ List.mem_append_right _ List.mem_cons_self
    obtain ⟨field, hfield, -, h⟩ := checkProperty_eq_error h
    exact ⟨property, hmem, field, hfield, h⟩

/-- Of an object, one of its properties. -/
theorem checkObject_fails_below {schema : ObjectSchema}
    (h : registry.checkObject base schema value path = .error (.resolution error)) :
    ∃ fields, value = .object fields ∧ ∃ property ∈ schema.properties, ∃ field,
      fields.lookup property.1 = some field ∧
        registry.checkValue base property.2 field (path.child property.1) 0 =
          .error (.resolution error) := by
  cases value with
  | object fields =>
    rw [checkObject_eq] at h
    exact ⟨fields, rfl, checkEntries_fail_below schema.isNullable h⟩
  | _ =>
    unfold checkObject at h
    cases h

/-- Of the parameters of a call, one of them. -/
theorem checkParams_fails_below {schema : ParamsSchema}
    (h : registry.checkParams base schema value label = .error (.resolution error)) :
    ∃ fields, value = .object fields ∧ ∃ property ∈ schema.properties, ∃ field,
      fields.lookup property.1 = some field ∧
        registry.checkValue base property.2 field (Path.child "" property.1) 0 =
          .error (.resolution error) := by
  cases value with
  | object fields =>
    rw [checkParams_eq] at h
    exact ⟨fields, rfl, checkEntries_fail_below (fun _ => false) h⟩
  | _ => cases h

/-! ### One step back -/

/-- Why a check fails otherwise than with a violation, one step back. -/
inductive Origin (registry : Registry) (base : String) (descriptor : Descriptor) (value : Value)
    (path : Path) (hops : Nat) : ResolutionError → Prop where
  /-- The descriptor describes no value. -/
  | kind : descriptor.kind = .token ∨ descriptor.kind.isTopLevelOnly = true →
      Origin registry base descriptor value path hops (.unexpectedKind descriptor.kind path)
  /-- A reference of the descriptor cannot be read. -/
  | reference {target : String} {reason : ReferenceError} :
      target ∈ descriptor.references → Address.parse target (some base) = .error reason →
      Origin registry base descriptor value path hops (.invalidReference reason)
  /-- The type that the value names cannot be read. -/
  | type {type : String} {reason : ReferenceError} :
      value.get? "$type" = some (.string type) → Address.parse type none = .error reason →
      Origin registry base descriptor value path hops (.invalidReference reason)
  /-- The value fails behind a reference of the descriptor. -/
  | target {target : String} {address : Address} {error : ResolutionError} :
      target ∈ descriptor.references → Address.parse target (some base) = .ok address →
      registry.checkTarget address value path hops = .error (.resolution error) →
      Origin registry base descriptor value path hops error
  /-- A part of the value fails. -/
  | part {child : Descriptor} {part : Value} {path' : Path} {error : ResolutionError} :
      child ∈ descriptor.children → value.HasPart part →
      registry.checkValue base child part path' 0 = .error (.resolution error) →
      Origin registry base descriptor value path hops error

/-- Where a union fails, a member, the type of the value, or the definition that both agree on does. -/
theorem origin_of_checkUnion {description : Option String} {members : List String}
    {closed : Option Bool}
    (h : registry.checkValue base (.union description members closed) value path hops =
      .error (.resolution error)) :
    registry.Origin base (.union description members closed) value path hops error := by
  cases checkUnion_fails h with
  | member h =>
    obtain ⟨member, hmember, h⟩ := exists_of_mapM_eq_error h
    obtain ⟨reason, hparse, rfl⟩ := Address.locate_eq_resolution h
    exact .reference hmember hparse
  | type htype h =>
    obtain ⟨reason, hparse, rfl⟩ := Address.locate_eq_resolution h
    exact .type htype hparse
  -- The type is one of the members, so a reference leads there.
  | target hmembers _ _ hmem h =>
    obtain ⟨member, hmember, hparse⟩ := (mem_unionMembers hmembers).1 hmem
    exact .target hmember hparse h

/-- **Failures have an origin.**  What a check fails with, violations apart, is told by the descriptor
    itself, or by a step that its own references or its children lead to. -/
theorem origin_of_checkValue
    (h : registry.checkValue base descriptor value path hops = .error (.resolution error)) :
    registry.Origin base descriptor value path hops error := by
  cases descriptor with
  | boolean | integer | string | bytes | cidLink | blob | unknown =>
    obtain ⟨reason, hreason⟩ := Descriptor.checkValue_fails_of_isScalar h trivial
    cases hreason
  | array description items rules =>
    cases value with
    | array values =>
      rw [checkArray_eq] at h
      rcases then_eq_error.1 h with h | ⟨-, h⟩
      · obtain ⟨_, hreason⟩ := Check.at_eq_error h
        cases hreason
      · obtain ⟨earlier, item, later, rfl, -, h⟩ := forM_eq_error.1 h
        have hmem : item ∈ earlier ++ item :: later := List.mem_append_right _ List.mem_cons_self
        exact .part (List.mem_singleton_self _) (.item hmem) h
    | _ =>
      unfold checkValue at h
      cases h
  | object schema =>
    rw [checkValue] at h
    obtain ⟨fields, rfl, property, hmem, field, hfield, h⟩ := checkObject_fails_below h
    exact .part (List.mem_map_of_mem hmem) (.field hfield) h
  | ref description target =>
    rw [checkValue] at h
    rcases bind_eq_error.1 h with h | ⟨address, hlocate, h⟩
    · obtain ⟨reason, hparse, rfl⟩ := Address.locate_eq_resolution h
      exact .reference List.mem_cons_self hparse
    · exact .target List.mem_cons_self (Address.locate_eq_ok.1 hlocate) h
  | union => exact origin_of_checkUnion h
  -- What is left describes no value: tokens, and what can only be a definition.
  | token =>
    unfold checkValue at h
    cases h
    exact .kind (.inl rfl)
  | record | params | query | procedure =>
    unfold checkValue at h
    cases h
    exact .kind (.inr rfl)

end Registry

end Lexicon
