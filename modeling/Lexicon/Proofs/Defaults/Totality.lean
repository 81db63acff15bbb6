import Mathlib
import Lexicon.Proofs.Defaults.Fill

namespace Lexicon.Registry

open Lexicon.Outcome

/-!
# Filling succeeds where checking does

The validator and the filling of defaults walk through values on their own.  On a value that passes
its check they meet the same descriptors, as far as filling goes, so that filling cannot fail.

* `Passes` — the properties of an object pass their checks, each in some way;
* `exists_fillProperties_of_passes` — then the object can be filled;
* `fill_ok_of_check_ok` — records and parameters that are valid can be filled.
-/

variable {registry : Registry} {base : String}

/-- The properties pass their checks; whether they may be null, and under which path they are
    checked, does not matter. -/
def Passes (registry : Registry) (base : String) (properties : List (String × Descriptor))
    (fields : List (String × Value)) : Prop :=
  ∀ name descriptor, (name, descriptor) ∈ properties → ∃ mayBeNull path,
    registry.checkProperty base mayBeNull name descriptor fields path = .ok ()

/-- An object that passes a schema has properties that pass. -/
theorem passes_of_checkObject {schema : ObjectSchema} {fields : List (String × Value)} {path : Path}
    (h : registry.checkObject base schema (.object fields) path = .ok ()) :
    Passes registry base schema.properties fields := by
  obtain ⟨_, ⟨⟩, -, hproperties⟩ := checkObject_eq_ok.1 h
  exact fun name descriptor hmem => ⟨_, _, hproperties name descriptor hmem⟩

/-- **An object whose properties pass their checks can be filled.**  By induction on the object:
    filling goes on only into properties that are objects, and these have passed a check
    themselves, along the same references. -/
theorem exists_fillProperties_of_passes {properties : List (String × Descriptor)}
    {fields : List (String × Value)} (h : Passes registry base properties fields) (path : Path)
    (filled : List (String × Value)) :
    ∃ result, registry.fillProperties base properties fields path filled = .ok result := by
  induction hsize : sizeOf fields using Nat.strong_induction_on
    generalizing base properties fields path filled with
  | _ size ih =>
    refine exists_fillProperties_eq_ok.2 fun name descriptor hmem => ?_
    obtain ⟨mayBeNull, path', hcheck⟩ := h name descriptor hmem
    cases hfield : fields.lookup name with
    | none => exact ⟨_, fillProperty_of_none hfield⟩
    | some field =>
      cases field with
      | object inner =>
        -- An object is not null, so the property has been checked, up to the end of the references.
        have hvalue := checkProperty_eq_ok.1 hcheck _ hfield (by simp)
        obtain ⟨⟨base', target⟩, htarget⟩ :=
          exists_followRefs_of_checkValue hvalue (path.child name)
        obtain ⟨hops', heq⟩ := checkValue_eq_of_followRefs htarget
        simp only [fillProperty_object_eq_ok hfield]
        by_cases htargetKind : target.kind = .object
        · obtain ⟨schema, rfl⟩ := Descriptor.kind_eq_object.1 htargetKind
          rw [heq, checkValue] at hvalue
          obtain ⟨result, hresult⟩ := ih _ (hsize ▸ sizeOf_inner_lt hfield)
            (passes_of_checkObject hvalue) (path.child name) inner rfl
          exact ⟨_, base', _, htarget, .inl ⟨schema, result, rfl, hresult, rfl⟩⟩
        · exact ⟨none, base', target, htarget, .inr ⟨htargetKind, rfl⟩⟩
      | _ => exact ⟨none, fillProperty_of_plain hfield rfl⟩

/-- An object whose properties pass can be filled. -/
theorem exists_fill_of_passes {properties : List (String × Descriptor)}
    {fields : List (String × Value)} (h : Passes registry base properties fields) (label : Path) :
    ∃ filled, registry.fill base properties (.object fields) label = .ok filled := by
  obtain ⟨result, hresult⟩ := exists_fillProperties_of_passes h label fields
  exact ⟨.object result, map_eq_ok.2 ⟨result, hresult, rfl⟩⟩

/-- What passes the schema of a record can be filled as one. -/
theorem exists_fillRecord_of_checkObject {reference : String} {value : Value} {address : Address}
    {schema : ObjectSchema} {path : Path}
    (hrecord : registry.recordAt reference = .ok (address, schema))
    (h : registry.checkObject address.document schema value path = .ok ()) :
    ∃ filled, registry.fillRecord reference value = .ok filled := by
  obtain ⟨fields, rfl, -⟩ := checkObject_eq_ok.1 h
  rw [fillRecord_eq hrecord]
  exact exists_fill_of_passes (passes_of_checkObject h) _

/-- What passes the parameters of a call, if it has any, can be filled as such. -/
theorem exists_fillParams_of_checkParams {reference : String} {value : Value} {address : Address}
    {parameters : Option ParamsSchema} {path : Path}
    (hparameters : registry.parametersAt reference = .ok (address, parameters))
    (h : ∀ schema ∈ parameters, registry.checkParams address.document schema value path = .ok ()) :
    ∃ filled, registry.fillParams reference value = .ok filled := by
  cases parameters with
  | none => exact ⟨value, fillParams_of_none hparameters⟩
  | some schema =>
    rw [fillParams_of_some hparameters]
    obtain ⟨fields, rfl, -, hproperties⟩ := checkParams_eq_ok.1 (h schema rfl)
    exact exists_fill_of_passes
      (fun name descriptor hmem => ⟨_, _, hproperties name descriptor hmem⟩) _

/-- **Filling succeeds where checking does.**  A valid record, a value that is valid for a record
    definition, and valid parameters can all be filled with their defaults. -/
theorem fill_ok_of_check_ok (registry : Registry) (reference : String) (value : Value) :
    (registry.validateRecord reference value = .ok () →
      ∃ filled, registry.fillRecord reference value = .ok filled) ∧
    (∀ description key schema,
      registry.definition reference = .ok (.record description key schema) →
      registry.validate reference value = .ok () →
      ∃ filled, registry.fillRecord reference value = .ok filled) ∧
    (registry.validateParams reference value = .ok () →
      ∃ filled, registry.fillParams reference value = .ok filled) := by
  refine ⟨fun h => ?_, fun description key schema hdefinition h => ?_, fun h => ?_⟩
  · obtain ⟨address, schema, _, _, hrecord, -, -, -, h⟩ := validateRecord_eq_ok.1 h
    exact exists_fillRecord_of_checkObject hrecord h
  · obtain ⟨address, hparse, hresolve⟩ := definition_eq_ok.1 hdefinition
    -- A definition of records is checked as the object that it describes.
    rw [validate_eq, Address.locate_eq_ok.2 hparse, ok_bind, lookUp_eq_ok.2 hresolve, ok_bind,
      Descriptor.described, checkValue] at h
    exact exists_fillRecord_of_checkObject
      (recordAt_eq_ok.2 ⟨hparse, description, key, hresolve⟩) h
  · obtain ⟨address, parameters, hparameters, h⟩ := validateParams_eq_ok.1 h
    exact exists_fillParams_of_checkParams hparameters h

/-- A registry whose documents refer to each other, one of them also to itself. -/
def notebook : Registry where
  documents := [
    { Document.empty "com.example.note" with definitions := [
        ("main", .record none (some "tid") {
          description := none
          properties := [
            ("text", .string none none { maxLength := some 9 }),
            ("language", .string none (some .language) { default := some "en" }),
            ("answers", .ref none "#thread"),
            ("pinned", .boolean none { default := some false })]
          required := ["text"]
          nullable := ["answers"] }),
        ("thread", .ref none "com.example.thread"),
        ("search", .query none
          (some ⟨none, [("limit", .integer none { default := some 10, maximum := some 50 })], []⟩)
          none none)] },
    { Document.empty "com.example.thread" with definitions := [
        ("main", .object {
          description := none
          properties := [
            ("depth", .integer none { minimum := some 0, default := some 1 }),
            ("above", .ref none "#main")]
          required := []
          nullable := [] })] }]

/-- A note that answers an answer. -/
def answer : Value :=
  .object [("$type", .string "com.example.note"), ("text", .string "Yes"),
    ("answers", .object [("above", .object [("depth", .integer 0)])])]

/-- The answer passes as a note and can be filled, and so can the parameters of a search without
    any. -/
theorem fill_ok_notebook :
    (notebook.validateRecord "com.example.note" answer = .ok () ∧
      ∃ filled, notebook.fillRecord "com.example.note" answer = .ok filled) ∧
    (notebook.validate "com.example.note" answer = .ok () ∧
      ∃ filled, notebook.fillRecord "com.example.note" answer = .ok filled) ∧
    (notebook.validateParams "com.example.note#search" (.object []) = .ok () ∧
      ∃ filled, notebook.fillParams "com.example.note#search" (.object []) = .ok filled) := by
  have hrecord : notebook.validateRecord "com.example.note" answer = .ok () := by cbv
  have hvalue : notebook.validate "com.example.note" answer = .ok () := by cbv
  have hparams : notebook.validateParams "com.example.note#search" (.object []) = .ok () := by cbv
  obtain ⟨fromRecord, fromValue, -⟩ := fill_ok_of_check_ok notebook "com.example.note" answer
  obtain ⟨-, -, fromParams⟩ :=
    fill_ok_of_check_ok notebook "com.example.note#search" (.object [])
  exact ⟨⟨hrecord, fromRecord hrecord⟩, ⟨hvalue, fromValue _ _ _ (by cbv) hvalue⟩,
    ⟨hparams, fromParams hparams⟩⟩

end Lexicon.Registry
