import Lexicon.Proofs.Conformance.Parameters
import Lexicon.Proofs.Defaults.Parameters
import Lexicon.Proofs.Descriptor.Parts
import Mathlib

namespace Lexicon.Registry

open Lexicon.Outcome

/-!
# Parameters of calls in sound documents

The check of the structure of a document allows only primitives and arrays of primitives as
parameters, and looks one level deep to see that.  One level is enough: whatever is asked about the
parameters of a call in a sound document is answered by the definition of the call alone.

* `parametersAt_of_find?` — the parameters of a call in a document of the registry;
* `params_self_contained` — checking and filling them depends on nothing else, fails with a fault of
  the parameters only, and fills in no more than defaults.
-/

variable {registry : Registry} {document : Document} {reference name : String}
  {definition : Descriptor} {parameters : Option ParamsSchema}

/-- A call in a document of the registry, by a reference to it. -/
theorem parametersAt_of_find? (hmember : registry.find? document.id = some document)
    (hreference : Address.parse reference none = .ok ⟨document.id, name⟩)
    (hdefinition : document.find? name = some definition)
    (hcall : HasParameters parameters definition) :
    registry.parametersAt reference = .ok (⟨document.id, name⟩, parameters) := by
  refine parametersAt_eq_ok.2 ⟨hreference, definition, ?_, hcall⟩
  simp only [resolve, hmember, hdefinition]

/-- A call declares its parameters, if it has any. -/
theorem HasParameters.declared (hcall : HasParameters parameters definition) :
    definition.declared = (parameters.map ParamsSchema.properties).getD [] := by
  cases hcall <;> cases parameters <;> rfl

/-- **Parameters are self-contained.**  For a call in a sound document, parameters are valid or have
    a fault, told under `Params` or under the name of the parameter; the answer is the same in every
    registry that has the document, under every limit; where parameters are declared, valid ones
    are those that are valid as an object none of whose properties may be null; and filling always
    succeeds and does no more than to add the defaults of declared parameters that are absent. -/
theorem params_self_contained (registry : Registry) (document : Document)
    (hmember : registry.find? document.id = some document)
    (hsound : document.checkStructure = .ok ())
    (hreference : Address.parse reference none = .ok ⟨document.id, name⟩)
    (hdefinition : document.find? name = some definition)
    (hcall : HasParameters parameters definition) (value : Value) :
    (registry.validateParams reference value = .ok () ∨
      ∃ schema ∈ parameters, ∃ path reason,
        registry.validateParams reference value = .error (.violation path reason) ∧
          ParamsFault schema value "Params" path reason) ∧
    (∀ registry' : Registry, registry'.find? document.id = some document →
      registry'.validateParams reference value = registry.validateParams reference value) ∧
    (∀ schema ∈ parameters, ∀ description path hops,
      registry.validateParams reference value = .ok () ↔
        registry.checkValue document.id
          (.object ⟨description, schema.properties, schema.required, []⟩) value path hops =
            .ok ()) ∧
    ∃ filled, registry.fillParams reference value = .ok filled ∧
      Filled definition.declared value filled := by
  -- Where the document is, the parameters are found; the rest of the registry has no say.
  have hat (registry : Registry) (hmember : registry.find? document.id = some document) :
      registry.parametersAt reference = .ok (⟨document.id, name⟩, parameters) :=
    parametersAt_of_find? hmember hreference hdefinition hcall
  rw [hcall.declared]
  cases parameters with
  | none =>
    have hvalid (registry : Registry) (hmember : registry.find? document.id = some document) :
        registry.validateParams reference value = .ok () :=
      validateParams_of_none (hat registry hmember)
    refine ⟨.inl (hvalid registry hmember), fun registry' hmember' => ?_,
      fun _ hmem => (Option.not_mem_none _ hmem).elim, ?_⟩
    · rw [hvalid registry' hmember', hvalid registry hmember]
    · -- Without declared parameters there is nothing to add.
      refine ⟨value, fillParams_of_none (hat registry hmember), ?_⟩
      cases value with
      | object fields =>
        have hnothing : Filled [] (.object fields) (.object (fields ++ [])) := .object .nil
        rwa [List.append_nil] at hnothing
      | _ => exact .plain rfl
  | some schema =>
    -- The check of the document has made sure that they are primitives, or arrays of such.
    have hparams := document.describesParameter_of_checkStructure hsound hdefinition hcall
    have hvalidate (registry : Registry) (hmember : registry.find? document.id = some document) :
        registry.validateParams reference value =
          registry.checkParams document.id schema value "Params" :=
      validateParams_of_some (hat registry hmember)
    rw [hvalidate registry hmember]
    refine ⟨?_, fun registry' hmember' => ?_, fun other hother description path hops => ?_, ?_⟩
    · cases hresult : registry.checkParams document.id schema value "Params" with
      | ok => exact .inl rfl
      | error failure =>
        obtain ⟨path, reason, rfl, hfault⟩ := checkParams_fails hparams hresult
        exact .inr ⟨schema, rfl, path, reason, rfl, hfault⟩
    · rw [hvalidate registry' hmember']
      exact checkParams_congr hparams
    · cases Option.mem_some.1 hother
      exact checkParams_eq_ok_iff_object hparams
    · rw [fillParams_of_some (hat registry hmember)]
      exact exists_fill_of_describesParameter hparams value "Params"

/-- What a search asks for. -/
def searchParameters : ParamsSchema where
  description := none
  properties := [
    ("q", .string none none { minLength := some 1 }),
    ("tags", .array none (.string none none {}) { maxLength := some 2 }),
    ("limit", .integer none { minimum := some 1, default := some 25 }),
    ("cursor", .unknown none)]
  required := ["q"]

/-- A search. -/
def searchCall : Descriptor := .query none (some searchParameters) none none

/-- A catalogue that can be searched, and that also describes its entries. -/
def catalogue : Document :=
  { Document.empty "com.example.catalogue" with definitions := [
      ("entry", .object ⟨none, [("title", .string none none {}), ("next", .ref none "#entry")],
        ["title"], []⟩),
      ("search", searchCall)] }

/-- A library, which has the catalogue among its documents. -/
def library : Registry where
  documents := [Document.empty "com.example.note", catalogue]

/-- A shelf, which has nothing but the catalogue, and where no reference is followed. -/
def shelf : Registry where
  documents := [catalogue]
  settings := { maxHops := 0 }

/-- The catalogue passes the checks at registration. -/
theorem checkStructure_catalogue : catalogue.checkStructure = .ok () := by
  have hid : Nsid.isValid "com.example.catalogue" = true := by cbv
  simp [Document.checkStructure, catalogue, Document.empty, hid, Descriptor.checkStructure,
    checkPlace, ObjectSchema.checkStructure, Descriptor.checkProperties, checkParameters,
    searchCall, searchParameters, ParamsSchema.checkStructure, checkRequired, Assoc.hasKey,
    Body.checkStructure, checkReference, Descriptor.describesParameter, Descriptor.kind,
    Kind.isParamPrimitive]

/-- The library finds the fault of a search, so the shelf does too.  A search whose cursor is an
    object gets its limit, and keeps its cursor. -/
theorem params_self_contained_catalogue :
    library.find? catalogue.id = some catalogue ∧ shelf.find? catalogue.id = some catalogue ∧
      catalogue.checkStructure = .ok () ∧
      Address.parse "com.example.catalogue#search" none = .ok ⟨catalogue.id, "search"⟩ ∧
      catalogue.find? "search" = some searchCall ∧
      HasParameters (some searchParameters) searchCall ∧
      library.validateParams "com.example.catalogue#search"
          (.object [("q", .string "lean"), ("tags", .array [.null])]) =
        .error (.violation "tags" .notString) ∧
      shelf.validateParams "com.example.catalogue#search"
          (.object [("q", .string "lean"), ("tags", .array [.null])]) =
        .error (.violation "tags" .notString) ∧
      ∃ added, AreDefaults searchParameters.properties
          [("q", .string "lean"), ("cursor", .object [("q", .null)])] added ∧
        library.fillParams "com.example.catalogue#search"
            (.object [("q", .string "lean"), ("cursor", .object [("q", .null)])]) =
          .ok (.object ([("q", .string "lean"), ("cursor", .object [("q", .null)])] ++ added)) := by
  have hlibrary : library.find? catalogue.id = some catalogue := by cbv
  have hshelf : shelf.find? catalogue.id = some catalogue := by cbv
  have hreference : Address.parse "com.example.catalogue#search" none =
      .ok ⟨catalogue.id, "search"⟩ := by cbv
  have hdefinition : catalogue.find? "search" = some searchCall := by cbv
  have hcall : HasParameters (some searchParameters) searchCall := .query
  have hfault : library.validateParams "com.example.catalogue#search"
      (.object [("q", .string "lean"), ("tags", .array [.null])]) =
        .error (.violation "tags" .notString) := by cbv
  have hanswers := params_self_contained library catalogue hlibrary checkStructure_catalogue
    hreference hdefinition hcall
  obtain ⟨-, hsame, -⟩ := hanswers (.object [("q", .string "lean"), ("tags", .array [.null])])
  obtain ⟨-, -, -, filled, hfill, hfilled⟩ :=
    hanswers (.object [("q", .string "lean"), ("cursor", .object [("q", .null)])])
  refine ⟨hlibrary, hshelf, checkStructure_catalogue, hreference, hdefinition, hcall, hfault,
    (hsame shelf hshelf).trans hfault, ?_⟩
  cases hfilled with
  | object hadded => exact ⟨_, hadded, hfill⟩
  | plain hplain => cases hplain

end Lexicon.Registry
