import Lexicon.Document.Structure
import Lexicon.Proofs.Assoc
import Lexicon.Proofs.Conformance.Roles

namespace Lexicon

open Lexicon.Outcome

/-!
# What sound documents are like

* `checkRequired_eq_ok`, `ParamsSchema.checkStructure_eq_ok`, `Document.checkStructure_eq_ok` — when
  a check of the structure succeeds;
* `Document.read_eq_ok`, `Registry.AllRead` — documents that have been read are sound;
* `describesParameter_of_checkStructure` — the parameters of a call in a sound document are
  primitives or arrays of primitives.
-/

variable {properties : List (String × Descriptor)} {location : Location}

/-- The required names pass if they are all properties. -/
theorem checkRequired_eq_ok {required : List String} :
    checkRequired required properties location = .ok () ↔
      ∀ name ∈ required, name ∈ Assoc.keys properties := by
  unfold checkRequired
  simp only [← Assoc.hasKey_iff]
  cases h : required.find? (!Assoc.hasKey properties ·) with
  | none => simpa using h
  | some name =>
    have hname := List.find?_some h
    simp only [reduceCtorEq, false_iff, not_forall]
    exact ⟨name, List.mem_of_find?_eq_some h, by simpa using hname⟩

/-- Parameters pass if the required ones are there, and each describes a parameter. -/
theorem ParamsSchema.checkStructure_eq_ok {schema : ParamsSchema} :
    schema.checkStructure location = .ok () ↔
      (∀ name ∈ schema.required, name ∈ Assoc.keys schema.properties) ∧
      ∀ name descriptor, (name, descriptor) ∈ schema.properties →
        descriptor.describesParameter := by
  unfold ParamsSchema.checkStructure
  rw [then_eq_ok, checkRequired_eq_ok, forM_eq_ok]
  simp

/-- The parameters of a sound call are sound. -/
theorem checkParameters_of_checkStructure {parameters : Option ParamsSchema}
    {definition : Descriptor} (hcall : Registry.HasParameters parameters definition)
    (h : definition.checkStructure true location = .ok ()) :
    checkParameters location parameters = .ok () := by
  cases hcall <;> rw [Descriptor.checkStructure] at h
  all_goals
    obtain ⟨-, hrest⟩ := then_eq_ok.1 h
    exact (then_eq_ok.1 hrest).1

namespace Document

variable {document : Document}

/-- A document passes if its version is the current one, its identifier is valid, and each
    definition passes at the top level. -/
theorem checkStructure_eq_ok :
    document.checkStructure = .ok () ↔
      document.version = currentVersion ∧ Nsid.isValid document.id ∧
      ∀ name descriptor, (name, descriptor) ∈ document.definitions →
        descriptor.checkStructure true (definitionLocation document.id name) = .ok () := by
  unfold checkStructure
  by_cases hversion : document.version = currentVersion
  · cases hid : Nsid.isValid document.id with
    | false => simp [hversion, bind, Except.bind, throw, throwThe, MonadExceptOf.throw]
    | true =>
      simp only [hversion, bne_self_eq_false, Bool.not_true, Bool.false_eq_true, if_false]
      refine forM_eq_ok.trans ?_
      simp
  · simp [hversion]

/-- When data are read: the walk for the keys passes, and what the data describe is sound. -/
theorem read_eq_ok {json : Json} :
    read json = .ok document ↔ checkDocumentKeys json = .ok () ∧
      ofJson? json = some document ∧ document.checkStructure = .ok () := by
  unfold read
  rw [then_eq_ok]
  refine and_congr_right fun _ => ?_
  cases ofJson? json with
  | none => simp
  | some found =>
    simp only [then_eq_ok, pure_eq_ok, Except.ok.injEq, Option.some.injEq]
    constructor
    · rintro ⟨hsound, rfl⟩
      exact ⟨rfl, hsound⟩
    · rintro ⟨rfl, hsound⟩
      exact ⟨hsound, rfl⟩

/-- A definition of a sound document is sound. -/
theorem checkStructure_of_find? (h : document.checkStructure = .ok ()) {name : String}
    {definition : Descriptor} (hfound : document.find? name = some definition) :
    definition.checkStructure true (definitionLocation document.id name) = .ok () :=
  (checkStructure_eq_ok.1 h).2.2 name definition (Assoc.mem_of_lookup hfound)

/-- The parameters of a call in a sound document are primitives or arrays of primitives. -/
theorem describesParameter_of_checkStructure (h : document.checkStructure = .ok ())
    {name : String} {definition : Descriptor} (hfound : document.find? name = some definition)
    {schema : ParamsSchema} (hcall : Registry.HasParameters (some schema) definition) :
    ∀ name descriptor, (name, descriptor) ∈ schema.properties →
      descriptor.describesParameter := by
  have hschema : checkParameters (definitionLocation document.id name) (some schema) = .ok () :=
    checkParameters_of_checkStructure hcall (checkStructure_of_find? h hfound)
  exact (ParamsSchema.checkStructure_eq_ok.1 hschema).2

end Document

/-- All documents of a registry have been read from data. -/
def Registry.AllRead (registry : Registry) : Prop :=
  ∀ document ∈ registry.documents, ∃ json, Document.read json = .ok document

/-- What has been read is sound. -/
theorem Registry.AllRead.checkStructure {registry : Registry} (h : registry.AllRead)
    {document : Document} (hmem : document ∈ registry.documents) :
    document.checkStructure = .ok () := by
  obtain ⟨json, hread⟩ := h document hmem
  exact (Document.read_eq_ok.1 hread).2.2

/-- The identifier of a document that has been read is a namespaced one. -/
theorem Registry.AllRead.isValid_id {registry : Registry} (h : registry.AllRead)
    {document : Document} (hmem : document ∈ registry.documents) :
    Nsid.isValid document.id = true :=
  (Document.checkStructure_eq_ok.1 (h.checkStructure hmem)).2.1

end Lexicon
