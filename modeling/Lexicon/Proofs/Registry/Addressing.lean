import Lexicon.Defaults
import Lexicon.Proofs.Descriptor.Canonical
import Lexicon.Proofs.Descriptor.Parts
import Lexicon.Proofs.Document.Structure
import Lexicon.Proofs.Identifier.Nsid
import Mathlib

namespace Lexicon.Registry

open Lexicon.Outcome

/-!
# How definitions are addressed

The identifier of a document that has been read has neither a `#` nor a colon in it.  So a reference
made of an identifier and a name is taken apart where it was put together, and no identifier seems
to start with the mark of references.

* `definition_of_spells` — what a text spells is found, with the mark in front and without it;
* `contains_iff` — a document is there iff the look-up of its main definition gets as far as that;
* `Interchangeable`, `interchangeable_of_parse_eq` — references that are read alike;
* `addressing_is_exact` — all of this about a registry whose documents have been read.
-/

variable {registry : Registry} {document : Document} {definition : Descriptor}
  {reference reference' s name : String} {address : Address}

/-! ### Definitions by their addresses -/

/-- What a text without the mark spells is found, with the mark in front and without it. -/
theorem definition_of_spells (hplain : dropReferenceMark s = s.toList)
    (hspells : Address.Spells none s.toList address)
    (hresolve : registry.resolve address = .ok definition) :
    registry.definition s = .ok definition ∧
      registry.definition ("lex:" ++ s) = .ok definition := by
  have hunmarked : Address.parse s none = .ok address := by
    apply Address.parse_of_spells
    rwa [hplain]
  have hmarked : Address.parse ("lex:" ++ s) none = .ok address := by
    apply Address.parse_of_spells
    rwa [Address.dropReferenceMark_append]
  exact ⟨definition_eq_ok.2 ⟨address, hunmarked, hresolve⟩,
    definition_eq_ok.2 ⟨address, hmarked, hresolve⟩⟩

section Read

variable (hid : Nsid.isValid document.id = true)
include hid

/-- A definition by its document and its name. -/
theorem definition_by_name (hmember : registry.find? document.id = some document)
    (hdefinition : document.find? name = some definition) (hname : IsReferencePart name) :
    registry.definition (document.id ++ "#" ++ name) = .ok definition ∧
      registry.definition ("lex:" ++ document.id ++ "#" ++ name) = .ok definition := by
  have htext : "lex:" ++ document.id ++ "#" ++ name = "lex:" ++ (document.id ++ "#" ++ name) := by
    simp only [String.append_assoc]
  have hparts := toList_parts document.id name
  have hplain : dropReferenceMark (document.id ++ "#" ++ name) =
      (document.id ++ "#" ++ name).toList :=
    Address.dropReferenceMark_of_parts hparts (Nsid.colon_not_mem hid)
  -- The first `#` is the one in the middle, as there is none in the identifier.
  have hspells : Address.Spells none (document.id ++ "#" ++ name).toList ⟨document.id, name⟩ := by
    rw [hparts]
    exact .definition (Nsid.isReferencePart hid) hname
  rw [htext]
  exact definition_of_spells hplain hspells (resolve_eq_ok.2 ⟨document, hmember, hdefinition⟩)

/-- A main definition by its document alone. -/
theorem definition_by_document (hmember : registry.find? document.id = some document)
    (hdefinition : document.find? Address.mainName = some definition) :
    registry.definition document.id = .ok definition ∧
      registry.definition ("lex:" ++ document.id) = .ok definition := by
  have hplain : dropReferenceMark document.id = document.id.toList :=
    Address.dropReferenceMark_of_colon_not_mem (Nsid.colon_not_mem hid)
  exact definition_of_spells hplain (.main (Nsid.isReferencePart hid))
    (resolve_eq_ok.2 ⟨document, hmember, hdefinition⟩)

end Read

/-! ### Documents that are there -/

/-- The failures that tell that no document is there: the reference names none, or one that is
    not. -/
inductive IsAbsence : Failure → Prop where
  | unreadable (error : ReferenceError) : IsAbsence (.resolution (.invalidReference error))
  | missing (id : String) : IsAbsence (.resolution (.documentNotFound id))

/-- Look-up in a document that is absent fails for the document, whatever the name is. -/
theorem lookUp_of_find?_eq_none (hfind : registry.find? address.document = none) :
    registry.lookUp address = .error (.resolution (.documentNotFound address.document)) := by
  simp only [lookUp, resolve, hfind]
  rfl

/-- Where the document is there, no look-up in it tells that it is absent. -/
theorem not_isAbsence_of_find?_eq_some {failure : Failure}
    (hfind : registry.find? address.document = some document)
    (hfails : registry.lookUp address = .error failure) : ¬ IsAbsence failure := by
  simp only [lookUp, resolve, hfind] at hfails
  intro habsence
  cases hdefinition : document.find? address.name with
  | none =>
    rw [hdefinition] at hfails
    cases hfails
    cases habsence
  | some definition =>
    rw [hdefinition] at hfails
    cases hfails

/-- No document that has been read is without an identifier. -/
theorem find?_empty_eq_none (hread : registry.AllRead) : registry.find? "" = none := by
  cases hfind : registry.find? "" with
  | none => rfl
  | some document =>
    have hmem : document ∈ registry.documents := List.mem_of_find?_eq_some hfind
    have hempty : document.id = "" := id_of_find? hfind
    exact absurd hempty (Nsid.isReferencePart (hread.isValid_id hmem)).1

/-- A document is there iff the look-up of its main definition does not tell that it is absent. -/
theorem contains_iff (hread : registry.AllRead) (hhash : '#' ∉ s.toList) :
    registry.contains s = true ↔
      ∀ failure, registry.definition s = .error failure → ¬ IsAbsence failure := by
  have hparse : Address.parse s none = if (dropReferenceMark s).isEmpty
      then .error (.noDocument s)
      else .ok ⟨.ofList (dropReferenceMark s), Address.mainName⟩ :=
    Address.parse_of_hash_not_mem hhash
  unfold contains get?
  by_cases hempty : (dropReferenceMark s).isEmpty
  · -- Nothing is named, and nothing goes by the empty name.
    rw [if_pos hempty] at hparse
    have hdefinition : registry.definition s =
        .error (.resolution (.invalidReference (.noDocument s))) := by
      simp only [Registry.definition, Address.locate, hparse]
      rfl
    rw [List.isEmpty_iff.1 hempty, String.ofList_nil, find?_empty_eq_none hread]
    constructor
    · intro h
      cases h
    · intro h
      exact absurd (.unreadable _) (h _ hdefinition)
  · rw [if_neg hempty] at hparse
    have hdefinition : registry.definition s =
        registry.lookUp ⟨.ofList (dropReferenceMark s), Address.mainName⟩ := by
      simp only [Registry.definition, Address.locate, hparse]
      rfl
    rw [hdefinition]
    cases hfind : registry.find? (.ofList (dropReferenceMark s)) with
    | none =>
      constructor
      · intro h
        cases h
      · intro h
        exact absurd (.missing _) (h _ (lookUp_of_find?_eq_none hfind))
    | some document =>
      -- All that can still be missing is the main definition.
      exact iff_of_true rfl fun failure hfails => not_isAbsence_of_find?_eq_some hfind hfails

/-! ### References that are read alike -/

/-- Two references can stand for each other in all questions about values. -/
structure Interchangeable (registry : Registry) (reference reference' : String) : Prop where
  definition : registry.definition reference = registry.definition reference'
  validate : ∀ value, registry.validate reference value = registry.validate reference' value
  validateRecord : ∀ value,
    registry.validateRecord reference value = registry.validateRecord reference' value
  validateParams : ∀ value,
    registry.validateParams reference value = registry.validateParams reference' value
  validateInput : ∀ value,
    registry.validateInput reference value = registry.validateInput reference' value
  validateOutput : ∀ value,
    registry.validateOutput reference value = registry.validateOutput reference' value
  fillRecord : ∀ value,
    registry.fillRecord reference value = registry.fillRecord reference' value
  fillParams : ∀ value,
    registry.fillParams reference value = registry.fillParams reference' value

/-- A reference is used for no more than to be read, also where it is told what was wrong. -/
theorem interchangeable_of_parse_eq
    (h : Address.parse reference none = Address.parse reference' none) :
    registry.Interchangeable reference reference' := by
  -- Every way in starts with locating the reference.
  have hlocate : Address.locate reference none = Address.locate reference' none := by
    simp only [Address.locate, h]
  have hrecord : registry.recordAt reference = registry.recordAt reference' := by
    simp only [recordAt, hlocate]
  have hparameters : registry.parametersAt reference = registry.parametersAt reference' := by
    simp only [parametersAt, hlocate]
  constructor
  · simp only [Registry.definition, hlocate]
  · intro value
    simp only [Registry.validate, hlocate]
  · intro value
    simp only [Registry.validateRecord, hrecord]
  · intro value
    simp only [Registry.validateParams, hparameters]
  · intro value
    simp only [Registry.validateInput, inputAt, hlocate]
  · intro value
    simp only [Registry.validateOutput, outputAt, hlocate]
  · intro value
    simp only [Registry.fillRecord, hrecord]
  · intro value
    simp only [Registry.fillParams, hparameters]

/-! ### Exactness -/

/-- **Definitions are addressed exactly.**  Where all documents have been read, a definition is
    found by its document and its name, and a main one by its document alone, with the mark of
    references or without it; but no reference at all leads to a name that is empty or has a `#` in
    it.  A text without a `#` names a document that is there iff the look-up does not tell that it
    is absent.  References that are read alike can stand for each other. -/
theorem addressing_is_exact (registry : Registry) (hread : registry.AllRead) :
    (∀ document name definition, registry.find? document.id = some document →
      document.find? name = some definition →
        (name ≠ "" → '#' ∉ name.toList →
          registry.definition (document.id ++ "#" ++ name) = .ok definition ∧
          registry.definition ("lex:" ++ document.id ++ "#" ++ name) = .ok definition) ∧
        (name = "main" →
          registry.definition document.id = .ok definition ∧
          registry.definition ("lex:" ++ document.id) = .ok definition) ∧
        (name = "" ∨ '#' ∈ name.toList → ∀ reference base,
          Address.parse reference base ≠ .ok ⟨document.id, name⟩)) ∧
    (∀ s : String, '#' ∉ s.toList → (registry.contains s = true ↔
      ∀ failure, registry.definition s = .error failure → ¬ IsAbsence failure)) ∧
    (∀ reference reference', Address.parse reference none = Address.parse reference' none →
      registry.Interchangeable reference reference') := by
  refine ⟨fun document name definition hmember hdefinition => ?_, fun s hhash => ?_,
    fun reference reference' h => interchangeable_of_parse_eq h⟩
  · have hid : Nsid.isValid document.id = true :=
      hread.isValid_id (List.mem_of_find?_eq_some hmember)
    refine ⟨fun hne hhash => ?_, fun hmain => ?_, fun hbad reference base hparse => ?_⟩
    · exact definition_by_name hid hmember hdefinition ⟨hne, hhash⟩
    · subst hmain
      exact definition_by_document hid hmember hdefinition
    · -- What a reference names is part of a reference, and so neither empty nor with a `#`.
      have hname : IsReferencePart name := Address.isReferencePart_name_of_parse hparse
      rcases hbad with hempty | hhash
      · exact hname.1 hempty
      · exact hname.2 hhash
  · exact contains_iff hread hhash

/-- A price list: an item, and a main definition; and two definitions with names that are of no
    use. -/
def prices : Document :=
  { Document.empty "com.example.prices" with definitions := [
      ("main", .boolean none {}), ("item", .string none none {}), ("", .integer none {}),
      ("item#old", .unknown none)] }

/-- The price list as data. -/
def pricesData : Json :=
  .object [("lexicon", .number (.integer 1)), ("id", .string "com.example.prices"),
    ("defs", .object [("main", .object [("type", .string "boolean")]),
      ("item", .object [("type", .string "string")]), ("", .object [("type", .string "integer")]),
      ("item#old", .object [("type", .string "unknown")])])]

/-- The price list is read, though one name is empty and another one has a hash in it. -/
theorem read_pricesData : Document.read pricesData = .ok prices := by
  have hkeys : checkDocumentKeys pricesData = .ok () := by cbv
  have hshape : Document.ofJson? pricesData = some prices := by cbv
  have hid : Nsid.isValid "com.example.prices" = true := by cbv
  refine Document.read_eq_ok.2 ⟨hkeys, hshape, ?_⟩
  simp [Document.checkStructure, prices, Document.empty, hid, Descriptor.checkStructure]

/-- The item is found under its two references, and the old one under none. -/
theorem addressing_is_exact_prices :
    let registry : Registry := { documents := [prices] }
    registry.AllRead ∧
      registry.definition "com.example.prices#item" = .ok (.string none none {}) ∧
      registry.definition "lex:com.example.prices#item" = .ok (.string none none {}) ∧
      registry.definition "com.example.prices" = .ok (.boolean none {}) ∧
      registry.definition "lex:com.example.prices" = .ok (.boolean none {}) ∧
      (∀ reference base, Address.parse reference base ≠ .ok ⟨"com.example.prices", "item#old"⟩) ∧
      registry.contains "lex:com.example.notes" = false ∧
      registry.Interchangeable "com.example.prices#main" "lex:com.example.prices" := by
  intro registry
  have hread : registry.AllRead := by
    intro document hmem
    rw [List.mem_singleton.1 hmem]
    exact ⟨pricesData, read_pricesData⟩
  have hmember : registry.find? prices.id = some prices := by cbv
  obtain ⟨haddressed, hcontains, hinterchangeable⟩ := addressing_is_exact registry hread
  obtain ⟨hitem, -, -⟩ := haddressed prices "item" _ hmember rfl
  obtain ⟨-, hmain, -⟩ := haddressed prices "main" _ hmember rfl
  obtain ⟨-, -, hold⟩ := haddressed prices "item#old" _ hmember rfl
  obtain ⟨hunmarked, hmarked⟩ := hitem (by decide) (by decide)
  obtain ⟨hmainUnmarked, hmainMarked⟩ := hmain rfl
  refine ⟨hread, hunmarked, hmarked, hmainUnmarked, hmainMarked, hold (.inr (by decide)), ?_, ?_⟩
  · have hnotes : registry.definition "lex:com.example.notes" =
        .error (.resolution (.documentNotFound "com.example.notes")) := by cbv
    rw [← Bool.not_eq_true, hcontains _ (by decide)]
    exact fun h => h _ hnotes (.missing _)
  · exact hinterchangeable _ _ (by cbv)

end Lexicon.Registry
