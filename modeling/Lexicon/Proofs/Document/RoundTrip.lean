import Lexicon.Document.Structure
import Lexicon.Proofs.Document.Keys

namespace Lexicon.Document

open Lexicon.Json
open Lexicon.Outcome

/-!
# Documents are read as they were written

* `checkDocumentKeys_toJson` — the keys of a written document pass;
* `ofJson?_toJson` — a written document has the shape of a document, and is the one it was;
* `read_toJson` — reading what was written comes down to checking the structure.
-/

variable (document : Document)

/-- A document is written with the keys that it declares. -/
theorem checkDocumentKeys_toJson : checkDocumentKeys document.toJson = .ok () := by
  have hdefinitions : (document.toJson.get? "defs").bind object? =
      some (Descriptor.toEntries document.definitions) := by
    simp [toJson, get?, describe, object?]
  rw [checkDocumentKeys]
  simp only [hdefinitions]
  rw [forM_eq_ok, Descriptor.toEntries_eq]
  rintro ⟨name, json⟩ hmem
  obtain ⟨definition, -, heq⟩ := List.mem_map.1 hmem
  cases heq
  exact definition.2.checkDescriptorKeys_toJson _

/-- The definitions of a document are read back. -/
theorem definitionsOfJson?_toEntries (definitions : List (String × Descriptor)) :
    definitionsOfJson? (.object (Descriptor.toEntries definitions)) = some definitions := by
  rw [definitionsOfJson?, Descriptor.toEntries_eq]
  refine mapM_map_eq_some fun definition _ => ?_
  simp only [definition.2.ofJson?_toJson false, Option.bind_eq_bind, Option.bind_some]
  rfl

/-- Decoding takes a written document for the same document. -/
theorem ofJson?_toJson : ofJson? document.toJson = some document := by
  obtain ⟨version, id, revision, description, definitions⟩ := document
  simp [ofJson?, toJson, fieldsOf?, requiredAt?, describe, string?,
    (denotes_ofUInt32 version).decode_eq, definitionsOfJson?_toEntries]

/-- **Documents are read as they were written.**  The keys of a written document pass, it has the
    shape of a document, and what is read is the document itself, order and all, unless its
    structure is at fault: then that fault is the answer. -/
theorem read_toJson :
    checkDocumentKeys document.toJson = .ok () ∧ ofJson? document.toJson = some document ∧
      read document.toJson = document.checkStructure.map fun _ => document := by
  refine ⟨checkDocumentKeys_toJson document, ofJson?_toJson document, ?_⟩
  rw [read, checkDocumentKeys_toJson, ofJson?_toJson, ok_bind]
  -- What is left of reading is the check of the structure.
  show (do document.checkStructure; return document) = _
  cases document.checkStructure <;> rfl

end Lexicon.Document
