import Lexicon.Proofs.Registry.Agreement
import Mathlib

namespace Lexicon.Registry

open Lexicon.Outcome

/-!
# Registries that grow

Documents may refer to documents that are registered later.  Until then whatever leads to such a
document fails for want of it; everything else is settled, and stays so.

* `exists_add_eq_ok` — a document with a new identifier is registered behind the others;
* `lookUp_append_agree` — then every definition is found as before, unless the new document was
  what there was no finding;
* `registration_keeps_answers` — so no settled answer changes.
-/

variable {registry : Registry} {document : Document}

/-- A failure for want of a document. -/
def Lacks (id : String) (failure : Failure) : Prop :=
  failure = .resolution (.documentNotFound id)

/-- The registry with one more document behind the others, under the same settings. -/
def append (registry : Registry) (document : Document) : Registry :=
  { registry with documents := registry.documents ++ [document] }

/-- A document with a new identifier is added. -/
theorem exists_add_eq_ok (hnew : registry.find? document.id = none) :
    registry.add document = .ok (registry.append document) := by
  rw [add, hnew]
  rfl

/-- A document is found behind the others only under its own identifier. -/
theorem find?_append_of_ne {id : String} (hne : document.id ≠ id) :
    (registry.append document).find? id = registry.find? id := by
  have hother : (document.id == id) = false := beq_eq_false_iff_ne.2 hne
  unfold find? append
  rw [List.find?_append, List.find?_singleton, hother]
  exact Option.or_none

/-- Every definition is found as before, unless it was sought in the document that is new. -/
theorem lookUp_append_agree (hnew : registry.find? document.id = none) (address : Address) :
    Agree (Lacks document.id) (registry.lookUp address)
      ((registry.append document).lookUp address) := by
  unfold lookUp resolve
  by_cases hid : document.id = address.document
  · -- So far there was no such document, which is the excused failure.
    rw [← hid, hnew]
    have hlacks : Lacks document.id (.resolution (.documentNotFound document.id)) := rfl
    exact .error hlacks _
  · rw [find?_append_of_ne hid]
    exact .refl _

/-- **Registration changes no settled answer.**  A document with a new identifier can be registered,
    and every answer of the registry stays the same, value or failure, path and all, unless it was
    the failure for want of that very document. -/
theorem registration_keeps_answers (registry : Registry) (document : Document)
    (hnew : registry.find? document.id = none) :
    ∃ larger, registry.add document = .ok larger ∧
      AnswersAgree (Lacks document.id) registry larger := by
  refine ⟨registry.append document, exists_add_eq_ok hnew, ?_⟩
  have hroom : LeavesRoom (Lacks document.id) registry (registry.append document) 0 0 :=
    .inl ⟨rfl, rfl⟩
  exact answersAgree (lookUp_append_agree hnew) hroom

/-- Shelves with things on them, and an owner.  The document on owners is not there yet. -/
def shelves : Registry where
  documents := [
    { Document.empty "com.example.shelf" with definitions := [
        ("main", .record none (some "tid") {
          description := none
          properties := [
            ("label", .string none none { maxLength := some 9 }),
            ("owner", .ref none "com.example.owner")]
          required := ["label"]
          nullable := [] }),
        ("thing", .union none ["#book", "com.example.owner"] none),
        ("book", .object ⟨none, [("title", .string none none {})], ["title"], []⟩)] }]

/-- The document on owners. -/
def owners : Document :=
  { Document.empty "com.example.owner" with definitions := [
      ("main", .object ⟨none, [("name", .string none none {})], ["name"], []⟩)] }

/-- A thing of a type that no document describes. -/
def vase : Value :=
  .object [("$type", .string "com.example.vase")]

/-- A shelf with an owner. -/
def ownedShelf : Value :=
  .object [("$type", .string "com.example.shelf"), ("label", .string "attic"),
    ("owner", .object [("name", .string "Jane")])]

/-- A thing of an unknown type passes, although one of the types that are listed cannot be looked
    up yet. -/
theorem validate_vase : shelves.validate "com.example.shelf#thing" vase = .ok () := by
  have haddress : Address.locate "com.example.shelf#thing" none =
      .ok ⟨"com.example.shelf", "thing"⟩ := by cbv
  have hbook : Address.parse "#book" (some "com.example.shelf") =
      .ok ⟨"com.example.shelf", "book"⟩ := by cbv
  have howner : Address.parse "com.example.owner" (some "com.example.shelf") =
      .ok ⟨"com.example.owner", "main"⟩ := by cbv
  have hvase : Address.parse "com.example.vase" none = .ok ⟨"com.example.vase", "main"⟩ := by cbv
  rw [validate_eq, haddress, ok_bind]
  refine checkUnion_eq_ok.2 ⟨?_, "com.example.vase", _, rfl, hvase, ?_⟩
  · simp [hbook, howner]
  · rw [if_neg (by simp [hbook, howner])]
    rfl

/-- What needs no owner is judged alike before and after owners are described; what does need one
    could not be judged before. -/
theorem registration_keeps_answers_shelves :
    shelves.find? owners.id = none ∧ ∃ larger, shelves.add owners = .ok larger ∧
      shelves.validate "com.example.shelf#thing" vase = .ok () ∧
      larger.validate "com.example.shelf#thing" vase = .ok () ∧
      shelves.validateRecord "com.example.shelf" ownedShelf =
        .error (.resolution (.documentNotFound owners.id)) ∧
      larger.validateRecord "com.example.shelf" ownedShelf = .ok () := by
  have hnew : shelves.find? owners.id = none := by cbv
  obtain ⟨larger, hadd, hanswers⟩ := registration_keeps_answers shelves owners hnew
  have hvase := validate_vase
  refine ⟨hnew, larger, hadd, hvase, ?_, by cbv, ?_⟩
  · -- The answer was settled, so it is the same one.
    rcases hanswers.validate "com.example.shelf#thing" vase with heq | ⟨_, hfail, -⟩
    · exact heq ▸ hvase
    · rw [hvase] at hfail
      cases hfail
  · cases hadd
    cbv

end Lexicon.Registry
