import Lexicon.Proofs.Reference.Readable

namespace Lexicon.Address

open Lexicon.Text

/-!
# References with one `#` at most

Documents are checked for references with more than one `#`, and for nothing else about references.
What is left to go wrong is that a reference ends too early.

* `IsUnfinished`, `isUnfinished_iff` — a reference that ends before it names a document or a
  definition;
* `parse_of_parts` — what a reference with one `#` is read as;
* `exists_parse_iff_finished`, `parse_eq_error_of_count` — in a document, a reference with one `#` at
  most is read exactly when it is not unfinished, and how it fails if it is.
-/

variable {reference document : String} {rest before after : List Char}

/-- A reference that ends too early: behind its mark there is nothing, or nothing behind the `#`. -/
def IsUnfinished (reference : String) : Prop :=
  ∃ rest, Unmarked reference rest ∧ (rest = [] ∨ rest.getLast? = some '#')

/-- A reference is unfinished if, behind its mark, it is empty or ends in `#`. -/
theorem isUnfinished_iff : IsUnfinished reference ↔
    dropReferenceMark reference = [] ∨ (dropReferenceMark reference).getLast? = some '#' := by
  simp only [IsUnfinished, unmarked_iff, exists_eq_left]

/-- The mark has no `#` in it. -/
theorem count_dropReferenceMark (reference : String) :
    (dropReferenceMark reference).count '#' = reference.toList.count '#' := by
  unfold dropReferenceMark
  cases hdrop : dropStart? referenceMark reference.toList with
  | none => rfl
  | some rest =>
    have hmark : referenceMark.count '#' = 0 := by decide
    rw [eq_append_of_dropStart? hdrop, List.count_append, hmark, Nat.zero_add, Option.getD_some]

/-- A `#` that stands once cuts a text in two parts without any. -/
theorem exists_parts (hcount : rest.count '#' ≤ 1) (hhash : '#' ∈ rest) :
    ∃ before after, rest = before ++ '#' :: after ∧ '#' ∉ before ∧ '#' ∉ after := by
  obtain ⟨before, after, rfl, hbefore⟩ := List.eq_append_cons_of_mem hhash
  rw [List.count_append, List.count_cons_self, List.count_eq_zero_of_not_mem hbefore] at hcount
  exact ⟨before, after, rfl, hbefore, List.count_eq_zero.1 (by omega)⟩

/-- A text ends with its only `#` if nothing comes behind that one. -/
theorem getLast?_parts (hafter : '#' ∉ after) :
    (before ++ '#' :: after).getLast? = some '#' ↔ after = [] := by
  constructor
  · intro hlast
    by_contra hne
    obtain ⟨c, hc⟩ := Option.isSome_iff_exists.1 (List.getLast?_isSome.2 hne)
    rw [List.getLast?_append, List.getLast?_cons, hc] at hlast
    cases hlast
    exact hafter (List.mem_of_getLast? hc)
  · rintro rfl
    exact List.getLast?_concat

/-- A reference with one `#`, in a document: what is in front of the `#` names the document, if there
    is anything, and what is behind it names the definition. -/
theorem parse_of_parts (hparts : dropReferenceMark reference = before ++ '#' :: after)
    (hbefore : '#' ∉ before) (hafter : '#' ∉ after) :
    parse reference (some document) =
      if after.isEmpty then .error (.emptyName reference)
      else .ok ⟨if before.isEmpty then document else .ofList before, .ofList after⟩ := by
  unfold parse
  rw [hparts, splitOn_append_cons hbefore, splitOn_of_not_mem hafter]
  cases before <;> rfl

/-- A reference that stands in a document and has one `#` at most is read unless it is
    unfinished. -/
theorem exists_parse_iff_finished (hcount : reference.toList.count '#' ≤ 1) :
    (∃ address, parse reference (some document) = .ok address) ↔ ¬ IsUnfinished reference := by
  rw [exists_parse_iff, isUnfinished_iff]
  rw [← count_dropReferenceMark] at hcount
  generalize dropReferenceMark reference = rest at hcount
  by_cases hhash : '#' ∈ rest
  · -- The document may be left out here, so that only the name can be missing.
    obtain ⟨before, after, rfl, hbefore, hafter⟩ := exists_parts hcount hhash
    rw [isReadable_parts hbefore, getLast?_parts hafter]
    simp [hafter]
  · -- There is no place for a name, so that only the document can be missing.
    rw [isReadable_of_hash_not_mem hhash]
    have hlast : rest.getLast? ≠ some '#' := fun hlast => hhash (List.mem_of_getLast? hlast)
    simp [hlast]

/-- An unfinished reference fails as such, and not for its `#`. -/
theorem parse_eq_error_of_count {error : ReferenceError}
    (hcount : reference.toList.count '#' ≤ 1)
    (h : parse reference (some document) = .error error) :
    error = .noDocument reference ∨ error = .emptyName reference := by
  by_cases hhash : '#' ∈ dropReferenceMark reference
  · -- With one `#`, what can be missing is the name behind it.
    rw [← count_dropReferenceMark] at hcount
    obtain ⟨before, after, hparts, hbefore, hafter⟩ := exists_parts hcount hhash
    rw [parse_of_parts hparts hbefore hafter] at h
    by_cases hempty : after.isEmpty
    · rw [if_pos hempty] at h
      exact .inr (Except.error.inj h).symm
    · rw [if_neg hempty] at h
      cases h
  · -- Without one, what can be missing is the document.
    unfold parse at h
    rw [splitOn_of_not_mem hhash] at h
    by_cases hempty : (dropReferenceMark reference).isEmpty
    · simp only [hempty, if_true] at h
      exact .inl (Except.error.inj h).symm
    · simp only [hempty] at h
      cases h

end Lexicon.Address
