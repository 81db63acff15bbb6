import Lexicon.Identifier.Nsid
import Lexicon.Proofs.Reference

namespace Lexicon

open Lexicon.Text

/-!
# The characters of namespaced identifiers

A namespaced identifier is made of dots, letters, digits and hyphens.  The characters that give a
reference its structure are none of these.

* `Nsid.eq_dot_or_isLabelChar` — the characters of an identifier;
* `Nsid.isReferencePart`, `Nsid.colon_not_mem` — an identifier can stand in a reference as it is.
-/

namespace Nsid

/-- The labels of an identifier are made of label characters. -/
theorem isLabelChar_of_isLabel {maxLength : Nat} {label : List Char}
    (h : isLabel maxLength label = true) : ∀ c ∈ label, Label.isLabelChar c = true := by
  unfold isLabel Label.isValid at h
  simp only [Bool.and_eq_true, List.all_eq_true] at h
  exact h.1.1.1.2

/-- Whatever the lengths, all labels are made of label characters; the name is one of them. -/
theorem isLabelChar_of_areLabels {labels : List (List Char)} (h : areLabels labels = true) :
    ∀ label ∈ labels, ∀ c ∈ label, Label.isLabelChar c = true := by
  unfold areLabels at h
  simp only [Bool.and_eq_true, List.all_eq_true, Option.any_eq_true] at h
  obtain ⟨⟨-, hdomain⟩, name, hname, hisName⟩ := h
  obtain ⟨domain, rfl⟩ := List.getLast?_eq_some_iff.1 hname
  rw [List.dropLast_concat] at hdomain
  intro label hmem
  rw [List.mem_append, List.mem_singleton] at hmem
  rcases hmem with hmem | rfl
  · exact isLabelChar_of_isLabel (hdomain label hmem)
  · exact isLabelChar_of_isLabel hisName

variable {id : String} (h : isValid id = true)
include h

theorem areLabels_of_isValid : areLabels (splitOn '.' id.toList) = true := by
  unfold isValid at h
  exact (Bool.and_eq_true_iff.1 h).2

/-- The characters of an identifier are dots and label characters. -/
theorem eq_dot_or_isLabelChar {c : Char} (hc : c ∈ id.toList) :
    c = '.' ∨ Label.isLabelChar c = true := by
  refine (eq_sep_or_mem_piece hc).imp_right ?_
  rintro ⟨label, hlabel, hc⟩
  exact isLabelChar_of_areLabels (areLabels_of_isValid h) label hlabel c hc

/-- An identifier can stand on one side of the `#` of a reference. -/
theorem isReferencePart : IsReferencePart id := by
  constructor
  · rintro rfl
    -- The empty text has a single label.
    have hlabels : areLabels (splitOn '.' "".toList) = true := areLabels_of_isValid h
    revert hlabels
    decide
  · intro hhash
    rcases eq_dot_or_isLabelChar h hhash with hc | hc <;> revert hc <;> decide

/-- No identifier starts with the mark of references, as it would have to hold the colon of it. -/
theorem colon_not_mem : ':' ∉ id.toList := by
  intro hcolon
  rcases eq_dot_or_isLabelChar h hcolon with hc | hc <;> revert hc <;> decide

end Nsid

end Lexicon
