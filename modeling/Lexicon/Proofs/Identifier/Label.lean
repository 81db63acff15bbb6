import Lexicon.Identifier.Label
import Lexicon.Proofs.Text.Pattern

namespace Lexicon.Label

open Lexicon.Text

/-!
# What labels are

* `IsLabel`, `isValid_iff` — the labels of bounded length, character by character;
* `pattern`, `mem_pattern` — the pattern of labels with a class of characters to start with: one
  character, or two with a bounded number of others between them.
-/

/-- A label: up to `max` ASCII letters, digits and hyphens, but at least one, with a letter or a
    digit at either end. -/
structure IsLabel (max : Nat) (label : List Char) : Prop where
  length_pos : 1 ≤ label.length
  length_le : label.length ≤ max
  chars : ∀ c ∈ label, c.isAlphanum = true ∨ c = '-'
  first : ∀ c ∈ label.head?, c.isAlphanum = true
  last : ∀ c ∈ label.getLast?, c.isAlphanum = true

/-- The pattern of labels that start with a character of a class: behind it, if there are any, come
    up to `inner` label characters and a letter or a digit. -/
def pattern (start : Char → Bool) (inner : Nat) : Language Char :=
  one start * maybe (upTo inner (one isLabelChar) * one Char.isAlphanum)

variable {start : Char → Bool} {inner max : Nat} {label : List Char}

theorem isLabelChar_iff {c : Char} : isLabelChar c = true ↔ c.isAlphanum = true ∨ c = '-' := by
  rw [isLabelChar, Bool.or_eq_true, beq_iff_eq]

/-- What is there is as it should be, if there is anything. -/
theorem any_eq_true_iff {α : Type} {o : Option α} {p : α → Bool} :
    o.any p = true ↔ o ≠ none ∧ ∀ a ∈ o, p a = true := by
  cases o <;> simp

/-- A check of the ends of a label asks for a label that is not empty. -/
theorem isValid_iff : isValid max label = true ↔ IsLabel max label := by
  unfold isValid
  simp only [Bool.and_eq_true, decide_eq_true_eq, List.all_eq_true, isLabelChar_iff,
    any_eq_true_iff, ne_eq, List.head?_eq_none_iff, List.getLast?_eq_none_iff]
  constructor
  · rintro ⟨⟨⟨hlength, hchars⟩, hne, hfirst⟩, -, hlast⟩
    exact ⟨List.length_pos_iff.2 hne, hlength, hchars, hfirst, hlast⟩
  · rintro ⟨hpos, hlength, hchars, hfirst, hlast⟩
    have hne := List.length_pos_iff.1 hpos
    exact ⟨⟨⟨hlength, hchars⟩, hne, hfirst⟩, hne, hlast⟩

/-- The labels of the pattern that starts with a class of letters and digits are those of two more
    characters than there may be inside. -/
theorem mem_pattern (hstart : ∀ c, start c = true → c.isAlphanum = true) :
    label ∈ pattern start inner ↔
      IsLabel (inner + 2) label ∧ ∀ c ∈ label.head?, start c = true := by
  unfold pattern maybe
  rw [Language.mem_mul]
  constructor
  · rintro ⟨_, ⟨c, hc, rfl⟩, rest, hrest, rfl⟩
    have hhead : ∀ d ∈ (c :: rest).head?, start d = true := by
      intro d hd
      rw [List.head?_cons, Option.mem_some] at hd
      exact hd ▸ hc
    refine ⟨?_, hhead⟩
    rcases hrest with hnil | hmore
    · -- One character is both ends of the label.
      rw [(Language.mem_one rest).1 hnil]
      have hchar := hstart c hc
      refine ⟨le_rfl, by simp, ?_, ?_, ?_⟩ <;> simp [hchar]
    · -- Two characters or more are the ends of the label, and what is between them.
      obtain ⟨middle, hmiddle, _, ⟨d, hd, rfl⟩, rfl⟩ := Language.mem_mul.1 hmore
      obtain ⟨hlength, hchars⟩ := mem_upTo_one.1 hmiddle
      refine ⟨by simp, by simpa using hlength, ?_, fun e he => hstart e (hhead e he), ?_⟩
      · intro e he
        rw [List.singleton_append, List.mem_cons, List.mem_append, List.mem_singleton] at he
        rcases he with rfl | he | rfl
        · exact .inl (hstart e hc)
        · exact isLabelChar_iff.1 (hchars e he)
        · exact .inl hd
      · intro e he
        rw [← List.append_assoc, List.getLast?_concat, Option.mem_some] at he
        exact he ▸ hd
  · rintro ⟨⟨hpos, hlength, hchars, -, hlast⟩, hhead⟩
    obtain ⟨c, rest, rfl⟩ := List.exists_cons_of_ne_nil (List.length_pos_iff.1 hpos)
    refine ⟨[c], mem_one_singleton.2 (hhead c rfl), rest, ?_, rfl⟩
    rcases List.eq_nil_or_concat rest with rfl | ⟨middle, d, rfl⟩
    · exact .inl rfl
    · rw [List.concat_eq_append] at *
      have hend : (c :: (middle ++ [d])).getLast? = some d := by
        rw [← List.cons_append]
        exact List.getLast?_concat
      have hmiddle : middle ∈ upTo inner (one isLabelChar) := by
        refine mem_upTo_one.2 ⟨by simpa using hlength, fun e he => ?_⟩
        exact isLabelChar_iff.2 (hchars e (by simp [he]))
      exact .inr (Language.append_mem_mul hmiddle (mem_one_singleton.2 (hlast d hend)))

/-- A class that has neither letters and digits nor the hyphen is not met with in labels. -/
theorem IsLabel.not_mem {c : Char} (h : IsLabel max label) (hc : c.isAlphanum = false)
    (hhyphen : c ≠ '-') : c ∉ label := by
  intro hmem
  rcases h.chars c hmem with halphanum | rfl
  · rw [hc] at halphanum
    cases halphanum
  · exact hhyphen rfl

end Lexicon.Label
