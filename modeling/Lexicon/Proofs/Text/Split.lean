import Lexicon.Text.Split

namespace Lexicon.Text

/-!
# Cutting at one character

* `splitOn_eq_splitOn` — cutting is that of lists;
* `splitOn_of_not_mem` — a text without the separator is its only piece;
* `splitOn_append_cons` — what comes before the first separator is the first piece;
* `not_mem_of_mem_splitOn` — no piece has a separator in it;
* `intercalate_splitOn`, `eq_sep_or_mem_piece` — the pieces and the separators are all of the text;
* `cutAt?_of_not_mem`, `cutAt?_append_cons`, `cutAt?_eq_some` — cutting once, at the first separator;
* `dropStart?_eq_some`, `any_dropStart?_iff` — what follows the start of a text.
-/

variable {sep : Char} {cs piece : List Char}

/-! ### At every separator -/

/-- Cutting is that of lists. -/
theorem splitOn_eq_splitOn : splitOn sep cs = cs.splitOn sep := by
  unfold splitOn
  rw [List.splitOn_eq_splitOnP]
  induction cs with
  | nil => rfl
  | cons c rest ih =>
    rw [List.splitOnP_cons_eq_if_modifyHead, split, ih]
    cases hpieces : rest.splitOnP (· == sep) with
    | nil => exact absurd hpieces (List.splitOnP_ne_nil _ _)
    | cons first others => rfl

/-- A text without the separator is one piece. -/
theorem splitOn_of_not_mem (h : sep ∉ cs) : splitOn sep cs = [cs] := by
  have hother : ∀ c ∈ cs, (c == sep) = false := fun c hc =>
    beq_eq_false_iff_ne.2 (ne_of_mem_of_not_mem hc h)
  rw [splitOn_eq_splitOn, List.splitOn_eq_splitOnP, List.splitOnP_eq_singleton hother]

/-- The first piece ends at the first separator. -/
theorem splitOn_append_cons {before : List Char} (h : sep ∉ before) (after : List Char) :
    splitOn sep (before ++ sep :: after) = before :: splitOn sep after := by
  have hother : ∀ c ∈ before, (c == sep) = false := fun c hc =>
    beq_eq_false_iff_ne.2 (ne_of_mem_of_not_mem hc h)
  rw [splitOn_eq_splitOn, splitOn_eq_splitOn, List.splitOn_eq_splitOnP, List.splitOn_eq_splitOnP]
  exact List.splitOnP_append_cons_of_forall_mem hother sep (beq_self_eq_true sep) after

/-- No piece has a separator in it.  By induction on the text: a piece starts anew behind each
    separator, and every other character goes to the front of the first piece. -/
theorem not_mem_of_mem_splitOn (h : piece ∈ splitOn sep cs) : sep ∉ piece := by
  unfold splitOn at h
  induction cs generalizing piece with
  | nil =>
    rw [split, List.mem_singleton] at h
    rw [h]
    exact List.not_mem_nil
  | cons c rest ih =>
    rw [split] at h
    by_cases hc : (c == sep) = true
    · rw [if_pos hc] at h
      rcases List.mem_cons.1 h with rfl | hrest
      · exact List.not_mem_nil
      · exact ih hrest
    · rw [if_neg hc] at h
      have hne : sep ≠ c := fun heq => hc (beq_iff_eq.2 heq.symm)
      cases hpieces : split (· == sep) rest with
      | nil => exact absurd hpieces (split_ne_nil _ rest)
      | cons first others =>
        rw [hpieces] at h ih
        rcases List.mem_cons.1 h with rfl | hothers
        · have hfirst : sep ∉ first := ih List.mem_cons_self
          exact mt List.mem_cons.1 (not_or.2 ⟨hne, hfirst⟩)
        · exact ih (List.mem_cons_of_mem _ hothers)

/-- The pieces with the separator between them are the text. -/
theorem intercalate_splitOn : [sep].intercalate (splitOn sep cs) = cs := by
  rw [splitOn_eq_splitOn, List.intercalate_splitOn]

/-- Every character is the separator or stands in a piece. -/
theorem eq_sep_or_mem_piece {c : Char} (h : c ∈ cs) :
    c = sep ∨ ∃ piece ∈ splitOn sep cs, c ∈ piece := by
  have hjoined {pieces : List (List Char)} (h : c ∈ [sep].intercalate pieces) :
      c = sep ∨ ∃ piece ∈ pieces, c ∈ piece := by
    induction pieces with
    | nil => simp at h
    | cons first rest ih =>
      cases rest with
      | nil => exact .inr ⟨first, List.mem_cons_self, by simpa using h⟩
      | cons second others =>
        rw [List.intercalate_cons_cons, List.mem_append, List.mem_append,
          List.mem_singleton] at h
        rcases h with (hfirst | hsep) | hrest
        · exact .inr ⟨first, List.mem_cons_self, hfirst⟩
        · exact .inl hsep
        · refine (ih hrest).imp_right ?_
          rintro ⟨piece, hmem, hc⟩
          exact ⟨piece, List.mem_cons_of_mem _ hmem, hc⟩
  exact hjoined (intercalate_splitOn.symm ▸ h)

/-! ### At the first separator, and at the start -/

/-- A text without the separator is not cut. -/
theorem cutAt?_of_not_mem (h : sep ∉ cs) : cutAt? sep cs = none := by
  induction cs with
  | nil => rfl
  | cons c rest ih =>
    obtain ⟨hne, hrest⟩ := not_or.1 (mt List.mem_cons.2 h)
    rw [cutAt?, if_neg (by simpa using Ne.symm hne), ih hrest, Option.map_none]

/-- A text is cut at the first separator. -/
theorem cutAt?_append_cons {before : List Char} (h : sep ∉ before) (after : List Char) :
    cutAt? sep (before ++ sep :: after) = some (before, after) := by
  induction before with
  | nil => rw [List.nil_append, cutAt?, if_pos (beq_self_eq_true sep)]
  | cons c rest ih =>
    obtain ⟨hne, hrest⟩ := not_or.1 (mt List.mem_cons.2 h)
    rw [List.cons_append, cutAt?, if_neg (by simpa using Ne.symm hne), ih hrest, Option.map_some]

/-- A text is cut in two at the first separator. -/
theorem cutAt?_eq_some {before after : List Char} :
    cutAt? sep cs = some (before, after) ↔ cs = before ++ sep :: after ∧ sep ∉ before := by
  constructor
  · intro hcut
    have hmem : sep ∈ cs := by
      rw [eq_append_of_cutAt? hcut]
      exact List.mem_append_right _ List.mem_cons_self
    obtain ⟨first, rest, rfl, hfirst⟩ := List.eq_append_cons_of_mem hmem
    rw [cutAt?_append_cons hfirst, Option.some.injEq, Prod.mk.injEq] at hcut
    obtain ⟨rfl, rfl⟩ := hcut
    exact ⟨rfl, hfirst⟩
  · rintro ⟨rfl, hbefore⟩
    exact cutAt?_append_cons hbefore after

theorem dropStart?_eq_some {start rest : List Char} :
    dropStart? start cs = some rest ↔ cs = start ++ rest :=
  ⟨eq_append_of_dropStart?, fun h => h ▸ dropStart?_append start rest⟩

/-- What follows the start of a text has a property iff the text is the start and such a rest. -/
theorem any_dropStart?_iff {start : List Char} {p : List Char → Bool} :
    (dropStart? start cs).any p = true ↔ ∃ rest, cs = start ++ rest ∧ p rest = true := by
  rw [Option.any_eq_true]
  constructor
  · rintro ⟨rest, hdrop, hrest⟩
    exact ⟨rest, eq_append_of_dropStart? hdrop, hrest⟩
  · rintro ⟨rest, rfl, hrest⟩
    exact ⟨rest, dropStart?_append start rest, hrest⟩

end Lexicon.Text
