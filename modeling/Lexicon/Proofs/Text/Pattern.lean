import Mathlib.Computability.Language
import Lexicon.Proofs.Text.Split

namespace Lexicon.Text

open scoped Computability

/-!
# Patterns

The grammars of identifiers are regular: characters of some classes stand behind each other, may be
left out, and are repeated.  A pattern is a language in which this is written down as it is read.

* `one`, `maybe`, `upTo`, `atLeastOnce` — a character of a class, and how often a part occurs;
* `mem_kstar_one`, `mem_upTo_one` — repeated characters of a class are texts of that class;
* `splitOn_pieces`, `eq_pieces_of_splitOn` — pieces, each with the separator behind it, and a last
  one are what cutting gives;
* `mem_separated` — hence a pattern of separated pieces asks something of each piece.
-/

/-- The texts of one character of a class. -/
def one (p : Char → Bool) : Language Char :=
  {cs | ∃ c, p c = true ∧ cs = [c]}

/-- A part that may be left out. -/
def maybe (part : Language Char) : Language Char :=
  1 + part

/-- A part that occurs a number of times, or less often. -/
def upTo (n : Nat) (part : Language Char) : Language Char :=
  (1 + part) ^ n

/-- A part that occurs once, or more often. -/
def atLeastOnce (part : Language Char) : Language Char :=
  part * part∗

variable {p : Char → Bool} {sep : Char} {cs : List Char} {part final : Language Char}

/-! ### Characters of a class -/

/-- One character alone belongs to a class or does not. -/
theorem mem_one_singleton {c : Char} : [c] ∈ one p ↔ p c = true := by
  constructor
  · rintro ⟨d, hd, h⟩
    rw [List.singleton_inj.1 h]
    exact hd
  · intro hc
    exact ⟨c, hc, rfl⟩

/-- Characters of a class, any number of them. -/
theorem mem_kstar_one : cs ∈ (one p)∗ ↔ ∀ c ∈ cs, p c = true := by
  rw [Language.mem_kstar]
  constructor
  · rintro ⟨words, rfl, hwords⟩ c hc
    obtain ⟨word, hword, hmem⟩ := List.mem_flatten.1 hc
    obtain ⟨d, hd, rfl⟩ := hwords word hword
    rw [List.mem_singleton.1 hmem]
    exact hd
  · intro h
    refine ⟨cs.map fun c => [c], ?_, ?_⟩
    · induction cs with
      | nil => rfl
      | cons c rest ih =>
        rw [List.map_cons, List.flatten_cons, ← ih fun d hd => h d (List.mem_cons_of_mem _ hd)]
        rfl
    · intro word hword
      obtain ⟨c, hc, rfl⟩ := List.mem_map.1 hword
      exact ⟨c, h c hc, rfl⟩

/-- Characters of a class, up to a number of them. -/
theorem mem_upTo_one {n : Nat} : cs ∈ upTo n (one p) ↔ cs.length ≤ n ∧ ∀ c ∈ cs, p c = true := by
  unfold upTo
  induction n generalizing cs with
  | zero =>
    rw [pow_zero, Language.mem_one, Nat.le_zero, List.length_eq_zero_iff]
    constructor
    · rintro rfl
      exact ⟨rfl, by simp⟩
    · exact And.left
  | succ n ih =>
    rw [pow_succ', Language.mem_mul]
    constructor
    · rintro ⟨first, hfirst, rest, hrest, rfl⟩
      obtain ⟨hlength, hchars⟩ := ih.1 hrest
      -- One more place is either left empty or taken by one character.
      rcases hfirst with hnil | ⟨c, hc, rfl⟩
      · rw [(Language.mem_one first).1 hnil, List.nil_append]
        exact ⟨Nat.le_succ_of_le hlength, hchars⟩
      · exact ⟨Nat.succ_le_succ hlength, List.forall_mem_cons.2 ⟨hc, hchars⟩⟩
    · rintro ⟨hlength, hchars⟩
      cases cs with
      | nil => exact ⟨[], .inl rfl, [], ih.2 ⟨Nat.zero_le n, hchars⟩, rfl⟩
      | cons c rest =>
        obtain ⟨hc, hrest⟩ := List.forall_mem_cons.1 hchars
        exact ⟨[c], .inr (mem_one_singleton.2 hc), rest, ih.2 ⟨Nat.le_of_succ_le_succ hlength, hrest⟩,
          rfl⟩

/-- The characters of a class, one after the other. -/
theorem mem_atLeastOnce_one : cs ∈ atLeastOnce (one p) ↔ cs ≠ [] ∧ ∀ c ∈ cs, p c = true := by
  unfold atLeastOnce
  rw [Language.mem_mul]
  constructor
  · rintro ⟨_, ⟨c, hc, rfl⟩, rest, hrest, rfl⟩
    exact ⟨List.cons_ne_nil c rest, List.forall_mem_cons.2 ⟨hc, mem_kstar_one.1 hrest⟩⟩
  · rintro ⟨hne, hchars⟩
    obtain ⟨c, rest, rfl⟩ := List.exists_cons_of_ne_nil hne
    obtain ⟨hc, hrest⟩ := List.forall_mem_cons.1 hchars
    exact ⟨[c], mem_one_singleton.2 hc, rest, mem_kstar_one.2 hrest, rfl⟩

/-! ### Pieces between separators -/

/-- Cutting finds the pieces that were put behind each other, each with a separator behind it. -/
theorem splitOn_pieces {pieces : List (List Char)} {last : List Char}
    (hpieces : ∀ piece ∈ pieces, sep ∉ piece) (hlast : sep ∉ last) :
    splitOn sep ((pieces.map (· ++ [sep])).flatten ++ last) = pieces ++ [last] := by
  induction pieces with
  | nil => exact splitOn_of_not_mem hlast
  | cons piece rest ih =>
    obtain ⟨hpiece, hrest⟩ := List.forall_mem_cons.1 hpieces
    rw [List.map_cons, List.flatten_cons, List.append_assoc, List.append_assoc,
      List.singleton_append, splitOn_append_cons hpiece, ih hrest, List.cons_append]

/-- A text is its pieces, with a separator behind each but the last one. -/
theorem eq_pieces_of_splitOn {pieces : List (List Char)} {last : List Char}
    (h : splitOn sep cs = pieces ++ [last]) :
    cs = (pieces.map (· ++ [sep])).flatten ++ last := by
  have hcs : [sep].intercalate (splitOn sep cs) = cs := intercalate_splitOn
  rw [← hcs, h]
  clear hcs h
  induction pieces with
  | nil => rw [List.nil_append, List.intercalate_singleton]; rfl
  | cons piece rest ih =>
    have hne : rest ++ [last] ≠ [] := by simp
    obtain ⟨next, others, hrest⟩ := List.exists_cons_of_ne_nil hne
    rw [List.cons_append, hrest, List.intercalate_cons_cons, ← hrest, ih, List.map_cons,
      List.flatten_cons]
    simp only [List.append_assoc]

/-- A piece with its separator behind it. -/
theorem mem_terminated {word : List Char} :
    word ∈ part * {[sep]} ↔ ∃ piece ∈ part, piece ++ [sep] = word := by
  rw [Language.mem_mul]
  constructor
  · rintro ⟨piece, hpiece, _, rfl, rfl⟩
    exact ⟨piece, hpiece, rfl⟩
  · rintro ⟨piece, hpiece, rfl⟩
    exact ⟨piece, hpiece, [sep], rfl, rfl⟩

/-- Words that are parts with a separator behind them come from parts. -/
theorem exists_pieces {words : List (List Char)} (h : ∀ word ∈ words, word ∈ part * {[sep]}) :
    ∃ pieces : List (List Char), (∀ piece ∈ pieces, piece ∈ part) ∧
      words = pieces.map (· ++ [sep]) := by
  induction words with
  | nil => exact ⟨[], by simp, rfl⟩
  | cons word rest ih =>
    obtain ⟨hfirst, hrest⟩ := List.forall_mem_cons.1 h
    obtain ⟨piece, hpiece, rfl⟩ := mem_terminated.1 hfirst
    obtain ⟨pieces, hpieces, rfl⟩ := ih hrest
    exact ⟨piece :: pieces, List.forall_mem_cons.2 ⟨hpiece, hpieces⟩, rfl⟩

/-- **A pattern of separated pieces.**  Where no part can hold the separator, one or more parts with
    a separator behind each, and a final one, are the texts that are cut into such pieces. -/
theorem mem_separated (hpart : ∀ piece ∈ part, sep ∉ piece) (hfinal : ∀ piece ∈ final, sep ∉ piece) :
    cs ∈ atLeastOnce (part * {[sep]}) * final ↔
      ∃ pieces last, splitOn sep cs = pieces ++ [last] ∧ pieces ≠ [] ∧
        (∀ piece ∈ pieces, piece ∈ part) ∧ last ∈ final := by
  constructor
  · intro h
    obtain ⟨front, hfront, last, hlast, rfl⟩ := Language.mem_mul.1 h
    obtain ⟨first, hfirst, others, hothers, rfl⟩ := Language.mem_mul.1 hfront
    obtain ⟨words, rfl, hwords⟩ := Language.mem_kstar.1 hothers
    obtain ⟨piece, hpiece, rfl⟩ := mem_terminated.1 hfirst
    obtain ⟨rest, hrest, rfl⟩ := exists_pieces hwords
    have hpieces : ∀ other ∈ piece :: rest, other ∈ part := List.forall_mem_cons.2 ⟨hpiece, hrest⟩
    -- No piece has a separator in it, so the text is cut where the pieces end.
    have hsplit := splitOn_pieces (fun other hother => hpart other (hpieces other hother))
      (hfinal last hlast)
    exact ⟨piece :: rest, last, hsplit, List.cons_ne_nil piece rest, hpieces, hlast⟩
  · rintro ⟨pieces, last, hsplit, hne, hpieces, hlast⟩
    rw [eq_pieces_of_splitOn hsplit]
    obtain ⟨piece, rest, rfl⟩ := List.exists_cons_of_ne_nil hne
    obtain ⟨hpiece, hrest⟩ := List.forall_mem_cons.1 hpieces
    have hfirst : piece ++ [sep] ∈ part * {[sep]} := mem_terminated.2 ⟨piece, hpiece, rfl⟩
    have hothers : (rest.map (· ++ [sep])).flatten ∈ (part * {[sep]})∗ := by
      refine Language.join_mem_kstar fun word hmem => ?_
      obtain ⟨other, hother, rfl⟩ := List.mem_map.1 hmem
      exact mem_terminated.2 ⟨other, hrest other hother, rfl⟩
    exact Language.append_mem_mul (Language.append_mem_mul hfirst hothers) hlast

end Lexicon.Text
