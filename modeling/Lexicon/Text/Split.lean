namespace Lexicon.Text

/-!
# Cutting text into pieces

Identifiers, tags and tables are read by cutting their characters at separators.

* `split p cs` — the pieces of `cs` between the characters that satisfy `p`, at least one;
* `splitOn sep cs` — the same for one separating character;
* `words cs` — the non-empty pieces between blanks;
* `cutAt? sep cs` — the text before and after the first `sep`;
* `dropStart? start cs` — what follows `start`, when `cs` begins with it.
-/

/-- The pieces of a text between the characters that satisfy `p`.  A text without such a character
is its only piece. -/
def split (p : Char → Bool) : List Char → List (List Char)
  | [] => [[]]
  | c :: rest =>
    if p c then [] :: split p rest
    else
      match split p rest with
      | [] => [[c]]
      | piece :: pieces => (c :: piece) :: pieces

/-- The pieces of a text between the occurrences of one character. -/
def splitOn (sep : Char) : List Char → List (List Char) :=
  split (· == sep)

/-- The words of a text: its non-empty pieces between spaces and line ends. -/
def words (cs : List Char) : List (List Char) :=
  (split (fun c => c == ' ' || c == '\n') cs).filter (!·.isEmpty)

/-- The text before and the text after the first `sep`, if there is one. -/
def cutAt? (sep : Char) : List Char → Option (List Char × List Char)
  | [] => none
  | c :: rest =>
    if c == sep then some ([], rest)
    else (cutAt? sep rest).map fun (before, after) => (c :: before, after)

/-- What follows `start` in a text that begins with it. -/
def dropStart? : (start : List Char) → List Char → Option (List Char)
  | [], cs => some cs
  | _ :: _, [] => none
  | s :: start, c :: cs => if s == c then dropStart? start cs else none

/-! ### Laws of cutting -/

/-- Splitting gives at least one piece. -/
theorem split_ne_nil (p : Char → Bool) (cs : List Char) : split p cs ≠ [] := by
  cases cs with
  | nil => simp [split]
  | cons c rest =>
    simp only [split]
    split
    · simp
    · split <;> simp

/-- A start that is there is dropped. -/
theorem dropStart?_append (start cs : List Char) : dropStart? start (start ++ cs) = some cs := by
  induction start with
  | nil => rfl
  | cons s start ih => simp [dropStart?, ih]

/-- What is dropped is the start, and nothing else. -/
theorem eq_append_of_dropStart? {start cs rest : List Char} (h : dropStart? start cs = some rest) :
    cs = start ++ rest := by
  induction start generalizing cs with
  | nil => simpa [dropStart?] using h
  | cons s start ih =>
    cases cs with
    | nil => simp [dropStart?] at h
    | cons c cs =>
      simp only [dropStart?] at h
      split at h
      · rename_i hc
        rw [ih h, beq_iff_eq.1 hc, List.cons_append]
      · simp at h

/-- What is cut out is one separator. -/
theorem eq_append_of_cutAt? {sep : Char} {cs before after : List Char}
    (h : cutAt? sep cs = some (before, after)) : cs = before ++ sep :: after := by
  induction cs generalizing before with
  | nil => simp [cutAt?] at h
  | cons c cs ih =>
    simp only [cutAt?] at h
    split at h
    · rename_i hc
      simp only [Option.some.injEq, Prod.mk.injEq] at h
      simp [← h.1, ← h.2, beq_iff_eq.1 hc]
    · obtain ⟨⟨b, a⟩, hb, he⟩ := Option.map_eq_some_iff.1 h
      simp only [Prod.mk.injEq] at he
      rw [ih (he.2 ▸ hb), ← he.1, List.cons_append]

end Lexicon.Text
