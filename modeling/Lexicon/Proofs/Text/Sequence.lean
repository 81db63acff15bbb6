import Lexicon.Proofs.Text.Pattern

namespace Lexicon.Text

open scoped Computability

/-!
# Repetition in patterns

Some patterns say exactly how often a character may occur, and put the separator in front of a piece
instead of behind it.

* `between`, `mem_pow_one`, `mem_between_one` — characters of a class, a bounded number of them;
* `behind` — pieces with a separator in front of each;
* `takeWhile_append_stop`, `dropWhile_append_stop` — a run of members of a class ends where another
  one stands;
* `splitOn_eq_cons_iff` — cutting gives a first piece, and those that are behind separators;
* `mem_maybe_behind`, `mem_upTo_behind`, `mem_kstar_behind`, `mem_atLeastOnce_behind` — patterns of
  such pieces, however often they occur.
-/

/-- A part that occurs at least and at most a number of times. -/
def between (low high : Nat) (part : Language Char) : Language Char :=
  part ^ low * upTo (high - low) part

/-- The pieces, with the separator in front of each of them. -/
def behind (sep : Char) (pieces : List (List Char)) : List Char :=
  pieces.flatMap (sep :: ·)

variable {p : Char → Bool} {sep : Char} {cs first : List Char} {pieces : List (List Char)}
  {part : Language Char} {low high n : Nat}

/-! ### Characters of a class -/

/-- A letter is a large or a small one. -/
theorem isAlpha_iff_toNat {c : Char} : c.isAlpha = true ↔
    ('A'.toNat ≤ c.toNat ∧ c.toNat ≤ 'Z'.toNat) ∨ ('a'.toNat ≤ c.toNat ∧ c.toNat ≤ 'z'.toNat) := by
  have hupper : c.isUpper = true ↔ 'A'.toNat ≤ c.toNat ∧ c.toNat ≤ 'Z'.toNat :=
    decide_eq_true_iff
  have hlower : c.isLower = true ↔ 'a'.toNat ≤ c.toNat ∧ c.toNat ≤ 'z'.toNat :=
    Bool.and_eq_true_iff.trans (and_congr decide_eq_true_iff decide_eq_true_iff)
  exact Bool.or_eq_true_iff.trans (or_congr hupper hlower)

/-- Characters of a class, exactly so many of them. -/
theorem mem_pow_one : cs ∈ one p ^ n ↔ cs.length = n ∧ ∀ c ∈ cs, p c = true := by
  induction n generalizing cs with
  | zero =>
    rw [pow_zero, Language.mem_one, List.length_eq_zero_iff]
    constructor
    · rintro rfl
      exact ⟨rfl, by simp⟩
    · exact And.left
  | succ n ih =>
    rw [pow_succ', Language.mem_mul]
    constructor
    · rintro ⟨_, ⟨c, hc, rfl⟩, rest, hrest, rfl⟩
      obtain ⟨hlength, hchars⟩ := ih.1 hrest
      exact ⟨congrArg Nat.succ hlength, List.forall_mem_cons.2 ⟨hc, hchars⟩⟩
    · rintro ⟨hlength, hchars⟩
      obtain ⟨c, rest, rfl⟩ := List.exists_cons_of_length_eq_add_one hlength
      obtain ⟨hc, hrest⟩ := List.forall_mem_cons.1 hchars
      exact ⟨[c], mem_one_singleton.2 hc, rest, ih.2 ⟨Nat.succ.inj hlength, hrest⟩, rfl⟩

/-- Characters of a class, a bounded number of them. -/
theorem mem_between_one (h : low ≤ high) : cs ∈ between low high (one p) ↔
    low ≤ cs.length ∧ cs.length ≤ high ∧ ∀ c ∈ cs, p c = true := by
  unfold between
  rw [Language.mem_mul]
  constructor
  · rintro ⟨front, hfront, rest, hrest, rfl⟩
    obtain ⟨hfrontLength, hfrontChars⟩ := mem_pow_one.1 hfront
    obtain ⟨hrestLength, hrestChars⟩ := mem_upTo_one.1 hrest
    rw [List.length_append]
    exact ⟨by omega, by omega, List.forall_mem_append.2 ⟨hfrontChars, hrestChars⟩⟩
  · rintro ⟨hlow, hhigh, hchars⟩
    -- The characters that must be there come first.
    refine ⟨cs.take low, mem_pow_one.2 ⟨List.length_take_of_le hlow, ?_⟩, cs.drop low,
      mem_upTo_one.2 ⟨?_, ?_⟩, List.take_append_drop low cs⟩
    · exact fun c hc => hchars c (List.mem_of_mem_take hc)
    · rw [List.length_drop]
      omega
    · exact fun c hc => hchars c (List.mem_of_mem_drop hc)

/-! ### Runs -/

section Runs

variable {α : Type} {class? : α → Bool} {run rest : List α}

/-- A run is taken as a whole if what follows it stops it. -/
theorem takeWhile_append_stop (hrun : ∀ a ∈ run, class? a = true)
    (hrest : ∀ a ∈ rest.head?, class? a = false) : (run ++ rest).takeWhile class? = run := by
  have hstop : rest.takeWhile class? = [] := by
    cases rest with
    | nil => rfl
    | cons a rest => exact List.takeWhile_cons_of_neg (by simp [hrest a rfl])
  rw [List.takeWhile_append_of_pos hrun, hstop, List.append_nil]

/-- A run is dropped as a whole if what follows it stops it. -/
theorem dropWhile_append_stop (hrun : ∀ a ∈ run, class? a = true)
    (hrest : ∀ a ∈ rest.head?, class? a = false) : (run ++ rest).dropWhile class? = rest := by
  rw [List.dropWhile_append_of_pos hrun]
  cases rest with
  | nil => rfl
  | cons a rest => exact List.dropWhile_cons_of_neg (by simp [hrest a rfl])

end Runs

/-! ### Cutting -/

@[simp] theorem behind_nil : behind sep [] = [] := rfl

@[simp] theorem behind_cons (piece : List Char) (pieces : List (List Char)) :
    behind sep (piece :: pieces) = sep :: (piece ++ behind sep pieces) := rfl

@[simp] theorem behind_append (pieces pieces' : List (List Char)) :
    behind sep (pieces ++ pieces') = behind sep pieces ++ behind sep pieces' :=
  List.flatMap_append

/-- Separators between pieces are in front of all pieces but the first. -/
theorem intercalate_cons (first : List Char) (pieces : List (List Char)) :
    [sep].intercalate (first :: pieces) = first ++ behind sep pieces := by
  induction pieces generalizing first with
  | nil => rw [List.intercalate_singleton, behind_nil, List.append_nil]
  | cons piece rest ih =>
    rw [List.intercalate_cons_cons, ih, behind_cons, List.append_assoc, List.singleton_append]

/-- A text is cut into a first piece and others iff the others are behind separators in it, provided
    that there is no separator in any of them. -/
theorem splitOn_eq_cons_iff (h : ∀ piece ∈ first :: pieces, sep ∉ piece) :
    cs.splitOn sep = first :: pieces ↔ cs = first ++ behind sep pieces := by
  rw [← intercalate_cons]
  constructor
  · intro hsplit
    rw [← hsplit, List.intercalate_splitOn]
  · rintro rfl
    exact List.splitOn_intercalate sep h (List.cons_ne_nil first pieces)

/-! ### Patterns of pieces -/

/-- A piece with its separator in front of it. -/
theorem mem_behind : cs ∈ {[sep]} * part ↔ ∃ piece ∈ part, cs = behind sep [piece] := by
  rw [Language.mem_mul]
  constructor
  · rintro ⟨_, rfl, piece, hpiece, rfl⟩
    exact ⟨piece, hpiece, by rw [behind_cons, behind_nil, List.append_nil]; rfl⟩
  · rintro ⟨piece, hpiece, rfl⟩
    exact ⟨[sep], rfl, piece, hpiece, by rw [behind_cons, behind_nil, List.append_nil]; rfl⟩

/-- One piece that may be missing. -/
theorem mem_maybe_behind : cs ∈ maybe ({[sep]} * part) ↔
    ∃ piece : Option (List Char), (∀ text ∈ piece, text ∈ part) ∧ cs = behind sep piece.toList := by
  unfold maybe
  rw [Language.mem_add, Language.mem_one, mem_behind]
  constructor
  · rintro (rfl | ⟨piece, hpiece, rfl⟩)
    · exact ⟨none, by simp, rfl⟩
    · exact ⟨some piece, by simpa, rfl⟩
  · rintro ⟨_ | piece, hpiece, rfl⟩
    · exact .inl rfl
    · exact .inr ⟨piece, hpiece piece rfl, rfl⟩

/-- Up to a number of pieces. -/
theorem mem_upTo_behind : cs ∈ upTo n ({[sep]} * part) ↔
    ∃ pieces, pieces.length ≤ n ∧ (∀ piece ∈ pieces, piece ∈ part) ∧ cs = behind sep pieces := by
  unfold upTo
  induction n generalizing cs with
  | zero =>
    rw [pow_zero, Language.mem_one]
    constructor
    · rintro rfl
      exact ⟨[], le_rfl, by simp, rfl⟩
    · rintro ⟨pieces, hlength, -, rfl⟩
      rw [List.length_eq_zero_iff.1 (Nat.le_zero.1 hlength), behind_nil]
  | succ n ih =>
    rw [pow_succ', Language.mem_mul]
    constructor
    · rintro ⟨front, hfront, rest, hrest, rfl⟩
      -- One more place is either left empty or taken by one piece.
      obtain ⟨piece, hpiece, rfl⟩ := mem_maybe_behind.1 hfront
      obtain ⟨pieces, hlength, hpieces, rfl⟩ := ih.1 hrest
      refine ⟨piece.toList ++ pieces, ?_, ?_, (behind_append _ _).symm⟩
      · have hone : piece.toList.length ≤ 1 := by cases piece <;> simp
        rw [List.length_append]
        omega
      · exact List.forall_mem_append.2 ⟨by simpa using hpiece, hpieces⟩
    · rintro ⟨_ | ⟨piece, pieces⟩, hlength, hpieces, rfl⟩
      · exact ⟨[], .inl rfl, [], ih.2 ⟨[], Nat.zero_le n, by simp, rfl⟩, rfl⟩
      · obtain ⟨hpiece, hrest⟩ := List.forall_mem_cons.1 hpieces
        refine ⟨behind sep [piece], .inr (mem_behind.2 ⟨piece, hpiece, rfl⟩), behind sep pieces,
          ih.2 ⟨pieces, Nat.le_of_succ_le_succ hlength, hrest, rfl⟩, ?_⟩
        exact (behind_append [piece] pieces).symm

/-- Any number of pieces. -/
theorem mem_kstar_behind : cs ∈ ({[sep]} * part)∗ ↔
    ∃ pieces, (∀ piece ∈ pieces, piece ∈ part) ∧ cs = behind sep pieces := by
  rw [Language.mem_kstar]
  constructor
  · rintro ⟨words, rfl, hwords⟩
    induction words with
    | nil => exact ⟨[], by simp, rfl⟩
    | cons word rest ih =>
      obtain ⟨hword, hrest⟩ := List.forall_mem_cons.1 hwords
      obtain ⟨piece, hpiece, rfl⟩ := mem_behind.1 hword
      obtain ⟨pieces, hpieces, heq⟩ := ih hrest
      refine ⟨piece :: pieces, List.forall_mem_cons.2 ⟨hpiece, hpieces⟩, ?_⟩
      rw [List.flatten_cons, heq]
      exact (behind_append [piece] pieces).symm
  · rintro ⟨pieces, hpieces, rfl⟩
    refine ⟨pieces.map (sep :: ·), rfl, ?_⟩
    intro word hword
    obtain ⟨piece, hpiece, rfl⟩ := List.mem_map.1 hword
    exact ⟨[sep], rfl, piece, hpieces piece hpiece, rfl⟩

/-- One or more pieces. -/
theorem mem_atLeastOnce_behind : cs ∈ atLeastOnce ({[sep]} * part) ↔
    ∃ pieces, pieces ≠ [] ∧ (∀ piece ∈ pieces, piece ∈ part) ∧ cs = behind sep pieces := by
  unfold atLeastOnce
  rw [Language.mem_mul]
  constructor
  · rintro ⟨front, hfront, rest, hrest, rfl⟩
    obtain ⟨piece, hpiece, rfl⟩ := mem_behind.1 hfront
    obtain ⟨pieces, hpieces, rfl⟩ := mem_kstar_behind.1 hrest
    exact ⟨piece :: pieces, List.cons_ne_nil _ _, List.forall_mem_cons.2 ⟨hpiece, hpieces⟩,
      (behind_append [piece] pieces).symm⟩
  · rintro ⟨pieces, hne, hpieces, rfl⟩
    obtain ⟨piece, rest, rfl⟩ := List.exists_cons_of_ne_nil hne
    obtain ⟨hpiece, hrest⟩ := List.forall_mem_cons.1 hpieces
    exact ⟨behind sep [piece], mem_behind.2 ⟨piece, hpiece, rfl⟩, behind sep rest,
      mem_kstar_behind.2 ⟨rest, hrest, rfl⟩, (behind_append [piece] rest).symm⟩

end Lexicon.Text
