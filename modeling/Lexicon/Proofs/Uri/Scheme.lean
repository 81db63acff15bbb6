import Lexicon.Proofs.Text.Sequence
import Lexicon.Uri.Basic
import Mathlib.Data.List.TakeWhile

namespace Lexicon.Uri

open Lexicon.Text Lexicon.Unicode

/-!
# What stands in front of a URI

A URI starts with its scheme.  Blanks are refused wherever they stand, but the reader takes all
control characters off the ends of a text before it looks for the scheme, and most of them are no
blanks.

* `IsScheme`, `cutScheme?_eq_some` — schemes, and the text that starts with one;
* `exists_trim`, `trim_eq` — what is taken off the ends;
* `IsStray`, `trim_eq_iff` — the controls that may stand around a URI;
* `isValid_iff` — URIs by their parts;
* `schemes_stand_in_front` — so a URI starts with its scheme unless it starts with such a control.
-/

variable {cs core front back scheme rest : List Char} {c : Char} {s : String}

/-! ### Schemes -/

/-- A scheme: a letter, and any number of letters, digits, pluses, hyphens and dots. -/
def IsScheme (scheme : List Char) : Prop :=
  ∃ first others, scheme = first :: others ∧ first.isAlpha = true ∧
    ∀ c ∈ others, c.isAlphanum = true ∨ c ∈ ['+', '-', '.']

/-- The text starts with a scheme and a colon. -/
def StartsWithScheme (cs : List Char) : Prop :=
  ∃ scheme rest, cs = scheme ++ ':' :: rest ∧ IsScheme scheme

theorem isSchemeChar_iff : isSchemeChar c = true ↔ c.isAlphanum = true ∨ c ∈ ['+', '-', '.'] := by
  simp [isSchemeChar, or_assoc]

theorem isSchemeChar_of_isAlpha (h : c.isAlpha = true) : isSchemeChar c = true := by
  simp [isSchemeChar, Char.isAlphanum, h]

/-- The check for a scheme, as the grammar puts it. -/
theorem isScheme_iff :
    (scheme.head?.any Char.isAlpha && scheme.all isSchemeChar) = true ↔ IsScheme scheme := by
  cases scheme with
  | nil => simp [IsScheme]
  | cons first others =>
    simp only [List.head?_cons, Option.any_some, List.all_cons, Bool.and_eq_true, List.all_eq_true,
      isSchemeChar_iff, IsScheme, List.cons.injEq, existsAndEq, and_true, true_and]
    constructor
    · rintro ⟨hfirst, -, hothers⟩
      exact ⟨hfirst, hothers⟩
    · rintro ⟨hfirst, hothers⟩
      exact ⟨hfirst, isSchemeChar_iff.1 (isSchemeChar_of_isAlpha hfirst), hothers⟩

/-- All characters of a scheme may stand in one. -/
theorem IsScheme.isSchemeChar (h : IsScheme scheme) (hc : c ∈ scheme) : isSchemeChar c = true := by
  have hchars := (Bool.and_eq_true_iff.1 (isScheme_iff.2 h)).2
  exact List.all_eq_true.1 hchars c hc

/-- Cutting finds the scheme in front of the first colon, since schemes have none. -/
theorem cutScheme?_eq_some :
    cutScheme? cs = some (scheme, rest) ↔ cs = scheme ++ ':' :: rest ∧ IsScheme scheme := by
  unfold cutScheme?
  constructor
  · intro h
    split at h
    · rename_i before after hcut
      split at h
      · rename_i hscheme
        cases h
        exact ⟨(cutAt?_eq_some.1 hcut).1, isScheme_iff.1 hscheme⟩
      · cases h
    · cases h
  · rintro ⟨rfl, hscheme⟩
    have hcolon : ':' ∉ scheme := by
      intro hmem
      have hchar := hscheme.isSchemeChar hmem
      revert hchar
      decide
    rw [cutAt?_append_cons hcolon]
    exact if_pos (isScheme_iff.2 hscheme)

/-- The characters of a scheme are visible ASCII. -/
theorem IsScheme.lt_toNat (h : IsScheme scheme) (hc : c ∈ scheme) :
    0x20 < c.toNat ∧ c.toNat < 0x80 := by
  rcases isSchemeChar_iff.1 (h.isSchemeChar hc) with halphanum | hmark
  · simp only [Char.isAlphanum, Bool.or_eq_true, isAlpha_iff_toNat, Char.isDigit_iff_toNat,
      Char.reduceToNat] at halphanum
    omega
  · simp only [List.mem_cons, List.not_mem_nil, or_false] at hmark
    rcases hmark with rfl | rfl | rfl <;> decide

/-! ### The ends of a text -/

/-- What is taken off the ends of a text are controls and spaces, and the text that is left neither
    starts nor ends with one. -/
theorem exists_trim (cs : List Char) :
    ∃ front back, cs = front ++ trim cs ++ back ∧ (∀ c ∈ front ++ back, c.toNat ≤ 0x20) ∧
      (∀ c ∈ (trim cs).head?, 0x20 < c.toNat) ∧ ∀ c ∈ (trim cs).getLast?, 0x20 < c.toNat := by
  -- The front is taken off first, and then the back from what is left.
  let isTrimmed : Char → Bool := fun c => c.toNat ≤ 0x20
  let behind := cs.dropWhile isTrimmed
  let back := (behind.reverse.takeWhile isTrimmed).reverse
  have htaken {taken : List Char} {c : Char} (hc : c ∈ taken.takeWhile isTrimmed) :
      c.toNat ≤ 0x20 :=
    of_decide_eq_true (show isTrimmed c = true from List.mem_takeWhile_imp hc)
  have hstop {taken : List Char} {c : Char} (hc : (taken.dropWhile isTrimmed).head? = some c) :
      0x20 < c.toNat := by
    have hnot := List.head?_dropWhile_not isTrimmed taken
    rw [hc] at hnot
    exact Nat.lt_of_not_le (of_decide_eq_false hnot)
  have hbehind : behind = trim cs ++ back := by
    rw [← List.reverse_inj, List.reverse_append]
    show behind.reverse = _ ++ (behind.reverse.dropWhile isTrimmed).reverse.reverse
    rw [List.reverse_reverse, List.reverse_reverse, List.takeWhile_append_dropWhile]
  refine ⟨cs.takeWhile isTrimmed, back, ?_, List.forall_mem_append.2 ⟨?_, ?_⟩, ?_, ?_⟩
  · rw [List.append_assoc, ← hbehind, List.takeWhile_append_dropWhile]
  · exact fun c hc => htaken hc
  · exact fun c hc => htaken (List.mem_reverse.1 hc)
  · -- What is left starts where the front ends.
    intro c hc
    have hhead : behind.head? = some c := by
      rw [hbehind, List.head?_append, hc]
      rfl
    exact hstop hhead
  · intro c hc
    have hhead : (behind.reverse.dropWhile isTrimmed).head? = some c := by
      rw [← List.getLast?_reverse]
      exact hc
    exact hstop hhead

/-- Controls and spaces are taken off the ends of a text down to other characters. -/
theorem trim_eq (htaken : ∀ c ∈ front ++ back, c.toNat ≤ 0x20) (hne : core ≠ [])
    (hfirst : ∀ c ∈ core.head?, 0x20 < c.toNat)
    (hlast : ∀ c ∈ core.getLast?, 0x20 < c.toNat) : trim (front ++ core ++ back) = core := by
  obtain ⟨hfront, hback⟩ := List.forall_mem_append.1 htaken
  unfold trim
  dsimp only
  rw [List.append_assoc, dropWhile_append_stop, List.reverse_append, dropWhile_append_stop,
    List.reverse_reverse]
  · simpa using hback
  · simpa using hlast
  · simpa using hfront
  · rw [List.head?_append_of_ne_nil _ hne]
    simpa using hfirst

/-! ### Controls around a URI -/

/-- A control character that is no blank. -/
def IsStray (c : Char) : Prop :=
  c.toNat < 0x20 ∧ isBlank c = false

instance : DecidablePred IsStray :=
  fun _ => inferInstanceAs (Decidable (_ ∧ _))

/-- Where there are no blanks, only strays are taken off. -/
theorem isStray_iff (h : isBlank c = false) : IsStray c ↔ c.toNat ≤ 0x20 := by
  unfold IsStray
  rw [and_iff_left h]
  constructor
  · exact Nat.le_of_lt
  · intro hle
    refine Nat.lt_of_le_of_ne hle fun hspace => ?_
    simp [isBlank, hspace] at h

/-- Of a text without blanks, what is left of it stands between strays, and no stray is left at its
    ends. -/
theorem trim_eq_iff (hblank : ∀ c ∈ cs, isBlank c = false) (hne : core ≠ []) :
    trim cs = core ↔ ∃ front back, cs = front ++ core ++ back ∧ (∀ c ∈ front ++ back, IsStray c) ∧
      (∀ c ∈ core.head?, ¬ IsStray c) ∧ ∀ c ∈ core.getLast?, ¬ IsStray c := by
  constructor
  · rintro rfl
    obtain ⟨front, back, hcs, htaken, hfirst, hlast⟩ := exists_trim cs
    have hmem {c : Char} (hc : c ∈ front ++ back) : c ∈ cs := by
      rw [hcs]
      rcases List.mem_append.1 hc with hfront | hback
      · exact List.mem_append_left _ (List.mem_append_left _ hfront)
      · exact List.mem_append_right _ hback
    refine ⟨front, back, hcs, ?_, ?_, ?_⟩
    · exact fun c hc => (isStray_iff (hblank c (hmem hc))).2 (htaken c hc)
    · exact fun c hc hstray => Nat.lt_asymm (hfirst c hc) hstray.1
    · exact fun c hc hstray => Nat.lt_asymm (hlast c hc) hstray.1
  · rintro ⟨front, back, rfl, hstray, hfirst, hlast⟩
    -- A character at the end of the core is no blank, so it is no control unless it is a stray.
    have hcore {c : Char} (hc : c ∈ core) (hnot : ¬ IsStray c) : 0x20 < c.toNat := by
      have hmem : c ∈ front ++ core ++ back :=
        List.mem_append_left _ (List.mem_append_right _ hc)
      exact Nat.lt_of_not_le (mt (isStray_iff (hblank c hmem)).2 hnot)
    refine trim_eq (fun c hc => (hstray c hc).1.le) hne ?_ ?_
    · exact fun c hc => hcore (List.mem_of_head? hc) (hfirst c hc)
    · exact fun c hc => hcore (List.mem_of_getLast? hc) (hlast c hc)

theorem IsScheme.not_isStray (h : IsScheme scheme) (hc : c ∈ scheme) : ¬ IsStray c :=
  fun hstray => Nat.lt_asymm (h.lt_toNat hc).1 hstray.1

/-- No blank stands in a scheme. -/
theorem IsScheme.isBlank_eq_false (h : IsScheme scheme) (hc : c ∈ scheme) : isBlank c = false := by
  obtain ⟨hlow, hhigh⟩ := h.lt_toNat hc
  simp only [isBlank, Bool.or_eq_false_iff, Bool.and_eq_false_iff, beq_eq_false_iff_ne,
    decide_eq_false_iff_not]
  omega

/-- **URIs by their parts.**  A text is a URI iff it is a scheme, a colon, and something that may
    follow this scheme, with nothing around them but controls, and no blank anywhere. -/
theorem isValid_iff : isValid s = true ↔
    ∃ front scheme rest back, s.toList = front ++ (scheme ++ ':' :: rest) ++ back ∧
      (∀ c ∈ front ++ back, IsStray c) ∧ IsScheme scheme ∧ (∀ c ∈ rest, isBlank c = false) ∧
      (∀ c ∈ rest.getLast?, ¬ IsStray c) ∧ restIsValid (.ofScheme scheme) rest = true := by
  unfold isValid
  simp only [Bool.and_eq_true, Bool.not_eq_true', List.any_eq_false, Bool.not_eq_true,
    Option.any_eq_true, Prod.exists, cutScheme?_eq_some]
  constructor
  · rintro ⟨hblank, scheme, rest, ⟨htrim, hscheme⟩, hrest⟩
    obtain ⟨front, back, hs, hstray, -, hlast⟩ := (trim_eq_iff hblank (by simp)).1 htrim
    rw [List.getLast?_append_cons, List.getLast?_cons] at hlast
    refine ⟨front, scheme, rest, back, hs, hstray, hscheme, ?_, ?_, hrest⟩
    · intro c hc
      exact hblank c (by simp [hs, hc])
    · intro c hc
      exact hlast c (by rw [hc]; rfl)
  · rintro ⟨front, scheme, rest, back, hs, hstray, hscheme, hrestBlank, hlast, hrest⟩
    obtain ⟨hfront, hback⟩ := List.forall_mem_append.1 hstray
    have hblank : ∀ c ∈ s.toList, isBlank c = false := by
      rw [hs]
      simp only [List.forall_mem_append, List.forall_mem_cons (a := ':')]
      exact ⟨⟨fun c hc => (hfront c hc).2, fun c hc => hscheme.isBlank_eq_false hc, by decide,
        hrestBlank⟩, fun c hc => (hback c hc).2⟩
    -- The last character is that of the rest, or the colon.
    have hends : ∀ c ∈ (scheme ++ ':' :: rest).getLast?, ¬ IsStray c := by
      rw [List.getLast?_append_cons, List.getLast?_cons]
      rintro _ ⟨⟩
      cases hrestLast : rest.getLast? with
      | none => decide
      | some c => exact hlast c hrestLast
    -- The first character is the first of the scheme, which is a letter.
    have hfirst : ∀ c ∈ (scheme ++ ':' :: rest).head?, ¬ IsStray c := by
      obtain ⟨first, others, rfl, -⟩ := id hscheme
      rintro _ ⟨⟩
      exact hscheme.not_isStray List.mem_cons_self
    exact ⟨hblank, scheme, rest,
      ⟨(trim_eq_iff hblank (by simp)).2 ⟨front, back, hs, hstray, hfirst, hends⟩, hscheme⟩, hrest⟩

/-- **URIs start with their schemes, but for controls.**  A text is a URI iff it is a scheme, a
    colon, and something that may follow this scheme, with nothing around them but controls, and no
    blank anywhere.  So a URI starts with a scheme iff it does not start with such a control. -/
theorem schemes_stand_in_front (s : String) :
    (isValid s = true ↔
      ∃ front scheme rest back, s.toList = front ++ (scheme ++ ':' :: rest) ++ back ∧
        (∀ c ∈ front ++ back, IsStray c) ∧ IsScheme scheme ∧ (∀ c ∈ rest, isBlank c = false) ∧
        (∀ c ∈ rest.getLast?, ¬ IsStray c) ∧ restIsValid (.ofScheme scheme) rest = true) ∧
    (isValid s = true → (StartsWithScheme s.toList ↔ ∀ c ∈ s.toList.head?, ¬ IsStray c)) := by
  refine ⟨isValid_iff, fun h => ⟨?_, fun hhead => ?_⟩⟩
  · rintro ⟨scheme, rest, hs, hscheme⟩ c hc hstray
    obtain ⟨first, others, rfl, -⟩ := id hscheme
    rw [hs] at hc
    cases hc
    exact hscheme.not_isStray List.mem_cons_self hstray
  · obtain ⟨front, scheme, rest, back, hs, hstray, hscheme, -⟩ := isValid_iff.1 h
    cases front with
    | nil => exact ⟨scheme, rest ++ back, by simpa using hs, hscheme⟩
    | cons c front =>
      have hc : c ∈ s.toList.head? := by
        rw [hs]
        rfl
      exact absurd (hstray c List.mem_cons_self) (hhead c hc)

/-- A URI with a control behind it. -/
theorem schemes_stand_in_front_did :
    let s := "did:example:test\x1f"
    isValid s = true ∧ (∀ c ∈ s.toList.head?, ¬ IsStray c) ∧ StartsWithScheme s.toList := by
  intro s
  have hvalid : isValid s = true := by decide
  have hhead : ∀ c ∈ s.toList.head?, ¬ IsStray c := by
    have hletter : s.toList.head? = some 'd' := by decide
    rw [hletter]
    rintro _ ⟨⟩
    decide
  exact ⟨hvalid, hhead, ((schemes_stand_in_front s).2 hvalid).2 hhead⟩

/-- A control in front of a URI is let through, and then the text does not start with a scheme. -/
theorem uri_behind_control :
    isValid "\x01did:example:test" = true ∧ ¬ StartsWithScheme "\x01did:example:test".toList := by
  refine ⟨by decide, ?_⟩
  rintro ⟨_, rest, hs, first, others, rfl, hfirst, -⟩
  have hcontrol : '\x01' = first := congrArg (·.headD ' ') hs
  rw [← hcontrol] at hfirst
  revert hfirst
  decide

end Lexicon.Uri
