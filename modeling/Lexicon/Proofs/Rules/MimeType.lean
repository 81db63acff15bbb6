import Lexicon.Proofs.Text.Split
import Lexicon.Rules.Basic
import Mathlib

namespace Lexicon

open Lexicon.Text

/-!
# Patterns of MIME types

* `SameButCase`, `sameButCase_iff` — texts that differ in the case of letters only;
* `Covers`, `mimeMatches_iff` — which MIME types a pattern covers, told without cutting at its end;
* `covers_congr` — case does not count, since neither of the marks of a pattern is a letter.
-/

/-- The texts differ in nothing but the case of ASCII letters. -/
def SameButCase (s t : String) : Prop :=
  List.Forall₂ (fun c d => d = c ∨ d = c.toLower ∨ d = c.toUpper) s.toList t.toList

/-- A pattern covers a MIME type: it is `*/*`, or it has `/*` behind what the MIME type has in front
    of its first slash, or it does not end in `/*` and is the MIME type itself.  Case does not
    count. -/
inductive Covers : String → String → Prop where
  | any {mimeType : String} : Covers "*/*" mimeType
  | family {top kind rest : String} :
      '/' ∉ kind.toList → SameButCase kind top → Covers (top ++ "/*") (kind ++ "/" ++ rest)
  | whole {pattern mimeType : String} :
      (∀ top, pattern ≠ top ++ "/*") → SameButCase pattern mimeType → Covers pattern mimeType

variable {s t pattern pattern' mimeType mimeType' : String} {cs top : List Char} {c : Char}

/-! ### Case -/

/-- Two characters are the same in lower case iff one of them is the other one in some case. -/
theorem toLower_eq_toLower_iff {d : Char} :
    c.toLower = d.toLower ↔ d = c ∨ d = c.toLower ∨ d = c.toUpper := by
  constructor
  · intro h
    -- A character that is no small letter is its own large one.
    cases hlower : d.isLower
    · have hupper := congrArg Char.toUpper h
      rw [Char.toUpper_toLower_eq_toUpper, Char.toUpper_toLower_eq_toUpper] at hupper
      refine .inr (.inr ?_)
      rw [hupper, Char.toUpper_eq_of_not_isLower (by simp [hlower])]
    · refine .inr (.inl ?_)
      rw [h, Char.toLower_eq_of_not_isUpper (by simp [Char.not_isUpper_of_isLower, hlower])]
  · rintro (rfl | rfl | rfl)
    · rfl
    · rw [Char.toLower_toLower_eq_toLower]
    · rw [Char.toLower_toUpper_eq_toLower]

/-- Texts are the same but for case if they are the same in small letters. -/
theorem sameButCase_iff :
    SameButCase s t ↔ s.toList.map Char.toLower = t.toList.map Char.toLower := by
  unfold SameButCase
  rw [← List.forall₂_eq_eq_eq, List.forall₂_map_left_iff, List.forall₂_map_right_iff]
  simp only [toLower_eq_toLower_iff]

/-- The comparison of types is equality up to the case of letters. -/
theorem equalsIgnoringCase_iff :
    equalsIgnoringCase s.toList t.toList = true ↔ SameButCase s t := by
  rw [equalsIgnoringCase, beq_iff_eq, sameButCase_iff]

/-- A character that is no letter is in one case only. -/
theorem toLower_eq_iff {mark : Char} (hmark : mark.isAlpha = false) :
    c.toLower = mark ↔ c = mark := by
  constructor
  · rintro rfl
    rw [Char.isAlpha_toLower_eq_isAlpha, Char.isAlpha, Bool.or_eq_false_iff] at hmark
    rw [Char.toLower_eq_of_not_isUpper (by simp [hmark.1])]
  · rintro rfl
    rw [Char.isAlpha, Bool.or_eq_false_iff] at hmark
    rw [Char.toLower_eq_of_not_isUpper (by simp [hmark.1])]

/-! ### What a pattern covers -/

/-- A wildcard stands at the end of a pattern. -/
theorem wildcard?_eq_some : wildcard? cs = some top ↔ cs = top ++ ['/', '*'] := by
  unfold wildcard?
  simp only [Option.map_eq_some_iff, dropStart?_eq_some, List.reverse_eq_iff]
  constructor
  · rintro ⟨rest, hcs, rfl⟩
    simpa using hcs
  · rintro rfl
    exact ⟨top.reverse, by simp⟩

/-- Only the pattern with the star in front of the wildcard covers everything. -/
theorem mimeMatches_eq_of_wildcard (h : wildcard? pattern.toList = some top) (hstar : top ≠ ['*']) :
    mimeMatches pattern mimeType =
      (cutAt? '/' mimeType.toList).any fun (kind, _) => equalsIgnoringCase kind top := by
  unfold mimeMatches
  rw [h]
  split
  · rename_i heq
    exact absurd (Option.some.inj heq) hstar
  · rename_i heq
    rw [Option.some.inj heq]
  · rename_i heq
    cases heq

/-- What a pattern with a wildcard covers. -/
theorem covers_wildcard_iff {top : String} : Covers (top ++ "/*") mimeType ↔
    top = "*" ∨ ∃ kind rest, mimeType = kind ++ "/" ++ rest ∧ '/' ∉ kind.toList ∧
      SameButCase kind top := by
  constructor
  · intro h
    -- The pattern is told apart by its end, which no other pattern has.
    generalize hpattern : top ++ "/*" = pattern at h
    cases h with
    | any => exact .inl ((String.append_left_inj "/*").1 hpattern)
    | @family top' kind rest hkind hcase =>
      rw [(String.append_left_inj "/*").1 hpattern]
      exact .inr ⟨kind, rest, rfl, hkind, hcase⟩
    | whole hwhole => exact absurd hpattern.symm (hwhole top)
  · rintro (rfl | ⟨kind, rest, rfl, hkind, hcase⟩)
    · exact .any
    · exact .family hkind hcase

/-- The MIME type has its family in front of its first slash. -/
theorem any_family_iff {top : String} :
    ((cutAt? '/' mimeType.toList).any fun (kind, _) => equalsIgnoringCase kind top.toList) = true ↔
      ∃ kind rest, mimeType = kind ++ "/" ++ rest ∧ '/' ∉ kind.toList ∧ SameButCase kind top := by
  simp only [Option.any_eq_true, Prod.exists, cutAt?_eq_some]
  constructor
  · rintro ⟨kind, rest, ⟨hmimeType, hkind⟩, hcase⟩
    refine ⟨.ofList kind, .ofList rest, ?_, ?_, ?_⟩
    · rw [← String.toList_inj, hmimeType]
      simp
    · rwa [String.toList_ofList]
    · rwa [← equalsIgnoringCase_iff, String.toList_ofList]
  · rintro ⟨kind, rest, rfl, hkind, hcase⟩
    refine ⟨kind.toList, rest.toList, ⟨?_, hkind⟩, equalsIgnoringCase_iff.2 hcase⟩
    simp

/-- **The reader of patterns finds what they cover.** -/
theorem mimeMatches_iff : mimeMatches pattern mimeType = true ↔ Covers pattern mimeType := by
  cases hwildcard : wildcard? pattern.toList with
  | none =>
    have hwhole (top : String) : pattern ≠ top ++ "/*" := by
      rintro rfl
      have htop : wildcard? (top ++ "/*").toList = some top.toList := by
        rw [wildcard?_eq_some, String.toList_append]
        rfl
      rw [htop] at hwildcard
      cases hwildcard
    rw [mimeMatches, hwildcard, equalsIgnoringCase_iff]
    constructor
    · exact .whole hwhole
    · intro h
      cases h with
      | any => exact absurd rfl (hwhole "*")
      | family => exact absurd rfl (hwhole _)
      | whole _ hcase => exact hcase
  | some top =>
    obtain ⟨top, rfl⟩ : ∃ text : String, text.toList = top := ⟨.ofList top, String.toList_ofList⟩
    have hpattern : pattern = top ++ "/*" := by
      rw [← String.toList_inj, wildcard?_eq_some.1 hwildcard, String.toList_append]
      rfl
    -- A pattern that ends in a wildcard covers a family, and `*/*` covers everything.
    rw [hpattern, covers_wildcard_iff]
    by_cases hstar : top = "*"
    · subst hstar
      exact iff_of_true rfl (.inl rfl)
    · have hne : top.toList ≠ ['*'] := fun h => hstar (String.toList_inj.1 h)
      rw [← hpattern, mimeMatches_eq_of_wildcard hwildcard hne, any_family_iff, or_iff_right hstar]

/-! ### Case does not count -/

namespace SameButCase

theorem symm (h : SameButCase s t) : SameButCase t s :=
  sameButCase_iff.2 (sameButCase_iff.1 h).symm

theorem trans {u : String} (h : SameButCase s t) (h' : SameButCase t u) : SameButCase s u :=
  sameButCase_iff.2 ((sameButCase_iff.1 h).trans (sameButCase_iff.1 h'))

/-- Only the empty text is the same as the empty one. -/
theorem eq_empty_iff (h : SameButCase s t) : s = "" ↔ t = "" := by
  have hlength := List.Forall₂.length_eq h
  rw [← String.toList_eq_nil_iff, ← String.toList_eq_nil_iff, ← List.length_eq_zero_iff, hlength,
    List.length_eq_zero_iff]

/-- A character that is no letter is in both texts or in neither. -/
theorem mem_iff (h : SameButCase s t) {mark : Char} (hmark : mark.isAlpha = false) :
    mark ∈ s.toList ↔ mark ∈ t.toList := by
  have hlower (u : String) : mark ∈ u.toList ↔ mark ∈ u.toList.map Char.toLower := by
    simp only [List.mem_map, toLower_eq_iff hmark, exists_eq_right]
  rw [hlower s, hlower t, sameButCase_iff.1 h]

/-- A text without letters is written in one way only. -/
theorem eq_of_marks (h : SameButCase s t) (hmarks : s.toList.any Char.isAlpha = false) : s = t := by
  have hlower := sameButCase_iff.1 h
  have hmark (c : Char) (hc : c ∈ s.toList) : c.isAlpha = false := by
    simpa using List.any_eq_false.1 hmarks c hc
  have hs : s.toList.map Char.toLower = s.toList :=
    (List.map_congr_left fun c hc => (toLower_eq_iff (hmark c hc)).2 rfl).trans (List.map_id _)
  have ht : t.toList.map Char.toLower = t.toList := by
    refine (List.map_congr_left fun c hc => ?_).trans (List.map_id _)
    have hmem : c.toLower ∈ s.toList := by
      rw [← hs, hlower]
      exact List.mem_map_of_mem hc
    exact ((toLower_eq_iff (hmark _ hmem)).1 rfl).symm
  rw [← String.toList_inj, ← hs, hlower, ht]

/-- What is written in another case has its parts in the same places. -/
theorem exists_append {front back : String} (h : SameButCase s (front ++ back)) :
    ∃ front' back', s = front' ++ back' ∧ SameButCase front' front ∧ SameButCase back' back := by
  unfold SameButCase at *
  rw [String.toList_append] at h
  refine ⟨.ofList (s.toList.take front.toList.length), .ofList (s.toList.drop front.toList.length),
    ?_, ?_, ?_⟩
  · rw [← String.ofList_append, List.take_append_drop, String.ofList_toList]
  · rw [String.toList_ofList]
    exact List.forall₂_take_append _ _ _ h
  · rw [String.toList_ofList]
    exact List.forall₂_drop_append _ _ _ h

end SameButCase

/-- A pattern covers the same in every case, since its marks stay where they are. -/
theorem Covers.of_sameButCase (h : Covers pattern mimeType)
    (hpattern : SameButCase pattern' pattern)
    (hmimeType : SameButCase mimeType' mimeType) : Covers pattern' mimeType' := by
  -- The marks of a wildcard have no case, so they are the same in both patterns.
  have hwildcard : "/*".toList.any Char.isAlpha = false := by decide
  cases h with
  | any =>
    rw [← hpattern.symm.eq_of_marks (by decide)]
    exact .any
  | family hkind hcase =>
    obtain ⟨top', mark', rfl, htop, hmark⟩ := hpattern.exists_append
    obtain ⟨front', rest', rfl, hfront, -⟩ := hmimeType.exists_append
    obtain ⟨kind', slash', rfl, hkind', hslash'⟩ := hfront.exists_append
    rw [← hmark.symm.eq_of_marks hwildcard, ← hslash'.symm.eq_of_marks (by decide)]
    refine .family ?_ ((hkind'.trans hcase).trans htop.symm)
    rwa [hkind'.mem_iff (by decide)]
  | whole hwhole hcase =>
    refine .whole ?_ ((hpattern.trans hcase).trans hmimeType.symm)
    rintro top' rfl
    obtain ⟨top, mark, rfl, -, hmark⟩ := hpattern.symm.exists_append
    exact hwhole top (by rw [← hmark.symm.eq_of_marks hwildcard])

/-- **Case does not count**, neither in a pattern nor in a MIME type. -/
theorem covers_congr (hpattern : SameButCase pattern pattern')
    (hmimeType : SameButCase mimeType mimeType') :
    Covers pattern mimeType ↔ Covers pattern' mimeType' :=
  ⟨fun h => h.of_sameButCase hpattern.symm hmimeType.symm,
    fun h => h.of_sameButCase hpattern hmimeType⟩

end Lexicon
