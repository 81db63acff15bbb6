import Lexicon.Identifier.AtUri
import Lexicon.Proofs.Identifier.Label

namespace Lexicon

open Lexicon.Text
open scoped Computability

/-!
# Accounts

An account is named by a handle or by a decentralized identifier.  Each of them is told in two more
ways here: by its parts, and by a pattern.

* `Handle.IsHandle`, `Handle.isValid_iff`, `Handle.mem_pattern` — two or more labels between dots;
* `Did.IsDid`, `Did.isValid_iff`, `Did.mem_pattern` — a method and what is specific to it;
* `Handle.not_isValid_of_colon` — no text is both, since all decentralized identifiers have a colon;
* `AtIdentifier.isValid_iff` — so the mark `did:` may decide which of the two is looked for;
* `AtIdentifier.accounts_are_recognised` — all this of any text.
-/

/-! ### Handles -/

namespace Handle

/-- A handle: at most 253 bytes, and at least two labels between dots, of at most 63 characters
    each, the last of which starts with a letter. -/
structure IsHandle (s : String) : Prop where
  size_le : s.utf8ByteSize ≤ 253
  two_le : 2 ≤ (s.toList.splitOn '.').length
  labels : ∀ label ∈ s.toList.splitOn '.', Label.IsLabel 63 label
  letter : ∀ label ∈ (s.toList.splitOn '.').getLast?, ∀ c ∈ label.head?, c.isAlpha = true

/-- The pattern of handles: one or more labels, each with a dot behind it, and a last one that
    starts with a letter. -/
def pattern : Language Char :=
  atLeastOnce (Label.pattern Char.isAlphanum 61 * {['.']}) * Label.pattern Char.isAlpha 61

variable {s : String} {cs : List Char}

/-- Handles are texts of two labels or more, the last of which starts with a letter. -/
theorem isValid_iff : isValid s = true ↔ IsHandle s := by
  unfold isValid areLabels maxBytes maxLabel
  rw [splitOn_eq_splitOn]
  simp only [Bool.and_eq_true, decide_eq_true_eq, List.all_eq_true, Label.any_eq_true_iff,
    Label.startsWithLetter, Label.isValid_iff, ne_eq, List.getLast?_eq_none_iff]
  constructor
  · rintro ⟨hsize, ⟨hlength, hlabels⟩, -, hletter⟩
    exact ⟨hsize, hlength, hlabels, fun label hlabel => (hletter label hlabel).2⟩
  · rintro ⟨hsize, hlength, hlabels, hletter⟩
    refine ⟨hsize, ⟨hlength, hlabels⟩, List.splitOn_ne_nil _ _, fun label hlabel => ⟨?_, ?_⟩⟩
    · have hlast := hlabels label (List.mem_of_getLast? hlabel)
      have hne := List.length_pos_iff.1 hlast.length_pos
      exact mt List.head?_eq_none_iff.1 hne
    · exact hletter label hlabel

/-- The handles, their length apart, are the texts of the pattern. -/
theorem mem_pattern : cs ∈ pattern ↔ 2 ≤ (cs.splitOn '.').length ∧
    (∀ label ∈ cs.splitOn '.', Label.IsLabel 63 label) ∧
    ∀ label ∈ (cs.splitOn '.').getLast?, ∀ c ∈ label.head?, c.isAlpha = true := by
  have halpha (c : Char) (hc : c.isAlpha = true) : c.isAlphanum = true := by
    rw [Char.isAlphanum, hc, Bool.true_or]
  have hdot {start : Char → Bool} (hstart : ∀ c, start c = true → c.isAlphanum = true)
      (label : List Char) (hlabel : label ∈ Label.pattern start 61) : '.' ∉ label :=
    ((Label.mem_pattern hstart).1 hlabel).1.not_mem (by decide) (by decide)
  unfold pattern
  -- The labels of the pattern have no dot in them, so its dots are where the text is cut.
  rw [mem_separated (hdot fun _ hc => hc) (hdot halpha), splitOn_eq_splitOn]
  simp only [Label.mem_pattern fun _ hc => hc, Label.mem_pattern halpha]
  constructor
  · rintro ⟨labels, last, hsplit, hne, hlabels, hlast, hletter⟩
    rw [hsplit]
    refine ⟨?_, ?_, ?_⟩
    · have hpos := List.length_pos_iff.2 hne
      rw [List.length_append, List.length_singleton]
      omega
    · exact List.forall_mem_append.2 ⟨fun label hlabel => (hlabels label hlabel).1, by simpa⟩
    · rw [List.getLast?_concat]
      simpa using hletter
  · rintro ⟨htwo, hlabels, hletter⟩
    obtain hnil | ⟨labels, last, hsplit⟩ := List.eq_nil_or_concat (cs.splitOn '.')
    · exact absurd hnil (List.splitOn_ne_nil _ _)
    rw [List.concat_eq_append] at hsplit
    rw [hsplit] at htwo hlabels hletter
    rw [List.forall_mem_append] at hlabels
    refine ⟨labels, last, hsplit, ?_, fun label hlabel => ?_, ?_⟩
    · rintro rfl
      simp at htwo
    · exact ⟨hlabels.1 label hlabel, (hlabels.1 label hlabel).first⟩
    · exact ⟨hlabels.2 last List.mem_cons_self, hletter last List.getLast?_concat⟩

/-- The characters of a handle are dots and label characters. -/
theorem eq_dot_or_isLabelChar (h : isValid s = true) {c : Char} (hc : c ∈ s.toList) :
    c = '.' ∨ Label.isLabelChar c = true := by
  refine (eq_sep_or_mem_piece hc).imp_right ?_
  rintro ⟨label, hlabel, hc⟩
  rw [splitOn_eq_splitOn] at hlabel
  exact Label.isLabelChar_iff.2 (((isValid_iff.1 h).labels label hlabel).chars c hc)

/-- A character that is in no label, and no dot, is in no handle. -/
theorem not_mem_of_isValid (h : isValid s = true) {c : Char} (hdot : c ≠ '.')
    (hc : Label.isLabelChar c = false) : c ∉ s.toList := by
  intro hmem
  rcases eq_dot_or_isLabelChar h hmem with rfl | hlabel
  · exact hdot rfl
  · rw [hc] at hlabel
    cases hlabel

end Handle

/-! ### Decentralized identifiers -/

namespace Did

/-- A decentralized identifier: at most 8192 bytes, which are `did:`, a method of lower-case letters,
    a colon, and a specific part that ends in neither a colon nor a percent sign. -/
structure IsDid (s : String) : Prop where
  size_le : s.utf8ByteSize ≤ 8192
  parts : ∃ method specific : String, s = "did:" ++ method ++ ":" ++ specific ∧
    method ≠ "" ∧ (∀ c ∈ method.toList, c.isLower = true) ∧
    specific ≠ "" ∧
    (∀ c ∈ specific.toList, c.isAlphanum = true ∨ c ∈ ['.', '_', ':', '%', '-']) ∧
    ∀ c ∈ specific.toList.getLast?, c ≠ ':' ∧ c ≠ '%'

/-- The pattern of decentralized identifiers. -/
def pattern : Language Char :=
  {scheme} * atLeastOnce (one isMethodChar) * {[':']} * (one isSpecificChar)∗ * one isFinalChar

variable {s : String} {cs method specific : List Char}

theorem isSpecificChar_iff {c : Char} :
    isSpecificChar c = true ↔ c.isAlphanum = true ∨ c ∈ ['.', '_', ':', '%', '-'] := by
  simp only [isSpecificChar, isFinalChar, Bool.or_eq_true, beq_iff_eq, List.mem_cons,
    List.not_mem_nil, or_false]
  tauto

/-- The specific part may end in any of its characters but the colon and the percent sign. -/
theorem isFinalChar_iff_of_isSpecificChar {c : Char} (h : isSpecificChar c = true) :
    isFinalChar c = true ↔ c ≠ ':' ∧ c ≠ '%' := by
  constructor
  · intro hfinal
    constructor
    · rintro rfl
      revert hfinal
      decide
    · rintro rfl
      revert hfinal
      decide
  · rintro ⟨hcolon, hpercent⟩
    simpa [isSpecificChar, hcolon, hpercent] using h

/-- The specific part of an identifier is checked character by character, and once more at its
    end. -/
theorem isSpecific_iff : isSpecific specific = true ↔
    specific ≠ [] ∧ (∀ c ∈ specific, isSpecificChar c = true) ∧
      ∀ c ∈ specific.getLast?, c ≠ ':' ∧ c ≠ '%' := by
  unfold isSpecific
  simp only [Bool.and_eq_true, List.all_eq_true, Label.any_eq_true_iff, ne_eq,
    List.getLast?_eq_none_iff]
  constructor
  · rintro ⟨hchars, hne, hfinal⟩
    refine ⟨hne, hchars, fun c hc => ?_⟩
    exact (isFinalChar_iff_of_isSpecificChar (hchars c (List.mem_of_getLast? hc))).1 (hfinal c hc)
  · rintro ⟨hne, hchars, hfinal⟩
    refine ⟨hchars, hne, fun c hc => ?_⟩
    exact (isFinalChar_iff_of_isSpecificChar (hchars c (List.mem_of_getLast? hc))).2 (hfinal c hc)

/-- A method has no colon, so the first one is behind it. -/
theorem isBody_iff : isBody cs = true ↔ ∃ method specific, cs = method ++ ':' :: specific ∧
    method ≠ [] ∧ (∀ c ∈ method, isMethodChar c = true) ∧ isSpecific specific = true := by
  unfold isBody
  constructor
  · intro h
    cases hcut : cutAt? ':' cs with
    | none =>
      rw [hcut] at h
      cases h
    | some parts =>
      obtain ⟨method, specific⟩ := parts
      rw [hcut] at h
      simp only [Bool.and_eq_true, Bool.not_eq_true', List.isEmpty_eq_false_iff,
        List.all_eq_true] at h
      exact ⟨method, specific, eq_append_of_cutAt? hcut, h.1.1, h.1.2, h.2⟩
  · rintro ⟨method, specific, rfl, hne, hmethod, hspecific⟩
    -- A method consists of small letters.
    have hcolon : ':' ∉ method := by
      intro hmem
      have hlower := hmethod ':' hmem
      revert hlower
      decide
    rw [cutAt?_append_cons hcolon]
    simp only [Bool.and_eq_true, Bool.not_eq_true', List.isEmpty_eq_false_iff, List.all_eq_true]
    exact ⟨⟨hne, hmethod⟩, hspecific⟩

/-- The pattern takes the last character by itself, which cannot be a colon or a percent sign. -/
theorem mem_specific :
    specific ∈ (one isSpecificChar)∗ * one isFinalChar ↔ isSpecific specific = true := by
  rw [isSpecific_iff, Language.mem_mul]
  constructor
  · rintro ⟨front, hfront, _, ⟨c, hc, rfl⟩, rfl⟩
    have hspecific : isSpecificChar c = true := by
      rw [isSpecificChar, hc, Bool.true_or, Bool.true_or]
    refine ⟨by simp, ?_, ?_⟩
    · exact List.forall_mem_append.2 ⟨mem_kstar_one.1 hfront, by simpa⟩
    · rw [List.getLast?_concat]
      simpa using (isFinalChar_iff_of_isSpecificChar hspecific).1 hc
  · rintro ⟨hne, hchars, hfinal⟩
    obtain rfl | ⟨front, c, rfl⟩ := List.eq_nil_or_concat specific
    · exact absurd rfl hne
    rw [List.concat_eq_append] at *
    rw [List.forall_mem_append] at hchars
    have hc : isSpecificChar c = true := hchars.2 c List.mem_cons_self
    -- The last character of the pattern is that of the text.
    have hend := (isFinalChar_iff_of_isSpecificChar hc).2 (hfinal c List.getLast?_concat)
    exact ⟨front, mem_kstar_one.2 hchars.1, [c], mem_one_singleton.2 hend, rfl⟩

/-- The decentralized identifiers, their length apart, are the texts of the pattern. -/
theorem mem_pattern : cs ∈ pattern ↔ ∃ rest, cs = scheme ++ rest ∧ isBody rest = true := by
  unfold pattern
  simp only [mul_assoc, isBody_iff]
  constructor
  · intro h
    obtain ⟨_, rfl, rest, hrest, rfl⟩ := Language.mem_mul.1 h
    obtain ⟨method, hmethod, _, hbehind, rfl⟩ := Language.mem_mul.1 hrest
    obtain ⟨_, rfl, specific, hspecific, rfl⟩ := Language.mem_mul.1 hbehind
    obtain ⟨hne, hchars⟩ := mem_atLeastOnce_one.1 hmethod
    exact ⟨_, rfl, method, specific, rfl, hne, hchars, mem_specific.1 hspecific⟩
  · rintro ⟨_, rfl, method, specific, rfl, hne, hchars, hspecific⟩
    have hbehind : ':' :: specific ∈ {[':']} * ((one isSpecificChar)∗ * one isFinalChar) :=
      Language.mem_mul.2 ⟨[':'], rfl, specific, mem_specific.2 hspecific, rfl⟩
    exact Language.append_mem_mul rfl
      (Language.append_mem_mul (mem_atLeastOnce_one.2 ⟨hne, hchars⟩) hbehind)

/-- A valid DID has its scheme in front of a body, in 8192 bytes at most. -/
theorem isValid_iff_exists : isValid s = true ↔
    s.utf8ByteSize ≤ 8192 ∧ ∃ rest, s.toList = scheme ++ rest ∧ isBody rest = true := by
  unfold isValid maxBytes
  rw [Bool.and_eq_true, decide_eq_true_eq, any_dropStart?_iff]

/-- The text of a DID is the scheme, the method, a colon and what is specific to the method. -/
theorem toList_parts (method specific : String) :
    ("did:" ++ method ++ ":" ++ specific).toList =
      scheme ++ (method.toList ++ ':' :: specific.toList) := by
  simp only [String.toList_append, List.append_assoc]
  rfl

/-- Decentralized identifiers are texts of a method and a specific part. -/
theorem isValid_iff : isValid s = true ↔ IsDid s := by
  rw [isValid_iff_exists]
  simp only [isBody_iff, isSpecific_iff, isSpecificChar_iff]
  constructor
  · rintro ⟨hsize, rest, hs, method, specific, rfl, hmethod, hlower, hspecific, hchars, hfinal⟩
    refine ⟨hsize, .ofList method, .ofList specific, ?_, ?_, ?_, ?_, ?_, ?_⟩
    · rw [← String.toList_inj, toList_parts, String.toList_ofList, String.toList_ofList, hs]
    · rwa [ne_eq, ← String.toList_eq_nil_iff, String.toList_ofList]
    · rwa [String.toList_ofList]
    · rwa [ne_eq, ← String.toList_eq_nil_iff, String.toList_ofList]
    · rwa [String.toList_ofList]
    · rwa [String.toList_ofList]
  · rintro ⟨hsize, method, specific, rfl, hmethod, hlower, hspecific, hchars, hfinal⟩
    rw [ne_eq, ← String.toList_eq_nil_iff] at hmethod hspecific
    exact ⟨hsize, _, toList_parts method specific, _, _, rfl, hmethod, hlower, hspecific, hchars,
      hfinal⟩

/-- The colon of the mark is in every decentralized identifier. -/
theorem colon_mem_of_hasScheme (h : hasScheme s = true) : ':' ∈ s.toList := by
  obtain ⟨rest, hrest⟩ := Option.isSome_iff_exists.1 h
  rw [eq_append_of_dropStart? hrest]
  exact List.mem_append_left _ (by decide)

/-- Every valid DID starts with the scheme, by which an account is told to be one. -/
theorem hasScheme_of_isValid (h : isValid s = true) : hasScheme s = true := by
  obtain ⟨-, rest, hrest, -⟩ := isValid_iff_exists.1 h
  rw [hasScheme, hrest, dropStart?_append, Option.isSome_some]

end Did

/-! ### Either of the two -/

/-- A handle has no colon, and so no handle is a DID. -/
theorem Handle.not_isValid_of_colon {s : String} (h : ':' ∈ s.toList) : Handle.isValid s = false := by
  rw [Bool.eq_false_iff]
  exact fun hvalid => Handle.not_mem_of_isValid hvalid (by decide) (by decide) h

namespace AtIdentifier

/-- The mark `did:` is in front of no handle, and of every decentralized identifier, so that it may
    decide which of the two a text has to be. -/
theorem isValid_iff {s : String} :
    isValid s = true ↔ Handle.isValid s = true ∨ Did.isValid s = true := by
  unfold isValid
  by_cases hscheme : Did.hasScheme s
  · rw [if_pos hscheme, Handle.not_isValid_of_colon (Did.colon_mem_of_hasScheme hscheme)]
    simp
  · have hdid : Did.isValid s = false := Bool.eq_false_iff.2 (mt Did.hasScheme_of_isValid hscheme)
    rw [if_neg hscheme, hdid]
    simp

/-- **Accounts are recognised exactly.**  A text is recognised as a handle iff it has the parts of
    one, and also iff it is short enough and fits the pattern of handles; likewise for decentralized
    identifiers.  No text is both, and one that is either names an account, and no other does. -/
theorem accounts_are_recognised (s : String) :
    (Handle.isValid s = true ↔ Handle.IsHandle s) ∧
    (Handle.isValid s = true ↔ s.utf8ByteSize ≤ 253 ∧ s.toList ∈ Handle.pattern) ∧
    (Did.isValid s = true ↔ Did.IsDid s) ∧
    (Did.isValid s = true ↔ s.utf8ByteSize ≤ 8192 ∧ s.toList ∈ Did.pattern) ∧
    ¬ (Handle.isValid s = true ∧ Did.isValid s = true) ∧
    (isValid s = true ↔ Handle.isValid s = true ∨ Did.isValid s = true) := by
  refine ⟨Handle.isValid_iff, ?_, Did.isValid_iff, ?_, ?_, isValid_iff⟩
  · rw [Handle.isValid_iff, Handle.mem_pattern]
    constructor
    · rintro ⟨hsize, htwo, hlabels, hletter⟩
      exact ⟨hsize, htwo, hlabels, hletter⟩
    · rintro ⟨hsize, htwo, hlabels, hletter⟩
      exact ⟨hsize, htwo, hlabels, hletter⟩
  · rw [Did.isValid_iff_exists, Did.mem_pattern]
  · -- The mark of an identifier has a colon, and no handle does.
    rintro ⟨hhandle, hdid⟩
    have hcolon := Did.colon_mem_of_hasScheme (Did.hasScheme_of_isValid hdid)
    rw [Handle.not_isValid_of_colon hcolon] at hhandle
    cases hhandle

end AtIdentifier

end Lexicon
