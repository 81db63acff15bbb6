import Lexicon.Proofs.LanguageTag.Parts

namespace Lexicon.LanguageTag

open Lexicon.Text
open scoped Computability

/-!
# The pattern of language tags

* `pattern` — the grammar of tags as one pattern of characters, with the hyphens in front of all
  subtags but the first;
* `mem_languagePattern`, …, `mem_tagPattern` — each part of the pattern takes a part of a tag;
* `splitOn_eq_subtags_iff` — cutting at the hyphens finds the subtags;
* `tags_are_recognised` — what is recognised are the listed tags, and those of the grammar, by their
  subtags as well as by their characters.
-/

/-- The pattern of letters. -/
def letters (low high : Nat) : Language Char :=
  between low high (one Char.isAlpha)

/-- The pattern of letters and digits. -/
def alphanums (low high : Nat) : Language Char :=
  between low high (one Char.isAlphanum)

/-- The characters that open an extension. -/
def isSingletonChar (c : Char) : Bool :=
  c.isDigit || ('A' ≤ c && c ≤ 'W') || ('Y' ≤ c && c ≤ 'Z') || ('a' ≤ c && c ≤ 'w') ||
    ('y' ≤ c && c ≤ 'z')

/-- The pattern of the extended languages behind a short one. -/
def extendedPattern : Language Char :=
  maybe ({['-']} * (letters 3 3 * upTo 2 ({['-']} * letters 3 3)))

/-- The pattern of a language. -/
def languagePattern : Language Char :=
  letters 2 3 * extendedPattern + letters 4 4 + letters 5 8

/-- The pattern of a region. -/
def regionPattern : Language Char :=
  letters 2 2 + between 3 3 (one Char.isDigit)

/-- The pattern of a variant. -/
def variantPattern : Language Char :=
  alphanums 5 8 + one Char.isDigit * alphanums 3 3

/-- The pattern of an extension. -/
def extensionPattern : Language Char :=
  one isSingletonChar * atLeastOnce ({['-']} * alphanums 2 8)

/-- The pattern of a part for private use. -/
def privatePattern : Language Char :=
  {['x']} * atLeastOnce ({['-']} * alphanums 1 8)

/-- The pattern of the tags that have a language. -/
def tagPattern : Language Char :=
  languagePattern * maybe ({['-']} * letters 4 4) * maybe ({['-']} * regionPattern) *
    ({['-']} * variantPattern)∗ * ({['-']} * extensionPattern)∗ * maybe ({['-']} * privatePattern)

/-- The tags that are listed. -/
def listedPattern : Language Char :=
  {cs | ∃ tag ∈ grandfathered, cs = tag.toList}

/-- The pattern of all tags. -/
def pattern : Language Char :=
  listedPattern + tagPattern + privatePattern

variable {cs : List Char} {t : Subtag} {ts : List Subtag} {low high : Nat}

/-! ### Single subtags -/

theorem mem_letters (h : low ≤ high) : t ∈ letters low high ↔ Consists Char.isAlpha low high t :=
  mem_between_one h

theorem mem_alphanums (h : low ≤ high) :
    t ∈ alphanums low high ↔ Consists Char.isAlphanum low high t :=
  mem_between_one h

theorem mem_regionPattern : t ∈ regionPattern ↔ IsRegion t := by
  rw [regionPattern, Language.mem_add, mem_letters le_rfl, mem_between_one le_rfl]
  rfl

/-- The pattern of a variant describes variants. -/
theorem mem_variantPattern : t ∈ variantPattern ↔ IsVariant t := by
  rw [variantPattern, Language.mem_add, mem_alphanums (by decide)]
  refine or_congr_right ?_
  constructor
  · rintro ⟨_, ⟨c, hc, rfl⟩, cs, hcs, rfl⟩
    exact ⟨c, cs, rfl, hc, (mem_alphanums le_rfl).1 hcs⟩
  · rintro ⟨c, cs, rfl, hc, hcs⟩
    exact ⟨[c], ⟨c, hc, rfl⟩, cs, (mem_alphanums le_rfl).2 hcs, rfl⟩

/-- The characters that introduce extensions are letters and digits but for `x`, small or large. -/
theorem isSingletonChar_iff {c : Char} :
    isSingletonChar c = true ↔ c.isAlphanum = true ∧ c ≠ 'x' ∧ c ≠ 'X' := by
  have hsmall : c = 'x' ↔ c.toNat = 120 := Char.toNat_inj.symm
  have hlarge : c = 'X' ↔ c.toNat = 88 := Char.toNat_inj.symm
  simp only [isSingletonChar, Char.isAlphanum, isAlpha_iff_toNat, Char.isDigit_iff_toNat,
    Bool.or_eq_true, Bool.and_eq_true, decide_eq_true_eq, Char.le_def, UInt32.le_iff_toNat_le,
    ne_eq, hsmall, hlarge, Char.reduceVal, UInt32.reduceToNat, Char.reduceToNat, Char.toNat_val]
  omega

/-- One such character is a singleton. -/
theorem mem_one_isSingletonChar : t ∈ one isSingletonChar ↔ isSingleton t = true := by
  rw [isSingleton_iff, consists_self]
  constructor
  · rintro ⟨c, hc, rfl⟩
    obtain ⟨halphanum, hsmall, hlarge⟩ := isSingletonChar_iff.1 hc
    refine ⟨⟨rfl, List.forall_mem_singleton.2 halphanum⟩, ?_, ?_⟩
    · exact fun h => hsmall (List.singleton_inj.1 h)
    · exact fun h => hlarge (List.singleton_inj.1 h)
  · rintro ⟨⟨hlength, hchars⟩, hsmall, hlarge⟩
    obtain ⟨c, rfl⟩ := List.length_eq_one_iff.1 hlength
    refine mem_one_singleton.2 (isSingletonChar_iff.2 ⟨hchars c List.mem_cons_self, ?_, ?_⟩)
    · exact fun h => hsmall (congrArg (fun c => [c]) h)
    · exact fun h => hlarge (congrArg (fun c => [c]) h)

/-! ### Parts -/

/-- The pattern of extended languages allows three at most, a hyphen before each. -/
theorem mem_extendedPattern : cs ∈ extendedPattern ↔
    ∃ extended : List Subtag, extended.length ≤ 3 ∧ (∀ t ∈ extended, Consists Char.isAlpha 3 3 t) ∧
      cs = behind '-' extended := by
  unfold extendedPattern
  rw [mem_maybe_behind]
  constructor
  · rintro ⟨_ | piece, hpiece, rfl⟩
    · exact ⟨[], by decide, by simp, rfl⟩
    · -- The first one is by itself in the pattern, and up to two follow.
      obtain ⟨first, hfirst, more, hmore, rfl⟩ := hpiece piece rfl
      obtain ⟨others, hlength, hothers, rfl⟩ := mem_upTo_behind.1 hmore
      refine ⟨first :: others, Nat.succ_le_succ hlength, List.forall_mem_cons.2 ⟨?_, ?_⟩, by simp⟩
      · exact (mem_letters le_rfl).1 hfirst
      · exact fun t ht => (mem_letters le_rfl).1 (hothers t ht)
  · rintro ⟨_ | ⟨first, others⟩, hlength, hextended, rfl⟩
    · exact ⟨none, by simp, rfl⟩
    · obtain ⟨hfirst, hothers⟩ := List.forall_mem_cons.1 hextended
      refine ⟨some (first ++ behind '-' others), ?_, by simp⟩
      rintro _ ⟨⟩
      refine Language.append_mem_mul ((mem_letters le_rfl).2 hfirst) (mem_upTo_behind.2 ?_)
      exact ⟨others, Nat.le_of_succ_le_succ hlength,
        fun t ht => (mem_letters le_rfl).2 (hothers t ht), rfl⟩

/-- Only a language of two or three letters has extended languages. -/
theorem mem_languagePattern : cs ∈ languagePattern ↔
    ∃ language extended, IsLanguage language extended ∧ cs = language ++ behind '-' extended := by
  unfold languagePattern
  rw [Language.mem_add, Language.mem_add, mem_letters le_rfl, mem_letters (by decide)]
  constructor
  · rintro ((⟨language, hlanguage, _, hmore, rfl⟩ | hfour) | hlong)
    · obtain ⟨extended, hlength, hextended, rfl⟩ := mem_extendedPattern.1 hmore
      have hshort := (mem_letters (by decide)).1 hlanguage
      exact ⟨language, extended, .inl ⟨hshort, hlength, hextended⟩, rfl⟩
    · exact ⟨cs, [], .inr ⟨⟨hfour.1, hfour.2.1.trans (by decide), hfour.2.2⟩, rfl⟩, by simp⟩
    · exact ⟨cs, [], .inr ⟨⟨hlong.1.trans' (by decide), hlong.2⟩, rfl⟩, by simp⟩
  · rintro ⟨language, extended, ⟨hshort, hlength, hextended⟩ | ⟨⟨hlow, hhigh, hchars⟩, rfl⟩, rfl⟩
    · have hmore := mem_extendedPattern.2 ⟨extended, hlength, hextended, rfl⟩
      exact .inl (.inl (Language.append_mem_mul ((mem_letters (by decide)).2 hshort) hmore))
    · rw [behind_nil, List.append_nil]
      -- The pattern lists four letters apart from five to eight.
      rcases Nat.eq_or_lt_of_le hlow with hfour | hlong
      · exact .inl (.inr ⟨hlow, hfour.ge, hchars⟩)
      · exact .inr ⟨hlong, hhigh, hchars⟩

/-- What follows the character that opens an extension, or a part for private use. -/
theorem mem_atLeastOnce_alphanums (h : low ≤ high) :
    cs ∈ atLeastOnce ({['-']} * alphanums low high) ↔ ∃ parts : List Subtag, parts ≠ [] ∧
      (∀ t ∈ parts, Consists Char.isAlphanum low high t) ∧ cs = behind '-' parts := by
  rw [mem_atLeastOnce_behind]
  simp only [mem_alphanums h]

/-- An extension is a singleton with parts behind it, a hyphen before each. -/
theorem mem_extensionPattern : cs ∈ extensionPattern ↔
    ∃ e : Extension, e.IsWellFormed ∧ cs = e.single ++ behind '-' e.parts := by
  unfold extensionPattern
  rw [Language.mem_mul]
  simp only [Extension.isWellFormed_iff, isExtensionPart, isAlphanums_iff]
  constructor
  · rintro ⟨single, hsingle, more, hmore, rfl⟩
    obtain ⟨parts, hne, hparts, rfl⟩ := (mem_atLeastOnce_alphanums (by decide)).1 hmore
    exact ⟨⟨single, parts⟩, ⟨mem_one_isSingletonChar.1 hsingle, hne, hparts⟩, rfl⟩
  · rintro ⟨⟨single, parts⟩, ⟨hsingle, hne, hparts⟩, rfl⟩
    have hmore := (mem_atLeastOnce_alphanums (by decide)).2 ⟨parts, hne, hparts, rfl⟩
    exact ⟨single, mem_one_isSingletonChar.2 hsingle, _, hmore, rfl⟩

/-- Extensions, any number of them. -/
theorem mem_kstar_extensionPattern : cs ∈ ({['-']} * extensionPattern)∗ ↔
    ∃ extensions : List Extension, (∀ e ∈ extensions, e.IsWellFormed) ∧
      cs = behind '-' (extensions.flatMap Extension.subtags) := by
  rw [mem_kstar_behind]
  constructor
  · rintro ⟨pieces, hpieces, rfl⟩
    induction pieces with
    | nil => exact ⟨[], by simp, rfl⟩
    | cons piece pieces ih =>
      obtain ⟨hpiece, hothers⟩ := List.forall_mem_cons.1 hpieces
      obtain ⟨e, he, rfl⟩ := mem_extensionPattern.1 hpiece
      obtain ⟨extensions, hextensions, heq⟩ := ih hothers
      refine ⟨e :: extensions, List.forall_mem_cons.2 ⟨he, hextensions⟩, ?_⟩
      simp [heq, Extension.subtags]
  · rintro ⟨extensions, hextensions, rfl⟩
    -- Each extension is a piece of its own, singleton and parts together.
    refine ⟨extensions.map fun e => e.single ++ behind '-' e.parts, ?_, ?_⟩
    · intro piece hpiece
      obtain ⟨e, he, rfl⟩ := List.mem_map.1 hpiece
      exact mem_extensionPattern.2 ⟨e, hextensions e he, rfl⟩
    · induction extensions with
      | nil => rfl
      | cons e extensions ih =>
        have hrest := ih (List.forall_mem_cons.1 hextensions).2
        simp [hrest, Extension.subtags]

/-- The private use is an `x` with parts behind it, a hyphen before each. -/
theorem mem_privatePattern : cs ∈ privatePattern ↔
    ∃ parts : List Subtag, parts ≠ [] ∧ (∀ t ∈ parts, Consists Char.isAlphanum 1 8 t) ∧
      cs = ['x'] ++ behind '-' parts := by
  unfold privatePattern
  constructor
  · rintro ⟨_, rfl, more, hmore, rfl⟩
    obtain ⟨parts, hne, hparts, rfl⟩ := (mem_atLeastOnce_alphanums (by decide)).1 hmore
    exact ⟨parts, hne, hparts, rfl⟩
  · rintro ⟨parts, hne, hparts, rfl⟩
    have hmore := (mem_atLeastOnce_alphanums (by decide)).2 ⟨parts, hne, hparts, rfl⟩
    exact ⟨['x'], rfl, _, hmore, rfl⟩

/-- A part for private use, which may be missing. -/
theorem mem_maybe_privatePattern : cs ∈ maybe ({['-']} * privatePattern) ↔
    ∃ ts : List Subtag, (ts = [] ∨ IsPrivateUse ts) ∧ cs = behind '-' ts := by
  rw [mem_maybe_behind]
  constructor
  · rintro ⟨_ | piece, hpiece, rfl⟩
    · exact ⟨[], .inl rfl, rfl⟩
    · obtain ⟨parts, hne, hparts, rfl⟩ := mem_privatePattern.1 (hpiece piece rfl)
      exact ⟨['x'] :: parts, .inr ⟨parts, hne, hparts, rfl⟩, by simp⟩
  · rintro ⟨_, rfl | ⟨parts, hne, hparts, rfl⟩, rfl⟩
    · exact ⟨none, by simp, rfl⟩
    · refine ⟨some (['x'] ++ behind '-' parts), ?_, by simp⟩
      rintro _ ⟨⟩
      exact mem_privatePattern.2 ⟨parts, hne, hparts, rfl⟩

/-! ### Whole tags -/

/-- Tags that have a language are the text of well-formed parts. -/
theorem mem_tagPattern : cs ∈ tagPattern ↔
    ∃ parts : Parts, parts.IsWellFormed ∧ cs = parts.language ++ behind '-' parts.rest := by
  unfold tagPattern
  constructor
  · rintro ⟨_, ⟨_, ⟨_, ⟨_, ⟨_, inLanguage, _, inScript, rfl⟩, _, inRegion, rfl⟩, _, inVariants,
      rfl⟩, _, inExtensions, rfl⟩, _, inPrivate, rfl⟩
    obtain ⟨language, extended, hlanguage, rfl⟩ := mem_languagePattern.1 inLanguage
    obtain ⟨script, hscript, rfl⟩ := mem_maybe_behind.1 inScript
    obtain ⟨region, hregion, rfl⟩ := mem_maybe_behind.1 inRegion
    obtain ⟨variants, hvariants, rfl⟩ := mem_kstar_behind.1 inVariants
    obtain ⟨extensions, hextensions, rfl⟩ := mem_kstar_extensionPattern.1 inExtensions
    obtain ⟨privateUse, hprivate, rfl⟩ := mem_maybe_privatePattern.1 inPrivate
    -- Each part belongs to its piece of the pattern, behind the parts before it.
    refine ⟨⟨language, extended, script, region, variants, extensions, privateUse⟩,
      ⟨hlanguage, ?_, ?_, ?_, hextensions, hprivate⟩, by simp [Parts.rest]⟩
    · exact fun t ht => (mem_letters le_rfl).1 (hscript t ht)
    · exact fun t ht => mem_regionPattern.1 (hregion t ht)
    · exact fun t ht => mem_variantPattern.1 (hvariants t ht)
  · rintro ⟨⟨language, extended, script, region, variants, extensions, privateUse⟩,
      ⟨hlanguage, hscript, hregion, hvariants, hextensions, hprivate⟩, rfl⟩
    simp only [Parts.rest, behind_append, ← List.append_assoc]
    refine Language.append_mem_mul (Language.append_mem_mul (Language.append_mem_mul
      (Language.append_mem_mul (Language.append_mem_mul ?_ ?_) ?_) ?_) ?_) ?_
    · exact mem_languagePattern.2 ⟨language, extended, hlanguage, rfl⟩
    · exact mem_maybe_behind.2 ⟨script, fun t ht => (mem_letters le_rfl).2 (hscript t ht), rfl⟩
    · exact mem_maybe_behind.2 ⟨region, fun t ht => mem_regionPattern.2 (hregion t ht), rfl⟩
    · exact mem_kstar_behind.2 ⟨variants, fun t ht => mem_variantPattern.2 (hvariants t ht), rfl⟩
    · exact mem_kstar_extensionPattern.2 ⟨extensions, hextensions, rfl⟩
    · exact mem_maybe_privatePattern.2 ⟨privateUse, hprivate, rfl⟩

/-! ### Cutting at the hyphens -/

/-- There is no hyphen in a subtag. -/
theorem Consists.not_mem {p : Char → Bool} {c : Char} (h : Consists p low high t)
    (hc : p c = false) : c ∉ t :=
  fun hmem => Bool.false_ne_true (hc.symm.trans (h.2.2 c hmem))

/-- No hyphen stands in a language or an extended language. -/
theorem IsLanguage.not_mem {language : Subtag} {extended : List Subtag}
    (h : IsLanguage language extended) : '-' ∉ language ∧ ∀ t ∈ extended, '-' ∉ t := by
  rcases h with ⟨hshort, -, hextended⟩ | ⟨hlong, rfl⟩
  · exact ⟨hshort.not_mem (by decide), fun t ht => (hextended t ht).not_mem (by decide)⟩
  · exact ⟨hlong.not_mem (by decide), by simp⟩

theorem IsRegion.not_mem (h : IsRegion t) : '-' ∉ t :=
  h.elim (fun hletters => hletters.not_mem (by decide)) fun hdigits => hdigits.not_mem (by decide)

/-- No hyphen stands in a variant. -/
theorem IsVariant.not_mem (h : IsVariant t) : '-' ∉ t := by
  rcases h with halphanums | ⟨c, cs, rfl, hc, hcs⟩
  · exact halphanums.not_mem (by decide)
  · refine List.not_mem_cons_of_ne_of_not_mem ?_ (hcs.not_mem (by decide))
    rintro rfl
    exact absurd hc (by decide)

/-- No hyphen stands in a subtag of an extension. -/
theorem Extension.IsWellFormed.not_mem {e : Extension} (h : e.IsWellFormed) :
    ∀ t ∈ e.subtags, '-' ∉ t :=
  List.forall_mem_cons.2
    ⟨h.single.not_mem (by decide), fun t ht => (h.parts t ht).not_mem (by decide)⟩

/-- No hyphen stands in a subtag for private use. -/
theorem IsPrivateUse.not_mem (h : IsPrivateUse ts) : ∀ t ∈ ts, '-' ∉ t := by
  obtain ⟨parts, -, hparts, rfl⟩ := h
  exact List.forall_mem_cons.2 ⟨by decide, fun t ht => (hparts t ht).not_mem (by decide)⟩

/-- No hyphen stands in a subtag, so that the tag is cut into these and no others. -/
theorem Parts.IsWellFormed.not_mem {parts : Parts} (h : parts.IsWellFormed) :
    ∀ t ∈ parts.subtags, '-' ∉ t := by
  obtain ⟨hlanguage, hscript, hregion, hvariants, hextensions, hprivate⟩ := h
  simp only [Parts.subtags, Parts.rest, List.forall_mem_cons, List.forall_mem_append,
    Option.mem_toList, List.forall_mem_flatMap]
  refine ⟨hlanguage.not_mem.1, hlanguage.not_mem.2, ?_, ?_, ?_, ?_, ?_⟩
  · exact fun t ht => (hscript t ht).not_mem (by decide)
  · exact fun t ht => (hregion t ht).not_mem
  · exact fun t ht => (hvariants t ht).not_mem
  · exact fun e he => (hextensions e he).not_mem
  · exact hprivate.elim (fun hnil => by simp [hnil]) IsPrivateUse.not_mem

/-- Cutting at the hyphens finds the subtags. -/
theorem splitOn_eq_subtags_iff {parts : Parts} (h : parts.IsWellFormed) :
    cs.splitOn '-' = parts.subtags ↔ cs = parts.language ++ behind '-' parts.rest :=
  splitOn_eq_cons_iff h.not_mem

/-- A whole tag of private use is one part of private use. -/
theorem isPrivateUse_splitOn_iff : IsPrivateUse (cs.splitOn '-') ↔ cs ∈ privatePattern := by
  rw [mem_privatePattern]
  constructor
  · rintro ⟨parts, hne, hparts, hsplit⟩
    have hprivate : IsPrivateUse (['x'] :: parts) := ⟨parts, hne, hparts, rfl⟩
    exact ⟨parts, hne, hparts, (splitOn_eq_cons_iff hprivate.not_mem).1 hsplit⟩
  · rintro ⟨parts, hne, hparts, hcs⟩
    have hprivate : IsPrivateUse (['x'] :: parts) := ⟨parts, hne, hparts, rfl⟩
    exact ⟨parts, hne, hparts, (splitOn_eq_cons_iff hprivate.not_mem).2 hcs⟩

/-- A tag is one of the list, one for private use alone, or the subtags of well-formed parts. -/
theorem isValid_iff {s : String} : isValid s = true ↔
    s ∈ grandfathered ∨ IsPrivateUse (s.toList.splitOn '-') ∨
      ∃ parts : Parts, parts.IsWellFormed ∧ s.toList.splitOn '-' = parts.subtags := by
  rw [isValid, splitOn_eq_splitOn, Bool.or_eq_true, Bool.or_eq_true, List.contains_iff_mem,
    areTag_iff, isPrivateUse_iff, or_assoc, or_comm (a := Exists _)]

/-- **Language tags are recognised exactly.**  A text is recognised iff it is one of the listed
    tags, or its subtags are those of the grammar, and also iff it fits the pattern. -/
theorem tags_are_recognised (s : String) :
    (isValid s = true ↔ s ∈ grandfathered ∨ IsPrivateUse (s.toList.splitOn '-') ∨
      ∃ parts : Parts, parts.IsWellFormed ∧ s.toList.splitOn '-' = parts.subtags) ∧
    (isValid s = true ↔ s.toList ∈ pattern) := by
  refine ⟨isValid_iff, ?_⟩
  have hlisted : s ∈ grandfathered ↔ s.toList ∈ listedPattern := by
    constructor
    · exact fun hs => ⟨s, hs, rfl⟩
    · rintro ⟨tag, htag, heq⟩
      rw [String.toList_inj.1 heq]
      exact htag
  -- The subtags of a tag have no hyphen in them, so they are cut out of its text as they are.
  have htag : (∃ parts : Parts, parts.IsWellFormed ∧ s.toList.splitOn '-' = parts.subtags) ↔
      s.toList ∈ tagPattern := by
    rw [mem_tagPattern]
    exact exists_congr fun parts => and_congr_right splitOn_eq_subtags_iff
  rw [isValid_iff, pattern, Language.mem_add, Language.mem_add, hlisted, htag,
    isPrivateUse_splitOn_iff, or_assoc]
  exact or_congr_right or_comm

example : grandfathered.length = 26 := rfl

end Lexicon.LanguageTag
