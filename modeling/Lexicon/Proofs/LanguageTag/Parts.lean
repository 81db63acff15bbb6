import Lexicon.LanguageTag
import Lexicon.Proofs.Text.Sequence
import Mathlib.Data.List.TakeWhile

namespace Lexicon.LanguageTag

open Lexicon.Text

/-!
# The parts of a language tag

A tag is read part by part, and each part takes all subtags that look like its own.  Nothing is lost
by this, since no part looks like the beginning of a later one.

* `Consists` — the characters of a subtag, and their number;
* `Extension`, `IsPrivateUse`, `Parts`, `Parts.IsWellFormed` — the parts of a tag, in order;
* `isRegion_iff`, `isVariant_iff`, … — what is asked of single subtags;
* `exists_dropLanguage?`, `exists_dropOptional`, `exists_dropExtensions` — what is dropped is a
  part;
* `dropLanguage?_append`, `dropOptional_append`, `dropExtensions_append` — a part is dropped, if
  what follows does not look like it;
* `areTag_iff` — the subtags of a tag are those of well-formed parts.
-/

/-- A subtag has so many characters, all of a class. -/
def Consists (p : Char → Bool) (low high : Nat) (t : Subtag) : Prop :=
  low ≤ t.length ∧ t.length ≤ high ∧ ∀ c ∈ t, p c = true

/-- A short language may have extended languages. -/
def IsLanguage (language : Subtag) (extended : List Subtag) : Prop :=
  (Consists Char.isAlpha 2 3 language ∧ extended.length ≤ 3 ∧
    ∀ t ∈ extended, Consists Char.isAlpha 3 3 t) ∨
  (Consists Char.isAlpha 4 8 language ∧ extended = [])

/-- Two letters, or three digits. -/
def IsRegion (t : Subtag) : Prop :=
  Consists Char.isAlpha 2 2 t ∨ Consists Char.isDigit 3 3 t

/-- Five to eight letters and digits, or a digit and three of them. -/
def IsVariant (t : Subtag) : Prop :=
  Consists Char.isAlphanum 5 8 t ∨
    ∃ c cs, t = c :: cs ∧ c.isDigit = true ∧ Consists Char.isAlphanum 3 3 cs

/-- An extension: what opens it, and its parts. -/
structure Extension where
  single : Subtag
  parts : List Subtag

namespace Extension

/-- The subtags of an extension. -/
def subtags (e : Extension) : List Subtag :=
  e.single :: e.parts

/-- An extension is opened by a letter or digit other than `x`, and has at least one part. -/
structure IsWellFormed (e : Extension) : Prop where
  single : Consists Char.isAlphanum 1 1 e.single
  ne_small : e.single ≠ ['x']
  ne_large : e.single ≠ ['X']
  ne_nil : e.parts ≠ []
  parts : ∀ t ∈ e.parts, Consists Char.isAlphanum 2 8 t

end Extension

/-- Subtags for private use: a small `x`, and at least one more. -/
def IsPrivateUse (ts : List Subtag) : Prop :=
  ∃ parts, parts ≠ [] ∧ (∀ t ∈ parts, Consists Char.isAlphanum 1 8 t) ∧ ts = ['x'] :: parts

/-- The parts of a tag in order. -/
structure Parts where
  language : Subtag
  extended : List Subtag
  script : Option Subtag
  region : Option Subtag
  variants : List Subtag
  extensions : List Extension
  privateUse : List Subtag

namespace Parts

/-- The subtags behind the language. -/
def rest (parts : Parts) : List Subtag :=
  parts.extended ++ (parts.script.toList ++ (parts.region.toList ++ (parts.variants ++
    (parts.extensions.flatMap Extension.subtags ++ parts.privateUse))))

/-- All subtags of a tag. -/
def subtags (parts : Parts) : List Subtag :=
  parts.language :: parts.rest

/-- The grammar of tags. -/
structure IsWellFormed (parts : Parts) : Prop where
  language : IsLanguage parts.language parts.extended
  script : ∀ t ∈ parts.script, Consists Char.isAlpha 4 4 t
  region : ∀ t ∈ parts.region, IsRegion t
  variants : ∀ t ∈ parts.variants, IsVariant t
  extensions : ∀ e ∈ parts.extensions, e.IsWellFormed
  privateUse : parts.privateUse = [] ∨ IsPrivateUse parts.privateUse

end Parts

variable {t : Subtag} {ts rest : List Subtag} {low high count : Nat} {p : Subtag → Bool}

/-! ### Single subtags -/

/-- Exactly so many characters. -/
theorem consists_self {p : Char → Bool} :
    Consists p low low t ↔ t.length = low ∧ ∀ c ∈ t, p c = true := by
  rw [Consists, ← and_assoc, and_comm (a := low ≤ _), ← Nat.le_antisymm_iff]

theorem isLetters_iff : isLetters low high t = true ↔ Consists Char.isAlpha low high t := by
  simp [isLetters, Consists, and_assoc]

theorem isAlphanums_iff : isAlphanums low high t = true ↔ Consists Char.isAlphanum low high t := by
  simp [isAlphanums, Consists, and_assoc]

/-- A region has two letters or three digits. -/
theorem isRegion_iff : isRegion t = true ↔ IsRegion t := by
  rw [isRegion, IsRegion, Bool.or_eq_true, isLetters_iff]
  refine or_congr_right ?_
  rw [consists_self, Bool.and_eq_true, beq_iff_eq, List.all_eq_true]

/-- A variant starts with a digit if it has four characters. -/
theorem isVariant_iff : isVariant t = true ↔ IsVariant t := by
  rw [isVariant, IsVariant, Bool.or_eq_true, isAlphanums_iff, Bool.and_eq_true, isAlphanums_iff]
  refine or_congr_right ?_
  constructor
  · rintro ⟨hchars, hfirst⟩
    obtain ⟨hlength, hchars⟩ := consists_self.1 hchars
    obtain ⟨c, cs, rfl⟩ := List.exists_cons_of_length_eq_add_one hlength
    have hrest := (List.forall_mem_cons.1 hchars).2
    exact ⟨c, cs, rfl, hfirst, consists_self.2 ⟨Nat.succ.inj hlength, hrest⟩⟩
  · rintro ⟨c, cs, rfl, hdigit, hchars⟩
    obtain ⟨hlength, hchars⟩ := consists_self.1 hchars
    have hfirst : c.isAlphanum = true := by rw [Char.isAlphanum, hdigit, Bool.or_true]
    have hall : ∀ d ∈ c :: cs, d.isAlphanum = true := List.forall_mem_cons.2 ⟨hfirst, hchars⟩
    exact ⟨consists_self.2 ⟨congrArg Nat.succ hlength, hall⟩, hdigit⟩

/-- A singleton is one letter or digit other than `x`, small or large. -/
theorem isSingleton_iff : isSingleton t = true ↔
    Consists Char.isAlphanum 1 1 t ∧ t ≠ ['x'] ∧ t ≠ ['X'] := by
  rw [isSingleton, Bool.and_eq_true, Bool.and_eq_true, isAlphanums_iff, bne_iff_ne, bne_iff_ne,
    and_assoc]

/-- Subtags are of private use if they start with `x` and others follow. -/
theorem isPrivateUse_iff : isPrivateUse ts = true ↔ IsPrivateUse ts := by
  unfold isPrivateUse IsPrivateUse
  split
  · rename_i parts
    simp [isPrivatePart, isAlphanums_iff]
  · rename_i hne
    constructor
    · rintro ⟨⟩
    · rintro ⟨parts, -, -, rfl⟩
      exact absurd rfl (hne parts)

/-! ### Telling subtags apart -/

/-- A digit is no letter. -/
theorem isAlpha_eq_false {c : Char} (h : c.isDigit = true) : c.isAlpha = false := by
  have hnine : c.toNat ≤ 57 := (Char.isDigit_iff_toNat.1 h).2
  rw [Bool.eq_false_iff]
  intro hletter
  rcases isAlpha_iff_toNat.1 hletter with ⟨hlow, -⟩ | ⟨hlow, -⟩
  · exact absurd (hlow.trans hnine) (by decide)
  · exact absurd (hlow.trans hnine) (by decide)

/-- A region has two characters, or else three and a digit. -/
theorem length_of_isRegion (h : isRegion t = true) :
    t.length = 2 ∨ t.length = 3 ∧ ∃ c ∈ t, c.isDigit = true := by
  rcases isRegion_iff.1 h with hletters | hdigits
  · exact .inl (consists_self.1 hletters).1
  · obtain ⟨hlength, hchars⟩ := consists_self.1 hdigits
    obtain ⟨c, cs, rfl⟩ := List.exists_cons_of_length_eq_add_one hlength
    exact .inr ⟨hlength, c, List.mem_cons_self, hchars c List.mem_cons_self⟩

/-- A variant has five characters or more, or else four and a digit. -/
theorem length_of_isVariant (h : isVariant t = true) :
    5 ≤ t.length ∨ t.length = 4 ∧ ∃ c ∈ t, c.isDigit = true := by
  rcases isVariant_iff.1 h with halphanums | ⟨c, cs, rfl, hdigit, hchars⟩
  · exact .inl halphanums.1
  · have hlength := (consists_self.1 hchars).1
    exact .inr ⟨congrArg Nat.succ hlength, c, List.mem_cons_self, hdigit⟩

/-- Subtags of another length are not letters of the length, nor are those with a digit. -/
theorem isLetters_eq_false (h : t.length ≠ low ∨ ∃ c ∈ t, c.isDigit = true) :
    isLetters low low t = false := by
  rw [Bool.eq_false_iff]
  intro hletters
  obtain ⟨hlength, hchars⟩ := consists_self.1 (isLetters_iff.1 hletters)
  rcases h with hne | ⟨c, hc, hdigit⟩
  · exact hne hlength
  · exact Bool.false_ne_true ((isAlpha_eq_false hdigit).symm.trans (hchars c hc))

theorem isExtensionPart_eq_false (h : t.length = 1) : isExtensionPart t = false := by
  rw [isExtensionPart, isAlphanums, h]
  rfl

/-- No subtag of one character is a variant. -/
theorem isVariant_eq_false (h : t.length = 1) : isVariant t = false := by
  rw [Bool.eq_false_iff]
  intro hvariant
  have hlength := length_of_isVariant hvariant
  omega

/-- No subtag that may follow a region looks like one. -/
theorem isRegion_eq_false (h : t.length = 1 ∨ isVariant t = true) : isRegion t = false := by
  rw [Bool.eq_false_iff]
  intro hregion
  have hlength := length_of_isRegion hregion
  rcases h with hone | hvariant
  · omega
  · have hlong := length_of_isVariant hvariant
    omega

/-- No subtag that may follow a script looks like one. -/
theorem isScript_eq_false (h : (t.length = 1 ∨ isVariant t = true) ∨ isRegion t = true) :
    isLetters 4 4 t = false := by
  refine isLetters_eq_false ?_
  rcases h with (hone | hvariant) | hregion
  · exact .inl (by omega)
  · exact (length_of_isVariant hvariant).imp (by omega) And.right
  · have hlength := length_of_isRegion hregion
    exact .inl (by omega)

/-- No subtag that may follow extended languages looks like one. -/
theorem isExtended_eq_false
    (h : ((t.length = 1 ∨ isVariant t = true) ∨ isRegion t = true) ∨ isLetters 4 4 t = true) :
    isLetters 3 3 t = false := by
  refine isLetters_eq_false ?_
  rcases h with ((hone | hvariant) | hregion) | hscript
  · exact .inl (by omega)
  · have hlength := length_of_isVariant hvariant
    exact .inl (by omega)
  · exact (length_of_isRegion hregion).imp (by omega) And.right
  · have hlength := (consists_self.1 (isLetters_iff.1 hscript)).1
    exact .inl (by omega)

/-! ### Dropping a part -/

/-- What is dropped is one part of the kind, or nothing. -/
theorem exists_dropOptional (p : Subtag → Bool) (ts : List Subtag) :
    ∃ part : Option Subtag, (∀ t ∈ part, p t = true) ∧ ts = part.toList ++ dropOptional p ts := by
  cases ts with
  | nil => exact ⟨none, by simp, rfl⟩
  | cons t ts =>
    by_cases ht : p t = true
    · exact ⟨some t, by simpa, by simp [dropOptional, ht]⟩
    · exact ⟨none, by simp, by simp [dropOptional, ht]⟩

/-- A part is dropped if what follows it does not look like one. -/
theorem dropOptional_append {part : Option Subtag} (hpart : ∀ t ∈ part, p t = true)
    (hrest : ∀ t ∈ rest.head?, p t = false) : dropOptional p (part.toList ++ rest) = rest := by
  cases part with
  | some t => simp [dropOptional, hpart t rfl]
  | none =>
    cases rest with
    | nil => rfl
    | cons t rest => simp [dropOptional, hrest t rfl]

/-- What is dropped are extended languages, no more than the count. -/
theorem exists_dropExtended (count : Nat) (ts : List Subtag) :
    ∃ extended, extended.length ≤ count ∧ (∀ t ∈ extended, isLetters 3 3 t = true) ∧
      ts = extended ++ dropExtended count ts := by
  induction count generalizing ts with
  | zero => exact ⟨[], le_rfl, by simp, by cases ts <;> rfl⟩
  | succ count ih =>
    cases ts with
    | nil => exact ⟨[], Nat.zero_le _, by simp, rfl⟩
    | cons t ts =>
      -- The drop ends at the count or at the first subtag of another form.
      by_cases ht : isLetters 3 3 t = true
      · obtain ⟨extended, hlength, hextended, hts⟩ := ih ts
        refine ⟨t :: extended, Nat.succ_le_succ hlength, List.forall_mem_cons.2 ⟨ht, hextended⟩, ?_⟩
        rw [dropExtended, if_pos ht, List.cons_append, ← hts]
      · exact ⟨[], Nat.zero_le _, by simp, by rw [dropExtended, if_neg ht, List.nil_append]⟩

/-- Extended languages are all dropped if what follows them does not look like one. -/
theorem dropExtended_append {extended : List Subtag} (hlength : extended.length ≤ count)
    (hextended : ∀ t ∈ extended, isLetters 3 3 t = true)
    (hrest : ∀ t ∈ rest.head?, isLetters 3 3 t = false) :
    dropExtended count (extended ++ rest) = rest := by
  induction extended generalizing count with
  | nil =>
    rw [List.nil_append]
    cases count with
    | zero => cases rest <;> rfl
    | succ count =>
      cases rest with
      | nil => rfl
      | cons t rest => rw [dropExtended, hrest t rfl, if_neg Bool.false_ne_true]
  | cons t extended ih =>
    obtain ⟨ht, hextended⟩ := List.forall_mem_cons.1 hextended
    cases count with
    | zero => cases hlength
    | succ count =>
      rw [List.cons_append, dropExtended, if_pos ht]
      exact ih (Nat.le_of_succ_le_succ hlength) hextended

/-- What is dropped is a language, with its extended languages. -/
theorem exists_dropLanguage? (h : dropLanguage? ts = some rest) :
    ∃ language extended, IsLanguage language extended ∧ ts = language :: (extended ++ rest) := by
  cases ts with
  | nil => cases h
  | cons language ts =>
    rw [dropLanguage?] at h
    split at h
    · rename_i hshort
      obtain ⟨extended, hlength, hextended, hts⟩ := exists_dropExtended 3 ts
      rw [Option.some.inj h] at hts
      simp only [isLetters_iff] at hshort hextended
      exact ⟨language, extended, .inl ⟨hshort, hlength, hextended⟩, by rw [← hts]⟩
    · split at h
      · rename_i hlong
        rw [Option.some.inj h]
        exact ⟨language, [], .inr ⟨isLetters_iff.1 hlong, rfl⟩, rfl⟩
      · cases h

/-- A language is dropped with its extended languages if what follows does not look like one of
    them. -/
theorem dropLanguage?_append {language : Subtag} {extended : List Subtag}
    (hlanguage : IsLanguage language extended)
    (hrest : ∀ t ∈ rest.head?, isLetters 3 3 t = false) :
    dropLanguage? (language :: (extended ++ rest)) = some rest := by
  rw [dropLanguage?]
  rcases hlanguage with ⟨hshort, hlength, hextended⟩ | ⟨hlong, rfl⟩
  · rw [if_pos (isLetters_iff.2 hshort), dropExtended_append hlength _ hrest]
    exact fun t ht => isLetters_iff.2 (hextended t ht)
  · -- A long language is not mistaken for a short one, and has no extended ones behind it.
    have hnot : ¬isLetters 2 3 language = true := by
      rw [isLetters_iff]
      intro hshort
      have hle := hshort.2.1
      have hlt := hlong.1
      omega
    rw [if_neg hnot, if_pos (isLetters_iff.2 hlong), List.nil_append]

/-- Extensions are checked subtag by subtag. -/
theorem Extension.isWellFormed_iff {e : Extension} : e.IsWellFormed ↔
    isSingleton e.single = true ∧ e.parts ≠ [] ∧ ∀ t ∈ e.parts, isExtensionPart t = true := by
  simp only [isSingleton_iff, isExtensionPart, isAlphanums_iff]
  constructor
  · rintro ⟨hsingle, hsmall, hlarge, hne, hparts⟩
    exact ⟨⟨hsingle, hsmall, hlarge⟩, hne, hparts⟩
  · rintro ⟨⟨hsingle, hsmall, hlarge⟩, hne, hparts⟩
    exact ⟨hsingle, hsmall, hlarge, hne, hparts⟩

/-- What is dropped are extensions, with their parts. -/
theorem exists_dropExtensions (ts : List Subtag) :
    ∃ extensions : List Extension, (∀ e ∈ extensions, e.IsWellFormed) ∧
      ts = extensions.flatMap Extension.subtags ++ dropExtensions ts := by
  fun_induction dropExtensions ts with
  | case1 single part ts h ih =>
    rw [Bool.and_eq_true] at h
    obtain ⟨extensions, hextensions, hts⟩ := ih
    let e : Extension := ⟨single, part :: ts.takeWhile isExtensionPart⟩
    have he : e.IsWellFormed := by
      refine Extension.isWellFormed_iff.2 ⟨h.1, List.cons_ne_nil _ _, ?_⟩
      exact List.forall_mem_cons.2 ⟨h.2, fun t ht => List.mem_takeWhile_imp ht⟩
    refine ⟨e :: extensions, List.forall_mem_cons.2 ⟨he, hextensions⟩, ?_⟩
    rw [List.flatMap_cons, List.append_assoc, ← hts]
    simp [e, Extension.subtags]
  | case2 single part ts h => exact ⟨[], by simp, rfl⟩
  | case3 ts h => exact ⟨[], by simp, rfl⟩

/-- Extensions start with a single character. -/
theorem length_eq_one_of_mem_head? {extensions : List Extension}
    (hextensions : ∀ e ∈ extensions, e.IsWellFormed) (hrest : ∀ t ∈ rest.head?, t.length = 1) :
    ∀ t ∈ (extensions.flatMap Extension.subtags ++ rest).head?, t.length = 1 := by
  cases extensions with
  | nil => exact hrest
  | cons e extensions =>
    rintro _ ⟨⟩
    exact (consists_self.1 (hextensions e List.mem_cons_self).single).1

/-- Extensions are all dropped if what follows them has one character and is no singleton. -/
theorem dropExtensions_append {extensions : List Extension}
    (hextensions : ∀ e ∈ extensions, e.IsWellFormed)
    (hrest : ∀ t ∈ rest.head?, t.length = 1 ∧ isSingleton t = false) :
    dropExtensions (extensions.flatMap Extension.subtags ++ rest) = rest := by
  induction extensions with
  | nil =>
    rw [List.flatMap_nil, List.nil_append]
    unfold dropExtensions
    split
    · rename_i single part ts
      rw [(hrest single rfl).2, Bool.false_and, if_neg Bool.false_ne_true]
    · rfl
  | cons e extensions ih =>
    obtain ⟨he, hextensions⟩ := List.forall_mem_cons.1 hextensions
    obtain ⟨hsingle, hne, hparts⟩ := Extension.isWellFormed_iff.1 he
    obtain ⟨part, parts, hcons⟩ := List.exists_cons_of_ne_nil hne
    rw [hcons, List.forall_mem_cons] at hparts
    -- whatever comes next starts with a single character, which is no part of this extension
    have hstop := length_eq_one_of_mem_head? hextensions fun t ht => (hrest t ht).1
    have hdrop := dropWhile_append_stop hparts.2 fun t ht => isExtensionPart_eq_false (hstop t ht)
    rw [List.flatMap_cons, Extension.subtags, hcons, List.append_assoc, List.cons_append,
      List.cons_append, dropExtensions, hsingle, hparts.1, Bool.true_and, if_pos rfl, hdrop]
    exact ih hextensions

/-! ### Whole tags -/

/-- What is left after dropping each part in turn is nothing, or of private use. -/
theorem exists_of_areTag (h : areTag ts = true) :
    ∃ parts : Parts, parts.IsWellFormed ∧ ts = parts.subtags := by
  unfold areTag at h
  split at h
  · cases h
  · rename_i behindLanguage hdrop
    dsimp only at h
    obtain ⟨language, extended, hlanguage, rfl⟩ := exists_dropLanguage? hdrop
    obtain ⟨script, hscript, hbehindLanguage⟩ := exists_dropOptional (isLetters 4 4) behindLanguage
    -- what each part leaves is named, and the next part is taken off it
    generalize dropOptional (isLetters 4 4) behindLanguage = behindScript at *
    obtain ⟨region, hregion, hbehindScript⟩ := exists_dropOptional isRegion behindScript
    generalize dropOptional isRegion behindScript = behindRegion at *
    have hvariants := List.takeWhile_append_dropWhile (p := isVariant) (l := behindRegion)
    obtain ⟨extensions, hextensions, hbehindVariants⟩ :=
      exists_dropExtensions (behindRegion.dropWhile isVariant)
    generalize dropExtensions (behindRegion.dropWhile isVariant) = privateUse at *
    refine ⟨⟨language, extended, script, region, behindRegion.takeWhile isVariant, extensions,
      privateUse⟩, ⟨hlanguage, ?_, ?_, ?_, hextensions, ?_⟩, ?_⟩
    · exact fun t ht => isLetters_iff.1 (hscript t ht)
    · exact fun t ht => isRegion_iff.1 (hregion t ht)
    · exact fun t ht => isVariant_iff.1 (List.mem_takeWhile_imp ht)
    · rw [Bool.or_eq_true, List.isEmpty_iff, isPrivateUse_iff] at h
      exact h
    · rw [Parts.subtags, Parts.rest, ← hbehindVariants, hvariants, ← hbehindScript,
        ← hbehindLanguage]

/-- What stands first is of the front part, or of the rest if there is none. -/
theorem forall_mem_head?_append {inFront inRest : Subtag → Prop} {front : List Subtag}
    (hfront : ∀ t ∈ front, inFront t) (hrest : ∀ t ∈ rest.head?, inRest t) :
    ∀ t ∈ (front ++ rest).head?, inRest t ∨ inFront t := by
  cases front with
  | nil => exact fun t ht => .inl (hrest t ht)
  | cons t front =>
    rintro _ ⟨⟩
    exact .inr (hfront t List.mem_cons_self)

/-- A part for private use starts with a single character, but one that opens no extension. -/
theorem head?_privateUse (h : ts = [] ∨ IsPrivateUse ts) :
    ∀ t ∈ ts.head?, t.length = 1 ∧ isSingleton t = false := by
  rcases h with rfl | ⟨parts, -, -, rfl⟩
  · rintro _ ⟨⟩
  · rintro _ ⟨⟩
    decide

/-- Each part is dropped where it stands, since no later part looks like it. -/
theorem areTag_subtags {parts : Parts} (h : parts.IsWellFormed) : areTag parts.subtags = true := by
  obtain ⟨language, extended, script, region, variants, extensions, privateUse⟩ := parts
  obtain ⟨hlanguage, hscript, hregion, hvariants, hextensions, hprivate⟩ := h
  dsimp only at hlanguage hscript hregion hvariants hextensions hprivate
  simp only [← isLetters_iff, ← isRegion_iff, ← isVariant_iff] at hscript hregion hvariants
  have hscripts : ∀ t ∈ script.toList, isLetters 4 4 t = true := by simpa using hscript
  have hregions : ∀ t ∈ region.toList, isRegion t = true := by simpa using hregion
  -- what each of the parts may be followed by, from the last one to the first
  have hlast := head?_privateUse hprivate
  have hbehindVariants := length_eq_one_of_mem_head? hextensions fun t ht => (hlast t ht).1
  have hbehindRegion := forall_mem_head?_append hvariants hbehindVariants
  have hbehindScript := forall_mem_head?_append hregions hbehindRegion
  have hbehindLanguage := forall_mem_head?_append hscripts hbehindScript
  rw [Parts.subtags, Parts.rest, areTag,
    dropLanguage?_append hlanguage fun t ht => isExtended_eq_false (hbehindLanguage t ht)]
  dsimp only
  rw [dropOptional_append hscript fun t ht => isScript_eq_false (hbehindScript t ht),
    dropOptional_append hregion fun t ht => isRegion_eq_false (hbehindRegion t ht),
    dropWhile_append_stop hvariants fun t ht => isVariant_eq_false (hbehindVariants t ht),
    dropExtensions_append hextensions hlast, Bool.or_eq_true, List.isEmpty_iff, isPrivateUse_iff]
  exact hprivate

/-- **Tags are made of well-formed parts.** -/
theorem areTag_iff :
    areTag ts = true ↔ ∃ parts : Parts, parts.IsWellFormed ∧ ts = parts.subtags := by
  constructor
  · exact exists_of_areTag
  · rintro ⟨parts, hparts, rfl⟩
    exact areTag_subtags hparts

end Lexicon.LanguageTag
