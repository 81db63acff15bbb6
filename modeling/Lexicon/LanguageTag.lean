import Lexicon.Text.Split

namespace Lexicon

open Lexicon.Text

/-!
# Language tags

A tag of BCP 47 is a list of subtags between hyphens, whose roles follow from their places, lengths
and characters.

* `LanguageTag.grandfathered` — tags from before the grammar, valid as they stand;
* `LanguageTag.dropLanguage?`, `dropOptional`, `dropExtensions` — the parts of a tag in order,
  each taken off the subtags that are left;
* `LanguageTag.isValid` — whether a text is a tag.
-/

namespace LanguageTag

/-- The tags that are valid as they stand. -/
def grandfathered : List String :=
  ["en-GB-oed", "i-ami", "i-bnn", "i-default", "i-enochian", "i-hak", "i-klingon", "i-lux",
   "i-mingo", "i-navajo", "i-pwn", "i-tao", "i-tay", "i-tsu", "sgn-BE-FR", "sgn-BE-NL", "sgn-CH-DE",
   "art-lojban", "cel-gaulish", "no-bok", "no-nyn", "zh-guoyu", "zh-hakka", "zh-min", "zh-min-nan",
   "zh-xiang"]

/-! ### Kinds of subtags -/

/-- A subtag: its characters. -/
abbrev Subtag := List Char

/-- Between `low` and `high` ASCII letters. -/
def isLetters (low high : Nat) (t : Subtag) : Bool :=
  low ≤ t.length && t.length ≤ high && t.all Char.isAlpha

/-- Between `low` and `high` ASCII letters and digits. -/
def isAlphanums (low high : Nat) (t : Subtag) : Bool :=
  low ≤ t.length && t.length ≤ high && t.all Char.isAlphanum

/-- A region: two letters or three digits. -/
def isRegion (t : Subtag) : Bool :=
  isLetters 2 2 t || (t.length == 3 && t.all Char.isDigit)

/-- A variant: five to eight letters and digits, or four of which the first is a digit. -/
def isVariant (t : Subtag) : Bool :=
  isAlphanums 5 8 t || (isAlphanums 4 4 t && t.head?.any Char.isDigit)

/-- A singleton that opens an extension: a letter or digit other than `x`, in either case. -/
def isSingleton (t : Subtag) : Bool :=
  isAlphanums 1 1 t && t != ['x'] && t != ['X']

/-- A subtag of an extension. -/
def isExtensionPart (t : Subtag) : Bool :=
  isAlphanums 2 8 t

/-- A subtag for private use. -/
def isPrivatePart (t : Subtag) : Bool :=
  isAlphanums 1 8 t

/-! ### The parts of a tag -/

/-- The subtags after the extended languages, of which there are at most `count`. -/
def dropExtended : (count : Nat) → List Subtag → List Subtag
  | count + 1, t :: ts => if isLetters 3 3 t then dropExtended count ts else t :: ts
  | _, ts => ts

/-- The subtags after the language, which comes first in every tag; only a short language has
extended languages. -/
def dropLanguage? : List Subtag → Option (List Subtag)
  | [] => none
  | t :: ts =>
    if isLetters 2 3 t then some (dropExtended 3 ts)
    else if isLetters 4 8 t then some ts
    else none

/-- The subtags after an optional part of one subtag. -/
def dropOptional (p : Subtag → Bool) : List Subtag → List Subtag
  | t :: ts => if p t then ts else t :: ts
  | [] => []

/-- The subtags after the extensions, each a singleton with one or more parts. -/
def dropExtensions : List Subtag → List Subtag
  | single :: part :: ts =>
    if isSingleton single && isExtensionPart part then dropExtensions (ts.dropWhile isExtensionPart)
    else single :: part :: ts
  | ts => ts
termination_by ts => ts.length
decreasing_by
  have := (List.dropWhile_sublist (l := ts) isExtensionPart).length_le
  simp only [List.length_cons]
  omega

/-- Whether the subtags are a part for private use: a lower-case `x` and one or more subtags. -/
def isPrivateUse : List Subtag → Bool
  | ['x'] :: ts => !ts.isEmpty && ts.all isPrivatePart
  | _ => false

/-- Whether the subtags make up a tag of the grammar. -/
def areTag (ts : List Subtag) : Bool :=
  match dropLanguage? ts with
  | none => false
  | some ts =>
    let ts := dropOptional (isLetters 4 4) ts
    let ts := dropOptional isRegion ts
    let ts := dropExtensions (ts.dropWhile isVariant)
    ts.isEmpty || isPrivateUse ts

/-- Whether a text is a language tag. -/
def isValid (s : String) : Bool :=
  let ts := splitOn '-' s.toList
  grandfathered.contains s || areTag ts || isPrivateUse ts

end LanguageTag

end Lexicon
