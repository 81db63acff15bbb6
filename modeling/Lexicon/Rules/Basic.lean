import Lexicon.Rules.Bound
import Lexicon.Text.Length

namespace Lexicon

open Lexicon.Text

/-!
# Rules for values

What a descriptor demands of a value beyond its kind.  Each check stops at the first rule that the
value breaks, and the order of the rules is fixed.

* `StringRules`, `IntegerRules`, `BooleanRules`, `LengthRules`, `BlobRules` — the rules of a kind;
* `check` for each of them, and `IntegerRules.checkBeyond` for integers that 64 bits do not hold;
* `mimeMatches` — whether a pattern covers a MIME type.
-/

/-! ### Strings -/

/-- Rules for strings.  Lengths are in UTF-16 code units. -/
structure StringRules where
  maxLength : Option UInt64 := none
  minLength : Option UInt64 := none
  maxGraphemes : Option UInt64 := none
  minGraphemes : Option UInt64 := none
  allowed : Option (List String) := none
  const : Option String := none
  default : Option String := none
  /-- Values that are usual; others are allowed too. -/
  knownValues : Option (List String) := none
deriving DecidableEq, Repr, Inhabited

/-- Lengths come before choices, and lower bounds before upper ones. -/
def StringRules.check (rules : StringRules) (s : String) : Check := do
  atLeast rules.minLength (utf16Length s) .stringTooShort
  atMost rules.maxLength (utf16Length s) .stringTooLong
  atLeast rules.minGraphemes (graphemeLength s) .tooFewGraphemes
  atMost rules.maxGraphemes (graphemeLength s) .tooManyGraphemes
  oneOf rules.allowed s id
  equalTo rules.const s id

/-! ### Integers -/

/-- Rules for integers. -/
structure IntegerRules where
  maximum : Option Int64 := none
  minimum : Option Int64 := none
  allowed : Option (List Int64) := none
  const : Option Int64 := none
  default : Option Int64 := none
deriving DecidableEq, Repr, Inhabited

namespace IntegerRules

/-- An integer in words. -/
def text (n : Int64) : String :=
  toString n.toInt

/-- An integer that is not below its bound, if there is one. -/
def notBelow (bound : Option Int64) (n : Int64) : Check :=
  match bound with
  | some min => Check.unless (n < min) (.belowMinimum min.toInt)
  | none => .ok ()

/-- An integer that is not above its bound, if there is one. -/
def notAbove (bound : Option Int64) (n : Int64) : Check :=
  match bound with
  | some max => Check.unless (max < n) (.aboveMaximum max.toInt)
  | none => .ok ()

/-- An integer of 64 bits against the bounds, then the choices. -/
def check (rules : IntegerRules) (n : Int64) : Check := do
  notBelow rules.minimum n
  notAbove rules.maximum n
  oneOf rules.allowed n text
  equalTo rules.const n text

/-- An integer that 64 bits do not hold: it lies beyond every bound on its side, and is none of the
choices. -/
def checkBeyond (rules : IntegerRules) (positive : Bool) : Check := do
  match positive, rules.minimum, rules.maximum with
  | false, some min, _ => throw (.belowMinimum min.toInt)
  | true, _, some max => throw (.aboveMaximum max.toInt)
  | _, _, _ => pure ()
  match rules.allowed with
  | some values => throw (.notInEnum (values.map text))
  | none => pure ()
  match rules.const with
  | some expected => throw (.constMismatch (text expected))
  | none => pure ()

end IntegerRules

/-! ### Booleans -/

/-- Rules for booleans. -/
structure BooleanRules where
  const : Option Bool := none
  default : Option Bool := none
deriving DecidableEq, Repr, Inhabited

/-- The one value that is allowed. -/
def BooleanRules.check (rules : BooleanRules) (b : Bool) : Check :=
  equalTo rules.const b toString

/-! ### Lengths -/

/-- Rules for the length of an array, in items, or of a byte string, in bytes. -/
structure LengthRules where
  maxLength : Option UInt64 := none
  minLength : Option UInt64 := none
deriving DecidableEq, Repr, Inhabited

namespace LengthRules

/-- The number of items of an array. -/
def checkItems (rules : LengthRules) (count : Nat) : Check := do
  atLeast rules.minLength count .tooFewElements
  atMost rules.maxLength count .tooManyElements

/-- The number of bytes of a byte string. -/
def checkBytes (rules : LengthRules) (count : Nat) : Check := do
  atLeast rules.minLength count .bytesTooShort
  atMost rules.maxLength count .bytesTooLong

end LengthRules

/-! ### Blobs -/

/-- Rules for blobs. -/
structure BlobRules where
  /-- Patterns, one of which covers the MIME type. -/
  accept : Option (List String) := none
  maxSize : Option UInt64 := none
deriving DecidableEq, Repr, Inhabited

/-- Whether two texts differ in nothing but the case of ASCII letters. -/
def equalsIgnoringCase (s t : List Char) : Bool :=
  s.map Char.toLower == t.map Char.toLower

/-- The part of a pattern in front of `/*` at its end. -/
def wildcard? (pattern : List Char) : Option (List Char) :=
  (dropStart? ['*', '/'] pattern.reverse).map List.reverse

/-- Whether a pattern covers a MIME type: `*/*` covers all, `image/*` what has `image` in front of
the first slash, and any other pattern itself.  Case does not count. -/
def mimeMatches (pattern mimeType : String) : Bool :=
  match wildcard? pattern.toList with
  | some ['*'] => true
  | some top => (cutAt? '/' mimeType.toList).any fun (kind, _) => equalsIgnoringCase kind top
  | none => equalsIgnoringCase pattern.toList mimeType.toList

/-- The size comes before the type. -/
def BlobRules.check (rules : BlobRules) (mimeType : String) (size : Nat) : Check := do
  atMost rules.maxSize size .blobTooLarge
  match rules.accept with
  | some patterns =>
    Check.unless (!patterns.any (mimeMatches · mimeType)) (.mimeTypeNotAccepted patterns)
  | none => .ok ()

end Lexicon
