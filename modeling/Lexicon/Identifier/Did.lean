import Lexicon.Text.Split

namespace Lexicon

open Lexicon.Text

/-!
# Decentralized identifiers

`did:web:example.com`: a method of lower-case letters, and an identifier that the method gives a
meaning to.

* `Did.isValid` — the grammar of such identifiers;
* `Did.hasScheme` — the mark `did:` that tells them from handles.
-/

namespace Did

/-- An identifier has at most this many bytes. -/
def maxBytes : Nat := 8192

/-- The mark in front of the method. -/
def scheme : List Char := ['d', 'i', 'd', ':']

/-- Whether a text starts with the mark of these identifiers. -/
def hasScheme (s : String) : Bool :=
  (dropStart? scheme s.toList).isSome

/-- The letters of a method. -/
def isMethodChar (c : Char) : Bool :=
  c.isLower

/-- The characters that may end the method-specific part. -/
def isFinalChar (c : Char) : Bool :=
  c.isAlphanum || c == '.' || c == '_' || c == '-'

/-- The characters of the method-specific part. -/
def isSpecificChar (c : Char) : Bool :=
  isFinalChar c || c == ':' || c == '%'

/-- Whether a text is a method-specific part: it is not empty and ends in neither `:` nor `%`. -/
def isSpecific (cs : List Char) : Bool :=
  cs.all isSpecificChar && cs.getLast?.any isFinalChar

/-- Whether a text after `did:` is a method, a colon and a method-specific part. -/
def isBody (cs : List Char) : Bool :=
  match cutAt? ':' cs with
  | some (method, specific) => !method.isEmpty && method.all isMethodChar && isSpecific specific
  | none => false

/-- Whether a text is a decentralized identifier. -/
def isValid (s : String) : Bool :=
  s.utf8ByteSize ≤ maxBytes && (dropStart? scheme s.toList).any isBody

end Did

end Lexicon
