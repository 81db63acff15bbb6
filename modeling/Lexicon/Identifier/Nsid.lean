import Lexicon.Identifier.Label

namespace Lexicon

open Lexicon.Text

/-!
# Namespaced identifiers

`com.example.getProfile`: a domain in reverse order and a name.

* `Nsid.isValid` — at least three labels that start with letters; only the name may be long.
-/

namespace Nsid

/-- A label of the domain has at most this many characters. -/
def maxLabel : Nat := 63

/-- The name has at most this many characters. -/
def maxName : Nat := 128

/-- An identifier has at most this many bytes: a domain, a dot and a name. -/
def maxBytes : Nat := 253 + 1 + maxName

/-- Whether a piece is a label that starts with a letter. -/
def isLabel (maxLength : Nat) (label : List Char) : Bool :=
  Label.isValid maxLength label && Label.startsWithLetter label

/-- Whether the labels are those of a namespaced identifier: three or more, the last one the
name. -/
def areLabels (labels : List (List Char)) : Bool :=
  3 ≤ labels.length && labels.dropLast.all (isLabel maxLabel) &&
    labels.getLast?.any (isLabel maxName)

/-- Whether a text is a namespaced identifier. -/
def isValid (s : String) : Bool :=
  s.utf8ByteSize ≤ maxBytes && areLabels (splitOn '.' s.toList)

end Nsid

end Lexicon
