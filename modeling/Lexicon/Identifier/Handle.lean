import Lexicon.Identifier.Label

namespace Lexicon

open Lexicon.Text

/-!
# Handles

A handle is a domain name: `alice.example.com`.

* `Handle.isValid` — at least two labels between dots, the last starting with a letter.
-/

namespace Handle

/-- A handle has at most this many bytes. -/
def maxBytes : Nat := 253

/-- A label has at most this many characters. -/
def maxLabel : Nat := 63

/-- Whether the labels are those of a handle: two or more, the last of which starts with a
letter. -/
def areLabels (labels : List (List Char)) : Bool :=
  2 ≤ labels.length && labels.all (Label.isValid maxLabel) &&
    labels.getLast?.any Label.startsWithLetter

/-- Whether a text is a handle. -/
def isValid (s : String) : Bool :=
  s.utf8ByteSize ≤ maxBytes && areLabels (splitOn '.' s.toList)

end Handle

end Lexicon
