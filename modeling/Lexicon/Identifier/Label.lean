import Lexicon.Text.Split

namespace Lexicon

/-!
# Domain-style labels

Handles and namespaced identifiers are labels between dots.

* `Label.isValid` — letters, digits and hyphens, no hyphen at either end, of bounded length;
* `Label.startsWithLetter` — the stricter start that some labels need.
-/

namespace Label

/-- The characters of a label: ASCII letters, digits and the hyphen. -/
def isLabelChar (c : Char) : Bool :=
  c.isAlphanum || c == '-'

/-- Whether a label has at most `maxLength` characters, all of them label characters, and neither
starts nor ends with a hyphen.  An empty label is not valid. -/
def isValid (maxLength : Nat) (label : List Char) : Bool :=
  label.length ≤ maxLength && label.all isLabelChar &&
    label.head?.any Char.isAlphanum && label.getLast?.any Char.isAlphanum

/-- Whether a label starts with an ASCII letter. -/
def startsWithLetter (label : List Char) : Bool :=
  label.head?.any Char.isAlpha

end Label

end Lexicon
