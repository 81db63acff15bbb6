import Lexicon.Domain.Label
import Lexicon.Domain.Punycode
import Lexicon.Text.Split

namespace Lexicon.Domain

open Lexicon.Text Lexicon.Unicode

/-!
# Domain names

* `decodeLabel?` — a label with its Punycode resolved;
* `labels?` — the labels of a domain name as they are shown to people, if it is valid.
-/

/-- Labels beyond ASCII have at most this many characters. -/
def maxLabel : Nat := 1000

/-- A label as it is shown: one that is marked as Punycode stands for another label, which does not
look like Punycode itself. -/
def decodeLabel? (label : List Char) : Option (List Char) :=
  match dropStart? punycodeMark label with
  | none => some label
  | some rest =>
    match punycode? rest with
    | none => none
    | some decoded => if (dropStart? punycodeMark decoded).isSome then none else some decoded

/-- Whether a label is short enough to be written in ASCII. -/
def isEncodable (label : List Char) : Bool :=
  label.all (fun c => c.toNat < 0x80) || label.length ≤ maxLabel

/-- The labels of a domain name, mapped and checked. -/
def labels? (name : List Char) : Option (List (List Char)) := do
  let labels ← (splitOn '.' (composedForm (← mapName? name))).mapM decodeLabel?
  let twoDirections := labels.any fun label => label.any isRightToLeft
  if labels.all fun label =>
      labelIsValid label && isEncodable label && (!twoDirections || followsDirection label) then
    some labels
  else none

end Lexicon.Domain
