import Lexicon.Domain.Mapping
import Lexicon.Domain.ScriptTable
import Lexicon.Unicode.Normal

namespace Lexicon.Domain

open Lexicon.Unicode

/-!
# Labels of domain names

* `isForbidden` — ASCII characters that no domain name holds;
* `joinersAreValid` — the invisible joiners stand only where they change the look of a script;
* `Direction.ofChar`, `followsDirection` — a label with a clear direction;
* `labelIsValid` — what a label must satisfy on its own.
-/

/-- Whether an ASCII character has a meaning in addresses that keeps it out of domain names. -/
def isForbidden (c : Char) : Bool :=
  c.toNat ≤ 0x20 || c.toNat == 0x7F ||
    ['#', '/', ':', '<', '>', '?', '@', '[', '\\', ']', '^', '|', '%'].contains c

/-! ### Joiners -/

/-- The class of the signs that take the vowel from a consonant. -/
def viramaClass : Nat := 9

/-- How a character joins, if it does. -/
def joining? (c : Char) : Option Joining :=
  if c.toNat < 0x80 then none else joiningTable.get? c

/-- Whether a letter that joins in one of the given ways is reached across transparent ones. -/
def joinsAcross (ways : List Joining) (cs : List Char) : Bool :=
  ((cs.dropWhile fun c => joining? c = some .transparent).head?.bind joining?).any ways.contains

/-- Whether the joiners of a label are in place, after the part `before` that is given with its last
character first.  Both may follow a virama; the one that keeps letters apart may also stand between
two letters that would join. -/
def joinersAreValid (before : List Char) : List Char → Bool
  | [] => true
  | c :: cs =>
    let afterVirama := before.head?.any fun b => combiningClass b == viramaClass
    let between := joinsAcross [.left, .dual] before && joinsAcross [.right, .dual] cs
    (if c.toNat = 0x200D then afterVirama
     else if c.toNat = 0x200C then afterVirama || between
     else true) && joinersAreValid (c :: before) cs

/-! ### Direction -/

/-- The direction of an ASCII character. -/
def Direction.ofAscii (c : Char) : Direction :=
  if c.isAlpha then .left
  else if c.isDigit then .europeanNumber
  else if c = '+' ∨ c = '-' then .europeanSeparator
  else if c = ',' ∨ c = '.' ∨ c = '/' ∨ c = ':' then .commonSeparator
  else if c = '#' ∨ c = '$' ∨ c = '%' then .europeanTerminator
  else .neutral

/-- The direction of a character. -/
def Direction.ofChar (c : Char) : Direction :=
  if c.toNat < 0x80 then ofAscii c else (directionTable.get? c).getD .left

/-- Whether a character makes its domain name one with two directions. -/
def isRightToLeft (c : Char) : Bool :=
  [.right, .arabicLetter, .arabicNumber].contains (Direction.ofChar c)

/-- Directions that may stand in labels of either direction. -/
def neutralDirections : List Direction :=
  [.europeanNumber, .europeanSeparator, .commonSeparator, .europeanTerminator, .neutral, .boundary,
   .mark]

/-- Whether a label of a name with two directions keeps to the direction of its first character, and
ends in a character that has it. -/
def followsDirection (label : List Char) : Bool :=
  let directions := label.map Direction.ofChar
  -- Marks belong to the character in front of them.
  let last := (directions.reverse.dropWhile (· == .mark)).head?
  match directions.head? with
  | none => true
  | some .left =>
    directions.all (fun d => (.left :: neutralDirections).contains d) &&
      last.any [.left, .europeanNumber].contains
  | some .right | some .arabicLetter =>
    directions.all
        (fun d => (.right :: .arabicLetter :: .arabicNumber :: neutralDirections).contains d) &&
      last.any [.right, .arabicLetter, .europeanNumber, .arabicNumber].contains &&
      !(directions.contains .europeanNumber && directions.contains .arabicNumber)
  | some _ => false

/-! ### Labels -/

/-- The mark of a label that is written in ASCII but has other characters. -/
def punycodeMark : List Char := ['x', 'n', '-', '-']

/-- Whether a label in its composed form has valid characters only, no mark at its start, and its
joiners in place. -/
def labelIsValid (label : List Char) : Bool :=
  composedForm label == label &&
    label.all (fun c => treatment c = .valid && !isForbidden c) &&
    !label.head?.any (fun c => 0x80 ≤ c.toNat && markSet.contains c) &&
    joinersAreValid [] label

end Lexicon.Domain
