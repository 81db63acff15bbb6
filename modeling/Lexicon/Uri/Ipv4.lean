import Lexicon.Text.Split
import Lexicon.Unicode.Table

namespace Lexicon.Uri

open Lexicon.Text Lexicon.Unicode

/-!
# Numeric hosts

A host whose last part is a number is a network address of 32 bits, in one to four parts.  The last
part fills all the bytes that the others leave.

* `Ipv4.number?` — a part in base 10, 8 or 16;
* `Ipv4.endsInNumber` — whether the parts of a host are to be read as an address;
* `Ipv4.isValid` — whether they are one.
-/

namespace Ipv4

/-- The value of a digit of a base. -/
def digit? (base : Nat) (c : Char) : Option Nat :=
  (hexDigit? c).filter (· < base)

/-- The number that digits of a base write. -/
def digits? (base : Nat) (cs : List Char) : Option Nat :=
  cs.foldlM (fun n c => (digit? base c).map (base * n + ·)) 0

/-- The value of a part: hexadecimal after `0x`, octal after another `0`, decimal otherwise.  A mark
without digits is zero. -/
def number? : List Char → Option Nat
  | [] => none
  | '0' :: 'x' :: cs | '0' :: 'X' :: cs => digits? 16 cs
  | '0' :: c :: cs => digits? 8 (c :: cs)
  | cs => digits? 10 cs

/-- The parts without an empty one at the end, of which one is allowed. -/
def dropEmptyEnd (parts : List (List Char)) : List (List Char) :=
  if 1 < parts.length ∧ parts.getLast? = some [] then parts.dropLast else parts

/-- Whether a text is decimal digits, even if they are no number in the base that they announce. -/
def isDigits (cs : List Char) : Bool :=
  !cs.isEmpty && cs.all Char.isDigit

/-- Whether the last part is a number. -/
def endsInNumber (parts : List (List Char)) : Bool :=
  (dropEmptyEnd parts).getLast?.any fun last => isDigits last || (number? last).isSome

/-- Whether the parts are an address: at most four numbers, all but the last of one byte, and the
last of the bytes that are left. -/
def isValid (parts : List (List Char)) : Bool :=
  let parts := dropEmptyEnd parts
  parts.length ≤ 4 &&
    match parts.mapM number? with
    | none => false
    | some numbers =>
      numbers.dropLast.all (· ≤ 255) &&
        numbers.getLast?.any fun last => last < Nat.pow 256 (4 - numbers.dropLast.length)

end Ipv4

end Lexicon.Uri
