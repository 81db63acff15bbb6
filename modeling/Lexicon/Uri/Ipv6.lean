import Lexicon.Text.Split
import Lexicon.Unicode.Table

namespace Lexicon.Uri

open Lexicon.Text Lexicon.Unicode

/-!
# Hosts in brackets

A network address of 128 bits is eight groups of up to four hexadecimal digits.  Two colons stand,
at most once, for one or more groups of zeros, and the last two groups may be written as four
decimal numbers.

* `Ipv6.isGroup`, `Ipv6.isQuad` — the pieces of an address;
* `Ipv6.count?` — how many groups the pieces on one side of the two colons make up;
* `Ipv6.isValid` — whether a text is an address.
-/

namespace Ipv6

/-- One to four hexadecimal digits. -/
def isGroup (cs : List Char) : Bool :=
  1 ≤ cs.length && cs.length ≤ 4 && cs.all fun c => (hexDigit? c).isSome

/-- A decimal number of one byte without a needless zero in front. -/
def isByte (cs : List Char) : Bool :=
  !cs.isEmpty && cs.all Char.isDigit && (cs.length == 1 || cs.head? != some '0') &&
    cs.foldl (fun n c => 10 * n + (c.toNat - '0'.toNat)) 0 ≤ 255

/-- Four such numbers between dots. -/
def isQuad (cs : List Char) : Bool :=
  let parts := splitOn '.' cs
  parts.length == 4 && parts.all isByte

/-- The number of groups that pieces between colons make up; only the last piece of an address may
be four numbers, which make up two groups. -/
def count? (mayEndInQuad : Bool) : List (List Char) → Option Nat
  | [] => some 0
  | piece :: pieces =>
    if isGroup piece then (count? mayEndInQuad pieces).map (· + 1)
    else if mayEndInQuad ∧ pieces.isEmpty ∧ isQuad piece then some 2
    else none

/-- The pieces of a text between colons; an empty text has none. -/
def pieces (cs : List Char) : List (List Char) :=
  if cs.isEmpty then [] else splitOn ':' cs

/-- The text before and the text after the first two colons in a row. -/
def cutAtGap? : List Char → Option (List Char × List Char)
  | ':' :: ':' :: cs => some ([], cs)
  | c :: cs => (cutAtGap? cs).map fun (before, after) => (c :: before, after)
  | [] => none

/-- Whether a text is an address: eight groups, or fewer with a gap. -/
def isValid (cs : List Char) : Bool :=
  match cutAtGap? cs with
  | none => count? true (pieces cs) == some 8
  | some (before, after) =>
    match count? false (pieces before), count? true (pieces after) with
    | some m, some n => m + n ≤ 7
    | _, _ => false

end Ipv6

end Lexicon.Uri
