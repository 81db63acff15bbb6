import Lexicon.Text.Split

namespace Lexicon

open Lexicon.Text

/-!
# Date-times

`2022-12-12T00:50:36.809+01:00`: a date and a time of day of the proleptic Gregorian calendar, and
the offset from universal time.

* `Datetime` — the numbers of a date-time;
* `Datetime.ofText?` — reading the fixed form;
* `Datetime.isReal` — whether the calendar and the clock have such an instant;
* `Datetime.isValid` — both.
-/

/-- The numbers of a date-time; the fraction of the second and the sign of the offset place no
bound on the others and are left out. -/
structure Datetime where
  year : Nat
  month : Nat
  day : Nat
  hour : Nat
  minute : Nat
  second : Nat
  offsetHour : Nat
  offsetMinute : Nat
deriving DecidableEq, Repr

namespace Datetime

/-! ### Reading -/

/-- A number of exactly `count` ASCII digits, and what follows it. -/
def number? (count : Nat) (cs : List Char) : Option (Nat × List Char) :=
  let digits := cs.take count
  if digits.length = count ∧ digits.all Char.isDigit then
    some (digits.foldl (fun n c => 10 * n + (c.toNat - '0'.toNat)) 0, cs.drop count)
  else none

/-- What follows one expected character. -/
def after? (c : Char) (cs : List Char) : Option (List Char) :=
  dropStart? [c] cs

/-- A fraction of a second has at most this many digits. -/
def maxFraction : Nat := 20

/-- What follows an optional fraction of a second: a point and 1 to 20 digits. -/
def afterFraction? : List Char → Option (List Char)
  | '.' :: cs =>
    let digits := cs.takeWhile Char.isDigit
    if 1 ≤ digits.length ∧ digits.length ≤ maxFraction then some (cs.dropWhile Char.isDigit)
    else none
  | cs => some cs

/-- The offset that ends a date-time: `Z`, or a sign with hours and minutes. -/
def offset? : List Char → Option (Nat × Nat)
  | ['Z'] => some (0, 0)
  | sign :: cs =>
    if sign = '+' ∨ sign = '-' then do
      let (hour, cs) ← number? 2 cs
      let (minute, cs) ← number? 2 (← after? ':' cs)
      if cs.isEmpty then some (hour, minute) else none
    else none
  | [] => none

/-- The numbers of a text of the fixed form. -/
def ofText? (cs : List Char) : Option Datetime := do
  let (year, cs) ← number? 4 cs
  let (month, cs) ← number? 2 (← after? '-' cs)
  let (day, cs) ← number? 2 (← after? '-' cs)
  let (hour, cs) ← number? 2 (← after? 'T' cs)
  let (minute, cs) ← number? 2 (← after? ':' cs)
  let (second, cs) ← number? 2 (← after? ':' cs)
  let (offsetHour, offsetMinute) ← offset? (← afterFraction? cs)
  return { year, month, day, hour, minute, second, offsetHour, offsetMinute }

/-! ### Calendar and clock -/

/-- Every fourth year is a leap year, but of the full centuries only every fourth. -/
def isLeapYear (year : Nat) : Bool :=
  year % 4 == 0 && (year % 100 != 0 || year % 400 == 0)

/-- The number of days of a month; there is no month but the twelve. -/
def daysInMonth (year month : Nat) : Nat :=
  match month with
  | 1 | 3 | 5 | 7 | 8 | 10 | 12 => 31
  | 4 | 6 | 9 | 11 => 30
  | 2 => if isLeapYear year then 29 else 28
  | _ => 0

/-- Whether the calendar has the day and the clock the time; a minute may have a leap second. -/
def isReal (t : Datetime) : Bool :=
  1 ≤ t.day && t.day ≤ daysInMonth t.year t.month &&
    t.hour ≤ 23 && t.minute ≤ 59 && t.second ≤ 60 &&
    t.offsetHour ≤ 23 && t.offsetMinute ≤ 59

/-- Whether a text is a date-time. -/
def isValid (s : String) : Bool :=
  (ofText? s.toList).any isReal

end Datetime

end Lexicon
