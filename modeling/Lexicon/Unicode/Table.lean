import Lexicon.Text.Split

namespace Lexicon.Unicode

open Lexicon.Text

/-!
# Tables over code points

A property of characters is written down as text: rows between blanks, in increasing order, each a
hexadecimal code point or a range of them, with the row's value after a colon.

* `Row`, `Table` — a range with its value, and rows in increasing order;
* `Table.row?`, `Table.get?` — the row of a character and its value, by bisection;
* `Table.ofText` — a table from its rows;
* `CodeSet` — a table without values, for a property that is held or not.
-/

/-- The code points from `first` to `last` and what a table says of them. -/
structure Row (α : Type) where
  first : Nat
  last : Nat
  value : α

/-- Rows in increasing order that do not overlap. -/
abbrev Table (α : Type) := Array (Row α)

namespace Table

variable {α : Type}

/-- Bisection between the row numbers `low` (included) and `high` (excluded). -/
def rowBetween? (table : Table α) (code low high : Nat) : Option (Row α) :=
  if _h : low < high then
    let middle := (low + high) / 2
    match table[middle]? with
    | none => none
    | some row =>
      if code < row.first then rowBetween? table code low middle
      else if row.last < code then rowBetween? table code (middle + 1) high
      else some row
  else none
termination_by high - low
decreasing_by all_goals omega

/-- The row that holds a character. -/
def row? (table : Table α) (c : Char) : Option (Row α) :=
  rowBetween? table c.toNat 0 table.size

/-- The value of the row that holds a character. -/
def get? (table : Table α) (c : Char) : Option α :=
  (table.row? c).map Row.value

end Table

/-! ### Reading rows -/

/-- The value of a hexadecimal digit. -/
def hexDigit? (c : Char) : Option Nat :=
  if '0' ≤ c ∧ c ≤ '9' then some (c.toNat - '0'.toNat)
  else if 'A' ≤ c ∧ c ≤ 'F' then some (c.toNat - 'A'.toNat + 10)
  else if 'a' ≤ c ∧ c ≤ 'f' then some (c.toNat - 'a'.toNat + 10)
  else none

/-- The number that hexadecimal digits write. -/
def hex? (digits : List Char) : Option Nat :=
  digits.foldlM (fun n c => (hexDigit? c).map (16 * n + ·)) 0

/-- The two ends of a range: `41-5A`, or `AD` for a single code point. -/
def range? (cs : List Char) : Option (Nat × Nat) :=
  match cutAt? '-' cs with
  | none => (hex? cs).map fun n => (n, n)
  | some (first, last) => do return (← hex? first, ← hex? last)

/-- A row whose value follows a colon. -/
def Row.ofText? {α : Type} (value : List Char → Option α) (cs : List Char) : Option (Row α) := do
  let (range, text) ← cutAt? ':' cs
  let (first, last) ← range? range
  return ⟨first, last, ← value text⟩

/-- The table of the rows that a text holds. -/
def Table.ofText {α : Type} (value : List Char → Option α) (text : String) : Table α :=
  ((words text.toList).filterMap (Row.ofText? value)).toArray

/-- A set of code points, kept as ranges. -/
abbrev CodeSet := Table Unit

namespace CodeSet

/-- The set of the ranges that a text holds. -/
def ofText (text : String) : CodeSet :=
  ((words text.toList).filterMap fun cs =>
    (range? cs).map fun (first, last) => ⟨first, last, ()⟩).toArray

/-- Whether a character lies in the set. -/
def contains (set : CodeSet) (c : Char) : Bool :=
  (Table.row? set c).isSome

end CodeSet

end Lexicon.Unicode
