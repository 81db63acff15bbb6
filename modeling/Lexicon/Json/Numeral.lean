import Lexicon.Json.Basic
import Lexicon.Number.Word
import Lexicon.Text.Split

namespace Lexicon

open Lexicon.Text

/-!
# Number literals

A literal that spells an integer of 64 bits is that integer.  Every other literal is a
double-precision number: its digits are gathered into a coefficient as long as 64 bits hold it, and
the coefficient is rounded and then scaled by a power of ten, with one rounding for each step.  The
result can differ from the nearest number in the last place; the smaller steps are part of the
format.

* `Numeral` — a literal cut into its parts, `Numeral.ofText?`;
* `Coefficient` — digits gathered so far, with a power of ten;
* `Numeral.value?` — the number that a literal denotes, unless it is too large.
-/

/-- A number literal: `-12.5e+3` has whole digits `1`, `2`, the fraction digit `5` and the exponent
3. -/
structure Numeral where
  negative : Bool
  whole : List Nat
  fraction : Option (List Nat)
  exponent : Option Int

namespace Numeral

/-- The values of decimal digits; at least one is needed. -/
def digits? (cs : List Char) : Option (List Nat) :=
  if cs.isEmpty then none
  else cs.mapM fun c => if c.isDigit then some (c.toNat - '0'.toNat) else none

/-- The number that digits write. -/
def ofDigits (ds : List Nat) : Nat :=
  ds.foldl (fun n d => 10 * n + d) 0

/-- An exponent: digits after an optional sign. -/
def exponent? : List Char → Option Int
  | '-' :: cs => (digits? cs).map fun ds => -(ofDigits ds : Int)
  | '+' :: cs => (digits? cs).map fun ds => (ofDigits ds : Int)
  | cs => (digits? cs).map fun ds => (ofDigits ds : Int)

/-- The text before an exponent mark and, if there is a mark, the text after it. -/
def cutExponent (cs : List Char) : List Char × Option (List Char) :=
  match cs.span fun c => c != 'e' && c != 'E' with
  | (before, _ :: after) => (before, some after)
  | (before, []) => (before, none)

/-- The whole digits of a literal, which have no needless zero in front. -/
def whole? (cs : List Char) : Option (List Nat) :=
  match digits? cs with
  | some (0 :: _ :: _) => none
  | ds => ds

/-- The literal without its sign. -/
def unsigned? (negative : Bool) (cs : List Char) : Option Numeral := do
  let (mantissa, mark) := cutExponent cs
  let exponent ← match mark with
    | none => pure none
    | some text => (exponent? text).map some
  match cutAt? '.' mantissa with
  | none => return ⟨negative, ← whole? mantissa, none, exponent⟩
  | some (whole, fraction) =>
    return ⟨negative, ← whole? whole, ← (digits? fraction).map some, exponent⟩

/-- A literal as its parts. -/
def ofText? : List Char → Option Numeral
  | '-' :: cs => unsigned? true cs
  | cs => unsigned? false cs

end Numeral

/-! ### Gathering digits -/

/-- Digits gathered into `value · 10^shift`; once `full`, a further digit no longer enters the
value. -/
structure Coefficient where
  value : Nat
  shift : Int
  full : Bool

namespace Coefficient

/-- The coefficient with one more digit, if 64 bits hold it. -/
def push? (c : Coefficient) (digit : Nat) : Option Nat :=
  let value := 10 * c.value + digit
  if c.full ∨ UInt64.size ≤ value then none else some value

/-- A digit before the point: one that does not fit still moves the point. -/
def pushWhole (c : Coefficient) (digit : Nat) : Coefficient :=
  match c.push? digit with
  | some value => { c with value := value }
  | none => { c with shift := c.shift + 1, full := true }

/-- A digit after the point: one that does not fit is dropped. -/
def pushFraction (c : Coefficient) (digit : Nat) : Coefficient :=
  match c.push? digit with
  | some value => { c with value := value, shift := c.shift - 1 }
  | none => { c with full := true }

/-- The digits of a literal, gathered.  The fraction has room again even if the whole part had
none left. -/
def ofNumeral (n : Numeral) : Coefficient :=
  let whole := n.whole.foldl pushWhole ⟨0, 0, false⟩
  (n.fraction.getD []).foldl pushFraction { whole with full := false }

end Coefficient

/-! ### Scaling -/

/-- The largest power of ten that is a finite number. -/
def maxTenExponent : Nat := 308

/-- The number nearest to a power of ten. -/
def powerOfTen (n : Nat) : Binary64 :=
  .ofNat (Nat.pow 10 n)

/-- A magnitude times a power of ten; `none` if the result is not finite. -/
def scaleByTen? (x : Binary64) (exponent : Int) : Option Binary64 :=
  if exponent.natAbs ≤ maxTenExponent then
    if 0 ≤ exponent then
      let y := x.times (powerOfTen exponent.natAbs)
      if y.isFinite then some y else none
    else some (x.dividedBy (powerOfTen exponent.natAbs))
  else if x.significand = 0 then some x
  else if 0 ≤ exponent then none
  else scaleByTen? (x.dividedBy (powerOfTen maxTenExponent)) (exponent + maxTenExponent)
termination_by exponent.natAbs
decreasing_by simp only [maxTenExponent] at *; omega

namespace Numeral

/-- The double-precision number that a literal denotes. -/
def real? (n : Numeral) : Option Binary64 :=
  let c := Coefficient.ofNumeral n
  let magnitude := scaleByTen? (.ofNat c.value) (c.shift + n.exponent.getD 0)
  if n.negative then magnitude.map Binary64.negated else magnitude

/-- The integer that a literal spells, if it has 64 bits; `-0` is not one, since its sign would be
lost. -/
def integer? (n : Numeral) : Option Int :=
  let value := ofDigits n.whole
  let opposite : Int := -value
  if n.fraction.isSome ∨ n.exponent.isSome then none
  else if n.negative then if 0 < value ∧ fitsInt64 opposite then some opposite else none
  else if value < UInt64.size then some value else none

/-- The number that a literal denotes; `none` if it is too large for a double-precision number. -/
def value? (n : Numeral) : Option Number :=
  match n.integer? with
  | some i => some (.integer i)
  | none => n.real?.map .real

end Numeral

end Lexicon
