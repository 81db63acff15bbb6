namespace Lexicon

/-!
# Binary64 numbers

A double-precision number is kept as its 64 bits, so that equality is equality of bits and every
question about its value is one of exact integer arithmetic.

* `Binary64` — the bits, with `sign`, `significand` and `scale` read off them;
* `Binary64.integer?` — the exact value of a number without a fractional part;
* `Binary64.ofRatio` — the number nearest to a fraction, a tie going to the even neighbour;
* `Binary64.times`, `Binary64.dividedBy` — product and quotient, each rounded once.
-/

/-- A double-precision number, as its bits. -/
structure Binary64 where
  bits : UInt64
deriving DecidableEq, Repr, Inhabited

namespace Binary64

/-- Whether the sign bit is set. -/
def isNegative (x : Binary64) : Bool :=
  0x8000000000000000 ≤ x.bits.toNat

/-- Two to the power of 52: fractions lie below it, and significands of normal numbers do not. -/
def fractionBound : Nat := 0x10000000000000

/-- The eleven bits of the exponent. -/
def exponentField (x : Binary64) : Nat :=
  x.bits.toNat / fractionBound % 0x800

/-- The fifty-two bits of the fraction. -/
def fraction (x : Binary64) : Nat :=
  x.bits.toNat % fractionBound

/-- Infinities and NaNs carry the largest exponent. -/
def isFinite (x : Binary64) : Bool :=
  x.exponentField != 0x7ff

/-- The integer `m` of a finite number `±m · 2^q`. -/
def significand (x : Binary64) : Nat :=
  if x.exponentField = 0 then x.fraction else fractionBound + x.fraction

/-- The exponent `q` of a finite number `±m · 2^q`. -/
def scale (x : Binary64) : Int :=
  if x.exponentField = 0 then -1074 else (x.exponentField : Int) - 1075

/-- The magnitude of a finite number as a fraction. -/
def ratio (x : Binary64) : Nat × Nat :=
  (x.significand * Nat.pow 2 x.scale.toNat, Nat.pow 2 (-x.scale).toNat)

/-- The exact value of a finite number without a fractional part; both zeros have the value 0. -/
def integer? (x : Binary64) : Option Int :=
  let (num, den) := x.ratio
  if x.isFinite ∧ num % den = 0 then
    some (if x.isNegative then -((num / den : Nat) : Int) else ((num / den : Nat) : Int))
  else none

/-! ### Rounding -/

/-- The integer nearest to `num / den`, a tie going to the even one. -/
def roundDiv (num den : Nat) : Nat :=
  let quotient := num / den
  let twice := 2 * (num % den)
  if den < twice ∨ (twice = den ∧ quotient % 2 = 1) then quotient + 1 else quotient

/-- The exponent `q` for which `num / den` lies in `[2^52, 2^53) · 2^q`, or the smallest one that
numbers have. -/
def scaleFor (num den : Nat) : Int :=
  let guess : Int := (num.log2 : Int) - den.log2
  let fits := den * Nat.pow 2 guess.toNat ≤ num * Nat.pow 2 (-guess).toNat
  let floor := if fits then guess else guess - 1
  max (floor - 52) (-1074)

/-- The number nearest to `num / den`; from the largest finite number on it is an infinity. -/
def ofRatio (num den : Nat) : Binary64 :=
  if num = 0 then ⟨0⟩
  else
    let q := scaleFor num den
    let m := roundDiv (num * Nat.pow 2 (-q).toNat) (den * Nat.pow 2 q.toNat)
    ⟨.ofNat (min ((q + 1074).toNat * fractionBound + m) (0x7ff * fractionBound))⟩

/-- The number nearest to a natural number. -/
def ofNat (n : Nat) : Binary64 :=
  ofRatio n 1

/-- The number with its sign bit set. -/
def negated (x : Binary64) : Binary64 :=
  ⟨x.bits ||| 0x8000000000000000⟩

/-- The number nearest to an integer. -/
def ofInt (n : Int) : Binary64 :=
  if n < 0 then (ofNat n.natAbs).negated else ofNat n.natAbs

/-- The product of two magnitudes, rounded. -/
def times (x y : Binary64) : Binary64 :=
  ofRatio (x.ratio.1 * y.ratio.1) (x.ratio.2 * y.ratio.2)

/-- The quotient of two magnitudes, rounded. -/
def dividedBy (x y : Binary64) : Binary64 :=
  ofRatio (x.ratio.1 * y.ratio.2) (x.ratio.2 * y.ratio.1)

end Binary64

end Lexicon
