namespace Lexicon.ContentId

/-!
# Bytes written with digits

An alphabet gives each of its characters the value of its place.  A text over it denotes bytes in
one of four ways.

* `digits?` — the values of the characters of a text;
* `ofBits?` — every digit is a group of bits, and groups are cut into bytes;
* `ofPaddedBits?` — the same in blocks of fixed length, filled up with `=`;
* `ofRadix?` — the digits write one number, and each leading zero digit is a zero byte;
* `ofTriples?` — three digits of base 45 are two bytes.
-/

/-- The values of the characters of a text in an alphabet. -/
def digits? (alphabet cs : List Char) : Option (List Nat) :=
  cs.mapM fun c => alphabet.findIdx? (· == c)

/-- The number that digits write, the most significant first. -/
def numberOf (base : Nat) (digits : List Nat) : Nat :=
  digits.foldl (fun n d => base * n + d) 0

/-- The last `count` bytes of a number, the most significant first. -/
def bytesOf : (count n : Nat) → List UInt8
  | 0, _ => []
  | count + 1, n => bytesOf count (n / 256) ++ [.ofNat n]

/-- How many bytes a number needs; zero needs none. -/
def byteCount (n : Nat) : Nat :=
  if n = 0 then 0 else n.log2 / 8 + 1

/-! ### Groups of bits -/

/-- The bytes of digits of `width` bits each.  The bits left over after the last byte are fewer than
a digit has, and zero. -/
def ofBits? (width : Nat) (alphabet cs : List Char) : Option (List UInt8) := do
  let digits ← digits? alphabet cs
  let number := numberOf (Nat.pow 2 width) digits
  let bits := width * digits.length
  let left := bits % 8
  let unit := Nat.pow 2 left
  if left < width ∧ number % unit = 0 then some (bytesOf (bits / 8) (number / unit)) else none

/-- The characters of a block without the `=` that fill it up; a block of nothing else is none. -/
def unpad? (block : List Char) : Option (List Char) :=
  let core := (block.reverse.dropWhile (· == '=')).reverse
  if core.isEmpty then none else some core

/-- The bytes of blocks of `size` characters, each filled up with `=` if it is short. -/
def ofPaddedBits? (width size : Nat) (alphabet cs : List Char) : Option (List UInt8) :=
  if cs.isEmpty then some []
  else if _h : 0 < size ∧ size ≤ cs.length then do
    let first ← ofBits? width alphabet (← unpad? (cs.take size))
    let rest ← ofPaddedBits? width size alphabet (cs.drop size)
    return first ++ rest
  else none
termination_by cs.length
decreasing_by simp only [List.length_drop]; omega

/-! ### Numbers -/

/-- The bytes of the number that a text writes, with a zero byte in front for every leading zero
digit. -/
def ofRadix? (alphabet cs : List Char) : Option (List UInt8) := do
  let digits ← digits? alphabet cs
  let number := numberOf alphabet.length digits
  return List.replicate (digits.takeWhile (· == 0)).length 0 ++ bytesOf (byteCount number) number

/-- The bytes of a number written with the least significant digit first, if they hold it. -/
def littleEndian? (base count : Nat) (digits : List Nat) : Option (List UInt8) :=
  let number := numberOf base digits.reverse
  if number < Nat.pow 256 count then some (bytesOf count number) else none

/-- The bytes of digits in threes, two bytes for each, and one byte for two digits at the end. -/
def ofTriples? (base : Nat) : List Nat → Option (List UInt8)
  | [] => some []
  | [_] => none
  | [a, b] => littleEndian? base 1 [a, b]
  | a :: b :: c :: rest => do
    return (← littleEndian? base 2 [a, b, c]) ++ (← ofTriples? base rest)

end Lexicon.ContentId
