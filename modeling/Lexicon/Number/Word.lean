namespace Lexicon

/-!
# Integers in words

* `int64OfInt?`, `uint64OfInt?`, `uint32OfInt?` — an integer as a word, if the word can hold it.
-/

/-- Whether 64 bits with a sign hold an integer. -/
def fitsInt64 (n : Int) : Bool :=
  Int64.minValue.toInt ≤ n && n ≤ Int64.maxValue.toInt

/-- An integer as a word of 64 bits with a sign. -/
def int64OfInt? (n : Int) : Option Int64 :=
  if fitsInt64 n then some (.ofInt n) else none

/-- An integer as a word of 64 bits without a sign. -/
def uint64OfInt? (n : Int) : Option UInt64 :=
  if 0 ≤ n ∧ n.toNat < UInt64.size then some (.ofNat n.toNat) else none

/-- An integer as a word of 32 bits without a sign. -/
def uint32OfInt? (n : Int) : Option UInt32 :=
  if 0 ≤ n ∧ n.toNat < UInt32.size then some (.ofNat n.toNat) else none

end Lexicon
