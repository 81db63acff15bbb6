namespace Lexicon.ContentId

/-!
# Numbers in seven-bit groups

A number is written as bytes of seven bits each, the lowest first; every byte but the last has its
high bit set.

* `groups?` — the groups of a number at the start of some bytes, and the bytes after it;
* `number?` — the number itself, in 64 bits.
-/

/-- A number has at most this many groups. -/
def maxGroups : Nat := 10

/-- The groups at the start of the bytes, of which there are at most `count`, and the bytes after
them. -/
def groups? : (count : Nat) → List UInt8 → Option (List Nat × List UInt8)
  | 0, _ => none
  | _ + 1, [] => none
  | count + 1, b :: bytes =>
    if b.toNat < 128 then some ([b.toNat], bytes)
    else (groups? count bytes).map fun (groups, rest) => ((b.toNat - 128) :: groups, rest)

/-- The number of the groups, the lowest first. -/
def ofGroups : List Nat → Nat
  | [] => 0
  | group :: groups => group + 128 * ofGroups groups

/-- The number at the start of the bytes, and the bytes after it.  A number of several groups does
not end in an empty one, and bits beyond the 64th are lost. -/
def number? (bytes : List UInt8) : Option (Nat × List UInt8) := do
  let (groups, rest) ← groups? maxGroups bytes
  if 1 < groups.length ∧ groups.getLast? = some 0 then none
  else some (ofGroups groups % UInt64.size, rest)

end Lexicon.ContentId
