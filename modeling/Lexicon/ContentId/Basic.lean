import Lexicon.ContentId.Multibase
import Lexicon.ContentId.Varint
import Lexicon.Text.Split

namespace Lexicon

open Lexicon.Text

/-!
# Content identifiers

A content identifier names data by a digest of it.  Its bytes are a version, the format of the data,
the hash function, and the digest; the oldest identifiers are a bare SHA-256 digest.

* `ContentId.startsBytes` — whether bytes start with a content identifier;
* `ContentId.bytes?` — the bytes that a bare text denotes;
* `ContentId.isValid` — whether a text holds a content identifier.
-/

namespace ContentId

/-- The code of SHA-256, and the length of its digests. -/
def sha256 : Nat × Nat := (0x12, 32)

/-- A digest has at most this many bytes. -/
def maxDigest : Nat := 64

/-- Whether bytes start with a hash function, a length and a digest of that length. -/
def startsDigest (bytes : List UInt8) : Bool :=
  ((do
    let (_, bytes) ← number? bytes
    let (size, bytes) ← number? bytes
    return (size, bytes.length)) : Option (Nat × Nat)).any
      fun (size, length) => size ≤ maxDigest && size ≤ length

/-- Whether bytes start with a content identifier: a bare SHA-256 digest, or version 1. -/
def startsBytes (bytes : List UInt8) : Bool :=
  match number? bytes with
  | none => false
  | some (version, bytes) =>
    match number? bytes with
    | none => false
    | some (codec, bytes) =>
      if (version, codec) = sha256 then sha256.2 ≤ bytes.length
      else version == 1 && startsDigest bytes

/-- Whether a text has the form of the oldest identifiers, which are in base 58 without a mark. -/
def isUnmarked : List Char → Bool
  | 'Q' :: 'm' :: cs => (String.ofList ('Q' :: 'm' :: cs)).utf8ByteSize == 46
  | _ => false

/-- The bytes that a text denotes, if it is nothing but a content identifier. -/
def bytes? (cs : List Char) : Option (List UInt8) :=
  if (String.ofList cs).utf8ByteSize < 2 then none
  else if isUnmarked cs then ofRadix? base58 cs
  else multibase? cs

/-- What stands between the host and the content identifier in the address of a gateway. -/
def pathMark : List Char := "/ipfs/".toList

/-- What follows the first mark in a text, if there is one. -/
def afterMark? : List Char → Option (List Char)
  | [] => none
  | c :: cs =>
    match dropStart? pathMark (c :: cs) with
    | some rest => some rest
    | none => afterMark? cs

/-- Whether a text is a content identifier, or holds one after the first mark. -/
def isValid (s : String) : Bool :=
  (bytes? ((afterMark? s.toList).getD s.toList)).any startsBytes

end ContentId

end Lexicon
