import Lexicon.Identifier.Did
import Lexicon.Identifier.Handle
import Lexicon.Identifier.Nsid

namespace Lexicon

open Lexicon.Text

/-!
# Addresses of accounts, collections and records

`at://alice.example.com/com.example.post/3jui7kd54zh2y#/text`: an account, optionally a collection
and a record key, and optionally a pointer into the record.

* `AtIdentifier.isValid` — an account: a decentralized identifier or a handle;
* `AtUri.isValid` — the grammar of such addresses.
-/

/-- Whether a text names an account.  The mark `did:` decides which of the two grammars counts. -/
def AtIdentifier.isValid (s : String) : Bool :=
  if Did.hasScheme s then Did.isValid s else Handle.isValid s

namespace AtUri

/-- An address has at most this many bytes. -/
def maxBytes : Nat := 8192

/-- The mark in front of an address. -/
def scheme : List Char := ['a', 't', ':', '/', '/']

/-- The characters besides letters and digits that a record key may have within an address. -/
def keyMarks : List Char :=
  ['.', '_', '~', ':', '@', '!', '$', '&', '%', '\'', ')', '(', '*', '+', ',', ';', '=', '-']

/-- The characters of a record key within an address. -/
def isKeyChar (c : Char) : Bool :=
  c.isAlphanum || keyMarks.contains c

/-- The characters of a pointer. -/
def isPointerChar (c : Char) : Bool :=
  isKeyChar c || c == '[' || c == ']' || c == '/' || c == '\\'

/-- Whether a text names an account; here either grammar will do. -/
def isAuthority (cs : List Char) : Bool :=
  Handle.isValid (.ofList cs) || Did.isValid (.ofList cs)

/-- Whether a text is the record key of an address. -/
def isKey (cs : List Char) : Bool :=
  !cs.isEmpty && cs.all isKeyChar

/-- Whether a text after `#` is a pointer. -/
def isPointer : List Char → Bool
  | '/' :: cs => cs.all isPointerChar
  | _ => false

/-- Whether the pieces between slashes are an account, a collection and a record key, of which the
last two may be missing. -/
def arePieces : List (List Char) → Bool
  | [authority] => isAuthority authority
  | [authority, collection] => isAuthority authority && Nsid.isValid (.ofList collection)
  | [authority, collection, key] =>
    isAuthority authority && Nsid.isValid (.ofList collection) && isKey key
  | _ => false

/-- Whether a text after the mark is an address. -/
def isBody (cs : List Char) : Bool :=
  match cutAt? '#' cs with
  | none => arePieces (splitOn '/' cs)
  | some (path, pointer) => arePieces (splitOn '/' path) && isPointer pointer

/-- Whether a text is an address. -/
def isValid (s : String) : Bool :=
  s.utf8ByteSize ≤ maxBytes && (dropStart? scheme s.toList).any isBody

end AtUri

end Lexicon
