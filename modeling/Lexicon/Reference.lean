import Lexicon.Text.Split

namespace Lexicon

open Lexicon.Text

/-!
# References

A reference names a definition: `com.example.post#view` the definition `view` of a document,
`com.example.post` its main one, and `#view` a definition of the document that the reference stands
in.  Each may have `lex:` in front.

* `Address` — a document and a name in it;
* `Address.parse` — the address that a reference stands for;
* `Address.render` — the canonical reference to an address;
* `ReferenceError` — why a reference stands for nothing.
-/

/-- Where a definition is: the document and the name in it. -/
structure Address where
  document : String
  name : String
deriving DecidableEq, Repr, Inhabited

/-- Why a reference stands for no address. -/
inductive ReferenceError where
  /-- More than one `#`. -/
  | manyHashes
  /-- No document is named, and none can be taken from where the reference stands. -/
  | noDocument (reference : String)
  /-- Nothing follows the `#`. -/
  | emptyName (reference : String)
deriving DecidableEq, Repr

/-- An error in words. -/
def ReferenceError.message : ReferenceError → String
  | manyHashes => "Uri can only have one hash segment"
  | noDocument reference => "Unable to resolve uri without anchor: " ++ reference
  | emptyName reference => "Empty definition name in " ++ reference

/-- The mark that a reference may have in front. -/
def referenceMark : List Char := ['l', 'e', 'x', ':']

/-- Whether a reference leads to the document that it stands in: it starts with `#`. -/
def isLocalReference (reference : String) : Bool :=
  reference.toList.head? == some '#'

/-- A text without one mark in front. -/
def dropReferenceMark (s : String) : List Char :=
  (dropStart? referenceMark s.toList).getD s.toList

namespace Address

/-- The name of the main definition of a document. -/
def mainName : String := "main"

/-- The address that a reference stands for.  `base` is the document in which it stands; only a
reference that starts with `#` needs one. -/
def parse (reference : String) (base : Option String) : Except ReferenceError Address :=
  match splitOn '#' (dropReferenceMark reference) with
  | [document] =>
    if document.isEmpty then .error (.noDocument reference)
    else .ok ⟨.ofList document, mainName⟩
  | [document, name] =>
    match if document.isEmpty then base else some (.ofList document) with
    | none => .error (.noDocument reference)
    | some document =>
      if name.isEmpty then .error (.emptyName reference) else .ok ⟨document, .ofList name⟩
  | _ => .error .manyHashes

/-- Whether the address is that of a main definition. -/
def isMain (address : Address) : Bool :=
  address.name == mainName

/-- The canonical reference to an address. -/
def render (address : Address) : String :=
  if address.isMain then "lex:" ++ address.document
  else "lex:" ++ address.document ++ "#" ++ address.name

/-- Whether a text stands for the address, in any spelling. -/
def isNamedBy (address : Address) (reference : String) : Bool :=
  match parse reference none with
  | .ok named => named == address
  | .error _ => false

end Address

end Lexicon
