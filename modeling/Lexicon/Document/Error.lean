import Lexicon.Kind

namespace Lexicon

/-!
# Errors in documents

* `ReadError` — why a text or some data are not a sound document;
* `ReadError.message` — the same in words, apart from what is wrong with the JSON itself.
-/

/-- Where in a document: its identifier, `#` and the name of a definition, and the way on from there
between slashes. -/
abbrev Location := String

/-- The location of a part. -/
def Location.child (location : Location) (name : String) : Location :=
  location ++ "/" ++ name

/-- Why a text or some data are not a sound document. -/
inductive ReadError where
  /-- The text is not JSON. -/
  | notJson
  /-- The data do not have the shape of a document. -/
  | wrongShape
  | invalidVersion (version : UInt32)
  | invalidNsid (id : String)
  /-- A property that must be present is not declared. -/
  | requiredNotDefined (name : String) (location : Location)
  /-- A parameter is neither a primitive nor an array of primitives. -/
  | invalidParamsProperty (location : Location) (kind : Kind)
  | invalidReference (reference : String) (location : Location)
  /-- A descriptor has keys that its kind does not declare. -/
  | unrecognizedKeys (keys : List String) (location : Location)
  /-- A kind that can only be a definition stands inside another descriptor. -/
  | misplacedDefinition (kind : Kind) (location : Location)
deriving DecidableEq, Repr

/-- Keys between quotes. -/
def quoted (keys : List String) : String :=
  String.intercalate ", " (keys.map fun key => "'" ++ key ++ "'")

/-- An error in words. -/
def ReadError.message : ReadError → String
  | notJson | wrongShape => "Invalid JSON"
  | invalidVersion version =>
    "Invalid lexicon version: expected 1, got " ++ toString version.toNat
  | invalidNsid id => "Invalid NSID format: " ++ id
  | requiredNotDefined name location =>
    "Required field \"" ++ name ++ "\" not defined at " ++ location
  | invalidParamsProperty location kind =>
    "Params property at " ++ location ++
      " must be a boolean, integer, string, unknown or an array of those, got " ++ kind.name
  | invalidReference reference location =>
    "Invalid reference \"" ++ reference ++ "\" at " ++ location ++
      ": Uri can only have one hash segment"
  | unrecognizedKeys keys location =>
    "Unrecognized key(s) in object: " ++ quoted keys ++ " at " ++ location
  | misplacedDefinition kind location =>
    "\"" ++ kind.name ++ "\" definitions may only appear at the top level, found at " ++ location

end Lexicon
