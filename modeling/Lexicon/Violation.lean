import Lexicon.Format

namespace Lexicon

/-!
# Violations

* `Violation` — why a value was rejected;
* `Violation.message` — the same in words;
* `Path`, `Path.child` — where in a value.
-/

/-- Why a value was rejected. -/
inductive Violation where
  | notObject
  /-- The value of a union is not an object that names its type. -/
  | missingTypeProperty
  | missingProperty (name : String)
  | notArray
  | tooFewElements (min : Nat)
  | tooManyElements (max : Nat)
  | notString
  | invalidFormat (format : Format)
  | stringTooShort (min : Nat)
  | stringTooLong (max : Nat)
  | tooFewGraphemes (min : Nat)
  | tooManyGraphemes (max : Nat)
  | notInEnum (allowed : List String)
  | constMismatch (expected : String)
  | notNumber
  | notInteger
  | belowMinimum (min : Int)
  | aboveMaximum (max : Int)
  | notBoolean
  | notBytes
  | bytesTooShort (min : Nat)
  | bytesTooLong (max : Nat)
  | notCidLink
  | notBlob
  | blobTooLarge (max : Nat)
  | mimeTypeNotAccepted (accepted : List String)
  /-- The type of a value is none of those of a closed union. -/
  | unionTypeNotAllowed (members : List String)
  /-- A record names the type of another collection. -/
  | recordTypeMismatch (expected actual : String)
deriving DecidableEq, Repr

/-- A violation in words. -/
def Violation.message : Violation → String
  | notObject => "must be an object"
  | missingTypeProperty => "must be an object which includes the \"$type\" property"
  | missingProperty name => "must have the property \"" ++ name ++ "\""
  | notArray => "must be an array"
  | tooFewElements min => "must not have fewer than " ++ toString min ++ " elements"
  | tooManyElements max => "must not have more than " ++ toString max ++ " elements"
  | notString => "must be a string"
  | invalidFormat format => format.expectation
  | stringTooShort min => "must not be shorter than " ++ toString min ++ " characters"
  | stringTooLong max => "must not be longer than " ++ toString max ++ " characters"
  | tooFewGraphemes min => "must not be shorter than " ++ toString min ++ " characters"
  | tooManyGraphemes max => "must not be longer than " ++ toString max ++ " characters"
  | notInEnum allowed => "must be one of (" ++ String.intercalate "|" allowed ++ ")"
  | constMismatch expected => "must be " ++ expected
  | notNumber => "must be a number"
  | notInteger => "must be an integer"
  | belowMinimum min => "can not be less than " ++ toString min
  | aboveMaximum max => "can not be greater than " ++ toString max
  | notBoolean => "must be a boolean"
  | notBytes => "must be a byte array"
  | bytesTooShort min => "must not be smaller than " ++ toString min ++ " bytes"
  | bytesTooLong max => "must not be larger than " ++ toString max ++ " bytes"
  | notCidLink => "must be a CID"
  | notBlob => "must be a blob ref"
  | blobTooLarge max => "must not be larger than " ++ toString max ++ " bytes"
  | mimeTypeNotAccepted accepted => "mimeType must be one of " ++ String.intercalate ", " accepted
  | unionTypeNotAllowed members => "$type must be one of " ++ String.intercalate ", " members
  | recordTypeMismatch expected actual =>
    "Invalid $type: must be " ++ expected ++ ", got " ++ actual

/-- Where in a value: a label for its root, and the names of the properties on the way, between
slashes.  Items of an array share the path of the array. -/
abbrev Path := String

/-- The path of a property. -/
def Path.child (path : Path) (name : String) : Path :=
  if path = "" then name else path ++ "/" ++ name

end Lexicon
