import Lexicon.Json.Basic
import Lexicon.Number.Word

namespace Lexicon

/-!
# Values

What documents describe: JSON data, with byte strings and links besides.

* `Value` — a value, `Value.kindName` the name of its kind;
* `Value.ofJson` — a JSON value as a value;
* `Value.integer?`, `Value.string?`, `Value.get?` — looking into a value.
-/

/-- A value.  The keys of an object are in order and differ from each other. -/
inductive Value where
  | null
  | boolean (b : Bool)
  | integer (n : Int64)
  /-- A number with a fractional part, or one that 64 bits do not hold. -/
  | float (x : Binary64)
  | string (s : String)
  | bytes (data : List UInt8)
  /-- A link, as the text of its content identifier. -/
  | link (cid : String)
  | array (items : List Value)
  | object (fields : List (String × Value))
deriving Repr, Inhabited

namespace Value

/-- The name of the kind of a value. -/
def kindName : Value → String
  | null => "null"
  | boolean _ => "boolean"
  | integer _ => "integer"
  | float _ => "number"
  | string _ => "string"
  | bytes _ => "bytes"
  | link _ => "cid-link"
  | array _ => "array"
  | object _ => "object"

/-! ### Values of JSON -/

/-- A number: an integer if 64 bits hold it, and the nearest double-precision number if not. -/
def ofNumber : Number → Value
  | .integer n =>
    match int64OfInt? n with
    | some i => integer i
    | none => float (.ofInt n)
  | .real x => float x

mutual

/-- A JSON value as a value. -/
def ofJson : Json → Value
  | .null => null
  | .boolean b => boolean b
  | .number n => ofNumber n
  | .string s => string s
  | .array items => array (ofJsonItems items)
  | .object fields => object (ofJsonFields fields)

/-- The items of an array. -/
def ofJsonItems : List Json → List Value
  | [] => []
  | item :: items => ofJson item :: ofJsonItems items

/-- The entries of an object. -/
def ofJsonFields : List (String × Json) → List (String × Value)
  | [] => []
  | (key, value) :: fields => (key, ofJson value) :: ofJsonFields fields

end

/-! ### Looking into a value -/

/-- The entries of an object. -/
def object? : Value → Option (List (String × Value))
  | object fields => some fields
  | _ => none

/-- The text of a string. -/
def string? : Value → Option String
  | string s => some s
  | _ => none

/-- The value at a key of an object. -/
def get? (key : String) : Value → Option Value
  | object fields => fields.lookup key
  | _ => none

/-- Whether a value is null. -/
def isNull : Value → Bool
  | null => true
  | _ => false

/-- Whether a value is a number of either kind. -/
def isNumber : Value → Bool
  | integer _ | float _ => true
  | _ => false

/-- The integer that a number is: a number without a fractional part is one, if 64 bits hold it. -/
def integer? : Value → Option Int64
  | integer n => some n
  | float x => x.integer?.bind int64OfInt?
  | _ => none

end Value

end Lexicon
