import Lexicon.Assoc
import Lexicon.Number.Binary64

namespace Lexicon

/-!
# JSON values

* `Number` — an integer or a double-precision number: how a number was spelled decides which;
* `Json` — a JSON value whose objects keep their keys in order;
* `Json.get?`, `Json.string?`, … — looking into a value.
-/

/-- A number of a JSON text. -/
inductive Number where
  /-- A literal without fraction and exponent that fits in 64 bits, signed or unsigned. -/
  | integer (n : Int)
  /-- Any other literal. -/
  | real (x : Binary64)
deriving DecidableEq, Repr, Inhabited

/-- A JSON value. -/
inductive Json where
  | null
  | boolean (b : Bool)
  | number (n : Number)
  | string (s : String)
  | array (items : List Json)
  | object (fields : List (String × Json))
deriving Repr, Inhabited

namespace Json

/-- The entries of an object. -/
def object? : Json → Option (List (String × Json))
  | object fields => some fields
  | _ => none

/-- The items of an array. -/
def array? : Json → Option (List Json)
  | array items => some items
  | _ => none

/-- The text of a string. -/
def string? : Json → Option String
  | string s => some s
  | _ => none

/-- The truth value of a boolean. -/
def boolean? : Json → Option Bool
  | boolean b => some b
  | _ => none

/-- The value of a number spelled as an integer. -/
def integer? : Json → Option Int
  | number (.integer n) => some n
  | _ => none

/-- The value at a key of an object. -/
def get? (key : String) : Json → Option Json
  | object fields => fields.lookup key
  | _ => none

end Json

end Lexicon
