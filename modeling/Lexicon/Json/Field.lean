import Lexicon.Json.Basic
import Lexicon.Number.Word

namespace Lexicon.Json

/-!
# Records in JSON

A record with named fields is written as an object; it may also be given as an array of its fields
in their fixed order.

* `fieldsOf?` — the fields of a record in either form;
* `requiredAt?`, `optionalAt?`, `defaultAt?` — reading a field;
* `listOf?`, `stringList?`, `int64?`, `uint64?`, `uint32?` — what fields hold;
* `entry`, `ofInt64`, `ofUInt64`, `ofStrings` — writing a field.
-/

variable {α : Type}

/-- The fields of a record.  An array gives them in the order of `names`; it has at least the first
`mandatory` of them, and no more than there are names. -/
def fieldsOf? (names : List String) (mandatory : Nat) : Json → Option (List (String × Json))
  | object fields => some fields
  | array items =>
    if mandatory ≤ items.length ∧ items.length ≤ names.length then some (names.zip items) else none
  | _ => none

/-! ### Reading fields -/

/-- A field that has to be there. -/
def requiredAt? (decode : Json → Option α) (key : String) (fields : List (String × Json)) :
    Option α :=
  (fields.lookup key).bind decode

/-- A field that may be absent or null. -/
def optionalAt? (decode : Json → Option α) (key : String) (fields : List (String × Json)) :
    Option (Option α) :=
  match fields.lookup key with
  | none | some null => some none
  | some value => (decode value).map some

/-- A field that may be absent, but not null. -/
def defaultAt? (decode : Json → Option α) (default : α) (key : String)
    (fields : List (String × Json)) : Option α :=
  match fields.lookup key with
  | none => some default
  | some value => decode value

/-- A list of items of one sort. -/
def listOf? (decode : Json → Option α) : Json → Option (List α)
  | array items => items.mapM decode
  | _ => none

/-- A list of strings. -/
def stringList? : Json → Option (List String) :=
  listOf? string?

/-- An integer of 64 bits with a sign. -/
def int64? (value : Json) : Option Int64 :=
  value.integer?.bind int64OfInt?

/-- An integer of 64 bits without a sign. -/
def uint64? (value : Json) : Option UInt64 :=
  value.integer?.bind uint64OfInt?

/-- An integer of 32 bits without a sign. -/
def uint32? (value : Json) : Option UInt32 :=
  value.integer?.bind uint32OfInt?

/-! ### Writing fields -/

/-- The entry of a field, if it has a value. -/
def entry (key : String) (encode : α → Json) : Option α → List (String × Json)
  | some value => [(key, encode value)]
  | none => []

/-- A signed integer. -/
def ofInt64 (n : Int64) : Json :=
  number (.integer n.toInt)

/-- An unsigned integer. -/
def ofUInt64 (n : UInt64) : Json :=
  number (.integer n.toNat)

/-- An unsigned integer of 32 bits. -/
def ofUInt32 (n : UInt32) : Json :=
  number (.integer n.toNat)

/-- A list of strings. -/
def ofStrings (texts : List String) : Json :=
  array (texts.map string)

end Lexicon.Json
