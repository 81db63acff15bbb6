import Lexicon.Json.Field
import Lexicon.Rules.Basic

namespace Lexicon

open Lexicon.Json

/-!
# Rules in documents

For each sort of rules, the names of its fields in their fixed order, how the fields are read, and
how they are written.

* `fieldNames`, `ofFields?`, `toFields` for `StringRules`, `IntegerRules`, `BooleanRules`,
  `LengthRules` and `BlobRules`.
-/

namespace StringRules

/-- The names of the fields. -/
def fieldNames : List String :=
  ["maxLength", "minLength", "maxGraphemes", "minGraphemes", "enum", "const", "default",
   "knownValues"]

/-- The rules among the fields of a record. -/
def ofFields? (fields : List (String × Json)) : Option StringRules := do
  return {
    maxLength := ← optionalAt? uint64? "maxLength" fields
    minLength := ← optionalAt? uint64? "minLength" fields
    maxGraphemes := ← optionalAt? uint64? "maxGraphemes" fields
    minGraphemes := ← optionalAt? uint64? "minGraphemes" fields
    allowed := ← optionalAt? stringList? "enum" fields
    const := ← optionalAt? string? "const" fields
    default := ← optionalAt? string? "default" fields
    knownValues := ← optionalAt? stringList? "knownValues" fields }

/-- The fields of the rules. -/
def toFields (rules : StringRules) : List (String × Json) :=
  entry "maxLength" ofUInt64 rules.maxLength ++ entry "minLength" ofUInt64 rules.minLength ++
    entry "maxGraphemes" ofUInt64 rules.maxGraphemes ++
    entry "minGraphemes" ofUInt64 rules.minGraphemes ++ entry "enum" ofStrings rules.allowed ++
    entry "const" string rules.const ++ entry "default" string rules.default ++
    entry "knownValues" ofStrings rules.knownValues

end StringRules

namespace IntegerRules

/-- The names of the fields. -/
def fieldNames : List String :=
  ["maximum", "minimum", "enum", "const", "default"]

/-- The rules among the fields of a record. -/
def ofFields? (fields : List (String × Json)) : Option IntegerRules := do
  return {
    maximum := ← optionalAt? int64? "maximum" fields
    minimum := ← optionalAt? int64? "minimum" fields
    allowed := ← optionalAt? (listOf? int64?) "enum" fields
    const := ← optionalAt? int64? "const" fields
    default := ← optionalAt? int64? "default" fields }

/-- The fields of the rules. -/
def toFields (rules : IntegerRules) : List (String × Json) :=
  entry "maximum" ofInt64 rules.maximum ++ entry "minimum" ofInt64 rules.minimum ++
    entry "enum" (fun values => array (values.map ofInt64)) rules.allowed ++
    entry "const" ofInt64 rules.const ++ entry "default" ofInt64 rules.default

end IntegerRules

namespace BooleanRules

/-- The names of the fields. -/
def fieldNames : List String :=
  ["const", "default"]

/-- The rules among the fields of a record. -/
def ofFields? (fields : List (String × Json)) : Option BooleanRules := do
  return {
    const := ← optionalAt? boolean? "const" fields
    default := ← optionalAt? boolean? "default" fields }

/-- The fields of the rules. -/
def toFields (rules : BooleanRules) : List (String × Json) :=
  entry "const" boolean rules.const ++ entry "default" boolean rules.default

end BooleanRules

namespace LengthRules

/-- The names of the fields. -/
def fieldNames : List String :=
  ["maxLength", "minLength"]

/-- The rules among the fields of a record. -/
def ofFields? (fields : List (String × Json)) : Option LengthRules := do
  return {
    maxLength := ← optionalAt? uint64? "maxLength" fields
    minLength := ← optionalAt? uint64? "minLength" fields }

/-- The fields of the rules. -/
def toFields (rules : LengthRules) : List (String × Json) :=
  entry "maxLength" ofUInt64 rules.maxLength ++ entry "minLength" ofUInt64 rules.minLength

end LengthRules

namespace BlobRules

/-- The names of the fields. -/
def fieldNames : List String :=
  ["accept", "maxSize"]

/-- The rules among the fields of a record. -/
def ofFields? (fields : List (String × Json)) : Option BlobRules := do
  return {
    accept := ← optionalAt? stringList? "accept" fields
    maxSize := ← optionalAt? uint64? "maxSize" fields }

/-- The fields of the rules. -/
def toFields (rules : BlobRules) : List (String × Json) :=
  entry "accept" ofStrings rules.accept ++ entry "maxSize" ofUInt64 rules.maxSize

end BlobRules

end Lexicon
