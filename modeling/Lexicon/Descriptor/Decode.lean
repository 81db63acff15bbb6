import Lexicon.Descriptor.Basic
import Lexicon.Json.Part
import Lexicon.Rules.Json

namespace Lexicon

open Lexicon.Json

/-!
# Reading descriptors

A descriptor is read from an object that names its kind, or, if the kind has no rules, from an
array that starts with the name and gives the fields in order.  Keys that the kind does not declare
are left aside.

* `Kind.ofTag?`, `taggedParts?` — the kind of a descriptor and its fields;
* `Format.ofJson?`, `CallError.ofJson?` — parts that hold no descriptors;
* `Descriptor.ofJson?` — a descriptor, with `ObjectSchema.ofJson?`, `ParamsSchema.ofJson?` and
  `Body.ofJson?` for the parts that do.
-/

/-- The kind that a tag names.  Inside another descriptor a kind may also go by its number. -/
def Kind.ofTag? (nested : Bool) : Json → Option Kind
  | .string name => Kind.ofName? name
  | .number (.integer n) => if nested ∧ 0 ≤ n then Kind.all[n.toNat]? else none
  | _ => none

/-- A format: its name, or an object whose only key is the name and whose value is empty. -/
def Format.ofJson? : Json → Option Format
  | .string name => Format.ofName? name
  | .object [(name, .null)] | .object [(name, .object [])] => Format.ofName? name
  | _ => none

/-- An error of a call. -/
def CallError.ofJson? (json : Json) : Option CallError := do
  let fields ← json.fieldsOf? ["name", "description"] 2
  return {
    name := ← requiredAt? Json.string? "name" fields
    description := ← optionalAt? Json.string? "description" fields }

/-- The names of the fields of a kind, and how many of them an array has to give; kinds with rules
cannot be given as arrays. -/
def Kind.fieldOrder? : Kind → Option (List String × Nat)
  | .cidLink | .token | .unknown => some (["description"], 1)
  | .object => some (["description", "properties", "required", "nullable"], 1)
  | .union => some (["description", "refs", "closed"], 3)
  | .ref => some (["description", "ref"], 2)
  | .record => some (["description", "key", "record"], 3)
  | .params => some (["description", "properties", "required"], 1)
  | .query => some (["description", "parameters", "output", "errors"], 4)
  | .procedure => some (["description", "parameters", "input", "output", "errors"], 5)
  | .boolean | .integer | .string | .bytes | .blob | .array => none

/-- The kind of a descriptor and its fields. -/
def taggedParts? (nested : Bool) (whole : Json) : Option (Kind × List (String × Part whole)) :=
  match whole.itemParts? with
  | some [] => none
  | some (tag :: items) => do
    let kind ← Kind.ofTag? nested tag.val
    let (names, mandatory) ← kind.fieldOrder?
    if mandatory ≤ items.length ∧ items.length ≤ names.length then
      return (kind, names.zip items)
    else none
  | none => do
    let fields ← whole.entryParts?
    let kind ← requiredAt? (Kind.ofTag? nested) "type" (plain fields)
    return (kind, fields)

/-- The description among the fields of a record. -/
def descriptionAt? (fields : List (String × Json)) : Option (Option String) :=
  optionalAt? Json.string? "description" fields

mutual

/-- A descriptor; `nested` tells whether it stands inside another one. -/
def Descriptor.ofJson? (nested : Bool) (json : Json) : Option Descriptor := do
  let (kind, parts) ← taggedParts? nested json
  let fields := plain parts
  match kind with
  | .boolean => return .boolean (← descriptionAt? fields) (← BooleanRules.ofFields? fields)
  | .integer => return .integer (← descriptionAt? fields) (← IntegerRules.ofFields? fields)
  | .string =>
    return .string (← descriptionAt? fields) (← optionalAt? Format.ofJson? "format" fields)
      (← StringRules.ofFields? fields)
  | .bytes => return .bytes (← descriptionAt? fields) (← LengthRules.ofFields? fields)
  | .cidLink => return .cidLink (← descriptionAt? fields)
  | .blob => return .blob (← descriptionAt? fields) (← BlobRules.ofFields? fields)
  | .array =>
    return .array (← descriptionAt? fields)
      (← requiredPart? (fun ⟨items, _⟩ => Descriptor.ofJson? true items) "items" parts)
      (← LengthRules.ofFields? fields)
  | .object => return .object (← ObjectSchema.ofParts? parts)
  | .token => return .token (← descriptionAt? fields)
  | .union =>
    return .union (← descriptionAt? fields) (← requiredAt? stringList? "refs" fields)
      (← optionalAt? boolean? "closed" fields)
  | .unknown => return .unknown (← descriptionAt? fields)
  | .ref => return .ref (← descriptionAt? fields) (← requiredAt? Json.string? "ref" fields)
  | .record =>
    return .record (← descriptionAt? fields) (← optionalAt? Json.string? "key" fields)
      (← requiredPart? (fun ⟨record, _⟩ => ObjectSchema.ofJson? record) "record" parts)
  | .params => return .params (← ParamsSchema.ofParts? parts)
  | .query =>
    return .query (← descriptionAt? fields)
      (← optionalPart? (fun ⟨parameters, _⟩ => ParamsSchema.ofJson? parameters) "parameters" parts)
      (← optionalPart? (fun ⟨output, _⟩ => Body.ofJson? output) "output" parts)
      (← optionalAt? (listOf? CallError.ofJson?) "errors" fields)
  | .procedure =>
    return .procedure (← descriptionAt? fields)
      (← optionalPart? (fun ⟨parameters, _⟩ => ParamsSchema.ofJson? parameters) "parameters" parts)
      (← optionalPart? (fun ⟨input, _⟩ => Body.ofJson? input) "input" parts)
      (← optionalPart? (fun ⟨output, _⟩ => Body.ofJson? output) "output" parts)
      (← optionalAt? (listOf? CallError.ofJson?) "errors" fields)
termination_by (sizeOf json, 1)

/-- An object schema among the fields of a record. -/
def ObjectSchema.ofParts? {json : Json} (parts : List (String × Part json)) :
    Option ObjectSchema := do
  let fields := plain parts
  return {
    description := ← descriptionAt? fields
    properties :=
      ← defaultPart? (fun ⟨properties, _⟩ => Descriptor.ofEntries? properties) [] "properties" parts
    required := ← defaultAt? stringList? [] "required" fields
    nullable := ← defaultAt? stringList? [] "nullable" fields }
termination_by (sizeOf json, 0)

/-- A parameter schema among the fields of a record. -/
def ParamsSchema.ofParts? {json : Json} (parts : List (String × Part json)) :
    Option ParamsSchema := do
  let fields := plain parts
  return {
    description := ← descriptionAt? fields
    properties :=
      ← defaultPart? (fun ⟨properties, _⟩ => Descriptor.ofEntries? properties) [] "properties" parts
    required := ← defaultAt? stringList? [] "required" fields }
termination_by (sizeOf json, 0)

/-- An object schema on its own, whose kind need not be named. -/
def ObjectSchema.ofJson? (json : Json) : Option ObjectSchema := do
  ObjectSchema.ofParts?
    (← json.fieldParts? ["description", "properties", "required", "nullable"] 1)
termination_by (sizeOf json, 1)

/-- A parameter schema on its own. -/
def ParamsSchema.ofJson? (json : Json) : Option ParamsSchema := do
  ParamsSchema.ofParts? (← json.fieldParts? ["description", "properties", "required"] 1)
termination_by (sizeOf json, 1)

/-- A body of a call. -/
def Body.ofJson? (json : Json) : Option Body := do
  let parts ← json.fieldParts? ["description", "encoding", "schema"] 3
  let fields := plain parts
  return {
    description := ← descriptionAt? fields
    encoding := ← requiredAt? Json.string? "encoding" fields
    schema := ← optionalPart? (fun ⟨schema, _⟩ => Descriptor.ofJson? true schema) "schema" parts }
termination_by (sizeOf json, 0)

/-- Named descriptors, in order. -/
def Descriptor.ofEntries? (json : Json) : Option (List (String × Descriptor)) := do
  (← json.entryParts?).mapM fun (name, ⟨descriptor, _⟩) => do
    return (name, ← Descriptor.ofJson? true descriptor)
termination_by (sizeOf json, 0)

end

end Lexicon
