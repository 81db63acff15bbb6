import Lexicon.Descriptor.Basic
import Lexicon.Rules.Json

namespace Lexicon

open Lexicon.Json

/-!
# Writing descriptors

A descriptor is written as an object that names its kind first.  Fields without a value are left
out, and so are empty lists of required and nullable properties; the properties themselves are
always written.

* `Descriptor.toJson` — a descriptor;
* `ObjectSchema.toFields`, `ParamsSchema.toFields`, `Body.toFields`, `CallError.toJson` — its parts.
-/

/-- The description, if there is one. -/
def describe (description : Option String) : List (String × Json) :=
  entry "description" string description

/-- A list of property names, unless it is empty. -/
def namesEntry (key : String) (names : List String) : List (String × Json) :=
  if names.isEmpty then [] else [(key, ofStrings names)]

/-- An error of a call. -/
def CallError.toJson (error : CallError) : Json :=
  .object (("name", .string error.name) :: describe error.description)

/-- The errors of a call, if they are listed. -/
def errorsEntry (errors : Option (List CallError)) : List (String × Json) :=
  entry "errors" (fun errors => .array (errors.map CallError.toJson)) errors

/-- A descriptor of a kind with its fields. -/
def tagged (kind : Kind) (fields : List (String × Json)) : Json :=
  .object (("type", .string kind.name) :: fields)

mutual

/-- The fields of an object schema. -/
def ObjectSchema.toFields : ObjectSchema → List (String × Json)
  | ⟨description, properties, required, nullable⟩ =>
    describe description ++ [("properties", .object (Descriptor.toEntries properties))] ++
      namesEntry "required" required ++ namesEntry "nullable" nullable

/-- The fields of a parameter schema. -/
def ParamsSchema.toFields : ParamsSchema → List (String × Json)
  | ⟨description, properties, required⟩ =>
    describe description ++ [("properties", .object (Descriptor.toEntries properties))] ++
      namesEntry "required" required

/-- The fields of a body. -/
def Body.toFields : Body → List (String × Json)
  | ⟨description, encoding, schema⟩ =>
    describe description ++ [("encoding", .string encoding)] ++ Descriptor.toEntry schema

/-- A descriptor. -/
def Descriptor.toJson : Descriptor → Json
  | .boolean description rules => tagged .boolean (describe description ++ rules.toFields)
  | .integer description rules => tagged .integer (describe description ++ rules.toFields)
  | .string description format rules =>
    tagged .string
      (describe description ++ entry "format" (fun f => .string f.name) format ++ rules.toFields)
  | .bytes description rules => tagged .bytes (describe description ++ rules.toFields)
  | .cidLink description => tagged .cidLink (describe description)
  | .blob description rules => tagged .blob (describe description ++ rules.toFields)
  | .array description items rules =>
    tagged .array (describe description ++ [("items", items.toJson)] ++ rules.toFields)
  | .object schema => tagged .object schema.toFields
  | .token description => tagged .token (describe description)
  | .union description members closed =>
    tagged .union
      (describe description ++ [("refs", ofStrings members)] ++ entry "closed" boolean closed)
  | .unknown description => tagged .unknown (describe description)
  | .ref description target => tagged .ref (describe description ++ [("ref", .string target)])
  | .record description key schema =>
    tagged .record
      (describe description ++ entry "key" string key ++ [("record", .object schema.toFields)])
  | .params schema => tagged .params schema.toFields
  | .query description parameters output errors =>
    tagged .query
      (describe description ++ ParamsSchema.toEntry parameters ++ Body.toEntry "output" output ++
        errorsEntry errors)
  | .procedure description parameters input output errors =>
    tagged .procedure
      (describe description ++ ParamsSchema.toEntry parameters ++ Body.toEntry "input" input ++
        Body.toEntry "output" output ++ errorsEntry errors)

/-- Named descriptors, in order. -/
def Descriptor.toEntries : List (String × Descriptor) → List (String × Json)
  | [] => []
  | (name, descriptor) :: rest => (name, descriptor.toJson) :: Descriptor.toEntries rest

/-- The schema of a body, if there is one. -/
def Descriptor.toEntry : Option Descriptor → List (String × Json)
  | some schema => [("schema", schema.toJson)]
  | none => []

/-- The parameters of a call, if they are declared. -/
def ParamsSchema.toEntry : Option ParamsSchema → List (String × Json)
  | some parameters => [("parameters", .object parameters.toFields)]
  | none => []

/-- A body of a call, if it is declared. -/
def Body.toEntry (key : String) : Option Body → List (String × Json)
  | some body => [(key, .object body.toFields)]
  | none => []

end

/-- A descriptor is written under the name of its kind. -/
theorem Descriptor.exists_toJson_eq (descriptor : Descriptor) :
    ∃ fields, descriptor.toJson = tagged descriptor.kind fields := by
  cases descriptor <;> rw [Descriptor.toJson] <;> exact ⟨_, rfl⟩

end Lexicon
