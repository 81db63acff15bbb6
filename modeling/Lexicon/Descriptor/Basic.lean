import Lexicon.Kind
import Lexicon.Rules.Basic

namespace Lexicon

/-!
# Descriptors

A descriptor says what values are like.  Objects, parameters and bodies of calls occur inside
descriptors without being descriptors themselves.

* `Descriptor` with `ObjectSchema`, `ParamsSchema` and `Body` — the descriptors;
* `CallError` — an error that a call may answer with;
* `Descriptor.kind` — the kind of a descriptor;
* `ObjectSchema.isNullable`, `Descriptor.isClosed` — what is assumed where nothing is said.
-/

/-- An error that a call may answer with. -/
structure CallError where
  name : String
  description : Option String
deriving DecidableEq, Repr, Inhabited

mutual

/-- What an object is like. -/
structure ObjectSchema where
  description : Option String
  /-- The properties, in the order in which they are declared. -/
  properties : List (String × Descriptor)
  /-- The properties that must be present. -/
  required : List String
  /-- The properties that may be null. -/
  nullable : List String

/-- What the parameters of a call are like. -/
structure ParamsSchema where
  description : Option String
  /-- The parameters, in the order in which they are declared. -/
  properties : List (String × Descriptor)
  /-- The parameters that must be present. -/
  required : List String

/-- What a call takes or answers with. -/
structure Body where
  description : Option String
  /-- A MIME type. -/
  encoding : String
  schema : Option Descriptor

/-- What a value is like. -/
inductive Descriptor where
  | boolean (description : Option String) (rules : BooleanRules)
  | integer (description : Option String) (rules : IntegerRules)
  | string (description : Option String) (format : Option Format) (rules : StringRules)
  | bytes (description : Option String) (rules : LengthRules)
  | cidLink (description : Option String)
  | blob (description : Option String) (rules : BlobRules)
  | array (description : Option String) (items : Descriptor) (rules : LengthRules)
  | object (schema : ObjectSchema)
  | token (description : Option String)
  /-- A value of one of the referenced types; values of other types pass unless the union is
  closed. -/
  | union (description : Option String) (members : List String) (closed : Option Bool)
  | unknown (description : Option String)
  | ref (description : Option String) (target : String)
  | record (description : Option String) (key : Option String) (schema : ObjectSchema)
  | params (schema : ParamsSchema)
  | query (description : Option String) (parameters : Option ParamsSchema) (output : Option Body)
      (errors : Option (List CallError))
  | procedure (description : Option String) (parameters : Option ParamsSchema) (input : Option Body)
      (output : Option Body) (errors : Option (List CallError))

end

/-- Whether a property may be null. -/
def ObjectSchema.isNullable (schema : ObjectSchema) (name : String) : Bool :=
  schema.nullable.contains name

namespace Descriptor

/-- The kind of a descriptor. -/
def kind : Descriptor → Kind
  | boolean .. => .boolean
  | integer .. => .integer
  | string .. => .string
  | bytes .. => .bytes
  | cidLink .. => .cidLink
  | blob .. => .blob
  | array .. => .array
  | object .. => .object
  | token .. => .token
  | union .. => .union
  | unknown .. => .unknown
  | ref .. => .ref
  | record .. => .record
  | params .. => .params
  | query .. => .query
  | procedure .. => .procedure

/-- Whether a union that is declared so is closed; it is open unless it says otherwise. -/
def isClosed (closed : Option Bool) : Bool :=
  closed.getD false

end Descriptor

end Lexicon
