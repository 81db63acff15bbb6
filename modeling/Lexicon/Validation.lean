import Lexicon.Conformance

namespace Lexicon

/-!
# Records and calls

The ways in which values are checked: against any definition, as a record of a collection, or as the
parameters, the input or the output of a call.

* `Registry.recordAt`, `Registry.parametersAt` — definitions that are needed in a role;
* `Registry.validate` — a value against any definition;
* `Registry.validateRecord` — a record, which names its collection;
* `Registry.validateParams`, `Registry.validateInput`, `Registry.validateOutput` — parts of a call.
-/

namespace Registry

/-! ### Definitions in a role -/

/-- The address behind a reference, and the record schema there. -/
def recordAt (registry : Registry) (reference : String) :
    Except Failure (Address × ObjectSchema) := do
  let address ← Address.locate reference none
  match ← registry.lookUp address with
  | .record _ _ schema => return (address, schema)
  | _ => throw (.wrongKind address .record)

/-- The address behind a reference, and the parameters of the call there. -/
def parametersAt (registry : Registry) (reference : String) :
    Except Failure (Address × Option ParamsSchema) := do
  let address ← Address.locate reference none
  match ← registry.lookUp address with
  | .query _ parameters _ _ | .procedure _ parameters _ _ _ => return (address, parameters)
  | _ => throw (.wrongKind address .call)

/-- The address behind a reference, and the input of the procedure there. -/
def inputAt (registry : Registry) (reference : String) :
    Except Failure (Address × Option Body) := do
  let address ← Address.locate reference none
  match ← registry.lookUp address with
  | .procedure _ _ input _ _ => return (address, input)
  | _ => throw (.wrongKind address .procedure)

/-- The address behind a reference, and the output of the call there. -/
def outputAt (registry : Registry) (reference : String) :
    Except Failure (Address × Option Body) := do
  let address ← Address.locate reference none
  match ← registry.lookUp address with
  | .query _ _ output _ | .procedure _ _ _ output _ => return (address, output)
  | _ => throw (.wrongKind address .call)

/-! ### Checks -/

/-- A value against any definition.  A record definition stands for the records, whatever type they
name. -/
def validate (registry : Registry) (reference : String) (value : Value) : Verdict := do
  let address ← Address.locate reference none
  match ← registry.lookUp address with
  | .record _ _ schema => registry.checkObject address.document schema value "Record"
  | descriptor => registry.checkValue address.document descriptor value "Object" 0

/-- A record: an object whose type names the collection, in any spelling. -/
def validateRecord (registry : Registry) (reference : String) (value : Value) : Verdict := do
  let (address, schema) ← registry.recordAt reference
  match value with
  | .object fields =>
    match (fields.lookup "$type").bind Value.string? with
    | none => violates "Record/$type" .notString
    | some type =>
      if address.isNamedBy type then
        registry.checkObject address.document schema value "Record"
      else violates "" (.recordTypeMismatch address.render type)
  | _ => violates "Record" .notObject

/-- The parameters of a call; one that declares none takes any. -/
def validateParams (registry : Registry) (reference : String) (value : Value) : Verdict := do
  match ← registry.parametersAt reference with
  | (address, some schema) => registry.checkParams address.document schema value "Params"
  | (_, none) => return

/-- A body of a call, under a label; one without a schema may be anything. -/
def checkBody (registry : Registry) (address : Address) (body : Option Body) (value : Value)
    (label : Path) : Verdict :=
  match body.bind Body.schema with
  | some schema => registry.checkValue address.document schema value label 0
  | none => .ok ()

/-- The input of a procedure. -/
def validateInput (registry : Registry) (reference : String) (value : Value) : Verdict := do
  let (address, body) ← registry.inputAt reference
  registry.checkBody address body value "Input"

/-- The output of a call. -/
def validateOutput (registry : Registry) (reference : String) (value : Value) : Verdict := do
  let (address, body) ← registry.outputAt reference
  registry.checkBody address body value "Output"

end Registry

end Lexicon
