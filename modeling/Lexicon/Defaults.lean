import Lexicon.Validation

namespace Lexicon

/-!
# Defaults

Checking a value does not change it.  Filling does: a declared property that is absent gets its
default, and objects that are present are filled in turn.

* `Descriptor.default?` — the value that stands for an absent property;
* `Registry.followRefs` — the definition at the end of a chain of references;
* `Registry.fillProperties`, `Registry.fillProperty` — the entries of an object;
* `Registry.fillRecord`, `Registry.fillParams` — a record, and the parameters of a call.
-/

/-- The value that stands for an absent property.  Only strings, integers and booleans have one, and
none comes from behind a reference. -/
def Descriptor.default? : Descriptor → Option Value
  | .string _ _ rules => rules.default.map .string
  | .integer _ rules => rules.default.map .integer
  | .boolean _ rules => rules.default.map .boolean
  | _ => none

namespace Registry

/-- The definition at the end of a chain of references, and its document. -/
def followRefs (registry : Registry) (base : String) (descriptor : Descriptor) (path : Path)
    (hops : Nat) : Except Failure (String × Descriptor) :=
  match descriptor with
  | .ref _ target =>
    if hops < registry.settings.maxHops then do
      let address ← Address.locate target (some base)
      let next ← registry.lookUp address
      followRefs registry address.document next path (hops + 1)
    else .error (.resolution (.tooManyHops registry.settings.maxHops path))
  | descriptor => .ok (base, descriptor)
termination_by registry.settings.maxHops - hops

mutual

/-- The entries `filled`, with the properties in declared order filled in as they are found in
`fields`. -/
def fillProperties (registry : Registry) (base : String) (properties : List (String × Descriptor))
    (fields : List (String × Value)) (path : Path) (filled : List (String × Value)) :
    Except Failure (List (String × Value)) :=
  match properties with
  | [] => .ok filled
  | (name, descriptor) :: rest => do
    match ← fillProperty registry base name descriptor fields path with
    | some value =>
      fillProperties registry base rest fields path (Assoc.insert filled name value)
    | none => fillProperties registry base rest fields path filled
termination_by (sizeOf fields, properties.length)

/-- The new value of a property, if it has one: the default of an absent property, or a present
object filled in turn, where its descriptor leads to an object. -/
def fillProperty (registry : Registry) (base : String) (name : String) (descriptor : Descriptor)
    (fields : List (String × Value)) (path : Path) : Except Failure (Option Value) :=
  match _h : fields.lookup name with
  | none => .ok descriptor.default?
  | some (.object inner) => do
    match ← registry.followRefs base descriptor (path.child name) 0 with
    | (base, .object schema) =>
      let inner ← fillProperties registry base schema.properties inner (path.child name) inner
      return some (.object inner)
    -- Only objects are entered; a union, for one, is left as it is.
    | _ => return none
  | some _ => .ok none
termination_by (sizeOf fields, 0)
decreasing_by
  have := sizeOf_lt_of_lookup _h
  simp only [Value.object.sizeOf_spec] at this
  exact .left _ _ (by omega)

end

/-- A value with its properties filled in, if it is an object. -/
def fill (registry : Registry) (base : String) (properties : List (String × Descriptor))
    (value : Value) (label : Path) : Except Failure Value :=
  match value with
  | .object fields =>
    (registry.fillProperties base properties fields label fields).map Value.object
  | value => .ok value

/-- A record with its defaults. -/
def fillRecord (registry : Registry) (reference : String) (value : Value) :
    Except Failure Value := do
  let (address, schema) ← registry.recordAt reference
  registry.fill address.document schema.properties value "Record"

/-- The parameters of a call with their defaults. -/
def fillParams (registry : Registry) (reference : String) (value : Value) :
    Except Failure Value := do
  match ← registry.parametersAt reference with
  | (address, some schema) => registry.fill address.document schema.properties value "Params"
  | (_, none) => return value

end Registry

end Lexicon
