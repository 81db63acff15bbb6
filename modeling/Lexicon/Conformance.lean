import Lexicon.Registry
import Lexicon.Value

namespace Lexicon

/-!
# Conformance

Whether a value is as a descriptor says.  A check stops at the first violation: the required
properties of an object come before its properties in declared order, and these before whatever
comes later.  References and unions lead to other definitions; how often they may do so without
going deeper into the value is limited, and with every property and item the count starts anew.

* `Verdict` — the outcome;
* `integerCheck`, `blobOf?`, `checkRequiredNames` — parts of the check that look at one value;
* `Registry.checkValue` — a value against a descriptor, with `checkTarget`, `checkItems`,
  `checkObject`, `checkProperties` and `checkProperty` for what it leads to;
* `Registry.checkParams` — the parameters of a call.

The recursion ends because the value gets smaller or, for the same value, fewer hops are left.
-/

/-- The outcome of a check. -/
abbrev Verdict := Except Failure Unit

/-- The outcome of a rule at a path. -/
def Check.at (path : Path) (check : Check) : Verdict :=
  check.mapError (.violation path)

/-- A violation at a path. -/
def violates (path : Path) (violation : Violation) : Verdict :=
  .error (.violation path violation)

/-- A number against the rules for integers; it may be an integer that 64 bits do not hold. -/
def integerCheck (rules : IntegerRules) (value : Value) : Check :=
  match value.integer? with
  | some n => rules.check n
  | none =>
    match value with
    | .float x =>
      match x.integer? with
      | some n => rules.checkBeyond (0 < n)
      | none => .error .notInteger
    | _ => .error .notNumber

/-- The MIME type and the size that the reference to a blob gives: an object of exactly four
entries, whose size is written as an integer. -/
def blobOf? (value : Value) : Option (String × Nat) :=
  match value with
  | .object fields =>
    match fields.lookup "$type", fields.lookup "ref", fields.lookup "mimeType",
      fields.lookup "size" with
    | some (.string type), some (.link _), some (.string mimeType), some (.integer size) =>
      if fields.length = 4 ∧ type = "blob" ∧ mimeType ≠ "" ∧ 0 ≤ size.toInt then
        some (mimeType, size.toInt.toNat)
      else none
    | _, _, _, _ => none
  | _ => none

/-- The required names that an object must have. -/
def checkRequiredNames (required : List String) (fields : List (String × Value)) (path : Path) :
    Verdict :=
  match required.find? (!Assoc.hasKey fields ·) with
  | some name => violates path (.missingProperty name)
  | none => .ok ()

/-- What an object holds is smaller than its entries. -/
theorem sizeOf_lt_of_lookup {key : String} {fields : List (String × Value)} {value : Value}
    (h : fields.lookup key = some value) : sizeOf value < sizeOf fields := by
  have := List.sizeOf_lt_of_mem (Assoc.mem_of_lookup h)
  simp only [Prod.mk.sizeOf_spec] at this
  omega

namespace Registry

/-- The members of a union, as addresses. -/
def unionMembers (base : String) (members : List String) : Except Failure (List Address) :=
  members.mapM fun member => Address.locate member (some base)

mutual

/-- A value against a descriptor of the document `base`.  `hops` references have led here without
going deeper into the value. -/
def checkValue (registry : Registry) (base : String) (descriptor : Descriptor) (value : Value)
    (path : Path) (hops : Nat) : Verdict :=
  match descriptor with
  | .boolean _ rules =>
    match value with
    | .boolean b => (rules.check b).at path
    | _ => violates path .notBoolean
  | .integer _ rules => (integerCheck rules value).at path
  | .string _ format rules =>
    match value with
    | .string s =>
      -- A format that is not met is told before any length.
      match format.filter (!·.accepts s) with
      | some format => violates path (.invalidFormat format)
      | none => (rules.check s).at path
    | _ => violates path .notString
  | .bytes _ rules =>
    match value with
    | .bytes data => (rules.checkBytes data.length).at path
    | _ => violates path .notBytes
  | .cidLink _ =>
    match value with
    | .link _ => .ok ()
    | _ => violates path .notCidLink
  | .blob _ rules =>
    match blobOf? value with
    | some (mimeType, size) => (rules.check mimeType size).at path
    | none => violates path .notBlob
  | .unknown _ => .ok ()
  | .array _ items rules =>
    match value with
    | .array values => do
      (rules.checkItems values.length).at path
      checkItems registry base items values path
    | _ => violates path .notArray
  | .object schema => checkObject registry base schema value path
  | .ref _ target => do
    checkTarget registry (← Address.locate target (some base)) value path hops
  | .union _ members closed =>
    match (value.get? "$type").bind Value.string? with
    | none => violates path .missingTypeProperty
    | some type => do
      -- The type is read on its own, and the members in their document.
      let members ← unionMembers base members
      let given ← Address.locate type none
      if members.contains given then checkTarget registry given value path hops
      else if Descriptor.isClosed closed then
        violates path (.unionTypeNotAllowed (members.map Address.render))
      else .ok ()
  -- A definition that describes no value is no fault of the value.
  | .token .. | .record .. | .params .. | .query .. | .procedure .. =>
    .error (.resolution (.unexpectedKind descriptor.kind path))
termination_by (sizeOf value, registry.settings.maxHops - hops + 1, 0)

/-- A value against the definition at an address, one hop further. -/
def checkTarget (registry : Registry) (address : Address) (value : Value) (path : Path)
    (hops : Nat) : Verdict :=
  if hops < registry.settings.maxHops then do
    let descriptor ← registry.lookUp address
    checkValue registry address.document descriptor value path (hops + 1)
  else .error (.resolution (.tooManyHops registry.settings.maxHops path))
termination_by (sizeOf value, registry.settings.maxHops - hops, 1)
decreasing_by
  rw [show registry.settings.maxHops - (hops + 1) + 1 = registry.settings.maxHops - hops by omega]
  exact .right _ (.right _ Nat.zero_lt_one)

/-- The items of an array, each at the path of the array. -/
def checkItems (registry : Registry) (base : String) (descriptor : Descriptor)
    (values : List Value) (path : Path) : Verdict :=
  match values with
  | [] => .ok ()
  | value :: rest => do
    checkValue registry base descriptor value path 0
    checkItems registry base descriptor rest path
termination_by (sizeOf values, 0, 0)

/-- A value as an object: the required names first, then the properties. -/
def checkObject (registry : Registry) (base : String) (schema : ObjectSchema) (value : Value)
    (path : Path) : Verdict :=
  match value with
  | .object fields => do
    checkRequiredNames schema.required fields path
    checkProperties registry base schema.isNullable schema.properties fields path
  | _ => violates path .notObject
termination_by (sizeOf value, 0, 0)

/-- The properties in the order in which they are declared. -/
def checkProperties (registry : Registry) (base : String) (mayBeNull : String → Bool)
    (properties : List (String × Descriptor)) (fields : List (String × Value)) (path : Path) :
    Verdict :=
  match properties with
  | [] => .ok ()
  | (name, descriptor) :: rest => do
    checkProperty registry base (mayBeNull name) name descriptor fields path
    checkProperties registry base mayBeNull rest fields path
termination_by (sizeOf fields, 0, properties.length)

/-- A property, unless it is absent, or null where that is allowed. -/
def checkProperty (registry : Registry) (base : String) (mayBeNull : Bool) (name : String)
    (descriptor : Descriptor) (fields : List (String × Value)) (path : Path) : Verdict :=
  match _h : fields.lookup name with
  | none => .ok ()
  | some field =>
    if field.isNull && mayBeNull then .ok ()
    else checkValue registry base descriptor field (path.child name) 0
termination_by (sizeOf fields, 0, 0)
decreasing_by exact .left _ _ (sizeOf_lt_of_lookup _h)

end

/-- Any value passes where nothing is known. -/
theorem checkValue_unknown (registry : Registry) (base : String) (description : Option String)
    (value : Value) (path : Path) (hops : Nat) :
    registry.checkValue base (.unknown description) value path hops = .ok () := by
  rw [checkValue]

/-- The parameters of a call.  A missing one is told under `label`, and a wrong one under its own
name. -/
def checkParams (registry : Registry) (base : String) (schema : ParamsSchema) (value : Value)
    (label : Path) : Verdict :=
  match value with
  | .object fields => do
    checkRequiredNames schema.required fields label
    schema.properties.forM fun (name, descriptor) =>
      match fields.lookup name with
      | some field => checkValue registry base descriptor field name 0
      | none => .ok ()
  | _ => violates label .notObject

end Registry

end Lexicon
