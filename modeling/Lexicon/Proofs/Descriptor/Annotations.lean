import Lexicon.Proofs.Conformance.Roles

namespace Lexicon

/-!
# Schemas without annotations

Some parts of a schema are there for its readers: descriptions, the revision of a document, the key
of a record, the MIME type and the errors of a call.  Others are there for the programs that write
values, as defaults and usual values are.

* `Descriptor.bare` — a descriptor without any of these, at any depth;
* `Document.bare`, `Registry.bare` — the same for all descriptors of a document, and of a registry;
* `bareEntries_eq`, `ParamsSchema.bareIfAny_eq`, `Body.schema_bareIfAny` — the parts of a descriptor
  become bare one by one;
* `lookUp_bare` — so does what an address leads to.

Two schemas have the same bare form iff they differ in nothing but such annotations.
-/

/-- The rules without a default, and without values that are usual. -/
def StringRules.bare (rules : StringRules) : StringRules :=
  { rules with default := none, knownValues := none }

/-- The rules without a default. -/
def IntegerRules.bare (rules : IntegerRules) : IntegerRules :=
  { rules with default := none }

/-- The rules without a default. -/
def BooleanRules.bare (rules : BooleanRules) : BooleanRules :=
  { rules with default := none }

mutual

/-- A descriptor without annotations. -/
def Descriptor.bare : Descriptor → Descriptor
  | .boolean _ rules => .boolean none rules.bare
  | .integer _ rules => .integer none rules.bare
  | .string _ format rules => .string none format rules.bare
  | .bytes _ rules => .bytes none rules
  | .cidLink _ => .cidLink none
  | .blob _ rules => .blob none rules
  | .array _ items rules => .array none items.bare rules
  | .object schema => .object schema.bare
  | .token _ => .token none
  | .union _ members closed => .union none members closed
  | .unknown _ => .unknown none
  | .ref _ target => .ref none target
  | .record _ _ schema => .record none none schema.bare
  | .params schema => .params schema.bare
  | .query _ parameters output _ =>
    .query none (ParamsSchema.bareIfAny parameters) (Body.bareIfAny output) none
  | .procedure _ parameters input output _ =>
    .procedure none (ParamsSchema.bareIfAny parameters) (Body.bareIfAny input)
      (Body.bareIfAny output) none

/-- An object schema without annotations. -/
def ObjectSchema.bare : ObjectSchema → ObjectSchema
  | ⟨_, properties, required, nullable⟩ =>
    ⟨none, Descriptor.bareEntries properties, required, nullable⟩

/-- A parameter schema without annotations. -/
def ParamsSchema.bare : ParamsSchema → ParamsSchema
  | ⟨_, properties, required⟩ => ⟨none, Descriptor.bareEntries properties, required⟩

/-- The parameters of a call without annotations, if they are declared. -/
def ParamsSchema.bareIfAny : Option ParamsSchema → Option ParamsSchema
  | some schema => some schema.bare
  | none => none

/-- A body without annotations, if it is declared. -/
def Body.bareIfAny : Option Body → Option Body
  | some ⟨_, _, schema⟩ => some ⟨none, "", Descriptor.bareIfAny schema⟩
  | none => none

/-- The schema of a body without annotations, if there is one. -/
def Descriptor.bareIfAny : Option Descriptor → Option Descriptor
  | some schema => some schema.bare
  | none => none

/-- Named descriptors without annotations. -/
def Descriptor.bareEntries : List (String × Descriptor) → List (String × Descriptor)
  | [] => []
  | (name, descriptor) :: rest => (name, descriptor.bare) :: Descriptor.bareEntries rest

end

/-- A document without annotations. -/
def Document.bare (document : Document) : Document :=
  { document with
    revision := none
    description := none
    definitions := Descriptor.bareEntries document.definitions }

/-- A registry without annotations. -/
def Registry.bare (registry : Registry) : Registry :=
  { registry with documents := registry.documents.map Document.bare }

/-! ### Parts -/

theorem Descriptor.bareEntries_eq (entries : List (String × Descriptor)) :
    Descriptor.bareEntries entries = entries.map fun entry => (entry.1, entry.2.bare) := by
  induction entries with
  | nil => rfl
  | cons entry rest ih => rw [Descriptor.bareEntries, ih, List.map_cons]

@[simp] theorem ObjectSchema.required_bare (schema : ObjectSchema) :
    schema.bare.required = schema.required := by cases schema; rfl

@[simp] theorem ObjectSchema.isNullable_bare (schema : ObjectSchema) :
    schema.bare.isNullable = schema.isNullable := by cases schema; rfl

@[simp] theorem ObjectSchema.properties_bare (schema : ObjectSchema) :
    schema.bare.properties = Descriptor.bareEntries schema.properties := by cases schema; rfl

@[simp] theorem ParamsSchema.required_bare (schema : ParamsSchema) :
    schema.bare.required = schema.required := by cases schema; rfl

@[simp] theorem ParamsSchema.properties_bare (schema : ParamsSchema) :
    schema.bare.properties = Descriptor.bareEntries schema.properties := by cases schema; rfl

theorem ParamsSchema.bareIfAny_eq (parameters : Option ParamsSchema) :
    ParamsSchema.bareIfAny parameters = parameters.map ParamsSchema.bare := by
  cases parameters <;> rfl

theorem Body.schema_bareIfAny (body : Option Body) :
    (Body.bareIfAny body).bind Body.schema = (body.bind Body.schema).map Descriptor.bare := by
  rcases body with _ | ⟨description, encoding, _ | schema⟩ <;> rfl

@[simp] theorem Descriptor.rootLabel_bare (descriptor : Descriptor) :
    descriptor.bare.rootLabel = descriptor.rootLabel := by
  cases descriptor <;> rfl

@[simp] theorem Descriptor.described_bare (descriptor : Descriptor) :
    descriptor.bare.described = descriptor.described.bare := by
  cases descriptor <;> rfl

/-! ### Look-up -/

/-- Definitions keep their names when the annotations go. -/
theorem Document.find?_bare (document : Document) (name : String) :
    document.bare.find? name = (document.find? name).map Descriptor.bare := by
  show (Descriptor.bareEntries document.definitions).lookup name = _
  rw [Descriptor.bareEntries_eq, Assoc.lookup_map]
  rfl

/-- An address leads to the definition that was there, without its annotations. -/
theorem Registry.lookUp_bare (registry : Registry) (address : Address) :
    registry.bare.lookUp address = (registry.lookUp address).map Descriptor.bare :=
  registry.lookUp_map Document.bare (fun _ => Descriptor.bare) (fun _ => rfl) Document.find?_bare
    address

end Lexicon
