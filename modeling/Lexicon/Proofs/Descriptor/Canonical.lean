import Lexicon.Proofs.Conformance.Roles
import Lexicon.Proofs.Reference

namespace Lexicon

/-!
# Descriptors with canonical references

* `Descriptor.canonical base` — a descriptor of the document `base`, with every reference in it
  replaced by the canonical one;
* `Document.canonical`, `Registry.canonical` — the same for all descriptors of a document, and of a
  registry, each in its own document;
* `canonicalEntries_eq`, `ParamsSchema.canonicalIfAny_eq`, `Body.canonicalIfAny_eq` — the parts of
  a descriptor are replaced one by one;
* `rootLabel_canonical`, `described_canonical` — what does not depend on references stays.
-/

mutual

/-- A descriptor of the document `base`, with every reference in its canonical form. -/
def Descriptor.canonical (base : String) : Descriptor → Descriptor
  | .boolean description rules => .boolean description rules
  | .integer description rules => .integer description rules
  | .string description format rules => .string description format rules
  | .bytes description rules => .bytes description rules
  | .cidLink description => .cidLink description
  | .blob description rules => .blob description rules
  | .array description items rules => .array description (items.canonical base) rules
  | .object schema => .object (schema.canonical base)
  | .token description => .token description
  | .union description members closed =>
    .union description (members.map (canonicalReference base)) closed
  | .unknown description => .unknown description
  | .ref description target => .ref description (canonicalReference base target)
  | .record description key schema => .record description key (schema.canonical base)
  | .params schema => .params (schema.canonical base)
  | .query description parameters output errors =>
    .query description (ParamsSchema.canonicalIfAny base parameters)
      (Body.canonicalIfAny base output) errors
  | .procedure description parameters input output errors =>
    .procedure description (ParamsSchema.canonicalIfAny base parameters)
      (Body.canonicalIfAny base input) (Body.canonicalIfAny base output) errors

/-- An object schema with canonical references. -/
def ObjectSchema.canonical (base : String) : ObjectSchema → ObjectSchema
  | ⟨description, properties, required, nullable⟩ =>
    ⟨description, Descriptor.canonicalEntries base properties, required, nullable⟩

/-- A parameter schema with canonical references. -/
def ParamsSchema.canonical (base : String) : ParamsSchema → ParamsSchema
  | ⟨description, properties, required⟩ =>
    ⟨description, Descriptor.canonicalEntries base properties, required⟩

/-- The parameters of a call with canonical references, if they are declared. -/
def ParamsSchema.canonicalIfAny (base : String) : Option ParamsSchema → Option ParamsSchema
  | some schema => some (schema.canonical base)
  | none => none

/-- A body with canonical references, if it is declared. -/
def Body.canonicalIfAny (base : String) : Option Body → Option Body
  | some ⟨description, encoding, schema⟩ =>
    some ⟨description, encoding, Descriptor.canonicalIfAny base schema⟩
  | none => none

/-- The schema of a body with canonical references, if there is one. -/
def Descriptor.canonicalIfAny (base : String) : Option Descriptor → Option Descriptor
  | some schema => some (schema.canonical base)
  | none => none

/-- Named descriptors with canonical references. -/
def Descriptor.canonicalEntries (base : String) :
    List (String × Descriptor) → List (String × Descriptor)
  | [] => []
  | (name, descriptor) :: rest =>
    (name, descriptor.canonical base) :: Descriptor.canonicalEntries base rest

end

/-- A document all of whose references are canonical. -/
def Document.canonical (document : Document) : Document :=
  { document with
    definitions := Descriptor.canonicalEntries document.id document.definitions }

/-- A registry all of whose references are canonical. -/
def Registry.canonical (registry : Registry) : Registry :=
  { registry with documents := registry.documents.map Document.canonical }

variable (base : String)

/-! ### Parts -/

/-- Every property is rewritten by itself. -/
theorem Descriptor.canonicalEntries_eq (entries : List (String × Descriptor)) :
    Descriptor.canonicalEntries base entries =
      entries.map fun entry => (entry.1, entry.2.canonical base) := by
  induction entries with
  | nil => rfl
  | cons entry rest ih => rw [Descriptor.canonicalEntries, ih, List.map_cons]

/-- Properties keep their names in canonical form. -/
theorem Descriptor.lookup_canonicalEntries (entries : List (String × Descriptor))
    (name : String) :
    (Descriptor.canonicalEntries base entries).lookup name =
      (entries.lookup name).map (Descriptor.canonical base) := by
  rw [Descriptor.canonicalEntries_eq, Assoc.lookup_map]

@[simp] theorem ObjectSchema.required_canonical (schema : ObjectSchema) :
    (schema.canonical base).required = schema.required := by cases schema; rfl

@[simp] theorem ObjectSchema.isNullable_canonical (schema : ObjectSchema) :
    (schema.canonical base).isNullable = schema.isNullable := by cases schema; rfl

@[simp] theorem ObjectSchema.properties_canonical (schema : ObjectSchema) :
    (schema.canonical base).properties =
      Descriptor.canonicalEntries base schema.properties := by cases schema; rfl

@[simp] theorem ParamsSchema.required_canonical (schema : ParamsSchema) :
    (schema.canonical base).required = schema.required := by cases schema; rfl

@[simp] theorem ParamsSchema.properties_canonical (schema : ParamsSchema) :
    (schema.canonical base).properties =
      Descriptor.canonicalEntries base schema.properties := by cases schema; rfl

theorem ParamsSchema.canonicalIfAny_eq (parameters : Option ParamsSchema) :
    ParamsSchema.canonicalIfAny base parameters =
      parameters.map (ParamsSchema.canonical base) := by
  cases parameters <;> rfl

/-- The schema of a body is replaced, if there are a body and a schema. -/
theorem Body.schema_canonicalIfAny (body : Option Body) :
    (Body.canonicalIfAny base body).bind Body.schema =
      (body.bind Body.schema).map (Descriptor.canonical base) := by
  rcases body with _ | ⟨description, encoding, _ | schema⟩ <;> rfl

/-! ### What stays -/

namespace Descriptor

variable (descriptor : Descriptor)

@[simp] theorem rootLabel_canonical :
    (descriptor.canonical base).rootLabel = descriptor.rootLabel := by
  cases descriptor <;> rfl

@[simp] theorem described_canonical :
    (descriptor.canonical base).described = descriptor.described.canonical base := by
  cases descriptor <;> rfl

end Descriptor

/-! ### Look-up -/

namespace Registry

variable (registry : Registry)

/-- The definition at an address is the one that was there, made canonical in its own document. -/
theorem lookUp_canonical (address : Address) :
    registry.canonical.lookUp address =
      (registry.lookUp address).map (Descriptor.canonical address.document) :=
  registry.lookUp_map Document.canonical Descriptor.canonical (fun _ => rfl)
    (fun document => Descriptor.lookup_canonicalEntries document.id document.definitions) address

end Registry

end Lexicon
