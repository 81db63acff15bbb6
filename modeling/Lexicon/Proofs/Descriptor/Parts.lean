import Lexicon.Proofs.Assoc
import Lexicon.Proofs.Descriptor.Induction
import Lexicon.Proofs.Outcome
import Lexicon.Registry

namespace Lexicon

open Lexicon.Outcome

/-!
# The descriptors within a descriptor

* `Descriptor.parts` — a descriptor and all that it holds, at any depth;
* `Descriptor.mem_parts_iff` — one level at a time;
* `Registry.descriptors` — all descriptors of the documents of a registry;
* `resolve_eq_ok` — what an address leads to;
* `mem_descriptors_of_resolve` — the parts of what an address leads to are among them;
* `Descriptor.declared`, `Registry.NamesDiffer` — the properties that a descriptor declares itself,
  whose names differ from each other;
* `Descriptor.NamesDiffer` — the same for a descriptor and its parts, with what that says of what it
  holds;
* `Descriptor.references` — the references that a descriptor makes itself.
-/

mutual

/-- A descriptor and all descriptors that it holds. -/
def Descriptor.parts : Descriptor → List Descriptor
  | .array description items rules => .array description items rules :: items.parts
  | .object schema => .object schema :: schema.parts
  | .record description key schema => .record description key schema :: schema.parts
  | .params schema => .params schema :: schema.parts
  | .query description parameters output errors =>
    .query description parameters output errors ::
      (ParamsSchema.partsIfAny parameters ++ Body.partsIfAny output)
  | .procedure description parameters input output errors =>
    .procedure description parameters input output errors ::
      (ParamsSchema.partsIfAny parameters ++ Body.partsIfAny input ++ Body.partsIfAny output)
  | .boolean description rules => [.boolean description rules]
  | .integer description rules => [.integer description rules]
  | .string description format rules => [.string description format rules]
  | .bytes description rules => [.bytes description rules]
  | .cidLink description => [.cidLink description]
  | .blob description rules => [.blob description rules]
  | .token description => [.token description]
  | .union description members closed => [.union description members closed]
  | .unknown description => [.unknown description]
  | .ref description target => [.ref description target]

/-- The descriptors that an object schema holds. -/
def ObjectSchema.parts : ObjectSchema → List Descriptor
  | ⟨_, properties, _, _⟩ => Descriptor.partsOfEntries properties

/-- The descriptors that a parameter schema holds. -/
def ParamsSchema.parts : ParamsSchema → List Descriptor
  | ⟨_, properties, _⟩ => Descriptor.partsOfEntries properties

/-- The descriptors that the parameters of a call hold, if they are declared. -/
def ParamsSchema.partsIfAny : Option ParamsSchema → List Descriptor
  | some schema => schema.parts
  | none => []

/-- The descriptors that a body of a call holds, if it is declared. -/
def Body.partsIfAny : Option Body → List Descriptor
  | some ⟨_, _, some schema⟩ => schema.parts
  | _ => []

/-- The descriptors that named descriptors hold, and these themselves. -/
def Descriptor.partsOfEntries : List (String × Descriptor) → List Descriptor
  | [] => []
  | (_, descriptor) :: rest => descriptor.parts ++ Descriptor.partsOfEntries rest

end

theorem ObjectSchema.parts_eq (schema : ObjectSchema) :
    schema.parts = Descriptor.partsOfEntries schema.properties := by
  cases schema; rw [ObjectSchema.parts]

theorem ParamsSchema.parts_eq (schema : ParamsSchema) :
    schema.parts = Descriptor.partsOfEntries schema.properties := by
  cases schema; rw [ParamsSchema.parts]

namespace Descriptor

theorem mem_parts_self (descriptor : Descriptor) : descriptor ∈ descriptor.parts := by
  cases descriptor <;> simp [parts]

/-- The parts of properties are the parts of each. -/
theorem mem_partsOfEntries {entries : List (String × Descriptor)} {part : Descriptor} :
    part ∈ partsOfEntries entries ↔
      ∃ name descriptor, (name, descriptor) ∈ entries ∧ part ∈ descriptor.parts := by
  induction entries with
  | nil => simp [partsOfEntries]
  | cons entry rest ih =>
    obtain ⟨name, descriptor⟩ := entry
    rw [partsOfEntries, List.mem_append, ih]
    constructor
    · rintro (h | ⟨n, d, hmem, h⟩)
      · exact ⟨name, descriptor, List.mem_cons_self, h⟩
      · exact ⟨n, d, List.mem_cons_of_mem _ hmem, h⟩
    · rintro ⟨n, d, hmem, h⟩
      rcases List.mem_cons.1 hmem with heq | htail
      · cases heq; exact .inl h
      · exact .inr ⟨n, d, htail, h⟩

/-- The properties that a descriptor declares itself: those of its object or of its parameters. -/
def declared : Descriptor → List (String × Descriptor)
  | object schema | record _ _ schema => schema.properties
  | params schema | query _ (some schema) _ _ | procedure _ (some schema) _ _ _ =>
    schema.properties
  | _ => []

/-- What a descriptor declares is among its parts. -/
theorem mem_parts_of_declared {descriptor part : Descriptor}
    (h : part ∈ partsOfEntries descriptor.declared) : part ∈ descriptor.parts := by
  unfold declared at h
  split at h
  case h_6 => rw [partsOfEntries] at h; cases h
  all_goals
    simp [parts, ParamsSchema.partsIfAny, ObjectSchema.parts_eq, ParamsSchema.parts_eq, h]

/-- The references that a descriptor makes itself: that of a `ref`, and the members of a union. -/
def references : Descriptor → List String
  | ref _ target => [target]
  | union _ members _ => members
  | _ => []

/-! ### Parts and children -/

section Children

variable {part : Descriptor}

/-- The parts of properties, by the children that they are. -/
theorem mem_partsOfEntries_iff {entries : List (String × Descriptor)} :
    part ∈ partsOfEntries entries ↔ ∃ child ∈ entries.map Prod.snd, part ∈ child.parts := by
  rw [mem_partsOfEntries]
  constructor
  · rintro ⟨name, child, hmem, hpart⟩
    exact ⟨child, List.mem_map.2 ⟨(name, child), hmem, rfl⟩, hpart⟩
  · rintro ⟨child, hchild, hpart⟩
    obtain ⟨⟨name, _⟩, hmem, rfl⟩ := List.mem_map.1 hchild
    exact ⟨name, _, hmem, hpart⟩

/-- The parts of parameters are the parts of each, if there are any. -/
theorem mem_partsIfAny_params {parameters : Option ParamsSchema} :
    part ∈ ParamsSchema.partsIfAny parameters ↔
      ∃ child ∈ ParamsSchema.children parameters, part ∈ child.parts := by
  cases parameters with
  | none => simp [ParamsSchema.partsIfAny, ParamsSchema.children]
  | some schema =>
    rw [ParamsSchema.partsIfAny, ParamsSchema.parts_eq, mem_partsOfEntries_iff]
    simp [ParamsSchema.children]

/-- The parts of a body are those of its schema, if it has one. -/
theorem mem_partsIfAny_body {body : Option Body} :
    part ∈ Body.partsIfAny body ↔ ∃ child ∈ Body.children body, part ∈ child.parts := by
  cases body with
  | none => simp [Body.partsIfAny, Body.children]
  | some body =>
    obtain ⟨description, encoding, schema⟩ := body
    cases schema <;> simp [Body.partsIfAny, Body.children]

/-- The parts of a descriptor are itself and those of what it holds. -/
theorem mem_parts_iff {descriptor : Descriptor} :
    part ∈ descriptor.parts ↔
      part = descriptor ∨ ∃ child ∈ descriptor.children, part ∈ child.parts := by
  cases descriptor with
  | array => simp [parts, children]
  | object schema | record _ _ schema =>
    rw [parts, List.mem_cons, ObjectSchema.parts_eq, mem_partsOfEntries_iff, children]
  | params schema =>
    rw [parts, List.mem_cons, ParamsSchema.parts_eq, mem_partsOfEntries_iff, children]
  | query description parameters output errors =>
    rw [parts, List.mem_cons, List.mem_append, mem_partsIfAny_params, mem_partsIfAny_body, children]
    simp only [List.mem_append, or_and_right, exists_or]
  | procedure description parameters input output errors =>
    rw [parts, List.mem_cons, List.mem_append, List.mem_append, mem_partsIfAny_params,
      mem_partsIfAny_body, mem_partsIfAny_body, children]
    simp only [List.mem_append, or_and_right, exists_or]
  | _ => simp [parts, children]

/-- What a part holds is a part as well. -/
theorem mem_parts_of_child {descriptor child : Descriptor} (hpart : part ∈ descriptor.parts)
    (hchild : child ∈ part.children) : child ∈ descriptor.parts := by
  induction descriptor using induction_children with
  | step descriptor ih =>
    rcases mem_parts_iff.1 hpart with rfl | ⟨other, hother, hpart⟩
    · exact mem_parts_iff.2 (.inr ⟨child, hchild, child.mem_parts_self⟩)
    · exact mem_parts_iff.2 (.inr ⟨other, hother, ih other hother hpart⟩)

end Children

end Descriptor

/-- The descriptors of a document. -/
def Document.descriptors (document : Document) : List Descriptor :=
  Descriptor.partsOfEntries document.definitions

/-- What a descriptor of a document holds is a descriptor of the document as well. -/
theorem Document.mem_descriptors_of_child {document : Document} {part child : Descriptor}
    (hpart : part ∈ document.descriptors) (hchild : child ∈ part.children) :
    child ∈ document.descriptors := by
  obtain ⟨definition, hdefinition, hpart⟩ := Descriptor.mem_partsOfEntries_iff.1 hpart
  exact Descriptor.mem_partsOfEntries_iff.2
    ⟨definition, hdefinition, Descriptor.mem_parts_of_child hpart hchild⟩

namespace Registry

variable {registry : Registry}

/-- The descriptors of all documents. -/
def descriptors (registry : Registry) : List Descriptor :=
  registry.documents.flatMap Document.descriptors

/-- An address leads to what its document has under its name. -/
theorem resolve_eq_ok {address : Address} {definition : Descriptor} :
    registry.resolve address = .ok definition ↔ ∃ document,
      registry.find? address.document = some document ∧
        document.find? address.name = some definition := by
  unfold resolve
  cases registry.find? address.document with
  | none => simp
  | some document => cases hdefinition : document.find? address.name <;> simp [hdefinition]

/-- The parts of what an address leads to are descriptors of the registry. -/
theorem mem_descriptors_of_resolve {address : Address} {definition part : Descriptor}
    (h : registry.resolve address = .ok definition) (hpart : part ∈ definition.parts) :
    part ∈ registry.descriptors := by
  obtain ⟨document, hfound, hdefinition⟩ := resolve_eq_ok.1 h
  refine List.mem_flatMap.2 ⟨document, List.mem_of_find?_eq_some hfound, ?_⟩
  exact Descriptor.mem_partsOfEntries.2 ⟨_, _, Assoc.mem_of_lookup hdefinition, hpart⟩

/-- The property lists of the registry are maps: in none of them does a name occur twice. -/
def NamesDiffer (registry : Registry) : Prop :=
  ∀ descriptor ∈ registry.descriptors, (Assoc.keys descriptor.declared).Nodup

end Registry

/-- The property lists within a descriptor are maps. -/
def Descriptor.NamesDiffer (descriptor : Descriptor) : Prop :=
  ∀ part ∈ descriptor.parts, (Assoc.keys part.declared).Nodup

namespace Descriptor.NamesDiffer

variable {descriptor : Descriptor}

theorem nodup (h : descriptor.NamesDiffer) : (Assoc.keys descriptor.declared).Nodup :=
  h descriptor descriptor.mem_parts_self

/-- The names differ in each property if they differ in the whole. -/
theorem of_mem_declared (h : descriptor.NamesDiffer) {name : String} {property : Descriptor}
    (hmem : (name, property) ∈ descriptor.declared) : property.NamesDiffer :=
  fun part hpart =>
    h part (mem_parts_of_declared (mem_partsOfEntries.2 ⟨name, property, hmem, hpart⟩))

theorem items {description : Option String} {items : Descriptor} {rules : LengthRules}
    (h : (array description items rules).NamesDiffer) : items.NamesDiffer :=
  fun part hpart => h part (List.mem_cons_of_mem _ hpart)

/-- The schema of a body of a call. -/
theorem of_body (h : descriptor.NamesDiffer) {body : Option Body} {schema : Descriptor}
    (hbody : Body.partsIfAny body ⊆ descriptor.parts)
    (hschema : body.bind Body.schema = some schema) : schema.NamesDiffer := by
  obtain ⟨⟨description, encoding, _⟩, rfl, rfl⟩ := Option.bind_eq_some_iff.1 hschema
  exact fun part hpart => h part (hbody (by rwa [Body.partsIfAny]))

end Descriptor.NamesDiffer

/-- What an address leads to in a registry whose property lists are maps. -/
theorem Registry.NamesDiffer.of_resolve {registry : Registry} (h : registry.NamesDiffer)
    {address : Address} {definition : Descriptor}
    (hresolve : registry.resolve address = .ok definition) : definition.NamesDiffer :=
  fun part hpart => h part (mem_descriptors_of_resolve hresolve hpart)

end Lexicon
