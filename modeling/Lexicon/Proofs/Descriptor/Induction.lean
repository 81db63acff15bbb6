import Lexicon.Descriptor.Basic

namespace Lexicon

/-!
# Induction on descriptors

Descriptors hold each other through object schemas, parameters and bodies of calls.  A proof about
all of them does not need the same cases for these parts as well.

* `Descriptor.children` — the descriptors that a descriptor holds directly;
* `Descriptor.induction_children` — what passes from its children to a descriptor holds of all
  descriptors.
-/

/-- The schema of a body, if there are a body and a schema. -/
def Body.children (body : Option Body) : List Descriptor :=
  (body.bind Body.schema).toList

/-- The parameters of a call, if they are declared. -/
def ParamsSchema.children (parameters : Option ParamsSchema) : List Descriptor :=
  parameters.toList.flatMap fun schema => schema.properties.map Prod.snd

namespace Descriptor

/-- The descriptors that a descriptor holds directly. -/
def children : Descriptor → List Descriptor
  | array _ items _ => [items]
  | object schema | record _ _ schema => schema.properties.map Prod.snd
  | params schema => schema.properties.map Prod.snd
  | query _ parameters output _ => ParamsSchema.children parameters ++ Body.children output
  | procedure _ parameters input output _ =>
    ParamsSchema.children parameters ++ Body.children input ++ Body.children output
  | _ => []

/-- A property is smaller than the properties. -/
theorem sizeOf_lt_of_mem_map {properties : List (String × Descriptor)} {child : Descriptor}
    (h : child ∈ properties.map Prod.snd) : sizeOf child < sizeOf properties := by
  obtain ⟨⟨name, descriptor⟩, hmem, rfl⟩ := List.mem_map.1 h
  have := List.sizeOf_lt_of_mem hmem
  simp only [Prod.mk.sizeOf_spec] at this ⊢
  omega

end Descriptor

/-! ### Children are smaller -/

variable {child : Descriptor}

/-- A property is smaller than the schema that has it. -/
theorem ObjectSchema.sizeOf_lt_of_mem_map {schema : ObjectSchema}
    (h : child ∈ schema.properties.map Prod.snd) : sizeOf child < sizeOf schema := by
  have := Descriptor.sizeOf_lt_of_mem_map h
  cases schema
  simp only [ObjectSchema.mk.sizeOf_spec] at this ⊢
  omega

/-- A parameter is smaller than the parameters. -/
theorem ParamsSchema.sizeOf_lt_of_mem_map {schema : ParamsSchema}
    (h : child ∈ schema.properties.map Prod.snd) : sizeOf child < sizeOf schema := by
  have := Descriptor.sizeOf_lt_of_mem_map h
  cases schema
  simp only [ParamsSchema.mk.sizeOf_spec] at this ⊢
  omega

/-- A parameter is smaller than the parameters that a call may have. -/
theorem ParamsSchema.sizeOf_lt_of_mem_children {parameters : Option ParamsSchema}
    (h : child ∈ children parameters) : sizeOf child < sizeOf parameters := by
  obtain ⟨schema, hschema, hchild⟩ := List.mem_flatMap.1 h
  rw [Option.mem_toList] at hschema
  cases hschema
  have := ParamsSchema.sizeOf_lt_of_mem_map hchild
  simp only [Option.some.sizeOf_spec]
  omega

/-- The schema of a body is smaller than the body. -/
theorem Body.sizeOf_lt_of_mem_children {body : Option Body} (h : child ∈ children body) :
    sizeOf child < sizeOf body := by
  rw [children, Option.mem_toList] at h
  obtain ⟨⟨description, encoding, schema⟩, rfl, rfl⟩ := Option.bind_eq_some_iff.1 h
  simp only [Option.some.sizeOf_spec, Body.mk.sizeOf_spec]
  omega

namespace Descriptor

/-- A child is smaller than its holder. -/
theorem sizeOf_lt_of_mem_children {descriptor : Descriptor} (h : child ∈ descriptor.children) :
    sizeOf child < sizeOf descriptor := by
  cases descriptor with
  | array description items rules =>
    rw [children, List.mem_singleton] at h
    subst h
    simp only [array.sizeOf_spec]
    omega
  | object schema =>
    have := ObjectSchema.sizeOf_lt_of_mem_map h
    simp only [object.sizeOf_spec]
    omega
  | record description key schema =>
    have := ObjectSchema.sizeOf_lt_of_mem_map h
    simp only [record.sizeOf_spec]
    omega
  | params schema =>
    have := ParamsSchema.sizeOf_lt_of_mem_map h
    simp only [params.sizeOf_spec]
    omega
  -- What a call holds lies one level deeper, in its parameters and bodies.
  | query description parameters output errors =>
    simp only [query.sizeOf_spec]
    rcases List.mem_append.1 h with h | h
    · have := ParamsSchema.sizeOf_lt_of_mem_children h
      omega
    · have := Body.sizeOf_lt_of_mem_children h
      omega
  | procedure description parameters input output errors =>
    simp only [procedure.sizeOf_spec]
    rcases List.mem_append.1 h with h | h
    · rcases List.mem_append.1 h with h | h
      · have := ParamsSchema.sizeOf_lt_of_mem_children h
        omega
      · have := Body.sizeOf_lt_of_mem_children h
        omega
    · have := Body.sizeOf_lt_of_mem_children h
      omega
  | _ => cases h

/-- **Induction on descriptors.**  What passes from its children to a descriptor holds of all. -/
@[elab_as_elim]
theorem induction_children {motive : Descriptor → Prop}
    (step : ∀ descriptor, (∀ child ∈ descriptor.children, motive child) → motive descriptor)
    (descriptor : Descriptor) : motive descriptor :=
  step descriptor fun child _hchild => induction_children step child
termination_by sizeOf descriptor
decreasing_by exact sizeOf_lt_of_mem_children _hchild

end Descriptor

end Lexicon
