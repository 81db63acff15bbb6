import Lexicon.Proofs.Document.Placement

namespace Lexicon

open Lexicon.Outcome

/-!
# Well-formed definitions

The check of the structure goes through a definition in order and stops at the first fault.  What it
asks for can be told without any order: four rules about every descriptor within the definition.

* `Descriptor.KeepsRules` — what the rules say of one descriptor;
* `Descriptor.WellFormed`, `wellFormed_iff` — a definition all of whose descriptors keep the rules,
  and the same one level at a time;
* `Descriptor.FitsBelow` — a well-formed descriptor that may stand below a definition;
* `checkStructure_eq_ok_iff` — the check passes exactly these.
-/

/-! ### Kinds -/

/-- The four kinds that can only be definitions, listed. -/
theorem Kind.isTopLevelOnly_eq_false_iff {kind : Kind} :
    kind.isTopLevelOnly = false ↔ kind ∉ [.record, .params, .query, .procedure] := by
  cases kind <;> decide

/-- The four kinds that a parameter, or an item of one, can have. -/
theorem Kind.isParamPrimitive_iff {kind : Kind} :
    kind.isParamPrimitive = true ↔ kind ∈ [.boolean, .integer, .string, .unknown] := by
  cases kind <;> decide

namespace Descriptor

variable {descriptor child : Descriptor} {location : Location} {topLevel : Bool}

/-! ### The rules -/

/-- The names that a descriptor requires of its object or of its parameters. -/
def required : Descriptor → List String
  | object schema | record _ _ schema => schema.required
  | params schema | query _ (some schema) _ _ | procedure _ (some schema) _ _ _ => schema.required
  | _ => []

/-- The parameters that a descriptor declares. -/
def parameters : Descriptor → List (String × Descriptor)
  | params schema | query _ (some schema) _ _ | procedure _ (some schema) _ _ _ =>
    schema.properties
  | _ => []

/-- A parameter is a primitive or an array of primitives. -/
inductive IsParameter : Descriptor → Prop where
  | primitive {descriptor : Descriptor} :
      descriptor.kind ∈ [.boolean, .integer, .string, .unknown] → IsParameter descriptor
  | array {description : Option String} {items : Descriptor} {rules : LengthRules} :
      items.kind ∈ [.boolean, .integer, .string, .unknown] →
      IsParameter (.array description items rules)

/-- A descriptor keeps the rules: it requires what it declares, it holds no descriptor of a kind that
    only definitions are of, its parameters may be parameters, and its references have one `#` at
    most. -/
structure KeepsRules (descriptor : Descriptor) : Prop where
  required : ∀ name ∈ descriptor.required, name ∈ Assoc.keys descriptor.declared
  nested : ∀ child ∈ descriptor.children, child.kind ∉ [.record, .params, .query, .procedure]
  parameters : ∀ parameter ∈ descriptor.parameters, IsParameter parameter.2
  references : ∀ reference ∈ descriptor.references, reference.toList.count '#' ≤ 1

/-- A definition is well formed if all descriptors within it keep the rules. -/
def WellFormed (definition : Descriptor) : Prop :=
  ∀ part ∈ definition.parts, part.KeepsRules

/-- A descriptor is well formed, and may stand below a definition. -/
structure FitsBelow (descriptor : Descriptor) : Prop where
  kind : descriptor.kind ∉ [.record, .params, .query, .procedure]
  wellFormed : descriptor.WellFormed

/-- **One level at a time.**  A descriptor is well formed iff it requires what it declares, its
    parameters and its references are as they should be, and all that it holds fits below it. -/
theorem wellFormed_iff : descriptor.WellFormed ↔
    (∀ name ∈ descriptor.required, name ∈ Assoc.keys descriptor.declared) ∧
    (∀ parameter ∈ descriptor.parameters, IsParameter parameter.2) ∧
    (∀ reference ∈ descriptor.references, reference.toList.count '#' ≤ 1) ∧
    ∀ child ∈ descriptor.children, child.FitsBelow := by
  constructor
  · intro h
    obtain ⟨hrequired, hnested, hparameters, hreferences⟩ := h descriptor descriptor.mem_parts_self
    refine ⟨hrequired, hparameters, hreferences, fun child hchild => ⟨hnested child hchild, ?_⟩⟩
    intro part hpart
    exact h part (mem_parts_iff.2 (.inr ⟨child, hchild, hpart⟩))
  · rintro ⟨hrequired, hparameters, hreferences, hchildren⟩ part hpart
    -- A part is the descriptor itself, or a part of something that it holds.
    rcases mem_parts_iff.1 hpart with rfl | ⟨child, hchild, hpart⟩
    · exact ⟨hrequired, fun child hchild => (hchildren child hchild).kind, hparameters, hreferences⟩
    · exact (hchildren child hchild).wellFormed part hpart

/-! ### Parameters -/

/-- What describes a parameter is a primitive, or an array of one. -/
theorem describesParameter_iff : descriptor.describesParameter = true ↔ descriptor.IsParameter := by
  constructor
  · intro h
    cases descriptor with
    | array description items rules => exact .array (Kind.isParamPrimitive_iff.1 h)
    | _ => exact .primitive (Kind.isParamPrimitive_iff.1 h)
  · intro h
    cases h with
    | array hitems => exact Kind.isParamPrimitive_iff.2 hitems
    | primitive hkind =>
      have hprimitive := Kind.isParamPrimitive_iff.2 hkind
      cases descriptor with
      | array => cases hprimitive
      | _ => exact hprimitive

/-- A primitive fits wherever a descriptor may stand: it holds and refers to nothing. -/
theorem fitsBelow_of_primitive (h : descriptor.kind ∈ [.boolean, .integer, .string, .unknown]) :
    descriptor.FitsBelow := by
  have hprimitive := Kind.isParamPrimitive_iff.2 h
  cases descriptor with
  | boolean | integer | string | unknown =>
    refine ⟨Kind.isTopLevelOnly_eq_false_iff.1 rfl, wellFormed_iff.2 ⟨?_, ?_, ?_, ?_⟩⟩ <;>
      exact List.forall_mem_nil _
  | _ => cases hprimitive

/-- So does a parameter. -/
theorem IsParameter.fitsBelow (h : descriptor.IsParameter) : descriptor.FitsBelow := by
  cases h with
  | primitive hkind => exact fitsBelow_of_primitive hkind
  | array hitems =>
    refine ⟨Kind.isTopLevelOnly_eq_false_iff.1 rfl, wellFormed_iff.2 ⟨List.forall_mem_nil _,
      List.forall_mem_nil _, List.forall_mem_nil _, ?_⟩⟩
    intro child hchild
    rw [List.mem_singleton.1 hchild]
    exact fitsBelow_of_primitive hitems

/-! ### What the check comes to -/

/-- Some kinds stand at the top level only. -/
theorem checkPlace_eq_ok {kind : Kind} : checkPlace kind topLevel location = .ok () ↔
    (topLevel = false → kind ∉ [.record, .params, .query, .procedure]) := by
  rw [← Kind.isTopLevelOnly_eq_false_iff, checkPlace]
  cases topLevel <;> cases kind.isTopLevelOnly <;> simp

/-- A reference passes if it has one hash at most. -/
theorem checkReference_eq_ok {reference : String} :
    checkReference location reference = .ok () ↔ reference.toList.count '#' ≤ 1 := by
  rw [checkReference]
  split
  · simp only [reduceCtorEq, false_iff]
    omega
  · simp only [true_iff]
    omega

/-- The schema of a body, where there is one. -/
theorem checkBody_eq_ok {body : Option Body} :
    Body.checkStructure location body = .ok () ↔ ∀ schema ∈ Body.children body,
      schema.checkStructure false (location.child "schema") = .ok () := by
  cases body with
  | none => simp [Body.checkStructure, Body.children]
  | some body =>
    obtain ⟨description, encoding, schema⟩ := body
    cases schema <;> simp [Body.checkStructure, Body.children]

/-- Parameters pass if the required ones are there and all are parameters. -/
theorem checkParamsSchema_eq_ok {schema : ParamsSchema} :
    schema.checkStructure location = .ok () ↔
      (∀ name ∈ schema.required, name ∈ Assoc.keys schema.properties) ∧
        ∀ parameter ∈ schema.properties, IsParameter parameter.2 := by
  rw [ParamsSchema.checkStructure_eq_ok]
  simp [describesParameter_iff]

/-- The parameters of a call, where it declares any. -/
theorem checkParameters_eq_ok {parameters : Option ParamsSchema} :
    checkParameters location parameters = .ok () ↔ ∀ schema ∈ parameters,
      (∀ name ∈ schema.required, name ∈ Assoc.keys schema.properties) ∧
        ∀ parameter ∈ schema.properties, IsParameter parameter.2 := by
  cases parameters with
  | none => simp [checkParameters]
  | some schema =>
    rw [checkParameters, checkParamsSchema_eq_ok]
    simp

/-- The required names of an object, and the checks of its properties. -/
theorem checkObjectSchema_eq_ok {schema : ObjectSchema} :
    schema.checkStructure location = .ok () ↔
      (∀ name ∈ schema.required, name ∈ Assoc.keys schema.properties) ∧
        ∀ property ∈ schema.properties,
          property.2.checkStructure false (location.child property.1) = .ok () := by
  obtain ⟨description, properties, required, nullable⟩ := schema
  rw [ObjectSchema.checkStructure, then_eq_ok, checkRequired_eq_ok, checkProperties_eq_ok]

/-- The parameters of a call fit below it, so nothing is lost if the check does not go into them. -/
theorem fitsBelow_of_parameters {parameters : Option ParamsSchema}
    (h : ∀ schema ∈ parameters, ∀ parameter ∈ schema.properties, IsParameter parameter.2) :
    ∀ child ∈ ParamsSchema.children parameters, child.FitsBelow := by
  intro child hchild
  obtain ⟨schema, hschema, hproperty⟩ := List.mem_flatMap.1 hchild
  obtain ⟨parameter, hmem, rfl⟩ := List.mem_map.1 hproperty
  exact (h schema (Option.mem_toList.1 hschema) parameter hmem).fitsBelow

/-- A call is well formed iff its parameters are as they should be and its bodies fit below it. -/
theorem wellFormed_iff_of_call {parameters : Option ParamsSchema} {bodies : List Descriptor}
    (hcall : Registry.HasParameters parameters descriptor)
    (hchildren : descriptor.children = ParamsSchema.children parameters ++ bodies) :
    descriptor.WellFormed ↔
      (∀ schema ∈ parameters, (∀ name ∈ schema.required, name ∈ Assoc.keys schema.properties) ∧
        ∀ parameter ∈ schema.properties, IsParameter parameter.2) ∧
      ∀ child ∈ bodies, child.FitsBelow := by
  -- A call has no required names, and declares nothing, but by its parameters.
  have hrules : (∀ schema ∈ parameters,
      (∀ name ∈ schema.required, name ∈ Assoc.keys schema.properties) ∧
        ∀ parameter ∈ schema.properties, IsParameter parameter.2) ↔
      (∀ name ∈ descriptor.required, name ∈ Assoc.keys descriptor.declared) ∧
        ∀ parameter ∈ descriptor.parameters, IsParameter parameter.2 := by
    cases hcall <;> cases parameters <;> simp [required, declared, Descriptor.parameters]
  have hreferences : descriptor.references = [] := by
    cases hcall <;> rfl
  rw [wellFormed_iff, hreferences, hchildren, List.forall_mem_append]
  constructor
  · rintro ⟨hrequired, hparameters, -, -, hbodies⟩
    exact ⟨hrules.2 ⟨hrequired, hparameters⟩, hbodies⟩
  · rintro ⟨h, hbodies⟩
    obtain ⟨hrequired, hparameters⟩ := hrules.1 h
    refine ⟨hrequired, hparameters, List.forall_mem_nil _, ?_, hbodies⟩
    exact fitsBelow_of_parameters fun schema hschema => (h schema hschema).2

/-- **The check passes what is well formed.**  By induction on the descriptor: the rules about it are
    looked at in its own step, and what it holds is checked as standing below a definition. -/
theorem checkStructure_eq_ok_iff : descriptor.checkStructure topLevel location = .ok () ↔
    (topLevel = false → descriptor.kind ∉ [.record, .params, .query, .procedure]) ∧
      descriptor.WellFormed := by
  induction descriptor using induction_children generalizing topLevel location with
  | step descriptor ih =>
    -- By the induction, what is held passes if it fits below a definition.
    have hbelow {child : Descriptor} (hchild : child ∈ descriptor.children) {location : Location} :
        child.checkStructure false location = .ok () ↔ child.FitsBelow := by
      rw [ih child hchild]
      exact ⟨fun h => ⟨h.1 rfl, h.2⟩, fun h => ⟨fun _ => h.kind, h.wellFormed⟩⟩
    have hobject {schema : ObjectSchema} {location : Location}
        (hsub : ∀ child ∈ schema.properties.map Prod.snd, child ∈ descriptor.children) :
        schema.checkStructure location = .ok () ↔
          (∀ name ∈ schema.required, name ∈ Assoc.keys schema.properties) ∧
            ∀ child ∈ schema.properties.map Prod.snd, child.FitsBelow := by
      rw [checkObjectSchema_eq_ok, List.forall_mem_map]
      refine and_congr_right fun _ => forall₂_congr fun property hmem => ?_
      exact hbelow (hsub _ (List.mem_map_of_mem hmem))
    have hbody {body : Option Body} {location : Location}
        (hsub : ∀ child ∈ Body.children body, child ∈ descriptor.children) :
        Body.checkStructure location body = .ok () ↔
          ∀ child ∈ Body.children body, child.FitsBelow := by
      rw [checkBody_eq_ok]
      exact forall₂_congr fun schema hmem => hbelow (hsub _ hmem)
    cases descriptor with
    | boolean | integer | string | bytes | cidLink | blob | token | unknown =>
      rw [checkStructure, wellFormed_iff]
      simp [kind, required, parameters, references, children]
    | ref description target =>
      rw [checkStructure, checkReference_eq_ok, wellFormed_iff]
      simp [kind, required, parameters, references, children]
    | union description members closed =>
      rw [checkStructure, forM_eq_ok, wellFormed_iff]
      simp [checkReference_eq_ok, kind, required, parameters, references, children]
    | array description items rules =>
      rw [checkStructure, hbelow (List.mem_singleton_self _), wellFormed_iff]
      simp [kind, required, parameters, references, children]
    | object schema =>
      rw [checkStructure, hobject fun _ hchild => hchild, wellFormed_iff]
      simp [kind, required, declared, parameters, references, children]
    | record description key schema =>
      rw [checkStructure, then_eq_ok, checkPlace_eq_ok, hobject fun _ hchild => hchild,
        wellFormed_iff]
      simp [kind, required, declared, parameters, references, children]
    -- Parameters that are parameters fit below a definition anyway.
    | params schema =>
      rw [checkStructure, then_eq_ok, checkPlace_eq_ok, checkParamsSchema_eq_ok, wellFormed_iff]
      refine and_congr_right fun _ => and_congr_right fun _ => ?_
      refine ⟨fun h => ⟨h, List.forall_mem_nil _, ?_⟩, fun h => h.1⟩
      exact List.forall_mem_map.2 fun parameter hmem => (h parameter hmem).fitsBelow
    | query description params output errors =>
      rw [checkStructure, then_eq_ok, then_eq_ok, checkPlace_eq_ok, checkParameters_eq_ok,
        hbody fun child hchild => List.mem_append_right _ hchild, wellFormed_iff_of_call .query rfl]
      rfl
    | procedure description params input output errors =>
      -- The bodies are brought together, as they are behind the parameters of any call.
      have hchildren : (procedure description params input output errors).children =
          ParamsSchema.children params ++ (Body.children input ++ Body.children output) :=
        List.append_assoc _ _ _
      have hinput : ∀ child ∈ Body.children input,
          child ∈ (procedure description params input output errors).children := by
        intro child hchild
        rw [hchildren]
        exact List.mem_append_right _ (List.mem_append_left _ hchild)
      have houtput : ∀ child ∈ Body.children output,
          child ∈ (procedure description params input output errors).children :=
        fun child hchild => List.mem_append_right _ hchild
      rw [checkStructure, then_eq_ok, then_eq_ok, then_eq_ok, checkPlace_eq_ok,
        checkParameters_eq_ok, hbody hinput, hbody houtput,
        wellFormed_iff_of_call .procedure hchildren, List.forall_mem_append]
      rfl

end Descriptor

end Lexicon
