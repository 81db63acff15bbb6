import Lexicon.Proofs.Descriptor.Parts
import Lexicon.Proofs.Document.Structure

namespace Lexicon

open Lexicon.Outcome

/-!
# Where kinds stand in sound documents

Some kinds can only be definitions of their own.  The check of the structure is told whether it
looks at a definition, and rejects these kinds where it does not; as it goes through all that a
descriptor holds, none of them stands anywhere below a definition.

* `Descriptor.IsPlaced`, `Descriptor.IsNested` — a descriptor that passes as a definition or as a
  part of one, and one that passes as a part;
* `IsPlaced.isNested_child` — one step down: what passes holds nested descriptors only;
* `IsPlaced.of_mem_parts` — any number of steps down;
* `Document.isTopLevelOnly_of_child` — the kind of what a descriptor of a sound document holds.
-/

namespace Descriptor

variable {descriptor child part : Descriptor} {location : Location}

/-- A descriptor passes the check of the structure, as a definition or as a part of one. -/
def IsPlaced (descriptor : Descriptor) : Prop :=
  ∃ topLevel location, descriptor.checkStructure topLevel location = .ok ()

/-- A descriptor passes the check of the structure as a part of a definition. -/
def IsNested (descriptor : Descriptor) : Prop :=
  ∃ location, descriptor.checkStructure false location = .ok ()

/-- What passes as a part of a definition passes somewhere. -/
theorem IsNested.isPlaced (h : descriptor.IsNested) : descriptor.IsPlaced := by
  obtain ⟨location, hcheck⟩ := h
  exact ⟨false, location, hcheck⟩

/-- No part of a definition is of a kind that can only be a definition. -/
theorem IsNested.kind (h : descriptor.IsNested) : descriptor.kind.isTopLevelOnly = false := by
  obtain ⟨location, hcheck⟩ := h
  have hplace {kind : Kind} (honly : kind.isTopLevelOnly = true) :
      checkPlace kind false location ≠ .ok () := by
    simp [checkPlace, honly]
  cases descriptor with
  | record | params | query | procedure =>
    rw [checkStructure] at hcheck
    exact absurd (then_eq_ok.1 hcheck).1 (hplace rfl)
  | _ => rfl

/-! ### One step down -/

/-- Properties pass if each does, below its name. -/
theorem checkProperties_eq_ok {properties : List (String × Descriptor)} :
    checkProperties location properties = .ok () ↔ ∀ property ∈ properties,
      property.2.checkStructure false (location.child property.1) = .ok () := by
  induction properties with
  | nil => simp [checkProperties]
  | cons property rest ih => rw [checkProperties, then_eq_ok, ih, List.forall_mem_cons]

/-- The properties of a sound object are nested. -/
theorem isNested_of_object {schema : ObjectSchema} (h : schema.checkStructure location = .ok ()) :
    ∀ child ∈ schema.properties.map Prod.snd, child.IsNested := by
  obtain ⟨description, properties, required, nullable⟩ := schema
  rw [ObjectSchema.checkStructure] at h
  obtain ⟨-, hproperties⟩ := then_eq_ok.1 h
  intro child hchild
  obtain ⟨property, hmem, rfl⟩ := List.mem_map.1 hchild
  exact ⟨_, checkProperties_eq_ok.1 hproperties property hmem⟩

/-- What describes a parameter is nested, although the check of a call does not look into it. -/
theorem isNested_of_describesParameter (h : descriptor.describesParameter) :
    descriptor.IsNested := by
  have hprimitive {primitive : Descriptor} {location : Location}
      (hkind : primitive.kind.isParamPrimitive) :
      primitive.checkStructure false location = .ok () := by
    cases primitive with
    | boolean | integer | string | unknown => rw [checkStructure]
    | _ => cases hkind
  cases descriptor with
  | array description items rules =>
    refine ⟨"", ?_⟩
    rw [checkStructure]
    exact hprimitive h
  | _ => exact ⟨"", hprimitive h⟩

/-- The parameters of a sound call are nested. -/
theorem isNested_of_params {schema : ParamsSchema} (h : schema.checkStructure location = .ok ()) :
    ∀ child ∈ schema.properties.map Prod.snd, child.IsNested := by
  intro child hchild
  obtain ⟨⟨name, _⟩, hmem, rfl⟩ := List.mem_map.1 hchild
  exact isNested_of_describesParameter ((ParamsSchema.checkStructure_eq_ok.1 h).2 name _ hmem)

/-- Parameters that pass have only what may stand below a definition. -/
theorem isNested_of_parameters {parameters : Option ParamsSchema}
    (h : checkParameters location parameters = .ok ()) :
    ∀ child ∈ ParamsSchema.children parameters, child.IsNested := by
  intro child hchild
  obtain ⟨schema, hschema, hproperty⟩ := List.mem_flatMap.1 hchild
  obtain rfl : parameters = some schema := Option.mem_toList.1 hschema
  exact isNested_of_params h child hproperty

/-- The schema of a body of a sound call is nested. -/
theorem isNested_of_body {body : Option Body} (h : Body.checkStructure location body = .ok ()) :
    ∀ child ∈ Body.children body, child.IsNested := by
  intro child hchild
  rw [Body.children, Option.mem_toList] at hchild
  obtain ⟨⟨description, encoding, _⟩, rfl, rfl⟩ := Option.bind_eq_some_iff.1 hchild
  rw [Body.checkStructure] at h
  exact ⟨_, h⟩

/-- **One step down.**  What passes holds nested descriptors only. -/
theorem IsPlaced.isNested_child (h : descriptor.IsPlaced) :
    ∀ child ∈ descriptor.children, child.IsNested := by
  obtain ⟨topLevel, location, hcheck⟩ := h
  cases descriptor with
  | array description items rules =>
    rw [checkStructure] at hcheck
    intro child hchild
    rw [List.mem_singleton.1 hchild]
    exact ⟨_, hcheck⟩
  | object schema =>
    rw [checkStructure] at hcheck
    exact isNested_of_object hcheck
  | record description key schema =>
    rw [checkStructure] at hcheck
    exact isNested_of_object (then_eq_ok.1 hcheck).2
  | params schema =>
    rw [checkStructure] at hcheck
    exact isNested_of_params (then_eq_ok.1 hcheck).2
  -- The checks of a call come one after the other, as its children do.
  | query description parameters output errors =>
    rw [checkStructure] at hcheck
    obtain ⟨-, hcheck⟩ := then_eq_ok.1 hcheck
    obtain ⟨hparameters, houtput⟩ := then_eq_ok.1 hcheck
    intro child hchild
    rcases List.mem_append.1 hchild with hchild | hchild
    · exact isNested_of_parameters hparameters child hchild
    · exact isNested_of_body houtput child hchild
  | procedure description parameters input output errors =>
    rw [checkStructure] at hcheck
    obtain ⟨-, hcheck⟩ := then_eq_ok.1 hcheck
    obtain ⟨hparameters, hcheck⟩ := then_eq_ok.1 hcheck
    obtain ⟨hinput, houtput⟩ := then_eq_ok.1 hcheck
    intro child hchild
    rcases List.mem_append.1 hchild with hchild | hchild
    · rcases List.mem_append.1 hchild with hchild | hchild
      · exact isNested_of_parameters hparameters child hchild
      · exact isNested_of_body hinput child hchild
    · exact isNested_of_body houtput child hchild
  | _ =>
    intro child hchild
    cases hchild

/-! ### Any number of steps down -/

/-- **Any number of steps down.**  The parts of what passes do so as well.  By induction on the
    descriptor, one step at a time. -/
theorem IsPlaced.of_mem_parts (h : descriptor.IsPlaced) (hpart : part ∈ descriptor.parts) :
    part.IsPlaced := by
  induction descriptor using induction_children with
  | step descriptor ih =>
    rcases mem_parts_iff.1 hpart with rfl | ⟨child, hchild, hpart⟩
    · exact h
    · exact ih child hchild (h.isNested_child child hchild).isPlaced hpart

end Descriptor

namespace Document

variable {document : Document}

/-- All descriptors of a sound document pass. -/
theorem isPlaced_of_mem_descriptors (h : document.checkStructure = .ok ()) {part : Descriptor}
    (hpart : part ∈ document.descriptors) : part.IsPlaced := by
  obtain ⟨name, definition, hmem, hpart⟩ := Descriptor.mem_partsOfEntries.1 hpart
  have hdefinition : definition.IsPlaced :=
    ⟨true, _, (checkStructure_eq_ok.1 h).2.2 name definition hmem⟩
  exact hdefinition.of_mem_parts hpart

/-- Whatever a descriptor of a sound document holds, it is of a kind that may stand there. -/
theorem isTopLevelOnly_of_child (h : document.checkStructure = .ok ()) {part child : Descriptor}
    (hpart : part ∈ document.descriptors) (hchild : child ∈ part.children) :
    child.kind.isTopLevelOnly = false :=
  ((isPlaced_of_mem_descriptors h hpart).isNested_child child hchild).kind

end Document

end Lexicon
