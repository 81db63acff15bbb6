import Lexicon.Proofs.Conformance.Origins
import Lexicon.Proofs.Descriptor.Canonical
import Lexicon.Proofs.Document.Placement
import Mathlib

namespace Lexicon

open Lexicon.Outcome

/-!
# Misplaced definitions at the time of checking

A check that comes to a definition that describes no value tells its kind.  In documents that have
been read it comes to one by a reference only, as no such definition stands within another one.

* `Registry.Holds`, `Registry.RefersTo` — a descriptor that stands in a document, and a kind that
  some reference in some document leads to;
* `checkValue_tells_kind` — where a check tells a kind, it is that of the descriptor itself or one
  that is referred to.
-/

namespace Registry

variable {registry : Registry} {base : String} {descriptor child definition : Descriptor}
  {address : Address} {value : Value} {path path' : Path} {hops : Nat} {kind : Kind}

/-! ### Where descriptors stand -/

/-- A descriptor stands in a document of the registry. -/
def Holds (registry : Registry) (base : String) (descriptor : Descriptor) : Prop :=
  ∃ document, registry.find? base = some document ∧ descriptor ∈ document.descriptors

/-- What can be checked has children that can be checked. -/
theorem Holds.of_child (h : registry.Holds base descriptor) (hchild : child ∈ descriptor.children) :
    registry.Holds base child := by
  obtain ⟨document, hfound, hmem⟩ := h
  exact ⟨document, hfound, Document.mem_descriptors_of_child hmem hchild⟩

/-- The definition at an address stands in the document there. -/
theorem holds_of_resolve (h : registry.resolve address = .ok definition) :
    registry.Holds address.document definition := by
  obtain ⟨document, hfound, hdefinition⟩ := resolve_eq_ok.1 h
  have hmem : (address.name, definition) ∈ document.definitions :=
    Assoc.mem_of_lookup hdefinition
  exact ⟨document, hfound,
    Descriptor.mem_partsOfEntries.2 ⟨_, _, hmem, definition.mem_parts_self⟩⟩

/-- In documents that have been read, what a descriptor holds may stand there. -/
theorem Holds.isTopLevelOnly_of_child (hread : registry.AllRead)
    (h : registry.Holds base descriptor) (hchild : child ∈ descriptor.children) :
    child.kind.isTopLevelOnly = false := by
  obtain ⟨document, hfound, hmem⟩ := h
  have hsound : document.checkStructure = .ok () :=
    hread.checkStructure (List.mem_of_find?_eq_some hfound)
  exact document.isTopLevelOnly_of_child hsound hmem hchild

/-! ### Kinds that are referred to -/

/-- Some reference in a document, by a `ref` or as a member of a union, leads to a definition of the
    kind. -/
def RefersTo (registry : Registry) (kind : Kind) : Prop :=
  ∃ document part reference address definition,
    registry.find? document.id = some document ∧ part ∈ document.descriptors ∧
    reference ∈ part.references ∧ Address.parse reference (some document.id) = .ok address ∧
    registry.resolve address = .ok definition ∧ definition.kind = kind

/-- A reference held by what can be checked refers to the kind of the definition it resolves to. -/
theorem Holds.refersTo (h : registry.Holds base descriptor) {reference : String}
    (hreference : reference ∈ descriptor.references)
    (hparse : Address.parse reference (some base) = .ok address)
    (hresolve : registry.resolve address = .ok definition) :
    registry.RefersTo definition.kind := by
  obtain ⟨document, hfound, hmem⟩ := h
  obtain rfl : document.id = base := id_of_find? hfound
  exact ⟨document, descriptor, reference, address, definition, hfound, hmem, hreference, hparse,
    hresolve, rfl⟩

/-- A kind that can only be that of definitions is not that of a child, so it is referred to. -/
theorem Holds.refersTo_of_child (hread : registry.AllRead) (hholds : registry.Holds base descriptor)
    (hchild : child ∈ descriptor.children)
    (h : (child.kind = kind ∧ kind.isTopLevelOnly = true) ∨ registry.RefersTo kind) :
    registry.RefersTo kind := by
  rcases h with ⟨hsame, honly⟩ | hrefers
  · have hplaced := hholds.isTopLevelOnly_of_child hread hchild
    rw [hsame, honly] at hplaced
    cases hplaced
  · exact hrefers

/-! ### Failures that tell no kind -/

/-- Resolving does not look at the kind of what it finds. -/
theorem resolve_ne_unexpectedKind :
    registry.resolve address ≠ .error (.unexpectedKind kind path) := by
  intro h
  rcases resolve_eq_error h with herror | herror <;> cases herror

/-- A kind told behind an address is told by the definition there. -/
theorem checkTarget_tells_kind
    (h : registry.checkTarget address value path hops =
      .error (.resolution (.unexpectedKind kind path'))) :
    hops < registry.settings.maxHops ∧ ∃ definition,
      registry.resolve address = .ok definition ∧
        registry.checkValue address.document definition value path (hops + 1) =
          .error (.resolution (.unexpectedKind kind path')) := by
  rcases checkTarget_eq_error h with h | ⟨error, hresolve, h⟩ | h
  · cases h
  · cases h
    exact absurd hresolve resolve_ne_unexpectedKind
  · exact h

/-! ### Failures that tell a kind -/

/-- **A kind that is told is referred to.**  Where a check tells a kind other than that of tokens, the
    kind can only be that of definitions, and the descriptor is of the kind or some reference leads
    to it.  By induction along the validator: going deeper into a value goes to a child of the
    descriptor, which is not of such a kind. -/
theorem checkValue_tells_kind (hread : registry.AllRead) (hkind : kind ≠ .token)
    (hholds : registry.Holds base descriptor)
    (h : registry.checkValue base descriptor value path hops =
      .error (.resolution (.unexpectedKind kind path'))) :
    (descriptor.kind = kind ∧ kind.isTopLevelOnly = true) ∨ registry.RefersTo kind := by
  induction value, hops using value_hops_induction registry.settings.maxHops
    generalizing base descriptor path with
  | step value hops ihvalue ihhops =>
    cases origin_of_checkValue h with
    | kind honly =>
      rcases honly with htoken | honly
      · exact absurd htoken hkind
      · exact .inl ⟨rfl, honly⟩
    | target hreference hparse h =>
      -- The whole value is looked at again through a definition that the reference leads to.
      obtain ⟨hlt, definition, hresolve, h⟩ := checkTarget_tells_kind h
      rcases ihhops hlt (holds_of_resolve hresolve) h with ⟨hsame, -⟩ | hrefers
      · exact .inr (hsame ▸ hholds.refersTo hreference hparse hresolve)
      · exact .inr hrefers
    | part hchild hpart h =>
      exact .inr (hholds.refersTo_of_child hread hchild
        (ihvalue _ 0 hpart.sizeOf_lt (hholds.of_child hchild) h))

end Registry

end Lexicon
