import Lexicon.Proofs.Defaults.Fill
import Lexicon.Proofs.Value.Reordered

namespace Lexicon.Registry

open Lexicon.Outcome

/-!
# Fillings and the order of keys

Defaults are put behind the entries that are there, in the order in which they are declared.  Two
values that differ in the order of their keys are filled with the same defaults, or fail alike.

* `fillProperty_reordered` — one property has the same new value in both, up to the order of keys;
* `fillProperties_reordered` — so the filled entries are the same, up to the order of keys;
* `fill_reordered` — and so are the filled values.
-/

variable {registry : Registry} {value value' : Value} {fields fields' : List (String × Value)}

/-- A property is filled alike in both objects, if all smaller objects are. -/
theorem fillProperty_reordered (h : (Value.object fields).Reordered (.object fields'))
    (base name : String) (descriptor : Descriptor) (path : Path)
    (hinner : ∀ inner inner', sizeOf inner < sizeOf fields →
      (Value.object inner).Reordered (.object inner') → ∀ base properties path,
      Related (fun filled filled' => (Value.object filled).Reordered (.object filled'))
        (registry.fillProperties base properties inner path inner)
        (registry.fillProperties base properties inner' path inner')) :
    Related (Option.Rel Value.Reordered)
      (registry.fillProperty base name descriptor fields path)
      (registry.fillProperty base name descriptor fields' path) := by
  rcases h.lookup name with ⟨hnone, hnone'⟩ | ⟨field, field', hfield, hfield', hrel⟩
  · rw [fillProperty_of_none hnone, fillProperty_of_none hnone']
    cases descriptor.default? with
    | none => exact .ok .none
    | some default => exact .ok (.some .same)
  rcases hrel.object_or_plain with ⟨inner, inner', rfl, rfl⟩ | ⟨hplain, hplain'⟩
  · rw [fillProperty_of_object hfield, fillProperty_of_object hfield']
    -- The references lead both to the same descriptor, or to the same failure.
    cases registry.followRefs base descriptor (path.child name) 0 with
    | error failure => exact .error failure
    | ok target =>
      obtain ⟨base', target⟩ := target
      cases target with
      | object schema =>
        refine (hinner inner inner' (sizeOf_inner_lt hfield) hrel base' schema.properties _).bind ?_
        intro filled filled' hfilled
        exact .ok (.some hfilled)
      | _ => exact .ok .none
  · rw [fillProperty_of_plain hfield hplain, fillProperty_of_plain hfield' hplain']
    exact .ok .none

/-- A new value, if there is one, may be set in both objects. -/
theorem reordered_update {filled filled' : List (String × Value)}
    (h : (Value.object filled).Reordered (.object filled')) (name : String)
    {new new' : Option Value} (hnew : Option.Rel Value.Reordered new new') :
    (Value.object (Assoc.update filled name new)).Reordered
      (.object (Assoc.update filled' name new')) := by
  cases hnew with
  | none => exact h
  | some hvalue => exact h.insert name hvalue

/-- **Entries are filled alike.**  Where two objects are reordered, so are their filled entries, or
    both fillings fail alike. -/
theorem fillProperties_reordered {filled filled' : List (String × Value)}
    (h : (Value.object fields).Reordered (.object fields'))
    (hfilled : (Value.object filled).Reordered (.object filled'))
    (base : String) (properties : List (String × Descriptor)) (path : Path) :
    Related (fun filled filled' => (Value.object filled).Reordered (.object filled'))
      (registry.fillProperties base properties fields path filled)
      (registry.fillProperties base properties fields' path filled') := by
  induction hsize : sizeOf fields using Nat.strong_induction_on
    generalizing base properties fields fields' path filled filled' with
  | _ size ihsize =>
    -- The objects below the entries are smaller; the properties come one after the other.
    have hinner : ∀ inner inner', sizeOf inner < sizeOf fields →
        (Value.object inner).Reordered (.object inner') → ∀ base properties path,
        Related (fun filled filled' => (Value.object filled).Reordered (.object filled'))
          (registry.fillProperties base properties inner path inner)
          (registry.fillProperties base properties inner' path inner') :=
      fun inner inner' hlt h base properties path =>
        ihsize _ (hsize ▸ hlt) h h base properties path rfl
    induction properties generalizing filled filled' with
    | nil =>
      rw [fillProperties, fillProperties]
      exact .ok hfilled
    | cons property rest ih =>
      obtain ⟨name, descriptor⟩ := property
      rw [fillProperties_cons, fillProperties_cons]
      refine (fillProperty_reordered h base name descriptor path hinner).bind ?_
      intro new new' hnew
      exact ih (reordered_update hfilled name hnew)

/-- A value with its entries in another order is filled to the same value in another order, or fails
    in the same way. -/
theorem fill_reordered (h : value.Reordered value') (base : String)
    (properties : List (String × Descriptor)) (label : Path) :
    Related Value.Reordered (registry.fill base properties value label)
      (registry.fill base properties value' label) := by
  rcases h.object_or_plain with ⟨fields, fields', rfl, rfl⟩ | ⟨hplain, hplain'⟩
  · rw [fill_object, fill_object]
    exact (fillProperties_reordered h h base properties label).map fun _ _ hfilled => hfilled
  · rw [fill_of_plain hplain, fill_of_plain hplain']
    exact .ok h

end Lexicon.Registry
