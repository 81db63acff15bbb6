import Lexicon.Proofs.Conformance.Agreement
import Lexicon.Proofs.Defaults.Fill

namespace Lexicon.Registry

open Lexicon.Outcome

/-!
# Two registries, one filling

Like a check, the filling of defaults asks its registry for definitions and for the limit on hops,
and for nothing else.  So registries that agree on these agree on every filling, too.

* `followRefs_agree` — two walks along the same references agree;
* `fillProperties_agree` — so do two fillings of the same entries;
* `fill_agree` — and of the same value.
-/

variable {excused : Failure → Prop} {registry registry' : Registry} {hops hops' : Nat}

section

variable
  (hlookUp : ∀ address, Agree excused (registry.lookUp address) (registry'.lookUp address))
include hlookUp

/-- Two walks along the same references agree.  The induction is on the hops that are left to the
    first one. -/
theorem followRefs_agree (hroom : LeavesRoom excused registry registry' hops hops')
    (base : String) (descriptor : Descriptor) (path : Path) :
    Agree excused (registry.followRefs base descriptor path hops)
      (registry'.followRefs base descriptor path hops') := by
  induction hleft : registry.settings.maxHops - hops
    generalizing base descriptor hops hops' with
  | zero =>
    cases descriptor with
    | ref description target =>
      rw [followRefs, followRefs]
      exact hroom.ite path fun hlt => by omega
    | _ => simp only [followRefs]; exact .refl _
  | succ left ih =>
    cases descriptor with
    | ref description target =>
      rw [followRefs, followRefs]
      refine hroom.ite path fun hlt => ?_
      refine (Agree.refl _).bind fun address _ => (hlookUp address).bind fun next _ => ?_
      exact ih hroom.succ address.document next (by omega)
    | _ => simp only [followRefs]; exact .refl _

/-- Two fillings of one property agree, if the fillings of all smaller objects do. -/
theorem fillProperty_agree (hroom : LeavesRoom excused registry registry' 0 0) (base : String)
    (name : String) (descriptor : Descriptor) (fields : List (String × Value)) (path : Path)
    (hinner : ∀ inner, sizeOf inner < sizeOf fields → ∀ base properties path filled,
      Agree excused (registry.fillProperties base properties inner path filled)
        (registry'.fillProperties base properties inner path filled)) :
    Agree excused (registry.fillProperty base name descriptor fields path)
      (registry'.fillProperty base name descriptor fields path) := by
  cases hfield : fields.lookup name with
  | none =>
    rw [fillProperty_of_none hfield, fillProperty_of_none hfield]
    exact .refl _
  | some field =>
    cases field with
    | object inner =>
      rw [fillProperty_of_object hfield, fillProperty_of_object hfield]
      -- Both follow the references to the same end, and enter it or leave the value.
      refine (followRefs_agree hlookUp hroom base descriptor _).bind fun target _ => ?_
      obtain ⟨base', end'⟩ := target
      cases end' with
      | object schema =>
        exact (hinner inner (sizeOf_inner_lt hfield) _ _ _ _).bind fun _ _ => .refl _
      | _ => exact .refl _
    | _ =>
      rw [fillProperty_of_plain hfield rfl, fillProperty_of_plain hfield rfl]
      exact .refl _

/-- **Agreement of fillings.**  If two registries agree on every definition, and the second one
    leaves room, then they fill the entries of every object alike. -/
theorem fillProperties_agree (hroom : LeavesRoom excused registry registry' 0 0) (base : String)
    (properties : List (String × Descriptor)) (fields : List (String × Value)) (path : Path)
    (filled : List (String × Value)) :
    Agree excused (registry.fillProperties base properties fields path filled)
      (registry'.fillProperties base properties fields path filled) := by
  induction hsize : sizeOf fields using Nat.strong_induction_on
    generalizing base properties fields path filled with
  | _ size ihsize =>
    -- The objects below the entries are smaller; the properties come one after the other.
    have hinner : ∀ inner, sizeOf inner < sizeOf fields → ∀ base properties path filled,
        Agree excused (registry.fillProperties base properties inner path filled)
          (registry'.fillProperties base properties inner path filled) :=
      fun inner hlt base properties path filled =>
        ihsize _ (hsize ▸ hlt) base properties inner path filled rfl
    induction properties generalizing filled with
    | nil =>
      rw [fillProperties, fillProperties]
      exact .refl _
    | cons property rest ih =>
      obtain ⟨name, descriptor⟩ := property
      rw [fillProperties_cons, fillProperties_cons]
      refine (fillProperty_agree hlookUp hroom base name descriptor fields path hinner).bind ?_
      intro value _
      exact ih _

/-- Two registries that agree in what they look up agree in how they fill a value. -/
theorem fill_agree (hroom : LeavesRoom excused registry registry' 0 0) (base : String)
    (properties : List (String × Descriptor)) (value : Value) (label : Path) :
    Agree excused (registry.fill base properties value label)
      (registry'.fill base properties value label) := by
  cases value with
  | object fields =>
    rw [fill_object, fill_object]
    exact (fillProperties_agree hlookUp hroom base properties fields label fields).map _
  | _ => exact .refl _

end

end Lexicon.Registry
