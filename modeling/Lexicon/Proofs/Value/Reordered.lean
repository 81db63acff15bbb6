import Lexicon.Proofs.Assoc
import Lexicon.Value
import Mathlib.Data.List.Forall2
import Mathlib.Data.List.Perm.Basic

namespace Lexicon

/-!
# Values with their keys in another order

* `Value.Reordered` — two values differ in the order of the keys of objects only, at any depth;
* `Reordered.object_iff_perm` — for objects whose keys differ from each other: the entries of one
  are those of the other in some order, up to a reordering of what they hold;
* `Reordered.lookup` — what is found in two such values;
* `Reordered.insert` — the same entry may be set in both.
-/

/-- The values differ in the order of the keys of objects only, at any depth.  Arrays keep their
    order. -/
inductive Value.Reordered : Value → Value → Prop where
  | same {value : Value} : Reordered value value
  | array {items items' : List Value} :
      items.length = items'.length →
      (∀ (i : Nat) (item item' : Value), items[i]? = some item → items'[i]? = some item' →
        Reordered item item') →
      Reordered (.array items) (.array items')
  | object {fields fields' : List (String × Value)} :
      (Assoc.keys fields).Perm (Assoc.keys fields') →
      (∀ (key : String) (field field' : Value), fields.lookup key = some field →
        fields'.lookup key = some field' → Reordered field field') →
      Reordered (.object fields) (.object fields')

namespace Value.Reordered

variable {value value' : Value} {items items' : List Value} {fields fields' : List (String × Value)}

/-- To reorder is symmetric. -/
theorem symm (h : value.Reordered value') : value'.Reordered value := by
  induction h with
  | same => exact .same
  | array hlength _ ih =>
    exact .array hlength.symm fun i item item' hitem hitem' => ih i item' item hitem' hitem
  | object hkeys _ ih =>
    exact .object hkeys.symm fun key field field' hfield hfield' =>
      ih key field' field hfield' hfield

/-! ### Objects -/

/-- Reordering permutes the keys. -/
theorem keys_perm (h : (Value.object fields).Reordered (.object fields')) :
    (Assoc.keys fields).Perm (Assoc.keys fields') := by
  cases h with
  | same => exact .refl _
  | object hkeys _ => exact hkeys

/-- What two reorderings hold under the same key are reorderings. -/
theorem of_lookup (h : (Value.object fields).Reordered (.object fields')) {key : String}
    (hvalue : fields.lookup key = some value) (hvalue' : fields'.lookup key = some value') :
    value.Reordered value' := by
  cases h with
  | same =>
    rw [hvalue, Option.some.injEq] at hvalue'
    exact hvalue' ▸ .same
  | object _ hfields => exact hfields key value value' hvalue hvalue'

/-- Look-up finds a key in neither of two objects, or in both, and then values that are
    reordered. -/
theorem lookup (h : (Value.object fields).Reordered (.object fields')) (key : String) :
    (fields.lookup key = none ∧ fields'.lookup key = none) ∨
      ∃ field field', fields.lookup key = some field ∧ fields'.lookup key = some field' ∧
        field.Reordered field' := by
  by_cases hkey : key ∈ Assoc.keys fields
  · have hkey' : key ∈ Assoc.keys fields' := h.keys_perm.mem_iff.1 hkey
    obtain ⟨field, hfield⟩ := Assoc.mem_keys_iff.1 hkey
    obtain ⟨field', hfield'⟩ := Assoc.mem_keys_iff.1 hkey'
    exact .inr ⟨field, field', hfield, hfield', h.of_lookup hfield hfield'⟩
  · have hkey' : key ∉ Assoc.keys fields' := mt h.keys_perm.mem_iff.2 hkey
    exact .inl ⟨Assoc.lookup_eq_none_iff.2 hkey, Assoc.lookup_eq_none_iff.2 hkey'⟩

/-- What is neither an array nor an object is the same in both. -/
theorem lookup_of_plain (h : (Value.object fields).Reordered (.object fields')) {key : String}
    (hvalue : fields.lookup key = some value) (hobject : value.object? = none)
    (harray : ∀ items, value ≠ .array items) : fields'.lookup key = some value := by
  rcases h.lookup key with ⟨hnone, -⟩ | ⟨field, field', hfield, hfield', hrel⟩
  · rw [hnone] at hvalue
    cases hvalue
  · rw [hfield, Option.some.injEq] at hvalue
    subst hvalue
    cases hrel with
    | same => exact hfield'
    | array => exact absurd rfl (harray _)
    | object => cases hobject

/-- Reordering neither adds nor loses a key. -/
theorem hasKey_eq (h : (Value.object fields).Reordered (.object fields')) (key : String) :
    Assoc.hasKey fields key = Assoc.hasKey fields' key := by
  unfold Assoc.hasKey
  rcases h.lookup key with ⟨hnone, hnone'⟩ | ⟨field, field', hfield, hfield', -⟩
  · rw [hnone, hnone']
  · rw [hfield, hfield']
    rfl

/-! ### The shape of a value -/

/-- Two values are both objects, or neither is one. -/
theorem object_or_plain (h : value.Reordered value') :
    (∃ fields fields', value = .object fields ∧ value' = .object fields') ∨
      (value.object? = none ∧ value'.object? = none) := by
  cases h with
  | same =>
    cases value with
    | object fields => exact .inl ⟨fields, fields, rfl, rfl⟩
    | _ => exact .inr ⟨rfl, rfl⟩
  | array => exact .inr ⟨rfl, rfl⟩
  | object => exact .inl ⟨_, _, rfl, rfl⟩

theorem isNull_eq (h : value.Reordered value') : value.isNull = value'.isNull := by
  cases h <;> rfl

theorem string?_eq (h : value.Reordered value') : value.string? = value'.string? := by
  cases h <;> rfl

/-- A text at a key is the same. -/
theorem bind_string?_eq (h : (Value.object fields).Reordered (.object fields')) (key : String) :
    (fields.lookup key).bind Value.string? = (fields'.lookup key).bind Value.string? := by
  rcases h.lookup key with ⟨hnone, hnone'⟩ | ⟨field, field', hfield, hfield', hrel⟩
  · rw [hnone, hnone']
  · rw [hfield, hfield']
    exact hrel.string?_eq

/-- The type that a value names is the same. -/
theorem bind_get?_eq (h : value.Reordered value') (key : String) :
    (value.get? key).bind Value.string? = (value'.get? key).bind Value.string? := by
  rcases h.object_or_plain with ⟨fields, fields', rfl, rfl⟩ | ⟨hplain, -⟩
  · exact h.bind_string?_eq key
  · cases h with
    | same | array => rfl
    | object => cases hplain

/-! ### Entries that are set -/

/-- The same key may be set in both objects, to values that are reordered. -/
theorem insert (h : (Value.object fields).Reordered (.object fields')) (key : String)
    (hvalue : value.Reordered value') :
    (Value.object (Assoc.insert fields key value)).Reordered
      (.object (Assoc.insert fields' key value')) := by
  refine .object ?_ fun other field field' hfield hfield' => ?_
  · by_cases hkey : key ∈ Assoc.keys fields
    · -- A known key keeps its place, in both.
      rw [Assoc.keys_insert_of_mem hkey,
        Assoc.keys_insert_of_mem (h.keys_perm.mem_iff.1 hkey)]
      exact h.keys_perm
    · rw [Assoc.keys_insert_of_not_mem hkey,
        Assoc.keys_insert_of_not_mem (mt h.keys_perm.mem_iff.2 hkey)]
      exact h.keys_perm.append_right [key]
  · by_cases hother : other = key
    · subst hother
      rw [Assoc.lookup_insert_self, Option.some.injEq] at hfield hfield'
      exact hfield ▸ hfield' ▸ hvalue
    · rw [Assoc.lookup_insert_of_ne hother] at hfield hfield'
      exact h.of_lookup hfield hfield'

/-! ### Reordering as permutation -/

/-- Two entries have the same key, and values that are reordered. -/
def EntryReordered (entry entry' : String × Value) : Prop :=
  entry.1 = entry'.1 ∧ entry.2.Reordered entry'.2

/-- Entries that are reordered inside keep their keys. -/
theorem keys_eq_of_forall₂ (h : List.Forall₂ EntryReordered fields fields') :
    Assoc.keys fields = Assoc.keys fields' := by
  induction h with
  | nil => rfl
  | cons hentry _ ih =>
    show _ :: Assoc.keys _ = _ :: Assoc.keys _
    rw [hentry.1, ih]

/-- To reorder inside the entries is to reorder the object. -/
theorem of_forall₂ (h : List.Forall₂ EntryReordered fields fields') :
    (Value.object fields).Reordered (.object fields') := by
  refine .object (.of_eq (keys_eq_of_forall₂ h)) fun key field field' hfield hfield' => ?_
  induction h with
  | nil => cases hfield
  | @cons entry entry' rest rest' hentry _ ih =>
    obtain ⟨k, v⟩ := entry
    obtain ⟨k', v'⟩ := entry'
    obtain ⟨rfl, hvalue⟩ : k = k' ∧ v.Reordered v' := hentry
    rw [Assoc.lookup_cons] at hfield hfield'
    by_cases hkey : key = k
    · rw [if_pos hkey, Option.some.injEq] at hfield hfield'
      exact hfield ▸ hfield' ▸ hvalue
    · rw [if_neg hkey] at hfield hfield'
      exact ih hfield hfield'

/-- Each entry with the value that another object has at its key. -/
def withValuesOf (fields' fields : List (String × Value)) : List (String × Value) :=
  fields.map fun entry => (entry.1, (fields'.lookup entry.1).getD entry.2)

/-- Where keys differ from each other, the entries of an object with the values of a reordered one
    are the entries of that one, in another order. -/
theorem withValuesOf_perm (hkeys : (Assoc.keys fields).Nodup)
    (h : (Value.object fields).Reordered (.object fields')) :
    (withValuesOf fields' fields).Perm fields' := by
  have hkeys' : (Assoc.keys fields').Nodup := h.keys_perm.nodup_iff.1 hkeys
  have hmap : (Assoc.keys (withValuesOf fields' fields)).Nodup := by
    have heq : Assoc.keys (withValuesOf fields' fields) = Assoc.keys fields := by
      simp [Assoc.keys, withValuesOf, Function.comp_def]
    rwa [heq]
  -- Without repeated keys, lists with the same entries are permutations of each other.
  refine (List.perm_ext_iff_of_nodup (.of_map _ hmap) (.of_map _ hkeys')).2 ?_
  rintro ⟨key, value⟩
  rw [← Assoc.lookup_eq_some_iff_mem hkeys', withValuesOf, List.mem_map]
  constructor
  · rintro ⟨⟨key, field⟩, hmem, heq⟩
    rw [← Assoc.lookup_eq_some_iff_mem hkeys] at hmem
    obtain ⟨rfl, rfl⟩ := Prod.mk.inj heq
    rcases h.lookup key with ⟨hnone, -⟩ | ⟨_, field', -, hfield', -⟩
    · rw [hnone] at hmem
      cases hmem
    · rw [hfield', Option.getD_some]
  · intro hvalue
    rcases h.lookup key with ⟨-, hnone⟩ | ⟨field, _, hfield, -, -⟩
    · rw [hnone] at hvalue
      cases hvalue
    · exact ⟨(key, field), Assoc.mem_of_lookup hfield, by rw [hvalue, Option.getD_some]⟩

/-- Where keys differ from each other, an object is reordered by reordering what its entries hold
    and putting these in another order. -/
theorem object_iff_perm (hkeys : (Assoc.keys fields).Nodup) :
    (Value.object fields).Reordered (.object fields') ↔
      ∃ middle, List.Forall₂ EntryReordered fields middle ∧ middle.Perm fields' := by
  constructor
  · intro h
    -- The values change in their places first, and then the entries change places.
    refine ⟨withValuesOf fields' fields, ?_, withValuesOf_perm hkeys h⟩
    rw [withValuesOf, List.forall₂_map_right_iff, List.forall₂_same]
    rintro ⟨key, field⟩ hmem
    rw [← Assoc.lookup_eq_some_iff_mem hkeys] at hmem
    refine ⟨rfl, ?_⟩
    rcases h.lookup key with ⟨hnone, -⟩ | ⟨_, field', -, hfield', -⟩
    · rw [hnone] at hmem
      cases hmem
    · rw [hfield', Option.getD_some]
      exact h.of_lookup hmem hfield'
  · rintro ⟨middle, hforall, hperm⟩
    have hmiddle := of_forall₂ hforall
    refine .object (hmiddle.keys_perm.trans (hperm.map Prod.fst)) ?_
    intro key field field' hfield hfield'
    have hkeys' : (Assoc.keys fields').Nodup :=
      (hmiddle.keys_perm.trans (hperm.map Prod.fst)).nodup_iff.1 hkeys
    rw [← Assoc.lookup_eq_of_perm hperm hkeys'] at hfield'
    exact hmiddle.of_lookup hfield hfield'

end Value.Reordered

end Lexicon
