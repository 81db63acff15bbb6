import Lexicon.Document.Structure
import Lexicon.Proofs.Defaults.Fill

namespace Lexicon

open Lexicon.Outcome

/-!
# Defaults of parameters

No parameter is an object by its descriptor, so filling in the defaults of parameters never goes
into a value, and never follows a reference.  All it does is to add entries.

* `AreDefaults properties fields added` — the entries to be added to `fields`, as far as some
  properties go: `AreDefaults.skip` and `AreDefaults.insert` go one property further;
* `Filled` — a value with its defaults added;
* `exists_fill_of_describesParameter` — filling succeeds, and adds the defaults.
-/

/-- Entries are the defaults for some fields: each of them is the default of a declared property
    that is absent, and no such property is without its entry. -/
structure AreDefaults (properties : List (String × Descriptor))
    (fields added : List (String × Value)) : Prop where
  differ : (Assoc.keys added).Nodup
  declared : ∀ name value, (name, value) ∈ added → name ∉ Assoc.keys fields ∧
    ∃ descriptor, (name, descriptor) ∈ properties ∧ descriptor.default? = some value
  complete : ∀ name descriptor, (name, descriptor) ∈ properties → name ∉ Assoc.keys fields →
    descriptor.default?.isSome → name ∈ Assoc.keys added

namespace AreDefaults

variable {done : List (String × Descriptor)} {fields added : List (String × Value)} {name : String}
  {descriptor : Descriptor}

/-- Where nothing is declared, there are no defaults. -/
theorem nil : AreDefaults [] fields [] where
  differ := List.nodup_nil
  declared := fun _ _ h => (List.not_mem_nil h).elim
  complete := fun _ _ h => (List.not_mem_nil h).elim

/-- A property that is there, or that has no default, adds nothing. -/
theorem skip (h : AreDefaults done fields added)
    (hskip : name ∈ Assoc.keys fields ∨ descriptor.default? = none) :
    AreDefaults (done ++ [(name, descriptor)]) fields added where
  differ := h.differ
  declared := fun other value hmem => by
    obtain ⟨habsent, d, hd, hdefault⟩ := h.declared other value hmem
    exact ⟨habsent, d, List.mem_append_left _ hd, hdefault⟩
  complete := fun other d hmem habsent hdefault => by
    rcases List.mem_append.1 hmem with hmem | hmem
    · exact h.complete other d hmem habsent hdefault
    · cases List.mem_singleton.1 hmem
      rcases hskip with hthere | hnone
      · exact absurd hthere habsent
      · rw [hnone] at hdefault
        cases hdefault

/-- A property that is absent adds its default. -/
theorem insert (h : AreDefaults done fields added) (habsent : name ∉ Assoc.keys fields)
    {value : Value} (hdefault : descriptor.default? = some value) :
    AreDefaults (done ++ [(name, descriptor)]) fields (Assoc.insert added name value) where
  differ := Assoc.nodup_keys_insert h.differ
  declared := fun other v hmem => by
    rcases Assoc.mem_of_mem_insert hmem with hnew | hold
    · cases hnew
      exact ⟨habsent, descriptor, List.mem_append_right _ List.mem_cons_self, hdefault⟩
    · obtain ⟨hother, d, hd, hv⟩ := h.declared other v hold
      exact ⟨hother, d, List.mem_append_left _ hd, hv⟩
  complete := fun other d hmem hother hsome => by
    rw [Assoc.mem_keys_insert]
    rcases List.mem_append.1 hmem with hmem | hmem
    · exact .inr (h.complete other d hmem hother hsome)
    · cases List.mem_singleton.1 hmem
      exact .inl rfl

end AreDefaults

/-- A value with its defaults added, behind all that is there; only an object has any. -/
inductive Filled (properties : List (String × Descriptor)) : Value → Value → Prop where
  | object {fields added} : AreDefaults properties fields added →
      Filled properties (.object fields) (.object (fields ++ added))
  | plain {value} : value.object? = none → Filled properties value value

namespace Registry

variable {registry : Registry} {base : String} {path : Path} {fields : List (String × Value)}

/-- A parameter is not an object by its descriptor, nor is it by a reference. -/
theorem followRefs_of_describesParameter {descriptor : Descriptor} {hops : Nat}
    (h : descriptor.describesParameter) :
    registry.followRefs base descriptor path hops = .ok (base, descriptor) ∧
      descriptor.kind ≠ .object := by
  refine ⟨followRefs_of_not_ref ?_, ?_⟩ <;>
    cases descriptor <;> simp_all [Descriptor.describesParameter, Descriptor.kind,
      Kind.isParamPrimitive]

/-- A parameter that is there stays as it is, whatever it is. -/
theorem fillProperty_of_describesParameter {name : String} {descriptor : Descriptor}
    (h : descriptor.describesParameter) (hthere : name ∈ Assoc.keys fields) :
    registry.fillProperty base name descriptor fields path = .ok none := by
  obtain ⟨field, hfield⟩ := Assoc.mem_keys_iff.1 hthere
  cases field with
  | object inner =>
    obtain ⟨htarget, hkind⟩ := followRefs_of_describesParameter h
    exact (fillProperty_object_eq_ok hfield).2 ⟨base, descriptor, htarget, .inr ⟨hkind, rfl⟩⟩
  | _ => exact fillProperty_of_plain hfield rfl

/-- The entries of parameters are filled with their defaults.  By induction on the properties that
    are left, the entries added so far being the defaults of those that are done. -/
theorem exists_fillProperties_of_describesParameter {done rest : List (String × Descriptor)}
    {added : List (String × Value)}
    (h : ∀ name descriptor, (name, descriptor) ∈ rest → descriptor.describesParameter)
    (hdone : AreDefaults done fields added) :
    ∃ result, AreDefaults (done ++ rest) fields result ∧
      registry.fillProperties base rest fields path (fields ++ added) = .ok (fields ++ result) := by
  induction rest generalizing done added with
  | nil => exact ⟨added, by rwa [List.append_nil], by rw [fillProperties]⟩
  | cons property rest ih =>
    obtain ⟨name, descriptor⟩ := property
    have hrest := fun other d hmem => h other d (List.mem_cons_of_mem _ hmem)
    rw [fillProperties_cons, List.append_cons]
    -- A parameter that is there is left alone, since no reference leads from it to an object.
    by_cases hthere : name ∈ Assoc.keys fields
    · rw [fillProperty_of_describesParameter (h name descriptor List.mem_cons_self) hthere]
      exact ih hrest (hdone.skip (.inl hthere))
    · rw [fillProperty_of_none (Assoc.lookup_eq_none_iff.2 hthere)]
      cases hdefault : descriptor.default? with
      | none => exact ih hrest (hdone.skip (.inr hdefault))
      | some value =>
        rw [ok_bind, Assoc.update, Assoc.insert_append_of_not_mem hthere]
        exact ih hrest (hdone.insert hthere hdefault)

/-- **Parameters can always be filled**, whether they are valid or not, and this adds their
    defaults. -/
theorem exists_fill_of_describesParameter {properties : List (String × Descriptor)}
    (h : ∀ name descriptor, (name, descriptor) ∈ properties → descriptor.describesParameter)
    (value : Value) (label : Path) :
    ∃ filled, registry.fill base properties value label = .ok filled ∧
      Filled properties value filled := by
  cases value with
  | object fields =>
    obtain ⟨added, hadded, hresult⟩ : ∃ added, AreDefaults properties fields added ∧
        registry.fillProperties base properties fields label (fields ++ []) =
          .ok (fields ++ added) := exists_fillProperties_of_describesParameter h .nil
    rw [List.append_nil] at hresult
    exact ⟨_, map_eq_ok.2 ⟨_, hresult, rfl⟩, .object hadded⟩
  | _ => exact ⟨_, rfl, .plain rfl⟩

end Registry

end Lexicon
