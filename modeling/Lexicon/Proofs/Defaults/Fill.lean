import Lexicon.Defaults
import Lexicon.Proofs.Conformance.Roles

namespace Lexicon

open Lexicon.Outcome

/-!
# What filling comes to

One law for each function that fills in defaults, and what the walk along references has to do with
the validator's walk.

* `followRefs_ref`, `fillProperty_of_none`, `fillProperty_object_eq_ok`, … — filling as equations;
* `Treats`, `fillProperty_eq_ok` — all that filling can do with a property;
* `exists_fillProperties_eq_ok` — the entries of an object are filled iff each property is;
* `fillProperty_eq_error`, `fillProperties_eq_error` — where filling fails;
* `FilledAs`, `filledAs_of_fillProperties` — what look-up finds in the filled entries;
* `exists_followRefs_of_checkValue`, `checkValue_eq_of_followRefs` — a value that passes a check
  leads along the references to a descriptor, and to the same one as the check.
-/

/-- The entries with `key` set to a new value, if there is one. -/
def Assoc.update {α : Type} (entries : List (String × α)) (key : String) :
    Option α → List (String × α)
  | some value => Assoc.insert entries key value
  | none => entries

theorem Assoc.lookup_update_self {α : Type} (entries : List (String × α)) (key : String)
    (value : Option α) : (update entries key value).lookup key = value.or (entries.lookup key) := by
  cases value with
  | none => rfl
  | some value => exact lookup_insert_self entries key value

/-- An update leaves what the other keys hold as it is. -/
theorem Assoc.lookup_update_of_ne {α : Type} {key other : String} (hne : other ≠ key)
    (entries : List (String × α)) (value : Option α) :
    (update entries key value).lookup other = entries.lookup other := by
  cases value with
  | none => rfl
  | some value => exact lookup_insert_of_ne hne entries value

/-- An update of a key that is there adds no key. -/
theorem Assoc.keys_update_of_mem {α : Type} {entries : List (String × α)} {key : String}
    (h : key ∈ keys entries) (value : Option α) :
    keys (update entries key value) = keys entries := by
  cases value with
  | none => rfl
  | some value => exact keys_insert_of_mem h value

theorem Descriptor.kind_eq_object {descriptor : Descriptor} :
    descriptor.kind = .object ↔ ∃ schema, descriptor = .object schema := by
  cases descriptor <;> simp [Descriptor.kind]

namespace Registry

variable {registry : Registry} {base : String} {path : Path} {hops : Nat}

/-! ### References -/

/-- Following a reference takes one hop, to the definition that it names. -/
theorem followRefs_ref {description : Option String} {target : String}
    (hlt : hops < registry.settings.maxHops) :
    registry.followRefs base (.ref description target) path hops = (do
      let address ← Address.locate target (some base)
      let next ← registry.lookUp address
      registry.followRefs address.document next path (hops + 1)) := by
  rw [followRefs, if_pos hlt]

theorem followRefs_of_not_ref {descriptor : Descriptor} (h : descriptor.kind ≠ .ref) :
    registry.followRefs base descriptor path hops = .ok (base, descriptor) := by
  cases descriptor <;> first | exact absurd rfl h | simp only [followRefs]

/-! ### Properties -/

/-- An object inside is smaller than the entries around it. -/
theorem sizeOf_inner_lt {name : String} {fields inner : List (String × Value)}
    (h : fields.lookup name = some (.object inner)) : sizeOf inner < sizeOf fields := by
  have := sizeOf_lt_of_lookup h
  rw [Value.object.sizeOf_spec] at this
  omega

section Property

variable {name : String} {descriptor : Descriptor} {fields : List (String × Value)}

/-- An absent property gets its default, if it has one. -/
theorem fillProperty_of_none (h : fields.lookup name = none) :
    registry.fillProperty base name descriptor fields path = .ok descriptor.default? := by
  rw [fillProperty]
  split <;> simp_all

/-- A property that is an object is filled by what is at the end of the references. -/
theorem fillProperty_of_object {inner : List (String × Value)}
    (h : fields.lookup name = some (.object inner)) :
    registry.fillProperty base name descriptor fields path = (do
      match ← registry.followRefs base descriptor (path.child name) 0 with
      | (base, .object schema) =>
        let inner ← registry.fillProperties base schema.properties inner (path.child name) inner
        return some (.object inner)
      | _ => return none) := by
  rw [fillProperty]
  split
  · simp_all
  · rename_i heq
    rw [h] at heq
    cases heq
    rfl
  · simp_all

/-- A property that is an object is filled if the references lead to an object schema, and stays as
    it is if they lead elsewhere. -/
theorem fillProperty_object_eq_ok {inner : List (String × Value)} {value : Option Value}
    (h : fields.lookup name = some (.object inner)) :
    registry.fillProperty base name descriptor fields path = .ok value ↔
      ∃ base' target,
        registry.followRefs base descriptor (path.child name) 0 = .ok (base', target) ∧
        ((∃ schema filled, target = .object schema ∧
            registry.fillProperties base' schema.properties inner (path.child name) inner =
              .ok filled ∧ some (.object filled) = value) ∨
          target.kind ≠ .object ∧ none = value) := by
  rw [fillProperty_of_object h, bind_eq_ok, Prod.exists]
  refine exists_congr fun base' => exists_congr fun target => and_congr_right fun _ => ?_
  cases target with
  | object schema => simp [bind_eq_ok, Descriptor.kind]
  | _ => simp [Descriptor.kind]

/-- A value that is no object is left as it is. -/
theorem fillProperty_of_plain {field : Value} (h : fields.lookup name = some field)
    (hplain : field.object? = none) :
    registry.fillProperty base name descriptor fields path = .ok none := by
  rw [fillProperty]
  split
  · simp_all
  · rename_i heq
    rw [h] at heq
    cases heq
    cases hplain
  · rfl

/-- All that filling can do with a property: an absent one gets its default, an object is entered
    where the references lead to an object schema, and what is left stays. -/
inductive Treats (registry : Registry) (base name : String) (descriptor : Descriptor)
    (fields : List (String × Value)) (path : Path) : Option Value → Prop where
  | absent : fields.lookup name = none →
      Treats registry base name descriptor fields path descriptor.default?
  | entered {inner base' schema filled} :
      fields.lookup name = some (.object inner) →
      registry.followRefs base descriptor (path.child name) 0 = .ok (base', .object schema) →
      registry.fillProperties base' schema.properties inner (path.child name) inner = .ok filled →
      Treats registry base name descriptor fields path (some (.object filled))
  | elsewhere {inner target} :
      fields.lookup name = some (.object inner) →
      registry.followRefs base descriptor (path.child name) 0 = .ok target →
      target.2.kind ≠ .object → Treats registry base name descriptor fields path none
  | plain {field} :
      fields.lookup name = some field → field.object? = none →
      Treats registry base name descriptor fields path none

/-- Filling a property does what it can do with one, and nothing else. -/
theorem fillProperty_eq_ok {value : Option Value} :
    registry.fillProperty base name descriptor fields path = .ok value ↔
      Treats registry base name descriptor fields path value := by
  constructor
  · intro h
    cases hfield : fields.lookup name with
    | none =>
      rw [fillProperty_of_none hfield] at h
      cases h
      exact .absent hfield
    | some field =>
      cases field with
      | object inner =>
        obtain ⟨base', target, htarget, ⟨schema, filled, rfl, hfilled, rfl⟩ | ⟨hkind, rfl⟩⟩ :=
          (fillProperty_object_eq_ok hfield).1 h
        · exact .entered hfield htarget hfilled
        · exact .elsewhere hfield htarget hkind
      | _ =>
        rw [fillProperty_of_plain hfield rfl] at h
        cases h
        exact .plain hfield rfl
  · rintro (hfield | ⟨hfield, htarget, hfilled⟩ | ⟨hfield, htarget, hkind⟩ | ⟨hfield, hplain⟩)
    · exact fillProperty_of_none hfield
    · exact (fillProperty_object_eq_ok hfield).2 ⟨_, _, htarget, .inl ⟨_, _, rfl, hfilled, rfl⟩⟩
    · exact (fillProperty_object_eq_ok hfield).2 ⟨_, _, htarget, .inr ⟨hkind, rfl⟩⟩
    · exact fillProperty_of_plain hfield hplain

/-- Filling fails on objects only: along the references, or within the object. -/
theorem fillProperty_eq_error {failure : Failure}
    (h : registry.fillProperty base name descriptor fields path = .error failure) :
    ∃ inner, fields.lookup name = some (.object inner) ∧
      (registry.followRefs base descriptor (path.child name) 0 = .error failure ∨
        ∃ base' schema,
          registry.followRefs base descriptor (path.child name) 0 = .ok (base', .object schema) ∧
          registry.fillProperties base' schema.properties inner (path.child name) inner =
            .error failure) := by
  cases hfield : fields.lookup name with
  | none =>
    rw [fillProperty_of_none hfield] at h
    cases h
  | some field =>
    cases field with
    -- Only what is an object can be entered, and so fail.
    | object inner =>
      refine ⟨inner, rfl, ?_⟩
      rw [fillProperty_of_object hfield] at h
      rcases bind_eq_error.1 h with h | ⟨⟨base', target⟩, htarget, h⟩
      · exact .inl h
      · cases target with
        | object schema =>
          rcases bind_eq_error.1 h with h | ⟨_, -, h⟩
          · exact .inr ⟨base', schema, htarget, h⟩
          · cases h
        | _ => cases h
    | _ =>
      rw [fillProperty_of_plain hfield rfl] at h
      cases h

end Property

/-- The properties are filled one after the other. -/
theorem fillProperties_cons (name : String) (descriptor : Descriptor)
    (rest : List (String × Descriptor)) (fields filled : List (String × Value)) :
    registry.fillProperties base ((name, descriptor) :: rest) fields path filled = (do
      let value ← registry.fillProperty base name descriptor fields path
      registry.fillProperties base rest fields path (Assoc.update filled name value)) := by
  rw [fillProperties]
  congr 1
  funext value
  cases value <;> rfl

/-- The entries of an object are filled iff each property is. -/
theorem exists_fillProperties_eq_ok {properties : List (String × Descriptor)}
    {fields filled : List (String × Value)} :
    (∃ result, registry.fillProperties base properties fields path filled = .ok result) ↔
      ∀ name descriptor, (name, descriptor) ∈ properties →
        ∃ value, registry.fillProperty base name descriptor fields path = .ok value := by
  induction properties generalizing filled with
  | nil => simp [fillProperties]
  | cons property rest ih =>
    obtain ⟨name, descriptor⟩ := property
    simp only [fillProperties_cons, bind_eq_ok]
    constructor
    · rintro ⟨result, value, hvalue, hrest⟩ other d hmem
      rcases List.mem_cons.1 hmem with heq | htail
      · cases heq
        exact ⟨value, hvalue⟩
      · exact ih.1 ⟨result, hrest⟩ other d htail
    · intro h
      obtain ⟨value, hvalue⟩ := h name descriptor List.mem_cons_self
      obtain ⟨result, hrest⟩ := ih.2 fun other d hmem => h other d (List.mem_cons_of_mem _ hmem)
      exact ⟨result, value, hvalue, hrest⟩

/-- Where the entries of an object are not filled, some property is not. -/
theorem fillProperties_eq_error {properties : List (String × Descriptor)}
    {fields filled : List (String × Value)} {failure : Failure}
    (h : registry.fillProperties base properties fields path filled = .error failure) :
    ∃ name descriptor, (name, descriptor) ∈ properties ∧
      registry.fillProperty base name descriptor fields path = .error failure := by
  induction properties generalizing filled with
  | nil =>
    rw [fillProperties] at h
    cases h
  | cons property rest ih =>
    obtain ⟨name, descriptor⟩ := property
    rw [fillProperties_cons] at h
    rcases bind_eq_error.1 h with h | ⟨value, -, h⟩
    · exact ⟨name, descriptor, List.mem_cons_self, h⟩
    · obtain ⟨other, d, hmem, h⟩ := ih h
      exact ⟨other, d, List.mem_cons_of_mem _ hmem, h⟩

/-- What look-up finds in filled entries: the new value of a declared property, where it has one,
    and otherwise what was there. -/
structure FilledAs (registry : Registry) (base : String) (properties : List (String × Descriptor))
    (fields : List (String × Value)) (path : Path) (filled result : List (String × Value)) :
    Prop where
  declared : ∀ name descriptor, (name, descriptor) ∈ properties →
    ∃ value, registry.fillProperty base name descriptor fields path = .ok value ∧
      result.lookup name = value.or (filled.lookup name)
  other : ∀ name, name ∉ Assoc.keys properties → result.lookup name = filled.lookup name

/-- Where the names of the properties differ from each other, filling changes each of them by
    itself. -/
theorem filledAs_of_fillProperties {properties : List (String × Descriptor)}
    {fields filled result : List (String × Value)} (hkeys : (Assoc.keys properties).Nodup)
    (h : registry.fillProperties base properties fields path filled = .ok result) :
    FilledAs registry base properties fields path filled result := by
  induction properties generalizing filled with
  | nil =>
    rw [fillProperties] at h
    cases h
    refine ⟨fun _ _ hmem => ?_, fun _ _ => rfl⟩
    cases hmem
  | cons property rest ih =>
    obtain ⟨name, descriptor⟩ := property
    obtain ⟨hname, hrest⟩ := List.nodup_cons.1 hkeys
    rw [fillProperties_cons] at h
    obtain ⟨value, hvalue, h⟩ := bind_eq_ok.1 h
    obtain ⟨ihdeclared, ihother⟩ := ih hrest h
    refine ⟨fun other d hmem => ?_, fun other hother => ?_⟩
    · rcases List.mem_cons.1 hmem with heq | htail
      · cases heq
        -- The properties that follow have other names, and leave the new value alone.
        exact ⟨value, hvalue, (ihother name hname).trans (Assoc.lookup_update_self _ _ _)⟩
      · have hne : other ≠ name := by
          rintro rfl
          exact hname (List.mem_map.2 ⟨_, htail, rfl⟩)
        obtain ⟨v, hv, hlookup⟩ := ihdeclared other d htail
        exact ⟨v, hv, by rw [hlookup, Assoc.lookup_update_of_ne hne]⟩
    · obtain ⟨hne, hother⟩ := not_or.1 (mt List.mem_cons.2 hother)
      rw [ihother other hother, Assoc.lookup_update_of_ne hne]

/-- Filled entries keep all keys. -/
theorem FilledAs.mem_keys {properties : List (String × Descriptor)}
    {fields filled result : List (String × Value)}
    (h : FilledAs registry base properties fields path filled result) {name : String}
    (hname : name ∈ Assoc.keys filled) : name ∈ Assoc.keys result := by
  obtain ⟨old, hold⟩ := Assoc.mem_keys_iff.1 hname
  rw [Assoc.mem_keys_iff]
  by_cases hdeclared : name ∈ Assoc.keys properties
  · obtain ⟨descriptor, hmem⟩ := Assoc.mem_keys_iff.1 hdeclared
    obtain ⟨value, -, hlookup⟩ := h.declared name descriptor (Assoc.mem_of_lookup hmem)
    rw [hlookup, hold]
    cases value <;> simp
  · exact ⟨old, (h.other name hdeclared).trans hold⟩

/-! ### The two walks along references -/

/-- A value that passes a check leads along the references to their end. -/
theorem exists_followRefs_of_checkValue {descriptor : Descriptor} {value : Value} {path' : Path}
    (h : registry.checkValue base descriptor value path' hops = .ok ()) (path : Path) :
    ∃ target, registry.followRefs base descriptor path hops = .ok target := by
  induction value, hops using value_hops_induction registry.settings.maxHops
    generalizing base descriptor with
  | step value hops _ ihhops =>
    -- The check follows the same references under the same limit.
    by_cases href : descriptor.kind = .ref
    · cases descriptor <;> cases href
      obtain ⟨address, hparse, h⟩ := checkRef_eq_ok.1 h
      obtain ⟨hlt, next, hresolve, h⟩ := checkTarget_eq_ok.1 h
      obtain ⟨target, htarget⟩ := ihhops hlt h
      refine ⟨target, ?_⟩
      rw [followRefs_ref hlt, Address.locate_eq_ok.2 hparse, ok_bind, lookUp_eq_ok.2 hresolve,
        ok_bind, htarget]
    · exact ⟨_, followRefs_of_not_ref href⟩

/-- A check of any value goes to the same descriptor as the walk along the references. -/
theorem checkValue_eq_of_followRefs {descriptor : Descriptor} {target : String × Descriptor}
    (h : registry.followRefs base descriptor path hops = .ok target) :
    ∃ hops', ∀ value path', registry.checkValue base descriptor value path' hops =
      registry.checkValue target.1 target.2 value path' hops' := by
  fun_induction followRefs registry base descriptor path hops with
  | case1 base hops description target hlt ih =>
    obtain ⟨address, hlocate, h⟩ := bind_eq_ok.1 h
    obtain ⟨next, hlookUp, h⟩ := bind_eq_ok.1 h
    -- Both walks count hops alike, so the check has room for this one too.
    obtain ⟨hops', hcheck⟩ := ih address next h
    refine ⟨hops', fun value path' => ?_⟩
    rw [checkValue, hlocate, ok_bind, checkTarget, if_pos hlt, hlookUp, ok_bind, hcheck]
  | case2 => cases h
  | case3 base hops descriptor => cases h; exact ⟨hops, fun _ _ => rfl⟩

/-- What holds of a descriptor and of all definitions holds of the end of the references. -/
theorem of_followRefs {P : Descriptor → Prop} {descriptor : Descriptor}
    {target : String × Descriptor} (hstart : P descriptor)
    (hdefinition : ∀ address definition, registry.resolve address = .ok definition → P definition)
    (h : registry.followRefs base descriptor path hops = .ok target) : P target.2 := by
  fun_induction followRefs registry base descriptor path hops with
  | case1 base hops description target hlt ih =>
    obtain ⟨address, -, h⟩ := bind_eq_ok.1 h
    obtain ⟨next, hlookUp, h⟩ := bind_eq_ok.1 h
    exact ih address next (hdefinition address next (lookUp_eq_ok.1 hlookUp)) h
  | case2 => cases h
  | case3 => cases h; exact hstart

/-! ### Ways in -/

theorem fill_object (properties : List (String × Descriptor)) (fields : List (String × Value))
    (label : Path) :
    registry.fill base properties (.object fields) label =
      (registry.fillProperties base properties fields label fields).map Value.object := rfl

/-- A value that is no object is filled as it is. -/
theorem fill_of_plain {value : Value} (h : value.object? = none)
    (properties : List (String × Descriptor)) (label : Path) :
    registry.fill base properties value label = .ok value := by
  cases value <;> first | rfl | cases h

/-- A value that is no object is filled as it is, and an object by its properties. -/
theorem fill_eq_ok {properties : List (String × Descriptor)} {value filled : Value} {label : Path} :
    registry.fill base properties value label = .ok filled ↔
      value.object? = none ∧ value = filled ∨
      ∃ fields result, value = .object fields ∧ .object result = filled ∧
        registry.fillProperties base properties fields label fields = .ok result := by
  cases value with
  | object fields => simp [fill_object, map_eq_ok, Value.object?, and_comm]
  | _ =>
    rw [fill_of_plain rfl]
    simp [Value.object?]

/-- A record is filled by the properties of the schema that is found for it. -/
theorem fillRecord_eq {reference : String} {value : Value} {address : Address}
    {schema : ObjectSchema} (h : registry.recordAt reference = .ok (address, schema)) :
    registry.fillRecord reference value =
      registry.fill address.document schema.properties value "Record" := by
  rw [fillRecord, h]; rfl

/-- A call without parameters leaves the value as it is. -/
theorem fillParams_of_none {reference : String} {value : Value} {address : Address}
    (h : registry.parametersAt reference = .ok (address, none)) :
    registry.fillParams reference value = .ok value := by
  rw [fillParams, h]; rfl

/-- Parameters are filled by the properties of the schema that is found for them. -/
theorem fillParams_of_some {reference : String} {value : Value} {address : Address}
    {schema : ParamsSchema} (h : registry.parametersAt reference = .ok (address, some schema)) :
    registry.fillParams reference value =
      registry.fill address.document schema.properties value "Params" := by
  rw [fillParams, h]; rfl

end Registry

end Lexicon
