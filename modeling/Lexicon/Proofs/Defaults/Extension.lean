import Lexicon.Proofs.Conformance.Hops
import Lexicon.Proofs.Defaults.Totality
import Lexicon.Proofs.Descriptor.Parts

namespace Lexicon

open Lexicon.Outcome

/-!
# What filling adds, and what it leaves alone

A filled object has the entries that it had, and the missing defaults behind them.  Its entries are
what they were, but for the objects that are entered: of these the same is true again.

* `missingDefaults`, `DeclaresDefault` — the defaults of the declared properties that are absent;
* `Enters` — the references of a property lead to an object schema;
* `Extended` — an object and what filling makes of it, at every depth;
* `keys_fillProperties` — the keys of filled entries;
* `extended_of_fillProperties` — filled entries are an extension;
* `filling_extends` — so are filled records and filled parameters.
-/

/-- The defaults of the declared properties that are absent, in declared order. -/
def missingDefaults (properties : List (String × Descriptor)) (fields : List (String × Value)) :
    List (String × Value) :=
  properties.filterMap fun property =>
    if property.1 ∈ Assoc.keys fields then none
    else property.2.default?.map fun value => (property.1, value)

/-- A string, an integer or a boolean that is described with a default. -/
inductive Descriptor.DeclaresDefault : Descriptor → Value → Prop where
  | string {description format rules s} : rules.default = some s →
      DeclaresDefault (.string description format rules) (.string s)
  | integer {description rules n} : rules.default = some n →
      DeclaresDefault (.integer description rules) (.integer n)
  | boolean {description rules b} : rules.default = some b →
      DeclaresDefault (.boolean description rules) (.boolean b)

/-- The default that is read off a descriptor is the one that it declares. -/
theorem Descriptor.default?_eq_some {descriptor : Descriptor} {value : Value} :
    descriptor.default? = some value ↔ descriptor.DeclaresDefault value := by
  constructor
  · intro h
    cases descriptor with
    | string | integer | boolean =>
      obtain ⟨_, hdefault, rfl⟩ := Option.map_eq_some_iff.1 h
      constructor
      exact hdefault
    | _ => cases h
  · rintro (hdefault | hdefault | hdefault) <;> exact Option.map_eq_some_iff.2 ⟨_, hdefault, rfl⟩

section Missing

variable {name : String} {descriptor : Descriptor} {properties rest : List (String × Descriptor)}
  {fields : List (String × Value)}

/-- Exactly those properties are filled in that are absent and declare a default themselves. -/
theorem mem_missingDefaults {value : Value} :
    (name, value) ∈ missingDefaults properties fields ↔
      fields.lookup name = none ∧
        ∃ descriptor, (name, descriptor) ∈ properties ∧ descriptor.DeclaresDefault value := by
  simp only [missingDefaults, List.mem_filterMap, Prod.exists, Assoc.lookup_eq_none_iff,
    Option.ite_none_left_eq_some, Option.map_eq_some_iff, Prod.mk.injEq,
    Descriptor.default?_eq_some]
  constructor
  · rintro ⟨_, descriptor, hmem, hname, _, hdefault, rfl, rfl⟩
    exact ⟨hname, descriptor, hmem, hdefault⟩
  · rintro ⟨hname, descriptor, hmem, hdefault⟩
    exact ⟨name, descriptor, hmem, hname, value, hdefault, rfl, rfl⟩

/-- A property that is there brings no default. -/
theorem missingDefaults_cons_of_mem (h : name ∈ Assoc.keys fields) :
    missingDefaults ((name, descriptor) :: rest) fields = missingDefaults rest fields := by
  simp [missingDefaults, h]

/-- The default of an absent property comes before those of the properties behind it. -/
theorem missingDefaults_cons_of_some {value : Value} (h : name ∉ Assoc.keys fields)
    (hdefault : descriptor.default? = some value) :
    missingDefaults ((name, descriptor) :: rest) fields =
      (name, value) :: missingDefaults rest fields := by
  simp [missingDefaults, h, hdefault]

theorem missingDefaults_cons_of_none (hdefault : descriptor.default? = none) :
    missingDefaults ((name, descriptor) :: rest) fields = missingDefaults rest fields := by
  simp [missingDefaults, hdefault]

/-- What is filled in comes in declared order. -/
theorem keys_missingDefaults_sublist (properties : List (String × Descriptor))
    (fields : List (String × Value)) :
    (Assoc.keys (missingDefaults properties fields)).Sublist (Assoc.keys properties) := by
  induction properties with
  | nil => exact List.nil_sublist _
  | cons property rest ih =>
    obtain ⟨name, descriptor⟩ := property
    by_cases hthere : name ∈ Assoc.keys fields
    · rw [missingDefaults_cons_of_mem hthere]
      exact ih.cons name
    · cases hdefault : descriptor.default? with
      | none =>
        rw [missingDefaults_cons_of_none hdefault]
        exact ih.cons name
      | some value =>
        rw [missingDefaults_cons_of_some hthere hdefault]
        exact ih.cons_cons name

end Missing

namespace Registry

variable {registry : Registry} {base base' name : String} {path : Path}
  {properties : List (String × Descriptor)} {schema : ObjectSchema} {descriptor : Descriptor}

/-- The property is declared, and references lead from its descriptor to an object schema. -/
def Enters (registry : Registry) (base : String) (properties : List (String × Descriptor))
    (name base' : String) (schema : ObjectSchema) : Prop :=
  ∃ descriptor k, properties.lookup name = some descriptor ∧
    Steps registry.RefHop k (base, descriptor) (base', .object schema)

/-- The references of a property lead to one end. -/
theorem Enters.eq_of_steps (h : registry.Enters base properties name base' schema)
    (hlookup : properties.lookup name = some descriptor) {k : Nat} {place : String × Descriptor}
    (hsteps : Steps registry.RefHop k (base, descriptor) place) (hend : place.2.kind ≠ .ref) :
    place = (base', .object schema) := by
  obtain ⟨_, _, hlookup', hsteps'⟩ := h
  cases hlookup.symm.trans hlookup'
  exact Steps.end_unique (fun _ _ _ hhop hhop' => hhop.unique hhop') hsteps hsteps'
    (not_refHop_of_kind hend) (not_refHop_of_kind nofun)

/-- The walk of a filling comes to the schema that a property leads to. -/
theorem Enters.eq_of_followRefs (h : registry.Enters base properties name base' schema)
    (hlookup : properties.lookup name = some descriptor) {target : String × Descriptor}
    (htarget : registry.followRefs base descriptor path 0 = .ok target) :
    target = (base', .object schema) := by
  obtain ⟨⟨_, hsteps⟩, hend⟩ := exists_steps_of_followRefs htarget
  exact h.eq_of_steps hlookup hsteps hend

/-- Filling enters what the references lead to. -/
theorem enters_of_followRefs (hlookup : properties.lookup name = some descriptor)
    (h : registry.followRefs base descriptor path 0 = .ok (base', .object schema)) :
    registry.Enters base properties name base' schema :=
  have ⟨⟨k, hsteps⟩, _⟩ := exists_steps_of_followRefs h
  ⟨descriptor, k, hlookup, hsteps⟩

/-- **An object and what filling makes of it.**  All keys stay where they are, and the missing
    defaults come behind them.  What is under a key stays as well, unless it is an object whose
    property leads to an object schema; this is an object again, and extended by that schema. -/
inductive Extended (registry : Registry) : String → List (String × Descriptor) →
    List (String × Value) → List (String × Value) → Prop where
  | mk {base properties fields result}
      (keys : Assoc.keys result =
        Assoc.keys fields ++ Assoc.keys (missingDefaults properties fields))
      (added : ∀ name value, (name, value) ∈ missingDefaults properties fields →
        result.lookup name = some value)
      (kept : ∀ name value, fields.lookup name = some value →
        (∀ inner base' schema, value = .object inner →
          ¬ registry.Enters base properties name base' schema) →
        result.lookup name = some value)
      (object : ∀ name inner base' schema, fields.lookup name = some (.object inner) →
        registry.Enters base properties name base' schema →
        ∃ filled, result.lookup name = some (.object filled))
      (entered : ∀ name inner base' schema filled, fields.lookup name = some (.object inner) →
        registry.Enters base properties name base' schema →
        result.lookup name = some (.object filled) →
        Extended registry base' schema.properties inner filled) :
      Extended registry base properties fields result

/-- A value and what filling makes of it: only objects change. -/
inductive ValueExtended (registry : Registry) (base : String)
    (properties : List (String × Descriptor)) : Value → Value → Prop where
  | plain {value} : value.object? = none → ValueExtended registry base properties value value
  | object {fields result} : Extended registry base properties fields result →
      ValueExtended registry base properties (.object fields) (.object result)

/-- Under a key stays what no reference leads into: what is no object, what is not declared, and
    what is described in the end by something else than an object schema. -/
theorem Extended.lookup_eq {fields result : List (String × Value)}
    (h : registry.Extended base properties fields result) {value : Value}
    (hvalue : fields.lookup name = some value)
    (hout : value.object? = none ∨ properties.lookup name = none ∨
      ∃ descriptor k place, properties.lookup name = some descriptor ∧
        Steps registry.RefHop k (base, descriptor) place ∧
        place.2.kind ≠ .ref ∧ place.2.kind ≠ .object) :
    result.lookup name = some value := by
  obtain ⟨-, -, kept, -, -⟩ := h
  refine kept name value hvalue ?_
  rintro inner base' schema rfl henters
  -- In each case the value is not one that filling enters.
  rcases hout with hplain | hundeclared | ⟨descriptor, k, place, hlookup, hsteps, hend, hkind⟩
  · cases hplain
  · obtain ⟨descriptor, k, hlookup, -⟩ := henters
    cases hundeclared.symm.trans hlookup
  · cases henters.eq_of_steps hlookup hsteps hend
    exact hkind rfl

/-! ### Filled entries -/

/-- **The keys of filled entries.**  By induction on the properties: those that are there keep their
    place, and those that are not get behind what has been filled in so far. -/
theorem keys_fillProperties {fields filled result : List (String × Value)}
    (hkeys : (Assoc.keys properties).Nodup) (hsub : Assoc.keys fields ⊆ Assoc.keys filled)
    (hfresh : ∀ name ∈ Assoc.keys properties, name ∈ Assoc.keys filled → name ∈ Assoc.keys fields)
    (h : registry.fillProperties base properties fields path filled = .ok result) :
    Assoc.keys result = Assoc.keys filled ++ Assoc.keys (missingDefaults properties fields) := by
  induction properties generalizing filled with
  | nil =>
    rw [fillProperties] at h
    cases h
    simp [missingDefaults]
  | cons property rest ih =>
    obtain ⟨name, descriptor⟩ := property
    obtain ⟨hname, hrest⟩ := List.nodup_cons.1 hkeys
    rw [fillProperties_cons] at h
    obtain ⟨value, hvalue, h⟩ := bind_eq_ok.1 h
    by_cases hthere : name ∈ Assoc.keys fields
    · -- The property is there, and its key keeps its place, whatever becomes of its value.
      have hupdate := Assoc.keys_update_of_mem (hsub hthere) value
      rw [missingDefaults_cons_of_mem hthere, ← hupdate]
      refine ih hrest (by rwa [hupdate]) (fun other hother => ?_) h
      rw [hupdate]
      exact hfresh other (List.mem_cons_of_mem _ hother)
    · -- The property is absent, and its default goes to the end, if it has one.
      rw [fillProperty_of_none (Assoc.lookup_eq_none_iff.2 hthere)] at hvalue
      cases hvalue
      cases hdefault : descriptor.default? with
      | none =>
        rw [hdefault] at h
        rw [missingDefaults_cons_of_none hdefault]
        exact ih hrest hsub (fun other hother => hfresh other (List.mem_cons_of_mem _ hother)) h
      | some value =>
        have hnew : name ∉ Assoc.keys filled := fun hmem =>
          hthere (hfresh name List.mem_cons_self hmem)
        have hinsert := Assoc.keys_insert_of_not_mem hnew value
        rw [hdefault] at h
        rw [missingDefaults_cons_of_some hthere hdefault, Assoc.keys_cons,
          List.append_cons, ← hinsert]
        refine ih hrest (fun other hother => ?_) (fun other hother hmem => ?_) h
        · exact Assoc.mem_keys_insert.2 (.inr (hsub hother))
        · -- The default that has just come in is that of no later property.
          rcases Assoc.mem_keys_insert.1 hmem with rfl | hmem
          · exact absurd hother hname
          · exact hfresh other (List.mem_cons_of_mem _ hother) hmem

/-- **Filled entries are an extension.**  By induction on the object.  What becomes of a property is
    read off from how filling treats it; the references of a property lead to one end, which is
    where filling goes. -/
theorem extended_of_fillProperties (hnames : registry.NamesDiffer) {definition : Descriptor}
    (hdefinition : definition.NamesDiffer) {fields result : List (String × Value)}
    (h : registry.fillProperties base definition.declared fields path fields = .ok result) :
    registry.Extended base definition.declared fields result := by
  induction hsize : sizeOf fields using Nat.strong_induction_on
    generalizing base definition fields result path with
  | _ size ih =>
    have hfilled := filledAs_of_fillProperties hdefinition.nodup h
    have hkeys := keys_fillProperties hdefinition.nodup (List.Subset.refl _)
      (fun _ _ hmem => hmem) h
    -- An object that is entered has been filled by the schema that its property leads to.
    have hentered {name : String} {inner : List (String × Value)} {base' : String}
        {schema : ObjectSchema} (hfield : fields.lookup name = some (.object inner))
        (henters : registry.Enters base definition.declared name base' schema) :
        ∃ filled, result.lookup name = some (.object filled) ∧
          registry.Extended base' schema.properties inner filled := by
      obtain ⟨descriptor, _, hlookup, _⟩ := id henters
      have hmem := Assoc.mem_of_lookup hlookup
      obtain ⟨value, hvalue, hresult⟩ := hfilled.declared name descriptor hmem
      cases fillProperty_eq_ok.1 hvalue with
      | absent hnone => cases hnone.symm.trans hfield
      | plain hother hplain =>
        cases hother.symm.trans hfield
        cases hplain
      | elsewhere _ htarget hkind =>
        cases henters.eq_of_followRefs hlookup htarget
        exact absurd rfl hkind
      | entered hother htarget hinner =>
        cases hother.symm.trans hfield
        cases henters.eq_of_followRefs hlookup htarget
        have hschema := of_followRefs (hdefinition.of_mem_declared hmem)
          (fun _ _ hresolve => hnames.of_resolve hresolve) htarget
        exact ⟨_, hresult, ih _ (hsize ▸ sizeOf_inner_lt hfield) hschema hinner rfl⟩
    refine .mk hkeys (fun name value hmem => ?_) (fun name value hfield hout => ?_)
      (fun name inner base' schema hfield henters => ?_)
      (fun name inner base' schema filled hfield henters hresult => ?_)
    · obtain ⟨hnone, descriptor, hmem, hdefault⟩ := mem_missingDefaults.1 hmem
      obtain ⟨new, hnew, hresult⟩ := hfilled.declared name descriptor hmem
      rw [fillProperty_of_none hnone, Descriptor.default?_eq_some.2 hdefault] at hnew
      cases hnew
      exact hresult
    · by_cases hdeclared : name ∈ Assoc.keys definition.declared
      · obtain ⟨descriptor, hlookup⟩ := Assoc.mem_keys_iff.1 hdeclared
        obtain ⟨new, hnew, hresult⟩ :=
          hfilled.declared name descriptor (Assoc.mem_of_lookup hlookup)
        rw [hfield] at hresult
        cases fillProperty_eq_ok.1 hnew with
        | absent hnone => cases hnone.symm.trans hfield
        | plain | elsewhere => exact hresult
        | entered hother htarget =>
          cases hother.symm.trans hfield
          exact absurd (enters_of_followRefs hlookup htarget) (hout _ _ _ rfl)
      · rw [hfilled.other name hdeclared, hfield]
    · obtain ⟨filled, hresult, -⟩ := hentered hfield henters
      exact ⟨filled, hresult⟩
    · obtain ⟨_, hresult', hextended⟩ := hentered hfield henters
      cases hresult.symm.trans hresult'
      exact hextended

/-- What filling makes of a value extends it. -/
theorem valueExtended_of_fill (hnames : registry.NamesDiffer) {definition : Descriptor}
    (hdefinition : definition.NamesDiffer) {value filled : Value} {label : Path}
    (h : registry.fill base definition.declared value label = .ok filled) :
    registry.ValueExtended base definition.declared value filled := by
  rcases fill_eq_ok.1 h with ⟨hplain, rfl⟩ | ⟨fields, result, rfl, rfl, hfill⟩
  · exact .plain hplain
  · exact .object (extended_of_fillProperties hnames hdefinition hfill)

/-! ### Records and parameters -/

/-- The schema of a record, in a registry whose property lists are maps. -/
theorem NamesDiffer.of_recordAt (h : registry.NamesDiffer) {reference : String} {address : Address}
    (hrecord : registry.recordAt reference = .ok (address, schema)) :
    (Descriptor.object schema).NamesDiffer := by
  obtain ⟨-, description, key, hresolve⟩ := recordAt_eq_ok.1 hrecord
  have hdefinition := h.of_resolve hresolve
  intro part hpart
  rcases List.mem_cons.1 hpart with rfl | hpart
  · exact hdefinition.nodup
  · exact hdefinition part (List.mem_cons_of_mem _ hpart)

/-- The schema of the parameters of a call, in a registry whose property lists are maps. -/
theorem NamesDiffer.of_parametersAt (h : registry.NamesDiffer) {reference : String}
    {address : Address} {schema : ParamsSchema}
    (hparameters : registry.parametersAt reference = .ok (address, some schema)) :
    (Descriptor.params schema).NamesDiffer := by
  obtain ⟨-, definition, hresolve, hcall⟩ := parametersAt_eq_ok.1 hparameters
  have hdefinition := h.of_resolve hresolve
  intro part hpart
  rcases List.mem_cons.1 hpart with rfl | hpart
  · cases hcall <;> exact hdefinition.nodup
  · refine hdefinition part ?_
    cases hcall <;> simp [Descriptor.parts, ParamsSchema.partsIfAny, hpart]

/-- **Filling extends values.**  A filled record is the record itself if it is no object, and
    otherwise extended by the schema of its definition; so are filled parameters, if a call declares
    any.  What an extended object gets are, in declared order, the defaults of the strings, integers
    and booleans that it does not have, and it keeps what no reference leads into. -/
theorem filling_extends (registry : Registry) (hnames : registry.NamesDiffer) (reference : String)
    (value filled : Value) :
    (registry.fillRecord reference value = .ok filled →
      ∃ address schema, registry.recordAt reference = .ok (address, schema) ∧
        registry.ValueExtended address.document schema.properties value filled) ∧
    (registry.fillParams reference value = .ok filled →
      ∃ address parameters, registry.parametersAt reference = .ok (address, parameters) ∧
        (parameters = none → filled = value) ∧
        ∀ schema ∈ parameters,
          registry.ValueExtended address.document schema.properties value filled) ∧
    (∀ properties fields,
      (∀ name default, (name, default) ∈ missingDefaults properties fields ↔
        fields.lookup name = none ∧
          ∃ descriptor, (name, descriptor) ∈ properties ∧ descriptor.DeclaresDefault default) ∧
      (Assoc.keys (missingDefaults properties fields)).Sublist (Assoc.keys properties)) ∧
    (∀ base properties fields result, registry.Extended base properties fields result →
      ∀ name field, fields.lookup name = some field →
        (field.object? = none ∨ properties.lookup name = none ∨
          ∃ descriptor k place, properties.lookup name = some descriptor ∧
            Steps registry.RefHop k (base, descriptor) place ∧
            place.2.kind ≠ .ref ∧ place.2.kind ≠ .object) →
        result.lookup name = some field) := by
  refine ⟨fun h => ?_, fun h => ?_,
    fun properties fields => ⟨fun _ _ => mem_missingDefaults, keys_missingDefaults_sublist _ _⟩,
    fun base properties fields result h name field => h.lookup_eq⟩
  · obtain ⟨⟨address, schema⟩, hrecord, hfill⟩ := bind_eq_ok.1 h
    exact ⟨address, schema, hrecord,
      valueExtended_of_fill hnames (hnames.of_recordAt hrecord) hfill⟩
  · obtain ⟨⟨address, parameters⟩, hparameters, hfill⟩ := bind_eq_ok.1 h
    refine ⟨address, parameters, hparameters, ?_, ?_⟩
    · -- A call without parameters leaves the value as it is.
      rintro rfl
      cases hfill
      rfl
    · rintro schema ⟨⟩
      exact valueExtended_of_fill hnames (hnames.of_parametersAt hparameters) hfill

/-- The names in the notebook differ. -/
theorem notebook_namesDiffer : notebook.NamesDiffer := by
  simp [NamesDiffer, descriptors, notebook, Document.descriptors, Descriptor.partsOfEntries,
    Descriptor.parts, ObjectSchema.parts, ParamsSchema.partsIfAny, ParamsSchema.parts,
    Body.partsIfAny, Descriptor.declared, Assoc.keys]

/-- The answer with its defaults: the inner thread gets none, since it has its depth. -/
def answered : Value :=
  .object [("$type", .string "com.example.note"), ("text", .string "Yes"),
    ("answers", .object [("above", .object [("depth", .integer 0)]), ("depth", .integer 1)]),
    ("language", .string "en"), ("pinned", .boolean false)]

/-- The answer gets the defaults of a note, and of what is inside it, and its text stays; a search
    without parameters gets its limit. -/
theorem filling_extends_notebook :
    notebook.NamesDiffer ∧
    (notebook.fillRecord "com.example.note" answer = .ok answered ∧
      ∃ address schema, notebook.recordAt "com.example.note" = .ok (address, schema) ∧
        notebook.ValueExtended address.document schema.properties answer answered) ∧
    (notebook.fillParams "com.example.note#search" (.object []) =
        .ok (.object [("limit", .integer 10)]) ∧
      ∃ address parameters,
        notebook.parametersAt "com.example.note#search" = .ok (address, parameters) ∧
        ∀ schema ∈ parameters, notebook.ValueExtended address.document schema.properties
          (.object []) (.object [("limit", .integer 10)])) ∧
    (∃ base properties fields result, answer = .object fields ∧ answered = .object result ∧
      notebook.Extended base properties fields result ∧
      fields.lookup "text" = some (.string "Yes") ∧
      result.lookup "text" = some (.string "Yes")) := by
  have hnames := notebook_namesDiffer
  have hrecord : notebook.fillRecord "com.example.note" answer = .ok answered := by cbv
  have hparams : notebook.fillParams "com.example.note#search" (.object []) =
      .ok (.object [("limit", .integer 10)]) := by cbv
  obtain ⟨fromRecord, -, -, kept⟩ :=
    filling_extends notebook hnames "com.example.note" answer answered
  obtain ⟨-, fromParams, -⟩ := filling_extends notebook hnames "com.example.note#search"
    (.object []) (.object [("limit", .integer 10)])
  obtain ⟨address, schema, hfound, hvalue⟩ := fromRecord hrecord
  obtain ⟨call, parameters, hcall, -, hschema⟩ := fromParams hparams
  refine ⟨hnames, ⟨hrecord, address, schema, hfound, hvalue⟩,
    ⟨hparams, call, parameters, hcall, hschema⟩, ?_⟩
  unfold answer answered at hvalue
  cases hvalue with
  | object hextended =>
    exact ⟨_, _, _, _, rfl, rfl, hextended, rfl, kept _ _ _ _ hextended "text" _ rfl (.inl rfl)⟩

end Registry

end Lexicon
