import Lexicon.Proofs.Defaults.Totality
import Lexicon.Proofs.Descriptor.Parts

namespace Lexicon

open Lexicon.Outcome

/-!
# Filling keeps values valid

Defaults are not checked when documents are read.  Where each declared default passes its own
descriptor, a valid record stays valid when it is filled, and so do valid parameters.

* `Descriptor.AcceptsDefault` — the default of a string, an integer or a boolean passes the rules
  beside it;
* `checks_of_fillProperties` — filled properties pass the checks that the properties have passed;
* `fill_keeps_validity` — records and parameters stay valid.
-/

/-- The default of a descriptor, if it has one, passes the format and the rules declared beside
    it. -/
def Descriptor.AcceptsDefault : Descriptor → Prop
  | .string _ format rules =>
    ∀ s ∈ rules.default, (∀ f ∈ format, f.accepts s) ∧ rules.check s = .ok ()
  | .integer _ rules => ∀ n ∈ rules.default, rules.check n = .ok ()
  | .boolean _ rules => ∀ b ∈ rules.default, rules.check b = .ok ()
  | _ => True

/-- A descriptor whose declared names differ, and that accepts its default. -/
def Descriptor.IsSound (descriptor : Descriptor) : Prop :=
  (Assoc.keys descriptor.declared).Nodup ∧ descriptor.AcceptsDefault

/-- Properties whose names differ, and that hold sound descriptors only. -/
def AreSound (properties : List (String × Descriptor)) : Prop :=
  (Assoc.keys properties).Nodup ∧ ∀ part ∈ Descriptor.partsOfEntries properties, part.IsSound

/-- What a sound definition declares is sound. -/
theorem areSound_declared {descriptor : Descriptor}
    (h : ∀ part ∈ descriptor.parts, part.IsSound) : AreSound descriptor.declared :=
  ⟨(h _ descriptor.mem_parts_self).1,
    fun part hpart => h part (Descriptor.mem_parts_of_declared hpart)⟩

namespace Registry

variable {registry : Registry} {base : String} {path path' : Path}

/-- An accepted default is a valid value of its descriptor. -/
theorem checkValue_default {descriptor : Descriptor} {value : Value}
    (haccepts : descriptor.AcceptsDefault) (h : descriptor.default? = some value) :
    registry.checkValue base descriptor value path 0 = .ok () := by
  cases descriptor with
  | string description format rules =>
    obtain ⟨s, hs, rfl⟩ := Option.map_eq_some_iff.1 h
    obtain ⟨hformat, hrules⟩ := haccepts s hs
    exact checkString_eq_ok.2 ⟨s, rfl, hformat, StringRules.check_eq_ok.1 hrules⟩
  | integer description rules =>
    obtain ⟨n, hn, rfl⟩ := Option.map_eq_some_iff.1 h
    exact checkInteger_eq_ok.2 ⟨n.toInt, rfl, IntegerRules.check_eq_ok.1 (haccepts n hn)⟩
  | boolean description rules =>
    obtain ⟨b, hb, rfl⟩ := Option.map_eq_some_iff.1 h
    exact checkBoolean_eq_ok.2 ⟨b, rfl, BooleanRules.check_eq_ok.1 (haccepts b hb)⟩
  | _ => cases h

/-- Filling leaves alone what is no object. -/
theorem FilledAs.lookup_of_plain {properties : List (String × Descriptor)}
    {fields result : List (String × Value)}
    (h : FilledAs registry base properties fields path fields result) {name : String}
    {field : Value} (hfield : fields.lookup name = some field) (hplain : field.object? = none) :
    result.lookup name = some field := by
  by_cases hdeclared : name ∈ Assoc.keys properties
  · obtain ⟨descriptor, hmem⟩ := Assoc.mem_keys_iff.1 hdeclared
    obtain ⟨value, hvalue, hlookup⟩ := h.declared name descriptor (Assoc.mem_of_lookup hmem)
    rw [fillProperty_of_plain hfield hplain] at hvalue
    cases hvalue
    rw [hlookup, hfield, Option.none_or]
  · rw [h.other name hdeclared, hfield]

/-- **Filled properties pass the checks that the properties have passed.**  By induction on the
    object: a property is new, and then it is an accepted default; or it is an object, filled in
    turn, at the end of the references that the check follows too; or it is what it was. -/
theorem checks_of_fillProperties (hsound : ∀ d ∈ registry.descriptors, d.IsSound)
    {properties : List (String × Descriptor)} (hproperties : AreSound properties)
    {fields result : List (String × Value)} (mayBeNull : String → Bool)
    (hchecks : ∀ name descriptor, (name, descriptor) ∈ properties →
      registry.checkProperty base (mayBeNull name) name descriptor fields path = .ok ())
    (hfill : registry.fillProperties base properties fields path' fields = .ok result) :
    ∀ name descriptor, (name, descriptor) ∈ properties →
      registry.checkProperty base (mayBeNull name) name descriptor result path = .ok () := by
  induction hsize : sizeOf fields using Nat.strong_induction_on
    generalizing base properties fields result mayBeNull path path' with
  | _ size ih =>
    have hfilled := filledAs_of_fillProperties hproperties.1 hfill
    intro name descriptor hmem
    have hcheck := checkProperty_eq_ok.1 (hchecks name descriptor hmem)
    have hdescriptor : ∀ part ∈ descriptor.parts, part.IsSound := fun part hpart =>
      hproperties.2 part (Descriptor.mem_partsOfEntries.2 ⟨name, descriptor, hmem, hpart⟩)
    obtain ⟨value, hvalue, hlookup⟩ := hfilled.declared name descriptor hmem
    refine checkProperty_eq_ok.2 fun new hnew hnull => ?_
    cases hfield : fields.lookup name with
    | none =>
      -- The property is new: what is there now is the default.
      rw [fillProperty_of_none hfield] at hvalue
      cases hvalue
      rw [hlookup, hfield, Option.or_none] at hnew
      exact checkValue_default (hdescriptor _ descriptor.mem_parts_self).2 hnew
    | some field =>
      cases field with
      | object inner =>
        have hinner := hcheck _ hfield (by simp)
        -- Filling and the check go along the same references to one target.
        obtain ⟨base', target, htarget, hvalue⟩ := (fillProperty_object_eq_ok hfield).1 hvalue
        obtain ⟨hops', heq⟩ := checkValue_eq_of_followRefs htarget
        rcases hvalue with ⟨schema, filled, rfl, hfilled', rfl⟩ | ⟨-, rfl⟩
        · -- An object schema: the inner object has been filled, and is checked in its turn.
          rw [hlookup, Option.some_or] at hnew
          cases hnew
          have hschema : AreSound schema.properties := areSound_declared
            (of_followRefs (P := fun d => ∀ part ∈ d.parts, part.IsSound) hdescriptor
              (fun _ _ hresolve part hpart =>
                hsound part (mem_descriptors_of_resolve hresolve hpart)) htarget)
          rw [heq, checkValue] at hinner ⊢
          obtain ⟨_, ⟨⟩, hrequired, hchecks⟩ := checkObject_eq_ok.1 hinner
          refine checkObject_eq_ok.2 ⟨filled, rfl, fun required hmem => ?_, ?_⟩
          · exact (filledAs_of_fillProperties hschema.1 hfilled').mem_keys (hrequired required hmem)
          · exact ih _ (hsize ▸ sizeOf_inner_lt hfield) hschema _ hchecks hfilled' rfl
        · -- Anything else, such as a union: the object is what it was.
          rw [hlookup, hfield, Option.none_or] at hnew
          cases hnew
          exact hinner
      | _ =>
        rw [hfilled.lookup_of_plain hfield rfl] at hnew
        cases hnew
        exact hcheck _ hfield hnull

/-- **Filling keeps values valid.**  In a registry whose property lists name no property twice and
    all of whose defaults are accepted where they are declared, a valid record can be filled and is
    valid afterwards, and so are valid parameters. -/
theorem fill_keeps_validity (registry : Registry) (hnames : registry.NamesDiffer)
    (hdefaults : ∀ d ∈ registry.descriptors, d.AcceptsDefault) (reference : String)
    (value : Value) :
    (registry.validateRecord reference value = .ok () →
      ∃ filled, registry.fillRecord reference value = .ok filled ∧
        registry.validateRecord reference filled = .ok ()) ∧
    (registry.validateParams reference value = .ok () →
      ∃ filled, registry.fillParams reference value = .ok filled ∧
        registry.validateParams reference filled = .ok ()) := by
  have hsound : ∀ d ∈ registry.descriptors, d.IsSound := fun d hd => ⟨hnames d hd, hdefaults d hd⟩
  -- What a definition declares itself is where filling starts.
  have hdefinition {address : Address} {definition : Descriptor}
      (h : registry.resolve address = .ok definition) : AreSound definition.declared :=
    areSound_declared fun part hpart => hsound part (mem_descriptors_of_resolve h hpart)
  constructor
  · intro h
    obtain ⟨address, schema, fields, type, hrecord, rfl, htype, hnamed, h⟩ :=
      validateRecord_eq_ok.1 h
    obtain ⟨filled, hfilled⟩ := exists_fillRecord_of_checkObject hrecord h
    refine ⟨filled, hfilled, ?_⟩
    rw [fillRecord_eq hrecord, fill_object] at hfilled
    obtain ⟨result, hfill, rfl⟩ := map_eq_ok.1 hfilled
    obtain ⟨-, _, _, hresolve⟩ := recordAt_eq_ok.1 hrecord
    -- The name of the collection is a string, so it is still there, whatever is declared for it.
    have hlookup := filledAs_of_fillProperties (hdefinition hresolve).1 hfill
    obtain ⟨_, ⟨⟩, hrequired, hchecks⟩ := checkObject_eq_ok.1 h
    refine validateRecord_eq_ok.2 ⟨address, schema, result, type, hrecord, rfl,
      hlookup.lookup_of_plain htype rfl, hnamed, ?_⟩
    exact checkObject_eq_ok.2 ⟨result, rfl,
      fun name hname => hlookup.mem_keys (hrequired name hname),
      checks_of_fillProperties hsound (hdefinition hresolve) schema.isNullable hchecks hfill⟩
  · intro h
    obtain ⟨address, parameters, hparameters, h⟩ := validateParams_eq_ok.1 h
    obtain ⟨filled, hfilled⟩ := exists_fillParams_of_checkParams hparameters h
    refine ⟨filled, hfilled, ?_⟩
    refine validateParams_eq_ok.2 ⟨address, parameters, hparameters, fun schema hschema => ?_⟩
    cases hschema
    obtain ⟨fields, rfl, hrequired, hchecks⟩ := checkParams_eq_ok.1 (h schema rfl)
    rw [fillParams_of_some hparameters, fill_object] at hfilled
    obtain ⟨result, hfill, rfl⟩ := map_eq_ok.1 hfilled
    obtain ⟨-, definition, hresolve, hcall⟩ := parametersAt_eq_ok.1 hparameters
    have hdeclared : AreSound schema.properties := by
      cases hcall <;> exact hdefinition hresolve
    have hlookup := filledAs_of_fillProperties hdeclared.1 hfill
    exact checkParams_eq_ok.2 ⟨result, rfl,
      fun name hname => hlookup.mem_keys (hrequired name hname),
      checks_of_fillProperties hsound hdeclared (fun _ => false) hchecks hfill⟩

/-- The defaults of the notebook pass their own checks, so that a filled answer and a filled search
    pass. -/
theorem fill_keeps_validity_notebook :
    notebook.NamesDiffer ∧ (∀ d ∈ notebook.descriptors, d.AcceptsDefault) ∧
    (notebook.validateRecord "com.example.note" answer = .ok () ∧
      ∃ filled, notebook.fillRecord "com.example.note" answer = .ok filled ∧
        notebook.validateRecord "com.example.note" filled = .ok ()) ∧
    (notebook.validateParams "com.example.note#search" (.object []) = .ok () ∧
      ∃ filled, notebook.fillParams "com.example.note#search" (.object []) = .ok filled ∧
        notebook.validateParams "com.example.note#search" filled = .ok ()) := by
  have hnames : notebook.NamesDiffer := by
    simp [NamesDiffer, descriptors, notebook, Document.descriptors, Descriptor.partsOfEntries,
      Descriptor.parts, ObjectSchema.parts, ParamsSchema.partsIfAny, ParamsSchema.parts,
      Body.partsIfAny, Descriptor.declared, Assoc.keys]
  have hdefaults : ∀ d ∈ notebook.descriptors, d.AcceptsDefault := by
    simp [descriptors, notebook, Document.descriptors, Descriptor.partsOfEntries,
      Descriptor.parts, ObjectSchema.parts, ParamsSchema.partsIfAny, ParamsSchema.parts,
      Body.partsIfAny, Descriptor.AcceptsDefault]
    exact ⟨⟨by cbv, by cbv⟩, by cbv, by cbv, by cbv⟩
  have hrecord : notebook.validateRecord "com.example.note" answer = .ok () := by cbv
  have hparams : notebook.validateParams "com.example.note#search" (.object []) = .ok () := by cbv
  refine ⟨hnames, hdefaults, ⟨hrecord, ?_⟩, ⟨hparams, ?_⟩⟩
  · exact (fill_keeps_validity notebook hnames hdefaults _ _).1 hrecord
  · exact (fill_keeps_validity notebook hnames hdefaults _ _).2 hparams

end Registry

end Lexicon
