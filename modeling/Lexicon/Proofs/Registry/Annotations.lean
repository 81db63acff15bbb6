import Lexicon.Proofs.Conformance.Parameters
import Lexicon.Proofs.Descriptor.Annotations
import Lexicon.Proofs.Registry.Counterparts
import Mathlib

namespace Lexicon.Registry

open Lexicon.Outcome

/-!
# Annotations keep all verdicts

A check reads the rules of a schema, and none of its annotations.

* `checkValue_bare` — a check in the bare registry has the verdict of the check in the registry;
* `SameVerdicts` — two registries judge alike in every way in;
* `meetCounterparts_bare` — a reference leads to a definition and to its bare form;
* `annotations_keep_verdicts` — registries that differ in annotations only do so; and no default
  stands for a required property.

The definitions that the two checks meet are different objects, reached through different
documents.  The induction keeps that one of them is always the bare form of the other.
-/

variable {registry registry' : Registry} {base : String} {value : Value} {path : Path} {hops : Nat}

/-! ### Checks -/

/-- One hop leads to the same verdict, if the check behind it does. -/
theorem checkTarget_bare {address : Address}
    (hnext : hops < registry.settings.maxHops → ∀ descriptor,
      registry.bare.checkValue address.document descriptor.bare value path (hops + 1) =
        registry.checkValue address.document descriptor value path (hops + 1)) :
    registry.bare.checkTarget address value path hops =
      registry.checkTarget address value path hops := by
  rw [checkTarget, checkTarget, lookUp_bare]
  show (if hops < registry.settings.maxHops then _ else _) = _
  by_cases hlt : hops < registry.settings.maxHops
  · rw [if_pos hlt, if_pos hlt]
    cases registry.lookUp address with
    | error failure => rfl
    | ok descriptor => exact hnext hlt descriptor
  · rw [if_neg hlt, if_neg hlt]
    rfl

/-- Named properties lead to the same verdict, if the checks of their values do. -/
theorem checkEntries_bare (mayBeNull : String → Bool) {properties : List (String × Descriptor)}
    {fields : List (String × Value)}
    (hfield : ∀ name field, fields.lookup name = some field → ∀ descriptor,
      registry.bare.checkValue base descriptor.bare field (path.child name) 0 =
        registry.checkValue base descriptor field (path.child name) 0) :
    ((Descriptor.bareEntries properties).forM fun property =>
        registry.bare.checkProperty base (mayBeNull property.1) property.1 property.2 fields path) =
      properties.forM fun property =>
        registry.checkProperty base (mayBeNull property.1) property.1 property.2 fields path := by
  rw [Descriptor.bareEntries_eq]
  refine List.forM_map.trans (forM_congr fun property _ => ?_)
  exact checkProperty_congr fun field hlookup => hfield property.1 field hlookup property.2

/-- **Checks come out the same.**  Without annotations, every check has the verdict that it had with
    them, path and all.  By induction along the validator. -/
theorem checkValue_bare (registry : Registry) (base : String) (descriptor : Descriptor)
    (value : Value) (path : Path) (hops : Nat) :
    registry.bare.checkValue base descriptor.bare value path hops =
      registry.checkValue base descriptor value path hops := by
  induction value, hops using value_hops_induction registry.settings.maxHops
    generalizing base descriptor path with
  | step value hops ihvalue ihhops =>
    have htarget (address : Address) :
        registry.bare.checkTarget address value path hops =
          registry.checkTarget address value path hops :=
      checkTarget_bare fun hlt target => ihhops hlt address.document target path
    cases descriptor with
    | array description items rules =>
      cases value with
      | array values =>
        rw [Descriptor.bare, checkArray_eq, checkArray_eq]
        refine congrArg _ (funext fun _ => forM_congr fun item hmem => ?_)
        exact ihvalue item 0 (sizeOf_item_lt hmem) base items path
      | _ => unfold Descriptor.bare checkValue; rfl
    | object schema =>
      cases value with
      | object fields =>
        rw [Descriptor.bare, checkValue, checkValue, checkObject_eq, checkObject_eq,
          ObjectSchema.required_bare, ObjectSchema.isNullable_bare, ObjectSchema.properties_bare]
        refine congrArg _ (funext fun _ => checkEntries_bare _ fun name field hlookup target => ?_)
        exact ihvalue field 0 (sizeOf_field_lt hlookup) base target _
      | _ => rw [Descriptor.bare, checkValue, checkValue]; unfold checkObject; rfl
    | ref description target =>
      rw [Descriptor.bare, checkValue, checkValue]
      exact congrArg _ (funext htarget)
    | union description members closed =>
      rw [Descriptor.bare, checkValue, checkValue]
      simp only [htarget]
    -- The rules of the other kinds are read in the same way, whatever stands beside them.
    | _ => unfold Descriptor.bare checkValue; rfl

/-- Parameters are checked as properties, each of them by itself. -/
theorem checkParams_bare (schema : ParamsSchema) (value : Value) (label : Path) :
    registry.bare.checkParams base schema.bare value label =
      registry.checkParams base schema value label := by
  cases value with
  | object fields =>
    rw [checkParams_eq, checkParams_eq, ParamsSchema.required_bare, ParamsSchema.properties_bare]
    refine congrArg _ (funext fun _ =>
      checkEntries_bare (fun _ => false) fun name field _ target => ?_)
    exact checkValue_bare registry base target field _ 0
  | _ => rfl

/-! ### Verdicts -/

/-- The registries judge every value alike, in every way in, failures and paths included. -/
structure SameVerdicts (registry registry' : Registry) : Prop where
  validate : ∀ reference value,
    registry.validate reference value = registry'.validate reference value
  validateRecord : ∀ reference value,
    registry.validateRecord reference value = registry'.validateRecord reference value
  validateParams : ∀ reference value,
    registry.validateParams reference value = registry'.validateParams reference value
  validateInput : ∀ reference value,
    registry.validateInput reference value = registry'.validateInput reference value
  validateOutput : ∀ reference value,
    registry.validateOutput reference value = registry'.validateOutput reference value

namespace SameVerdicts

/-- To judge alike is symmetric. -/
theorem symm (h : SameVerdicts registry registry') : SameVerdicts registry' registry where
  validate reference value := (h.validate reference value).symm
  validateRecord reference value := (h.validateRecord reference value).symm
  validateParams reference value := (h.validateParams reference value).symm
  validateInput reference value := (h.validateInput reference value).symm
  validateOutput reference value := (h.validateOutput reference value).symm

/-- To judge alike is transitive. -/
theorem trans {registry'' : Registry} (h : SameVerdicts registry registry')
    (h' : SameVerdicts registry' registry'') : SameVerdicts registry registry'' where
  validate reference value := (h.validate reference value).trans (h'.validate reference value)
  validateRecord reference value :=
    (h.validateRecord reference value).trans (h'.validateRecord reference value)
  validateParams reference value :=
    (h.validateParams reference value).trans (h'.validateParams reference value)
  validateInput reference value :=
    (h.validateInput reference value).trans (h'.validateInput reference value)
  validateOutput reference value :=
    (h.validateOutput reference value).trans (h'.validateOutput reference value)

end SameVerdicts

/-- A definition is met by its bare form: all parts of it become bare. -/
theorem counterparts_bare (definition : Descriptor) :
    Descriptor.Counterparts (fun schema schema' => schema' = schema.bare)
      (fun schema schema' => schema' = schema.bare) definition definition.bare := by
  -- Without annotations there is a body, or a schema in it, where there was one before.
  have hbody (body : Option Body) :
      Option.Rel (fun schema schema' => schema' = Descriptor.bare schema) (body.bind Body.schema)
        ((Body.bareIfAny body).bind Body.schema) := by
    rw [Body.schema_bareIfAny]
    exact relOption_map fun _ _ => rfl
  have hparams (parameters : Option ParamsSchema) :
      Option.Rel (fun schema schema' => schema' = ParamsSchema.bare schema) parameters
        (ParamsSchema.bareIfAny parameters) := by
    rw [ParamsSchema.bareIfAny_eq]
    exact relOption_map fun _ _ => rfl
  refine ⟨Descriptor.described_bare definition, (Descriptor.rootLabel_bare definition).symm, ?_, ?_,
    ?_, ?_⟩
  · cases definition with
    | record description key schema => exact .some rfl
    | _ => exact .none
  · cases definition with
    | query description parameters output errors
    | procedure description parameters input output errors => exact .some (hparams parameters)
    | _ => exact .none
  · cases definition with
    | procedure description parameters input output errors => exact .some (hbody input)
    | _ => exact .none
  · cases definition with
    | query description parameters output errors
    | procedure description parameters input output errors => exact .some (hbody output)
    | _ => exact .none

/-- A definition without annotations stands in for the annotated one, in every role. -/
theorem meetCounterparts_bare (registry : Registry) :
    MeetCounterparts (Eq : Verdict → Verdict → Prop) (fun _ schema schema' => schema' = schema.bare)
      (fun _ schema schema' => schema' = schema.bare) registry registry.bare := by
  refine .of_related (fun _ => rfl) fun address _ => ?_
  rw [lookUp_bare]
  cases registry.lookUp address with
  | error failure => exact .error failure
  | ok definition => exact .ok (counterparts_bare definition)

/-- A registry judges as it does without its annotations. -/
theorem sameVerdicts_bare (registry : Registry) : SameVerdicts registry.bare registry := by
  have hvalue : ∀ document schema schema' value path, schema' = Descriptor.bare schema →
      registry.checkValue document schema value path 0 =
        registry.bare.checkValue document schema' value path 0 := by
    rintro document schema _ value path rfl
    exact (checkValue_bare registry document schema value path 0).symm
  have hparams : ∀ document schema schema' value label, schema' = ParamsSchema.bare schema →
      registry.checkParams document schema value label =
        registry.bare.checkParams document schema' value label := by
    rintro document schema _ value label rfl
    exact (checkParams_bare schema value label).symm
  have hchecks := meetCounterparts_bare registry
  have hsame : SameVerdicts registry registry.bare :=
    ⟨hchecks.validate hvalue, hchecks.validateRecord hvalue, hchecks.validateParams hparams,
      hchecks.validateInput hvalue, hchecks.validateOutput hvalue⟩
  exact hsame.symm

/-- Where a required name is absent, a required name that is absent is told. -/
theorem exists_checkRequiredNames_eq_error {required : List String} {name : String}
    {fields : List (String × Value)} (hname : name ∈ required) (habsent : name ∉ Assoc.keys fields)
    (path : Path) : ∃ missing ∈ required, missing ∉ Assoc.keys fields ∧
      checkRequiredNames required fields path =
        .error (.violation path (.missingProperty missing)) := by
  cases h : checkRequiredNames required fields path with
  | ok _ => exact absurd (checkRequiredNames_eq_ok.1 h name hname) habsent
  | error failure =>
    obtain ⟨missing, hmissing, hlookup, rfl⟩ := checkRequiredNames_fails h
    exact ⟨missing, hmissing, Assoc.lookup_eq_none_iff.1 hlookup, rfl⟩

/-- **Annotations keep all verdicts.**  Take away all descriptions, revisions, defaults, usual
    values, record keys, MIME types of bodies and errors of calls, or replace them by others, in any
    documents and at any depth.  Then every way in judges every value as before, down to the failure
    and its path, and so does every check of a value against a descriptor.  A default is no
    substitute for a required property or parameter: one that is absent is told. -/
theorem annotations_keep_verdicts (registry : Registry) :
    SameVerdicts registry.bare registry ∧
    (∀ registry', registry'.bare = registry.bare →
      SameVerdicts registry' registry ∧
      ∀ base descriptor descriptor', Descriptor.bare descriptor' = descriptor.bare →
        ∀ value path hops, registry'.checkValue base descriptor' value path hops =
          registry.checkValue base descriptor value path hops) ∧
    (∀ base (schema : ObjectSchema) fields path, ∀ name ∈ schema.required,
      name ∉ Assoc.keys fields → ∃ missing ∈ schema.required, missing ∉ Assoc.keys fields ∧
        registry.checkObject base schema (.object fields) path =
          .error (.violation path (.missingProperty missing))) ∧
    ∀ base (schema : ParamsSchema) fields label, ∀ name ∈ schema.required,
      name ∉ Assoc.keys fields → ∃ missing ∈ schema.required, missing ∉ Assoc.keys fields ∧
        registry.checkParams base schema (.object fields) label =
          .error (.violation label (.missingProperty missing)) := by
  refine ⟨sameVerdicts_bare registry, fun registry' h => ⟨?_, ?_⟩, ?_, ?_⟩
  · -- Both registries judge as the one without annotations does.
    have hsame := sameVerdicts_bare registry'
    rw [h] at hsame
    exact hsame.symm.trans (sameVerdicts_bare registry)
  · intro base descriptor descriptor' hbare value path hops
    rw [← checkValue_bare registry', ← checkValue_bare registry, h, hbare]
  · intro base schema fields path name hname habsent
    obtain ⟨missing, hmissing, hkeys, htold⟩ :=
      exists_checkRequiredNames_eq_error hname habsent path
    exact ⟨missing, hmissing, hkeys, by rw [checkObject_eq, htold, error_bind]⟩
  · intro base schema fields label name hname habsent
    obtain ⟨missing, hmissing, hkeys, htold⟩ :=
      exists_checkRequiredNames_eq_error hname habsent label
    exact ⟨missing, hmissing, hkeys, by rw [checkParams_eq, htold, error_bind]⟩

/-- A loaf of bread, whose flour is required, and has a default. -/
def loaf (flour : StringRules) : ObjectSchema where
  description := none
  properties := [
    ("flour", .string none none flour),
    ("grams", .integer none { minimum := some 1, default := some 750 }),
    ("crust", .ref none "#crust")]
  required := ["flour"]
  nullable := []

/-- A bakery that says much about its bread. -/
def bakery : Registry where
  documents := [
    { Document.empty "com.example.loaf" with
      revision := some 3
      description := some "Bread"
      definitions := [
        ("main", .record (some "A loaf") (some "tid") (loaf {
          maxLength := some 9
          default := some "rye"
          knownValues := some ["rye", "wheat"] })),
        ("crust", .boolean (some "Whether it has a crust") { default := some true }),
        ("bake", .procedure none
          (some ⟨none, [("oven", .integer none { default := some 1 })], ["oven"]⟩)
          (some ⟨none, "application/json", some (.ref none "#crust")⟩) none
          (some [⟨"TooHot", none⟩]))] }]

/-- A bakery that says other things about the same bread. -/
def laconicBakery : Registry where
  documents := [
    { Document.empty "com.example.loaf" with definitions := [
        ("main", .record none none (loaf { knownValues := some ["oat"], maxLength := some 9 })),
        ("crust", .boolean none {}),
        ("bake", .procedure (some "Bakes")
          (some ⟨some "Where", [("oven", .integer none {})], ["oven"]⟩)
          (some ⟨none, "text/plain", some (.ref (some "As ordered") "#crust")⟩) none none)] }]

/-- No bakery lets a default stand for the flour or the oven; both take flour that neither lists. -/
theorem annotations_keep_verdicts_bakery :
    laconicBakery.bare = bakery.bare ∧
      bakery.validateRecord "com.example.loaf" (.object [("$type", .string "com.example.loaf")]) =
        .error (.violation "Record" (.missingProperty "flour")) ∧
      laconicBakery.validateRecord "com.example.loaf"
          (.object [("$type", .string "com.example.loaf")]) =
        .error (.violation "Record" (.missingProperty "flour")) ∧
      bakery.validate "com.example.loaf"
          (.object [("flour", .string "spelt"), ("crust", .null)]) =
        .error (.violation "Record/crust" .notBoolean) ∧
      laconicBakery.validate "com.example.loaf"
          (.object [("flour", .string "spelt"), ("crust", .null)]) =
        .error (.violation "Record/crust" .notBoolean) ∧
      laconicBakery.validateInput "com.example.loaf#bake" (.boolean false) =
        bakery.validateInput "com.example.loaf#bake" (.boolean false) ∧
      bakery.checkParams "com.example.loaf" ⟨none, [("oven", .integer none { default := some 1 })],
          ["oven"]⟩ (.object []) "Params" =
        .error (.violation "Params" (.missingProperty "oven")) := by
  have hbare : laconicBakery.bare = bakery.bare := rfl
  obtain ⟨-, hreplaced, -, hparams⟩ := annotations_keep_verdicts bakery
  obtain ⟨hsame, -⟩ := hreplaced laconicBakery hbare
  have hmissing : bakery.validateRecord "com.example.loaf"
      (.object [("$type", .string "com.example.loaf")]) =
        .error (.violation "Record" (.missingProperty "flour")) := by cbv
  have hcrust : bakery.validate "com.example.loaf"
      (.object [("flour", .string "spelt"), ("crust", .null)]) =
        .error (.violation "Record/crust" .notBoolean) := by cbv
  obtain ⟨missing, hmember, -, htold⟩ := hparams "com.example.loaf"
    ⟨none, [("oven", .integer none { default := some 1 })], ["oven"]⟩ [] "Params" "oven"
    List.mem_cons_self List.not_mem_nil
  obtain rfl : missing = "oven" := List.mem_singleton.1 hmember
  exact ⟨hbare, hmissing, (hsame.validateRecord _ _).trans hmissing, hcrust,
    (hsame.validate _ _).trans hcrust, hsame.validateInput _ _, htold⟩

end Lexicon.Registry
