import Lexicon.Document.Keys
import Lexicon.Proofs.Descriptor.RoundTrip
import Lexicon.Proofs.Outcome

namespace Lexicon

open Lexicon.Json
open Lexicon.Outcome

/-!
# Written documents have declared keys only

* `checkAllowed_eq_ok`, `checkAt_eq_ok` — when the keys of an object pass, and those below a key;
* `checkDescriptorKeys_object`, `checkDescriptorKeys_untagged` — when those of a descriptor pass, as
  it names its kind or not;
* `Descriptor.checkDescriptorKeys_toJson` — those of a written descriptor do, wherever it stands.
-/

variable {whole : Json} {location : Location}

/-! ### The walk through the keys -/

/-- The keys pass if they are all allowed. -/
theorem checkAllowed_eq_ok {α : Type} {allowed : List String} {fields : List (String × α)} :
    checkAllowed allowed fields location = .ok () ↔ Assoc.keys fields ⊆ allowed := by
  have hunknown : ((Assoc.keys fields).filter (!allowed.contains ·)).isEmpty = true ↔
      Assoc.keys fields ⊆ allowed := by
    simp [List.isEmpty_iff, List.filter_eq_nil_iff, List.subset_def]
  rw [← hunknown]
  show (if ((Assoc.keys fields).filter (!allowed.contains ·)).isEmpty = true then _ else _) = _ ↔ _
  split <;> simp_all

/-- A field passes if it is absent or what it holds passes. -/
theorem checkAt_eq_ok {key : String} {parts : List (String × Part whole)}
    {check : Json → Except ReadError Unit} :
    checkAt key parts (fun part => check part.val) = .ok () ↔
      ∀ json, (plain parts).lookup key = some json → check json = .ok () := by
  rw [checkAt, lookup_plain]
  cases parts.lookup key <;> simp

/-- What the walk goes into below the keys of an object passes. -/
def PartsPass (location : Location) (fields : List (String × Json)) : Prop :=
  (∀ json, fields.lookup "items" = some json →
    checkDescriptorKeys (location.child "items") json = .ok ()) ∧
  (∀ json, fields.lookup "record" = some json →
    checkDescriptorKeys (location.child "record") json = .ok ()) ∧
  (∀ json, fields.lookup "parameters" = some json →
    checkDescriptorKeys (location.child "parameters") json = .ok ()) ∧
  (∀ json, fields.lookup "properties" = some json →
    checkPropertyKeys location json = .ok ()) ∧
  (∀ json, fields.lookup "input" = some json →
    checkBodyKeys (location.child "input") json = .ok ()) ∧
  (∀ json, fields.lookup "output" = some json →
    checkBodyKeys (location.child "output") json = .ok ()) ∧
  (∀ json, fields.lookup "errors" = some json →
    checkErrorKeys (location.child "errors") json = .ok ())

/-- The keys of an object that names its kind pass if they are declared and the parts pass. -/
theorem checkDescriptorKeys_object {kind : Kind} {fields : List (String × Json)}
    (hkind : namedKind? fields = some kind) :
    checkDescriptorKeys location (.object fields) = .ok () ↔
      Assoc.keys fields ⊆ "type" :: "description" :: kind.declaredKeys ∧
        PartsPass location fields := by
  obtain ⟨parts, hparts, hplain⟩ := exists_entryParts?_object fields
  rw [← hplain] at hkind
  rw [checkDescriptorKeys]
  simp only [hparts, hkind]
  simp only [then_eq_ok, checkAllowed_eq_ok, checkAt_eq_ok, ← keys_plain, hplain, PartsPass]

/-- The same for an object as it is written, with its kind in front. -/
theorem checkDescriptorKeys_tagged {kind : Kind} {fields : List (String × Json)} :
    checkDescriptorKeys location (tagged kind fields) = .ok () ↔
      Assoc.keys fields ⊆ "type" :: "description" :: kind.declaredKeys ∧
        PartsPass location fields := by
  have hkind : namedKind? (("type", .string kind.name) :: fields) = some kind := by
    simp [namedKind?, string?, Kind.ofName?_name]
  rw [tagged, checkDescriptorKeys_object hkind]
  simp [PartsPass]

/-- An object that names no kind passes, whatever its keys. -/
theorem checkDescriptorKeys_untagged {fields : List (String × Json)}
    (h : fields.lookup "type" = none) : checkDescriptorKeys location (.object fields) = .ok () := by
  obtain ⟨parts, hparts, hplain⟩ := exists_entryParts?_object fields
  have hkind : namedKind? (plain parts) = none := by
    rw [hplain, namedKind?, h, Option.bind_none]
  rw [checkDescriptorKeys]
  simp only [hparts, hkind]

/-- The keys of properties pass if those of every property do. -/
theorem checkPropertyKeys_object {properties : List (String × Json)} :
    checkPropertyKeys location (.object properties) = .ok () ↔
      ∀ property ∈ properties,
        checkDescriptorKeys (location.child property.1) property.2 = .ok () := by
  obtain ⟨parts, hparts, hplain⟩ := exists_entryParts?_object properties
  rw [checkPropertyKeys, hparts]
  show parts.forM (fun entry =>
    checkDescriptorKeys (location.child entry.1) entry.2.val) = .ok () ↔ _
  rw [← forM_plain fun name json => checkDescriptorKeys (location.child name) json, hplain,
    forM_eq_ok]

/-- The keys of a body pass if they are declared and those of the schema pass. -/
theorem checkBodyKeys_object {fields : List (String × Json)} :
    checkBodyKeys location (.object fields) = .ok () ↔
      Assoc.keys fields ⊆ ["description", "encoding", "schema"] ∧
      ∀ json, fields.lookup "schema" = some json →
        checkDescriptorKeys (location.child "schema") json = .ok () := by
  obtain ⟨parts, hparts, hplain⟩ := exists_entryParts?_object fields
  rw [checkBodyKeys, hparts]
  simp only [then_eq_ok, checkAllowed_eq_ok, checkAt_eq_ok, ← keys_plain, hplain]

/-- The keys of errors pass if each error that is an object has declared keys only. -/
theorem checkErrorKeys_array {errors : List Json} :
    checkErrorKeys location (.array errors) = .ok () ↔
      ∀ fields, Json.object fields ∈ errors → Assoc.keys fields ⊆ ["name", "description"] := by
  rw [checkErrorKeys, forM_eq_ok]
  constructor
  · intro h fields hmem
    exact checkAllowed_eq_ok.1 (h _ hmem)
  · intro h error hmem
    cases error with
    | object fields => exact checkAllowed_eq_ok.2 (h fields hmem)
    | _ => rfl

/-! ### What is written -/

/-- The keys of a written descriptor pass, wherever it stands. -/
def Descriptor.KeysPass (descriptor : Descriptor) : Prop :=
  ∀ location, checkDescriptorKeys location descriptor.toJson = .ok ()

/-- Properties that pass one by one pass together. -/
theorem checkPropertyKeys_toEntries (location : Location) {properties : List (String × Descriptor)}
    (h : ∀ child ∈ properties.map Prod.snd, child.KeysPass) :
    checkPropertyKeys location (.object (Descriptor.toEntries properties)) = .ok () := by
  rw [checkPropertyKeys_object, Descriptor.toEntries_eq]
  rintro ⟨name, json⟩ hmem
  obtain ⟨property, hproperty, heq⟩ := List.mem_map.1 hmem
  cases heq
  exact h _ (List.mem_map_of_mem hproperty) _

/-- A body passes if its schema does. -/
theorem checkBodyKeys_toFields (location : Location) {body : Option Body}
    (h : ∀ child ∈ Body.children body, child.KeysPass) :
    ∀ b ∈ body, checkBodyKeys location (.object b.toFields) = .ok () := by
  rintro ⟨description, encoding, schema⟩ rfl
  rw [checkBodyKeys_object]
  constructor
  · simp [Body.toFields, describe, keys_entry_subset]
  · intro json hjson
    obtain ⟨child, rfl, rfl⟩ : ∃ child, schema = some child ∧ child.toJson = json := by
      simpa [Body.toFields, describe] using hjson
    exact h child (List.mem_singleton_self child) _

/-- The errors of a call are written with the keys that they declare. -/
theorem checkErrorKeys_toJson (errors : List CallError) :
    checkErrorKeys location (.array (errors.map CallError.toJson)) = .ok () := by
  rw [checkErrorKeys_array]
  intro fields hmem
  obtain ⟨error, -, herror⟩ := List.mem_map.1 hmem
  cases herror
  simp [describe, keys_entry_subset]

/-- The keys below which the walk goes on. -/
def deepKeys : List String :=
  ["items", "record", "parameters", "properties", "input", "output", "errors"]

/-- Where nothing is declared that the walk goes into, declared keys are all that counts. -/
theorem checkDescriptorKeys_of_shallow {kind : Kind} {description : Option String}
    {rest : List (String × Json)} (hrest : Assoc.keys rest ⊆ kind.declaredKeys)
    (hkind : ∀ key ∈ deepKeys, key ∉ "description" :: kind.declaredKeys) :
    checkDescriptorKeys location (tagged kind (describe description ++ rest)) = .ok () := by
  have hkeys : Assoc.keys (describe description ++ rest) ⊆ "description" :: kind.declaredKeys := by
    simp [describe, keys_entry_subset, List.subset_cons_of_subset, hrest]
  have habsent : ∀ key ∈ deepKeys, (describe description ++ rest).lookup key = none :=
    fun key hkey => Assoc.lookup_eq_none_of_subset hkeys (hkind key hkey)
  simp only [deepKeys, List.forall_mem_cons] at habsent
  rw [checkDescriptorKeys_tagged]
  refine ⟨fun key hkey => List.mem_cons_of_mem _ (hkeys hkey), ?_⟩
  -- The seven demands below a key are about keys that are not there.
  simp only [PartsPass, habsent, reduceCtorEq, false_implies, implies_true, and_self]

/-- An object schema on its own names no kind, so its keys are not looked at. -/
theorem checkDescriptorKeys_objectSchema (schema : ObjectSchema) :
    checkDescriptorKeys location (.object schema.toFields) = .ok () := by
  cases schema
  exact checkDescriptorKeys_untagged (by simp [ObjectSchema.toFields, describe, lookup_namesEntry])

/-- A schema of parameters names no kind either, so its keys are not looked at. -/
theorem checkDescriptorKeys_paramsSchema (schema : ParamsSchema) :
    checkDescriptorKeys location (.object schema.toFields) = .ok () := by
  cases schema
  exact checkDescriptorKeys_untagged (by simp [ParamsSchema.toFields, describe, lookup_namesEntry])

namespace Descriptor

/-- A descriptor passes if its children do: it is written with no keys but those of its kind. -/
theorem keysPass_of_children {descriptor : Descriptor}
    (h : ∀ child ∈ descriptor.children, child.KeysPass) : descriptor.KeysPass := by
  intro location
  cases descriptor with
  -- Kinds that hold no part: their fields are declared, and there is nothing to walk into.
  | boolean description rules | integer description rules | bytes description rules
  | blob description rules =>
    refine checkDescriptorKeys_of_shallow ?_ (by decide)
    exact List.Subset.trans rules.keys_toFields (by decide)
  | string description format rules =>
    rw [toJson, List.append_assoc]
    refine checkDescriptorKeys_of_shallow ?_ (by decide)
    rw [Assoc.keys_append, List.append_subset]
    exact ⟨keys_entry_subset (by decide) format, List.Subset.trans rules.keys_toFields (by decide)⟩
  | cidLink description | token description | unknown description =>
    rw [toJson, ← List.append_nil (describe description)]
    exact checkDescriptorKeys_of_shallow (List.nil_subset _) (by decide)
  | union description members closed =>
    rw [toJson, List.append_assoc]
    refine checkDescriptorKeys_of_shallow ?_ (by decide)
    simp [keys_entry_subset, Kind.declaredKeys]
  | ref description target =>
    refine checkDescriptorKeys_of_shallow ?_ (by decide)
    simp [Kind.declaredKeys]
  -- Kinds that hold parts: besides the keys, the walk passes every part that is found in the
  -- fields.
  | array description items rules =>
    have hrules : Assoc.keys rules.toFields ⊆ ["type", "description", "items", "minLength",
        "maxLength"] :=
      List.Subset.trans rules.keys_toFields (by decide)
    have hitems := h items (List.mem_singleton_self items) (location.child "items")
    rw [toJson, checkDescriptorKeys_tagged]
    simp [PartsPass, describe, keys_entry_subset, Kind.declaredKeys, hrules,
      Assoc.lookup_eq_none_of_subset rules.keys_toFields, LengthRules.fieldNames, hitems]
  | object schema =>
    have hproperties := checkPropertyKeys_toEntries location h
    obtain ⟨description, properties, required, nullable⟩ := schema
    rw [toJson, checkDescriptorKeys_tagged]
    simp [PartsPass, describe, ObjectSchema.toFields, keys_entry_subset, keys_namesEntry_subset,
      lookup_namesEntry, Kind.declaredKeys, hproperties]
  | params schema =>
    have hproperties := checkPropertyKeys_toEntries location h
    obtain ⟨description, properties, required⟩ := schema
    rw [toJson, checkDescriptorKeys_tagged]
    simp [PartsPass, describe, ParamsSchema.toFields, keys_entry_subset, keys_namesEntry_subset,
      lookup_namesEntry, Kind.declaredKeys, hproperties]
  -- The walk does not go into a record, whose schema is written without a kind.
  | record description key schema =>
    rw [toJson, checkDescriptorKeys_tagged]
    simp [PartsPass, describe, keys_entry_subset, Kind.declaredKeys,
      checkDescriptorKeys_objectSchema]
  -- Nor does it go into parameters; of a call only the bodies and the errors are walked.
  | query description parameters output errors =>
    obtain ⟨-, houtput⟩ := List.forall_mem_append.1 h
    rw [toJson, checkDescriptorKeys_tagged]
    simpa [PartsPass, describe, keys_entry_subset, Kind.declaredKeys, errorsEntry,
      checkDescriptorKeys_paramsSchema, checkErrorKeys_toJson]
      using checkBodyKeys_toFields (location.child "output") houtput
  | procedure description parameters input output errors =>
    obtain ⟨hcall, houtput⟩ := List.forall_mem_append.1 h
    obtain ⟨-, hinput⟩ := List.forall_mem_append.1 hcall
    rw [toJson, checkDescriptorKeys_tagged]
    simpa [PartsPass, describe, keys_entry_subset, Kind.declaredKeys, errorsEntry,
      checkDescriptorKeys_paramsSchema, checkErrorKeys_toJson]
      using And.intro (checkBodyKeys_toFields (location.child "input") hinput)
        (checkBodyKeys_toFields (location.child "output") houtput)

/-- **Written descriptors have declared keys only.**  By induction on the descriptor; the walk does
    not enter records and parameters of calls, which do not name a kind. -/
theorem checkDescriptorKeys_toJson (descriptor : Descriptor) : descriptor.KeysPass :=
  induction_children (fun _ ih => keysPass_of_children ih) descriptor

end Descriptor

end Lexicon
