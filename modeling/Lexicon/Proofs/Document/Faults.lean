import Lexicon.Proofs.Document.WellFormed
import Mathlib

namespace Lexicon

open Lexicon.Outcome

/-!
# The fault that the check of the structure tells

When the check of the structure fails, it tells a fault and a location.  The location is that of a
descriptor within the first ill-formed definition, and the fault is one that this descriptor has.

* `Place`, `Descriptor.StandsAt` — what descriptors are within a definition, and where they are;
* `Breaks` — a descriptor at a place has a fault;
* `HasFault` — some descriptor of a definition has a fault;
* `hasFault_of_checkStructure` — what the check tells is such a fault, by induction on the
  descriptor;
* `structure_check_is_exact` — the check of a document.
-/

/-- What a descriptor is within a definition. -/
inductive Place where
  /-- The definition itself. -/
  | definition
  /-- The items of an array. -/
  | items
  /-- A property of an object. -/
  | property
  /-- The object of a record. -/
  | record
  /-- The parameters of a call, taken together. -/
  | parameters
  /-- One of the parameters. -/
  | parameter
  /-- The schema of a body of a call. -/
  | body
deriving DecidableEq, Repr

namespace Descriptor

/-- A call has a body with a schema, under the name of the field. -/
inductive HasBody : Descriptor → String → Descriptor → Prop where
  | output {description parameters body errors schema} :
      Option.bind body Body.schema = some schema →
      HasBody (.query description parameters body errors) "output" schema
  | input {description parameters body output errors schema} :
      Option.bind body Body.schema = some schema →
      HasBody (.procedure description parameters body output errors) "input" schema
  | answer {description parameters input body errors schema} :
      Option.bind body Body.schema = some schema →
      HasBody (.procedure description parameters input body errors) "output" schema

/-- The descriptors within a definition, each with its place and its location.  The definition itself
    is at `start`. -/
inductive StandsAt (start : Location) (definition : Descriptor) :
    Place → Location → Descriptor → Prop where
  | definition : StandsAt start definition .definition start definition
  | items {place location description items rules} :
      StandsAt start definition place location (.array description items rules) →
      StandsAt start definition .items (Location.child location "items") items
  | property {place location schema name property} :
      StandsAt start definition place location (.object schema) →
      (name, property) ∈ schema.properties →
      StandsAt start definition .property (Location.child location name) property
  | record {place location description key schema} :
      StandsAt start definition place location (.record description key schema) →
      StandsAt start definition .record (Location.child location "record") (.object schema)
  | parameters {place location call schema} :
      StandsAt start definition place location call →
      Registry.HasParameters (some schema) call →
      StandsAt start definition .parameters (Location.child location "parameters") (.params schema)
  | parameter {place location schema name parameter} :
      StandsAt start definition place location (.params schema) →
      (name, parameter) ∈ schema.properties →
      StandsAt start definition .parameter (Location.child location name) parameter
  | body {place location call side schema} :
      StandsAt start definition place location call → HasBody call side schema →
      StandsAt start definition .body ((Location.child location side).child "schema") schema

/-- A descriptor at a place and a location has a fault. -/
inductive Breaks : Place → Location → Descriptor → ReadError → Prop where
  | object {place location schema name} :
      name ∈ schema.required → name ∉ Assoc.keys schema.properties →
      Breaks place location (.object schema) (.requiredNotDefined name location)
  | params {place location schema name} :
      name ∈ schema.required → name ∉ Assoc.keys schema.properties →
      Breaks place location (.params schema) (.requiredNotDefined name location)
  | parameter {location descriptor} :
      ¬ IsParameter descriptor →
      Breaks .parameter location descriptor (.invalidParamsProperty location descriptor.kind)
  | reference {place location descriptor reference} :
      reference ∈ descriptor.references → 1 < reference.toList.count '#' →
      Breaks place location descriptor (.invalidReference reference location)
  | misplaced {place location descriptor} :
      place ∈ [.items, .property, .body] →
      descriptor.kind ∈ [.record, .params, .query, .procedure] →
      Breaks place location descriptor (.misplacedDefinition descriptor.kind location)

/-- Some descriptor within a definition has a fault. -/
def HasFault (start : Location) (definition : Descriptor) (error : ReadError) : Prop :=
  ∃ place location part, StandsAt start definition place location part ∧
    Breaks place location part error

end Descriptor

/-! ### One step of the check -/

/-- A check for required names fails at one that is no property. -/
theorem checkRequired_eq_error {required : List String} {properties : List (String × Descriptor)}
    {location : Location} {error : ReadError}
    (h : checkRequired required properties location = .error error) :
    ∃ name ∈ required, name ∉ Assoc.keys properties ∧ error = .requiredNotDefined name location := by
  unfold checkRequired at h
  cases hfind : required.find? (!Assoc.hasKey properties ·) with
  | none =>
    rw [hfind] at h
    cases h
  | some name =>
    rw [hfind] at h
    cases h
    have hmissing := List.find?_some hfind
    rw [Bool.not_eq_true', ← Bool.not_eq_true, Assoc.hasKey_iff] at hmissing
    exact ⟨name, List.mem_of_find?_eq_some hfind, hmissing, rfl⟩

/-- A reference is refused for more than one hash. -/
theorem checkReference_eq_error {location : Location} {reference : String} {error : ReadError}
    (h : checkReference location reference = .error error) :
    1 < reference.toList.count '#' ∧ error = .invalidReference reference location := by
  unfold checkReference at h
  by_cases hcount : 1 < reference.toList.count '#'
  · rw [if_pos hcount] at h
    cases h
    exact ⟨hcount, rfl⟩
  · rw [if_neg hcount] at h
    cases h

namespace Descriptor

variable {start location : Location} {definition descriptor : Descriptor} {place : Place}
  {topLevel : Bool} {error : ReadError}

/-- A check of properties fails at one of them, below its name. -/
theorem checkProperties_eq_error {properties : List (String × Descriptor)}
    (h : checkProperties location properties = .error error) :
    ∃ property ∈ properties,
      property.2.checkStructure false (location.child property.1) = .error error := by
  induction properties with
  | nil => cases h
  | cons property rest ih =>
    obtain ⟨name, descriptor⟩ := property
    rw [checkProperties] at h
    rcases then_eq_error.1 h with h | ⟨-, h⟩
    · exact ⟨_, List.mem_cons_self, h⟩
    · obtain ⟨other, hmem, hother⟩ := ih h
      exact ⟨other, List.mem_cons_of_mem _ hmem, hother⟩

/-- A check of a body fails in its schema. -/
theorem checkBody_eq_error {body : Option Body}
    (h : Body.checkStructure location body = .error error) :
    ∃ schema, body.bind Body.schema = some schema ∧
      schema.checkStructure false (location.child "schema") = .error error := by
  cases body with
  | none => cases h
  | some body =>
    obtain ⟨description, encoding, schema⟩ := body
    cases schema with
    | none => cases h
    | some schema => exact ⟨schema, rfl, h⟩

/-- A misplaced descriptor is one that stands below a definition. -/
theorem hasFault_of_checkPlace (hstands : StandsAt start definition place location descriptor)
    (hplace : topLevel = false → place ∈ [.items, .property, .body])
    (h : checkPlace descriptor.kind topLevel location = .error error) :
    HasFault start definition error := by
  unfold checkPlace at h
  by_cases hmisplaced : descriptor.kind.isTopLevelOnly ∧ !topLevel
  · rw [if_pos hmisplaced] at h
    cases h
    have hkind : descriptor.kind ∈ [.record, .params, .query, .procedure] := by
      by_contra hother
      rw [Kind.isTopLevelOnly_eq_false_iff.2 hother] at hmisplaced
      exact Bool.false_ne_true hmisplaced.1
    -- The fault is told only below a definition.
    have hbelow : topLevel = false := by simpa using hmisplaced.2
    exact ⟨place, location, descriptor, hstands, .misplaced (hplace hbelow) hkind⟩
  · rw [if_neg hmisplaced] at h
    cases h

/-- The faults of parameters: a name that is not declared, or a parameter that can be none. -/
theorem hasFault_of_params {schema : ParamsSchema}
    (hstands : StandsAt start definition place location (.params schema))
    (h : schema.checkStructure location = .error error) : HasFault start definition error := by
  unfold ParamsSchema.checkStructure at h
  rcases then_eq_error.1 h with h | ⟨-, h⟩
  · obtain ⟨name, hmem, hmissing, rfl⟩ := checkRequired_eq_error h
    exact ⟨place, location, _, hstands, .params hmem hmissing⟩
  · obtain ⟨earlier, ⟨name, parameter⟩, later, hsplit, -, h⟩ := forM_eq_error.1 h
    have hmem : (name, parameter) ∈ schema.properties := by
      rw [hsplit]
      exact List.mem_append_right _ List.mem_cons_self
    dsimp only at h
    by_cases hdescribes : parameter.describesParameter
    · rw [if_pos hdescribes] at h
      cases h
    · rw [if_neg hdescribes] at h
      cases h
      have hother : ¬ IsParameter parameter := mt describesParameter_iff.2 hdescribes
      exact ⟨.parameter, _, parameter, hstands.parameter hmem, .parameter hother⟩

/-- A check of the parameters of a call tells a fault in them. -/
theorem hasFault_of_checkParameters {parameters : Option ParamsSchema}
    (hstands : StandsAt start definition place location descriptor)
    (hcall : Registry.HasParameters parameters descriptor)
    (h : checkParameters location parameters = .error error) : HasFault start definition error := by
  cases parameters with
  | none => cases h
  | some schema => exact hasFault_of_params (hstands.parameters hcall) h

/-- **The check tells a fault.**  By induction on the descriptor.  What it holds is checked as
    standing below a definition, and it is a property, the items of an array or the schema of a
    body. -/
theorem hasFault_of_checkStructure
    (hstands : StandsAt start definition place location descriptor)
    (hplace : topLevel = false → place ∈ [.items, .property, .body])
    (h : descriptor.checkStructure topLevel location = .error error) :
    HasFault start definition error := by
  induction descriptor using induction_children generalizing place topLevel location with
  | step descriptor ih =>
    -- The faults of what a descriptor holds are faults of the definition.
    have hchild {child : Descriptor} {place : Place} {location : Location}
        (hmem : child ∈ descriptor.children)
        (hstands : StandsAt start definition place location child)
        (hplace : place ∈ [.items, .property, .body])
        (h : child.checkStructure false location = .error error) :
        HasFault start definition error :=
      ih child hmem hstands (fun _ => hplace) h
    have hobject {schema : ObjectSchema} {place : Place} {location : Location}
        (hsub : ∀ child ∈ schema.properties.map Prod.snd, child ∈ descriptor.children)
        (hstands : StandsAt start definition place location (.object schema))
        (h : schema.checkStructure location = .error error) :
        HasFault start definition error := by
      obtain ⟨description, properties, required, nullable⟩ := schema
      rw [ObjectSchema.checkStructure] at h
      -- Required names are looked at first, and then the properties in order.
      rcases then_eq_error.1 h with h | ⟨-, h⟩
      · obtain ⟨name, hmem, hmissing, rfl⟩ := checkRequired_eq_error h
        exact ⟨place, location, _, hstands, .object hmem hmissing⟩
      · obtain ⟨⟨name, property⟩, hmem, h⟩ := checkProperties_eq_error h
        exact hchild (hsub _ (List.mem_map_of_mem hmem)) (hstands.property hmem) (by decide) h
    have hbody {side : String} {body : Option Body}
        (hsub : ∀ child ∈ Body.children body, child ∈ descriptor.children)
        (hside : ∀ schema, body.bind Body.schema = some schema → HasBody descriptor side schema)
        (h : Body.checkStructure (location.child side) body = .error error) :
        HasFault start definition error := by
      obtain ⟨schema, hschema, h⟩ := checkBody_eq_error h
      have hmem : schema ∈ Body.children body := Option.mem_toList.2 hschema
      exact hchild (hsub schema hmem) (hstands.body (hside schema hschema)) (by decide) h
    cases descriptor with
    | boolean | integer | string | bytes | cidLink | blob | token | unknown => cases h
    | ref description target =>
      rw [checkStructure] at h
      obtain ⟨hcount, rfl⟩ := checkReference_eq_error h
      exact ⟨place, location, _, hstands, .reference List.mem_cons_self hcount⟩
    | union description members closed =>
      rw [checkStructure] at h
      -- The members are looked at in order, up to the first that cannot be a reference.
      obtain ⟨earlier, member, later, rfl, -, h⟩ := forM_eq_error.1 h
      obtain ⟨hcount, rfl⟩ := checkReference_eq_error h
      have hmem : member ∈ earlier ++ member :: later :=
        List.mem_append_right _ List.mem_cons_self
      exact ⟨place, location, _, hstands, .reference hmem hcount⟩
    | array description items rules =>
      rw [checkStructure] at h
      exact hchild (List.mem_singleton_self _) hstands.items (by decide) h
    | object schema =>
      rw [checkStructure] at h
      exact hobject (fun _ hmem => hmem) hstands h
    -- From here on the kinds stand at the top level only, which is checked before what they hold.
    | record description key schema =>
      rw [checkStructure] at h
      rcases then_eq_error.1 h with h | ⟨-, h⟩
      · exact hasFault_of_checkPlace hstands hplace h
      · exact hobject (fun _ hmem => hmem) hstands.record h
    | params schema =>
      rw [checkStructure] at h
      rcases then_eq_error.1 h with h | ⟨-, h⟩
      · exact hasFault_of_checkPlace hstands hplace h
      · exact hasFault_of_params hstands h
    | query description parameters output errors =>
      rw [checkStructure] at h
      rcases then_eq_error.1 h with h | ⟨-, h⟩
      · exact hasFault_of_checkPlace hstands hplace h
      rcases then_eq_error.1 h with h | ⟨-, h⟩
      · exact hasFault_of_checkParameters hstands .query h
      · exact hbody (fun _ hmem => List.mem_append_right _ hmem) (fun _ => .output) h
    | procedure description parameters input output errors =>
      rw [checkStructure] at h
      rcases then_eq_error.1 h with h | ⟨-, h⟩
      · exact hasFault_of_checkPlace hstands hplace h
      rcases then_eq_error.1 h with h | ⟨-, h⟩
      · exact hasFault_of_checkParameters hstands .procedure h
      rcases then_eq_error.1 h with h | ⟨-, h⟩
      · exact hbody (fun _ hmem => List.mem_append_left _ (List.mem_append_right _ hmem))
          (fun _ => .input) h
      · exact hbody (fun _ hmem => List.mem_append_right _ hmem) (fun _ => .answer) h

end Descriptor

namespace Document

variable {document : Document}

/-- A definition passes iff it is well formed: it may be of any kind. -/
theorem checkStructure_definition {definition : Descriptor} {location : Location} :
    definition.checkStructure true location = .ok () ↔ definition.WellFormed := by
  rw [Descriptor.checkStructure_eq_ok_iff]
  simp

/-- The check of a document: its version, its identifier, and its definitions in order. -/
theorem checkStructure_eq : document.checkStructure =
    if document.version ≠ 1 then .error (.invalidVersion document.version)
    else if Nsid.isValid document.id = false then .error (.invalidNsid document.id)
    else document.definitions.forM fun definition =>
      definition.2.checkStructure true (document.id ++ "#" ++ definition.1) := by
  unfold checkStructure
  by_cases hversion : document.version = 1
  · cases hid : Nsid.isValid document.id
    · simp [hversion, currentVersion]
    · simp [hversion, currentVersion]
      rfl
  · simp [hversion, currentVersion]

/-- The fault of a document: its version comes first, then its identifier, and then the first of its
    definitions that is ill formed. -/
theorem fault_of_checkStructure {error : ReadError} (h : document.checkStructure = .error error) :
    if document.version ≠ 1 then error = .invalidVersion document.version
    else if Nsid.isValid document.id = false then error = .invalidNsid document.id
    else ∃ earlier name definition later,
      document.definitions = earlier ++ (name, definition) :: later ∧
      (∀ other ∈ earlier, other.2.WellFormed) ∧ ¬ definition.WellFormed ∧
      Descriptor.HasFault (document.id ++ "#" ++ name) definition error := by
  rw [checkStructure_eq] at h
  by_cases hversion : document.version ≠ 1
  · rw [if_pos hversion] at h ⊢
    exact (Except.error.inj h).symm
  rw [if_neg hversion] at h ⊢
  by_cases hid : Nsid.isValid document.id = false
  · rw [if_pos hid] at h ⊢
    exact (Except.error.inj h).symm
  rw [if_neg hid] at h ⊢
  -- With the version and the identifier as they should be, a definition is at fault.
  obtain ⟨earlier, ⟨name, definition⟩, later, hsplit, hearlier, h⟩ := forM_eq_error.1 h
  refine ⟨earlier, name, definition, later, hsplit, ?_, ?_, ?_⟩
  · exact fun other hmem => checkStructure_definition.1 (hearlier other hmem)
  · intro hwellFormed
    rw [checkStructure_definition.2 hwellFormed] at h
    cases h
  · exact Descriptor.hasFault_of_checkStructure .definition Bool.noConfusion h

/-- **The check of the structure is exact.**  A document passes iff its version is the first, its
    identifier is a namespaced one, and all its definitions are well formed.  When it fails, the
    version is told before the identifier and this before any definition; otherwise the first
    ill-formed definition is at fault, and the location that is told is that of a descriptor within
    it which has the fault. -/
theorem structure_check_is_exact (document : Document) :
    (document.checkStructure = .ok () ↔
      document.version = 1 ∧ Nsid.isValid document.id = true ∧
        ∀ name definition, (name, definition) ∈ document.definitions → definition.WellFormed) ∧
    ∀ error, document.checkStructure = .error error →
      if document.version ≠ 1 then error = .invalidVersion document.version
      else if Nsid.isValid document.id = false then error = .invalidNsid document.id
      else ∃ earlier name definition later,
        document.definitions = earlier ++ (name, definition) :: later ∧
        (∀ other ∈ earlier, other.2.WellFormed) ∧ ¬ definition.WellFormed ∧
        Descriptor.HasFault (document.id ++ "#" ++ name) definition error := by
  constructor
  · rw [checkStructure_eq_ok]
    refine and_congr_right fun _ => and_congr_right fun _ => ?_
    exact forall₃_congr fun name definition _ => checkStructure_definition
  · intro error h
    exact fault_of_checkStructure h

/-- A ledger, whose main definition refers to the owners of its entries in a way that cannot be. -/
def ledger : Document :=
  { Document.empty "com.example.ledger" with definitions := [
      ("entry", .object ⟨none, [("amount", .integer none {})], ["amount"], []⟩),
      ("main", .procedure none none none
        (some ⟨none, "application/json", some (.array none
          (.object ⟨none, [("owner", .ref none "com.example.people#a#b")], [], []⟩) {})⟩) none)] }

/-- The fault is in a property of the items of what the procedure answers with. -/
theorem structure_check_is_exact_ledger :
    ledger.checkStructure = .error (.invalidReference "com.example.people#a#b"
      "com.example.ledger#main/output/schema/items/owner") ∧
    ∃ earlier name definition later,
      ledger.definitions = earlier ++ (name, definition) :: later ∧
      (∀ other ∈ earlier, other.2.WellFormed) ∧ ¬ definition.WellFormed ∧
      Descriptor.HasFault ("com.example.ledger" ++ "#" ++ name) definition
        (.invalidReference "com.example.people#a#b"
          "com.example.ledger#main/output/schema/items/owner") := by
  have hversion : ledger.version = 1 := rfl
  have hid : Nsid.isValid ledger.id = true := by cbv
  have hfails : ledger.checkStructure = .error (.invalidReference "com.example.people#a#b"
      "com.example.ledger#main/output/schema/items/owner") := by
    rw [checkStructure_eq, hid]
    simp [ledger, Document.empty, currentVersion, Descriptor.checkStructure, checkPlace,
      checkParameters, Body.checkStructure, ObjectSchema.checkStructure, checkRequired,
      Assoc.hasKey, Descriptor.checkProperties, checkReference, Location.child]
  have hfault := (structure_check_is_exact ledger).2 _ hfails
  rw [if_neg (not_not_intro hversion), hid, if_neg Bool.noConfusion] at hfault
  exact ⟨hfails, hfault⟩

end Document

end Lexicon
