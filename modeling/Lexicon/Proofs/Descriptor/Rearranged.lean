import Lexicon.Proofs.Conformance.Roles
import Lexicon.Proofs.Descriptor.Induction
import Mathlib.Data.List.Forall2

namespace Lexicon

open Lexicon.Outcome

/-!
# Schemas in another order

A schema has its definitions, its properties and its choices in some order, and may give a choice
more than once.

* `SameMembers` — two lists have the same members, in any order and however often;
* `StringRules.Rearranged`, `IntegerRules.Rearranged`, `BlobRules.Rearranged` — rules that list the
  same choices;
* `Descriptor.Rearranged` — descriptors that differ in the order of their parts only, at any depth,
  with one rule for each kind;
* `Document.Rearranged`, `Registry.Rearranged` — the same for documents and registries;
* `lookUp_rearranged` — what an address leads to is rearranged, or missing in both registries.
-/

/-! ### Lists of choices -/

/-- The lists have the same members, in any order and however often. -/
def SameMembers {α : Type} (first second : List α) : Prop :=
  ∀ a, a ∈ first ↔ a ∈ second

namespace SameMembers

variable {α β : Type} {first second : List α}

theorem refl (list : List α) : SameMembers list list :=
  fun _ => Iff.rfl

theorem of_perm (h : first.Perm second) : SameMembers first second :=
  fun _ => h.mem_iff

theorem map (h : SameMembers first second) (f : α → β) :
    SameMembers (first.map f) (second.map f) := by
  intro b
  rw [List.mem_map, List.mem_map]
  exact exists_congr fun a => and_congr_left fun _ => h a

end SameMembers

/-- Strings with the same rules, up to the order of what is allowed. -/
def StringRules.Rearranged (rules rules' : StringRules) : Prop :=
  ∃ allowed, Option.Rel SameMembers rules.allowed allowed ∧ rules' = { rules with allowed }

/-- Integers with the same rules, up to the order of what is allowed. -/
def IntegerRules.Rearranged (rules rules' : IntegerRules) : Prop :=
  ∃ allowed, Option.Rel SameMembers rules.allowed allowed ∧ rules' = { rules with allowed }

/-- Blobs with the same rules, up to the order of the patterns. -/
def BlobRules.Rearranged (rules rules' : BlobRules) : Prop :=
  ∃ accept, Option.Rel SameMembers rules.accept accept ∧ rules' = { rules with accept }

/-! ### Descriptors -/

mutual

/-- The descriptors differ in the order of their parts only, at any depth. -/
inductive Descriptor.Rearranged : Descriptor → Descriptor → Prop where
  | boolean {description rules} :
      Descriptor.Rearranged (.boolean description rules) (.boolean description rules)
  | integer {description rules rules'} :
      IntegerRules.Rearranged rules rules' →
      Descriptor.Rearranged (.integer description rules) (.integer description rules')
  | string {description format rules rules'} :
      StringRules.Rearranged rules rules' →
      Descriptor.Rearranged (.string description format rules) (.string description format rules')
  | bytes {description rules} :
      Descriptor.Rearranged (.bytes description rules) (.bytes description rules)
  | cidLink {description} :
      Descriptor.Rearranged (.cidLink description) (.cidLink description)
  | blob {description rules rules'} :
      BlobRules.Rearranged rules rules' →
      Descriptor.Rearranged (.blob description rules) (.blob description rules')
  | array {description items items' rules} :
      Descriptor.Rearranged items items' →
      Descriptor.Rearranged (.array description items rules) (.array description items' rules)
  | object {schema schema'} :
      ObjectSchema.Rearranged schema schema' →
      Descriptor.Rearranged (.object schema) (.object schema')
  | token {description} :
      Descriptor.Rearranged (.token description) (.token description)
  | union {description members members' closed} :
      SameMembers members members' →
      Descriptor.Rearranged (.union description members closed)
        (.union description members' closed)
  | unknown {description} :
      Descriptor.Rearranged (.unknown description) (.unknown description)
  | ref {description target} :
      Descriptor.Rearranged (.ref description target) (.ref description target)
  | record {description key schema schema'} :
      ObjectSchema.Rearranged schema schema' →
      Descriptor.Rearranged (.record description key schema) (.record description key schema')
  | params {schema schema'} :
      ParamsSchema.Rearranged schema schema' →
      Descriptor.Rearranged (.params schema) (.params schema')
  | query {description parameters parameters' output output' errors} :
      Option.Rel ParamsSchema.Rearranged parameters parameters' →
      Option.Rel Body.Rearranged output output' →
      Descriptor.Rearranged (.query description parameters output errors)
        (.query description parameters' output' errors)
  | procedure {description parameters parameters' input input' output output' errors} :
      Option.Rel ParamsSchema.Rearranged parameters parameters' →
      Option.Rel Body.Rearranged input input' → Option.Rel Body.Rearranged output output' →
      Descriptor.Rearranged (.procedure description parameters input output errors)
        (.procedure description parameters' input' output' errors)

/-- The entries have the same name, and descriptors that are rearranged. -/
inductive Descriptor.EntryRearranged : String × Descriptor → String × Descriptor → Prop where
  | mk {name descriptor descriptor'} :
      Descriptor.Rearranged descriptor descriptor' →
      Descriptor.EntryRearranged (name, descriptor) (name, descriptor')

/-- The entries are the same in another order, each of them rearranged in turn. -/
inductive Descriptor.EntriesRearranged :
    List (String × Descriptor) → List (String × Descriptor) → Prop where
  | mk {entries middle entries'} :
      List.Forall₂ Descriptor.EntryRearranged entries middle → middle.Perm entries' →
      Descriptor.EntriesRearranged entries entries'

/-- The object schemas differ in the order of their parts only. -/
inductive ObjectSchema.Rearranged : ObjectSchema → ObjectSchema → Prop where
  | mk {description properties properties' required required' nullable nullable'} :
      Descriptor.EntriesRearranged properties properties' →
      SameMembers required required' → SameMembers nullable nullable' →
      ObjectSchema.Rearranged ⟨description, properties, required, nullable⟩
        ⟨description, properties', required', nullable'⟩

/-- The parameter schemas differ in the order of their parts only. -/
inductive ParamsSchema.Rearranged : ParamsSchema → ParamsSchema → Prop where
  | mk {description properties properties' required required'} :
      Descriptor.EntriesRearranged properties properties' → SameMembers required required' →
      ParamsSchema.Rearranged ⟨description, properties, required⟩
        ⟨description, properties', required'⟩

/-- The bodies have schemas that differ in the order of their parts only. -/
inductive Body.Rearranged : Body → Body → Prop where
  | mk {description encoding schema schema'} :
      Option.Rel Descriptor.Rearranged schema schema' →
      Body.Rearranged ⟨description, encoding, schema⟩ ⟨description, encoding, schema'⟩

end

/-- The documents differ in the order of their definitions, whose names differ from each other, and
    in the order of the parts of these. -/
inductive Document.Rearranged : Document → Document → Prop where
  | mk {document : Document} {definitions : List (String × Descriptor)} :
      (Assoc.keys document.definitions).Nodup →
      Descriptor.EntriesRearranged document.definitions definitions →
      Document.Rearranged document { document with definitions }

/-- The registries have the same settings, and documents that are rearranged one by one. -/
structure Registry.Rearranged (registry registry' : Registry) : Prop where
  settings : registry.settings = registry'.settings
  documents : List.Forall₂ Document.Rearranged registry.documents registry'.documents

/-! ### Nothing rearranged -/

theorem Descriptor.EntriesRearranged.refl {entries : List (String × Descriptor)}
    (h : ∀ descriptor ∈ entries.map Prod.snd, descriptor.Rearranged descriptor) :
    EntriesRearranged entries entries := by
  refine .mk (List.forall₂_same.2 fun entry hmem => ?_) (.refl _)
  exact .mk (h entry.2 (List.mem_map_of_mem hmem))

theorem ObjectSchema.Rearranged.refl {schema : ObjectSchema}
    (h : ∀ child ∈ schema.properties.map Prod.snd, child.Rearranged child) :
    schema.Rearranged schema := by
  cases schema
  exact .mk (.refl h) (.refl _) (.refl _)

theorem ParamsSchema.Rearranged.refl {schema : ParamsSchema}
    (h : ∀ child ∈ schema.properties.map Prod.snd, child.Rearranged child) :
    schema.Rearranged schema := by
  cases schema
  exact .mk (.refl h) (.refl _)

theorem ParamsSchema.Rearranged.refl_option {parameters : Option ParamsSchema}
    (h : ∀ child ∈ ParamsSchema.children parameters, child.Rearranged child) :
    Option.Rel ParamsSchema.Rearranged parameters parameters := by
  refine relOption_refl fun schema hschema => .refl fun child hchild => h child ?_
  exact List.mem_flatMap.2 ⟨schema, Option.mem_toList.2 hschema, hchild⟩

/-- A body is a rearrangement of itself if its schema is. -/
theorem Body.Rearranged.refl_option {body : Option Body}
    (h : ∀ child ∈ Body.children body, child.Rearranged child) :
    Option.Rel Body.Rearranged body body := by
  refine relOption_refl fun given hgiven => ?_
  obtain ⟨description, encoding, schema⟩ := given
  refine .mk (relOption_refl fun child hchild => h child ?_)
  rw [Body.children, Option.mem_toList]
  exact Option.bind_eq_some_iff.2 ⟨_, hgiven, hchild⟩

/-- A descriptor is a rearrangement of itself. -/
theorem Descriptor.Rearranged.refl (descriptor : Descriptor) :
    descriptor.Rearranged descriptor := by
  induction descriptor using Descriptor.induction_children with
  | step descriptor ih =>
    cases descriptor with
    | boolean => exact .boolean
    | integer => exact .integer ⟨_, relOption_refl fun list _ => .refl list, rfl⟩
    | string => exact .string ⟨_, relOption_refl fun list _ => .refl list, rfl⟩
    | bytes => exact .bytes
    | cidLink => exact .cidLink
    | blob => exact .blob ⟨_, relOption_refl fun list _ => .refl list, rfl⟩
    | array description items rules => exact .array (ih items (List.mem_singleton.2 rfl))
    | object schema => exact .object (.refl ih)
    | token => exact .token
    | union => exact .union (.refl _)
    | unknown => exact .unknown
    | ref => exact .ref
    | record description key schema => exact .record (.refl ih)
    | params schema => exact .params (.refl ih)
    -- The children of a call are listed one part after the other.
    | query =>
      refine .query (ParamsSchema.Rearranged.refl_option fun child hmem => ih child ?_)
        (Body.Rearranged.refl_option fun child hmem => ih child ?_)
      · exact List.mem_append_left _ hmem
      · exact List.mem_append_right _ hmem
    | procedure =>
      refine .procedure (ParamsSchema.Rearranged.refl_option fun child hmem => ih child ?_)
        (Body.Rearranged.refl_option fun child hmem => ih child ?_)
        (Body.Rearranged.refl_option fun child hmem => ih child ?_)
      · exact List.mem_append_left _ (List.mem_append_left _ hmem)
      · exact List.mem_append_left _ (List.mem_append_right _ hmem)
      · exact List.mem_append_right _ hmem

/-! ### Entries -/

namespace Descriptor

variable {entries middle entries' : List (String × Descriptor)}

/-- Properties that are rearranged in their places keep their names. -/
theorem keys_eq_of_forall₂ (h : List.Forall₂ EntryRearranged entries middle) :
    Assoc.keys entries = Assoc.keys middle := by
  induction h with
  | nil => rfl
  | cons hhead _ ih =>
    obtain ⟨_⟩ := hhead
    rw [Assoc.keys_cons, Assoc.keys_cons, ih]

/-- Properties that are rearranged in their places are found under the same names. -/
theorem lookup_of_forall₂ (h : List.Forall₂ EntryRearranged entries middle) (name : String) :
    Option.Rel Descriptor.Rearranged (entries.lookup name) (middle.lookup name) := by
  induction h with
  | nil => exact .none
  | cons hhead _ ih =>
    obtain ⟨hdescriptor⟩ := hhead
    rw [Assoc.lookup_cons, Assoc.lookup_cons]
    split
    · exact .some hdescriptor
    · exact ih

namespace EntriesRearranged

/-- What is asked of every entry is asked of the same entries in both lists. -/
theorem forall_mem_iff (h : EntriesRearranged entries entries') {P Q : String → Descriptor → Prop}
    (hentry : ∀ name descriptor descriptor', descriptor.Rearranged descriptor' →
      (P name descriptor ↔ Q name descriptor')) :
    (∀ name descriptor, (name, descriptor) ∈ entries → P name descriptor) ↔
      ∀ name descriptor, (name, descriptor) ∈ entries' → Q name descriptor := by
  obtain @⟨_, middle, _, hforall, hperm⟩ := h
  -- The descriptors change in their places first, and then the entries change places.
  have hmiddle : (∀ entry ∈ entries, P entry.1 entry.2) ↔ ∀ entry ∈ middle, Q entry.1 entry.2 := by
    clear hperm
    induction hforall with
    | nil => simp
    | cons hhead _ ih =>
      obtain ⟨hdescriptor⟩ := hhead
      rw [List.forall_mem_cons, List.forall_mem_cons, hentry _ _ _ hdescriptor, ih]
  simp only [Prod.forall] at hmiddle
  simp only [hmiddle, hperm.mem_iff]

/-- Where names differ from each other, look-up finds a name in neither list, or descriptors that
    are rearranged. -/
theorem lookup (h : EntriesRearranged entries entries') (hnames : (Assoc.keys entries).Nodup)
    (name : String) :
    Option.Rel Descriptor.Rearranged (entries.lookup name) (entries'.lookup name) := by
  obtain ⟨hforall, hperm⟩ := h
  rw [keys_eq_of_forall₂ hforall] at hnames
  have hnames' : (Assoc.keys entries').Nodup := (hperm.map Prod.fst).nodup_iff.1 hnames
  rw [← Assoc.lookup_eq_of_perm hperm hnames']
  exact lookup_of_forall₂ hforall name

end EntriesRearranged

end Descriptor

/-! ### Look-up -/

/-- A document keeps its identifier. -/
theorem Document.Rearranged.id_eq {document document' : Document}
    (h : document.Rearranged document') : document'.id = document.id := by
  cases h
  rfl

/-- Definitions are found under the same names in a rearranged document. -/
theorem Document.Rearranged.find? {document document' : Document}
    (h : document.Rearranged document') (name : String) :
    Option.Rel Descriptor.Rearranged (document.find? name) (document'.find? name) := by
  obtain ⟨hnames, hdefinitions⟩ := h
  exact hdefinitions.lookup hnames name

namespace Registry

variable {registry registry' : Registry}

/-- Under one identifier there are rearranged documents in both registries, or none in either. -/
theorem find?_rearranged (h : registry.Rearranged registry') (id : String) :
    Option.Rel Document.Rearranged (registry.find? id) (registry'.find? id) := by
  unfold find?
  obtain ⟨-, hdocuments⟩ := h
  generalize registry.documents = documents at hdocuments
  generalize registry'.documents = documents' at hdocuments
  induction hdocuments with
  | nil => exact .none
  | cons hhead _ ih =>
    rw [List.find?_cons, List.find?_cons, hhead.id_eq]
    split
    · exact .some hhead
    · exact ih

/-- What an address leads to is rearranged, or missing in both registries. -/
theorem lookUp_rearranged (h : registry.Rearranged registry') (address : Address) :
    Related Descriptor.Rearranged (registry.lookUp address) (registry'.lookUp address) := by
  unfold lookUp resolve
  rcases relOption_cases (find?_rearranged h address.document) with
    ⟨hnone, hnone'⟩ | ⟨document, document', hfound, hfound', hdocument⟩
  · rw [hnone, hnone']
    exact .error _
  · rw [hfound, hfound']
    dsimp only
    rcases relOption_cases (hdocument.find? address.name) with
      ⟨hnone, hnone'⟩ | ⟨definition, definition', hname, hname', hdefinition⟩
    · rw [hnone, hnone']
      exact .error _
    · rw [hname, hname']
      exact .ok hdefinition

end Registry

end Lexicon
