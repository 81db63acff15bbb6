import Lexicon.Document.Structure
import Lexicon.Proofs.Document.Keys
import Lexicon.Proofs.Document.Slot
import Lexicon.Proofs.Document.Structure
import Mathlib

namespace Lexicon

open Lexicon.Json
open Lexicon.Outcome

/-!
# Where undeclared keys are found

Data are gone through twice: once for their keys, and once to be read.  The walk for the keys goes by
the kinds that objects name, whereas the reader knows in some places which kind to expect.  The two
agree on what is written openly: as an object, which names its kind if it is to have one.

* `Slot.IsOpen` — a part is written openly;
* `Slot.KeysDeclared` — a part has the keys that are declared, and no others;
* `Slot.Passes.of_holds` — one step of the walk for the keys;
* `declared_of_read` — in data that are read as a document, every part has declared keys only, if it
  and all its holders are written openly;
* `undeclared_key_of_untyped_record` — a record that does not name its kind may have other keys.
-/

namespace Slot

/-! ### Parts that are written openly -/

/-- A part is written openly: it is an object, and one that is read as a descriptor, a record or
    parameters names its kind. -/
def IsOpen (slot : Slot) (json : Json) : Prop :=
  match slot with
  | descriptor _ => ∃ name, json.get? "type" = some (.string name)
  | record => json.get? "type" = some (.string Kind.object.name)
  | parameters => json.get? "type" = some (.string Kind.params.name)
  | body | callError => ∃ fields, json = .object fields

/-- A part has only keys that are declared for it. -/
def KeysDeclared (slot : Slot) (json : Json) : Prop :=
  match slot with
  | body => ∀ fields, json = .object fields →
      Assoc.keys fields ⊆ ["description", "encoding", "schema"]
  | callError => ∀ fields, json = .object fields → Assoc.keys fields ⊆ ["name", "description"]
  | slot => ∀ kind fields, slot.readAs? json = some (kind, fields) →
      Assoc.keys fields ⊆ "type" :: "description" :: kind.declaredKeys

/-! ### The walk for the keys -/

/-- The walk for the keys has gone through a part. -/
def Passes (slot : Slot) (json : Json) : Prop :=
  match slot with
  | body => ∃ location, checkBodyKeys location json = .ok ()
  | callError => ∀ fields, json = .object fields → Assoc.keys fields ⊆ ["name", "description"]
  | _ => ∃ location, checkDescriptorKeys location json = .ok ()

/-- The reader and the walk see the same kind and the same fields in a part that is written
    openly. -/
theorem namedKind?_of_readAs? {slot : Slot} {json : Json} {kind : Kind}
    {fields : List (String × Json)} (hopen : slot.IsOpen json)
    (hread : slot.readAs? json = some (kind, fields)) :
    json = .object fields ∧ namedKind? fields = some kind := by
  have hobject {tag : Json} (htag : json.get? "type" = some tag) :
      ∃ entries, json = .object entries ∧ entries.lookup "type" = some tag := by
    cases json with
    | object entries => exact ⟨entries, rfl, htag⟩
    | _ => cases htag
  cases slot with
  | descriptor nested =>
    obtain ⟨name, htag⟩ := hopen
    obtain ⟨entries, rfl, hentries⟩ := hobject htag
    obtain ⟨parts, hparts, hplain⟩ := exists_entryParts?_object entries
    -- The kind is named in an object, so that the reader has its entries for the parts.
    have htagged : taggedParts? nested (.object entries) =
        (Kind.ofName? name).map fun kind => (kind, parts) := by
      have hitems : (Json.object entries).itemParts? = none := rfl
      rw [taggedParts?, hitems]
      simp only [hparts, requiredAt?, hplain, hentries, Option.bind_eq_bind, Option.bind_some,
        Kind.ofTag?, Option.pure_def, Option.map_eq_bind, Function.comp_def]
    rw [readAs?, htagged] at hread
    have hkind : namedKind? entries = Kind.ofName? name := by
      rw [namedKind?, hentries]
      rfl
    -- The reader knows the name, since it has read the part.
    cases hname : Kind.ofName? name with
    | none =>
      rw [hname] at hread
      cases hread
    | some found =>
      simp only [hname, Option.map_some, hplain, Option.some.injEq, Prod.mk.injEq] at hread
      obtain ⟨rfl, rfl⟩ := hread
      exact ⟨rfl, hkind.trans hname⟩
  -- Records and parameters have their kind from their slot; written openly, they name the same.
  | record =>
    obtain ⟨entries, rfl, hentries⟩ := hobject hopen
    obtain ⟨parts, hparts, hplain⟩ := exists_fieldParts?_object
      ["description", "properties", "required", "nullable"] 1 entries
    rw [readAs?, hparts, Option.map_some, hplain] at hread
    cases hread
    refine ⟨rfl, ?_⟩
    rw [namedKind?, hentries]
    rfl
  | parameters =>
    obtain ⟨entries, rfl, hentries⟩ := hobject hopen
    obtain ⟨parts, hparts, hplain⟩ := exists_fieldParts?_object
      ["description", "properties", "required"] 1 entries
    rw [readAs?, hparts, Option.map_some, hplain] at hread
    cases hread
    refine ⟨rfl, ?_⟩
    rw [namedKind?, hentries]
    rfl
  -- The other slots have no kind.
  | body | callError => cases hread

/-- A part that is read as a descriptor has been walked as one, at some location. -/
theorem Passes.exists_location {slot : Slot} {json : Json} (hpasses : slot.Passes json)
    {kind : Kind} {fields : List (String × Json)} (hread : slot.readAs? json = some (kind, fields)) :
    ∃ location, checkDescriptorKeys location json = .ok () := by
  cases slot with
  | descriptor | record | parameters => exact hpasses
  | body | callError => cases hread

/-- What the walk for the keys finds in a part that is written openly: its keys are declared, and it
    goes on in all that is below. -/
theorem Passes.exists_partsPass {slot : Slot} {json : Json} (hpasses : slot.Passes json)
    (hopen : slot.IsOpen json) {kind : Kind} {fields : List (String × Json)}
    (hread : slot.readAs? json = some (kind, fields)) :
    Assoc.keys fields ⊆ "type" :: "description" :: kind.declaredKeys ∧
      ∃ location, PartsPass location fields := by
  obtain ⟨location, hcheck⟩ := hpasses.exists_location hread
  obtain ⟨rfl, hkind⟩ := namedKind?_of_readAs? hopen hread
  obtain ⟨hkeys, hparts⟩ := (checkDescriptorKeys_object hkind).1 hcheck
  exact ⟨hkeys, location, hparts⟩

/-- Where the kind is written openly, the walk and the reader see the same kind, so its keys are
    declared. -/
theorem Passes.keysDeclared {slot : Slot} {json : Json} (hpasses : slot.Passes json)
    (hopen : slot.IsOpen json) : slot.KeysDeclared json := by
  cases slot with
  | descriptor | record | parameters =>
    intro kind fields hread
    exact (hpasses.exists_partsPass hopen hread).1
  | body =>
    rintro fields rfl
    obtain ⟨location, hcheck⟩ := hpasses
    exact (checkBodyKeys_object.1 hcheck).1
  | callError => exact hpasses

/-- **One step of the walk.**  Where the walk has gone through a part that is written openly, it has
    gone through every part that is read from it. -/
theorem Passes.of_holds {slot slot' : Slot} {json part : Json} (hpasses : slot.Passes json)
    (hopen : slot.IsOpen json) (hholds : Holds slot json slot' part) : slot'.Passes part := by
  cases hholds with
  | @field _ _ _ fields key _ _ hread _ hbelow hlookup _ =>
    obtain ⟨-, location, hitems, hrecord, hparameters, -, hinput, houtput, -⟩ :=
      hpasses.exists_partsPass hopen hread
    simp only [below, List.mem_cons, Prod.mk.injEq, List.not_mem_nil, or_false] at hbelow
    -- The walk enters each of the fields that hold a part.
    obtain ⟨rfl, rfl⟩ | ⟨rfl, rfl⟩ | ⟨rfl, rfl⟩ | ⟨rfl, rfl⟩ | ⟨rfl, rfl⟩ := hbelow
    · exact ⟨_, hitems part hlookup⟩
    · exact ⟨_, hrecord part hlookup⟩
    · exact ⟨_, hparameters part hlookup⟩
    · exact ⟨_, hinput part hlookup⟩
    · exact ⟨_, houtput part hlookup⟩
  | property hread _ hlookup hmem =>
    obtain ⟨-, location, -, -, -, hproperties, -, -, -⟩ := hpasses.exists_partsPass hopen hread
    exact ⟨_, checkPropertyKeys_object.1 (hproperties _ hlookup) _ hmem⟩
  | error hread _ hlookup hmem =>
    obtain ⟨-, location, -, -, -, -, -, -, herrors⟩ := hpasses.exists_partsPass hopen hread
    rintro fields rfl
    exact checkErrorKeys_array.1 (herrors _ hlookup) fields hmem
  | schema hparts hlookup _ =>
    obtain ⟨fields, rfl⟩ := hopen
    obtain ⟨location, hcheck⟩ := hpasses
    obtain ⟨parts', hparts', hplain⟩ := exists_fieldParts?_object
      ["description", "encoding", "schema"] 3 fields
    -- The body is an object, so that its fields are its entries.
    cases hparts.symm.trans hparts'
    rw [hplain] at hlookup
    exact ⟨_, (checkBodyKeys_object.1 hcheck).2 part hlookup⟩

end Slot

/-! ### Documents -/

/-- The walk for the keys goes through all parts that are held openly. -/
theorem passes_of_contains {json : Json} (h : checkDocumentKeys json = .ok ()) {slot : Slot}
    {part : Json} (hcontains : Contains Slot.IsOpen json slot part) : slot.Passes part := by
  induction hcontains with
  | definition hdefinitions hmem =>
    unfold checkDocumentKeys at h
    rw [hdefinitions] at h
    exact ⟨_, forM_eq_ok.1 h _ hmem⟩
  | held _ hopen hholds ih => exact ih.of_holds hopen hholds

/-- **No undeclared key passes in what is written openly.**  In data that are read as a document,
    every part whose holders are written openly is read as what it stands for, and if it is written
    openly itself, then all its keys are declared. -/
theorem declared_of_read {json : Json} {document : Document}
    (h : Document.read json = .ok document) {slot : Slot} {part : Json}
    (hcontains : Contains Slot.IsOpen json slot part) :
    slot.Reads part ∧ (slot.IsOpen part → slot.KeysDeclared part) := by
  obtain ⟨hkeys, hshape, -⟩ := Document.read_eq_ok.1 h
  refine ⟨reads_of_contains hshape hcontains, fun hopen => ?_⟩
  exact (passes_of_contains hkeys hcontains).keysDeclared hopen

/-! ### Two records -/

/-- A document with a record for its main definition. -/
def recordData (record : Json) : Json :=
  .object [("lexicon", .number (.integer 1)), ("id", .string "com.example.test"),
    ("defs", .object [
      ("main", .object [("type", .string "record"), ("record", record)])])]

/-- The record of such a document is a part of it. -/
theorem recordData_contains {through : Slot → Json → Prop} {record : Json} (hrecord : record ≠ .null)
    (hthrough : through (.descriptor false)
      (.object [("type", .string "record"), ("record", record)])) :
    Contains through (recordData record) .record record := by
  have hmain : Contains through (recordData record) (.descriptor false)
      (.object [("type", .string "record"), ("record", record)]) :=
    .definition rfl (List.mem_singleton_self _)
  have hread : Slot.readAs? (.descriptor false)
      (.object [("type", .string "record"), ("record", record)]) =
      some (.record, [("type", .string "record"), ("record", record)]) := rfl
  have hkey : "record" ∈ Kind.record.declaredKeys := by decide
  have hbelow : ("record", Slot.record) ∈ Slot.below := by decide
  exact .held hmain hthrough (.field hread hkey hbelow rfl hrecord)

/-- The document with a record, as it is read. -/
theorem read_recordData {record : Json} {schema : ObjectSchema}
    (hkeys : checkDocumentKeys (recordData record) = .ok ())
    (hshape : Document.ofJson? (recordData record) = some
      { Document.empty "com.example.test" with definitions := [("main", .record none none schema)] })
    (hsound : schema.checkStructure "com.example.test#main/record" = .ok ()) :
    ∃ document, Document.read (recordData record) = .ok document := by
  refine ⟨_, Document.read_eq_ok.2 ⟨hkeys, hshape, ?_⟩⟩
  have hid : Nsid.isValid "com.example.test" = true := by cbv
  have hlocation : Location.child (definitionLocation "com.example.test" "main") "record" =
      "com.example.test#main/record" := by decide
  simp [Document.checkStructure, Document.empty, hid, Descriptor.checkStructure, checkPlace,
    hlocation, hsound]

/-- A property of a record. -/
def tags : Json :=
  .object [("type", .string "array"), ("items", .object [("type", .string "string")])]

/-- A record that names its kind. -/
def typedRecord : Json :=
  .object [("type", .string "object"), ("properties", .object [("tags", tags)])]

/-- The property of the record that names its kind is written openly, and its keys are declared. -/
theorem declared_of_read_tags :
    (∃ document, Document.read (recordData typedRecord) = .ok document) ∧
      Contains Slot.IsOpen (recordData typedRecord) (.descriptor true) tags ∧
      Slot.KeysDeclared (.descriptor true) tags := by
  have hkeys : checkDocumentKeys (recordData typedRecord) = .ok () := by cbv
  have hshape : Document.ofJson? (recordData typedRecord) = some
      { Document.empty "com.example.test" with definitions := [
          ("main", .record none none
            ⟨none, [("tags", .array none (.string none none {}) {})], [], []⟩)] } := by cbv
  obtain ⟨document, hread⟩ := read_recordData hkeys hshape (by
    simp [ObjectSchema.checkStructure, checkRequired, Descriptor.checkProperties,
      Descriptor.checkStructure])
  have hrecord : Contains Slot.IsOpen (recordData typedRecord) .record typedRecord :=
    recordData_contains Json.noConfusion ⟨"record", rfl⟩
  have hfields : Slot.readAs? .record typedRecord =
      some (.object, [("type", .string "object"), ("properties", .object [("tags", tags)])]) := rfl
  have hkey : "properties" ∈ Kind.object.declaredKeys := by decide
  have htags : Contains Slot.IsOpen (recordData typedRecord) (.descriptor true) tags :=
    .held hrecord rfl (.property hfields hkey rfl (List.mem_singleton_self _))
  exact ⟨⟨document, hread⟩, htags, (declared_of_read hread htags).2 ⟨"array", rfl⟩⟩

/-- A record that names no kind, with a misspelled key. -/
def untypedRecord : Json :=
  .object [("properties", .object []), ("requierd", .array [.string "tags"])]

/-- A record need not name its kind to be read, but the walk for the keys leaves it out if it does
    not.  Then a key that is not declared goes by unnoticed, and so does what it was to say. -/
theorem undeclared_key_of_untyped_record :
    (∃ document, Document.read (recordData untypedRecord) = .ok document) ∧
      Contains (fun _ _ => True) (recordData untypedRecord) .record untypedRecord ∧
      ¬ Slot.KeysDeclared .record untypedRecord := by
  have hkeys : checkDocumentKeys (recordData untypedRecord) = .ok () := by cbv
  have hshape : Document.ofJson? (recordData untypedRecord) = some
      { Document.empty "com.example.test" with definitions := [
          ("main", .record none none ⟨none, [], [], []⟩)] } := by cbv
  have hsound : (ObjectSchema.mk none [] [] []).checkStructure "com.example.test#main/record" =
      .ok () := by
    simp [ObjectSchema.checkStructure, checkRequired, Descriptor.checkProperties]
  refine ⟨read_recordData hkeys hshape hsound, recordData_contains Json.noConfusion trivial, ?_⟩
  intro hdeclared
  have hfields : Slot.readAs? .record untypedRecord = some
      (.object, [("properties", .object []), ("requierd", .array [.string "tags"])]) := rfl
  have hmisspelled : "requierd" ∈ "type" :: "description" :: Kind.object.declaredKeys :=
    hdeclared _ _ hfields (by simp)
  simp [Kind.declaredKeys] at hmisspelled

end Lexicon
