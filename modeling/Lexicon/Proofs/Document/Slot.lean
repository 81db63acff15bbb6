import Lexicon.Document.Basic
import Lexicon.Proofs.Json.Field

namespace Lexicon

open Lexicon.Json

/-!
# What the parts of a document are read as

The data of a document hold descriptors within descriptors, and besides those the parts of calls and
records.  In some places the reader looks for the kind, in others it knows which one to expect.

* `Slot` — what a part of the data is read as;
* `Slot.readAs?`, `Slot.Holds` — how a part is read, and the parts that it holds in turn;
* `Slot.Reads`, `Slot.reads_of_holds` — where a part can be read, so can all that it holds;
* `Contains through json slot part` — the parts of the data of a document, found through holders that
  meet a condition;
* `reads_of_contains` — they are read as what they are said to be.
-/

/-- What a part of the data is read as. -/
inductive Slot where
  | descriptor (nested : Bool)
  /-- The object schema of a record. -/
  | record
  /-- The parameters of a call. -/
  | parameters
  /-- What a call takes or answers with. -/
  | body
  /-- An error of a call. -/
  | callError
deriving DecidableEq, Repr

namespace Slot

/-! ### How parts are read -/

/-- The kind of a part, and its fields.  A record and parameters are of one kind, which they need
    not name; bodies and errors of calls have none. -/
def readAs? (slot : Slot) (json : Json) : Option (Kind × List (String × Json)) :=
  match slot with
  | descriptor nested => (taggedParts? nested json).map fun (kind, parts) => (kind, plain parts)
  | record =>
    (json.fieldParts? ["description", "properties", "required", "nullable"] 1).map fun parts =>
      (.object, plain parts)
  | parameters =>
    (json.fieldParts? ["description", "properties", "required"] 1).map fun parts =>
      (.params, plain parts)
  | body | callError => none

/-- The fields that hold one part each, and what that part is read as. -/
def below : List (String × Slot) :=
  [("items", descriptor true), ("record", record), ("parameters", parameters), ("input", body),
   ("output", body)]

/-- A part, read in its slot, holds another part. -/
inductive Holds : Slot → Json → Slot → Json → Prop where
  | field {slot json kind fields key slot' part} :
      readAs? slot json = some (kind, fields) → key ∈ kind.declaredKeys → (key, slot') ∈ below →
      fields.lookup key = some part → part ≠ .null → Holds slot json slot' part
  | property {slot json kind fields properties name part} :
      readAs? slot json = some (kind, fields) → "properties" ∈ kind.declaredKeys →
      fields.lookup "properties" = some (.object properties) → (name, part) ∈ properties →
      Holds slot json (descriptor true) part
  | error {slot json kind fields errors part} :
      readAs? slot json = some (kind, fields) → "errors" ∈ kind.declaredKeys →
      fields.lookup "errors" = some (.array errors) → part ∈ errors →
      Holds slot json callError part
  | schema {json parts part} :
      json.fieldParts? ["description", "encoding", "schema"] 3 = some parts →
      (plain parts).lookup "schema" = some part → part ≠ .null →
      Holds body json (descriptor true) part

/-- A part can be read in its slot. -/
def Reads (slot : Slot) (json : Json) : Prop :=
  match slot with
  | descriptor nested => ∃ result, Descriptor.ofJson? nested json = some result
  | record => ∃ result, ObjectSchema.ofJson? json = some result
  | parameters => ∃ result, ParamsSchema.ofJson? json = some result
  | body => ∃ result, Body.ofJson? json = some result
  | callError => ∃ result, CallError.ofJson? json = some result

/-! ### Parts are read where their holder is -/

/-- What the reader finds in the fields of each kind. -/
def FieldsRead (kind : Kind) (fields : List (String × Json)) : Prop :=
  match kind with
  | .array => ReadAt (Descriptor.ofJson? true) "items" fields
  | .object | .params => ReadAt Descriptor.ofEntries? "properties" fields
  | .record => ReadAt ObjectSchema.ofJson? "record" fields
  | .query =>
    ReadAt ParamsSchema.ofJson? "parameters" fields ∧ ReadAt Body.ofJson? "output" fields ∧
      ReadAt (listOf? CallError.ofJson?) "errors" fields
  | .procedure =>
    ReadAt ParamsSchema.ofJson? "parameters" fields ∧ ReadAt Body.ofJson? "input" fields ∧
      ReadAt Body.ofJson? "output" fields ∧ ReadAt (listOf? CallError.ofJson?) "errors" fields
  | _ => True

section

variable {json : Json} {parts : List (String × Part json)}

/-- An object schema that is read has its properties read. -/
theorem readAt_properties_of_objectSchema {schema : ObjectSchema}
    (h : ObjectSchema.ofParts? parts = some schema) :
    ReadAt Descriptor.ofEntries? "properties" (plain parts) := by
  rw [ObjectSchema.ofParts?] at h
  simp only [Option.bind_eq_bind, Option.bind_eq_some_iff] at h
  obtain ⟨-, -, properties, hproperties, -⟩ := h
  exact readAt_of_defaultPart? hproperties

/-- Parameters that are read have their properties read. -/
theorem readAt_properties_of_paramsSchema {schema : ParamsSchema}
    (h : ParamsSchema.ofParts? parts = some schema) :
    ReadAt Descriptor.ofEntries? "properties" (plain parts) := by
  rw [ParamsSchema.ofParts?] at h
  simp only [Option.bind_eq_bind, Option.bind_eq_some_iff] at h
  obtain ⟨-, -, properties, hproperties, -⟩ := h
  exact readAt_of_defaultPart? hproperties

/-- What a descriptor that is read finds in its fields is read, too. -/
theorem fieldsRead_of_descriptor {nested : Bool} {descriptor : Descriptor} {kind : Kind}
    (h : Descriptor.ofJson? nested json = some descriptor)
    (htagged : taggedParts? nested json = some (kind, parts)) : FieldsRead kind (plain parts) := by
  rw [Descriptor.ofJson?, htagged] at h
  simp only [Option.bind_eq_bind, Option.bind_some] at h
  -- Fields are read one after the other; what was read before a part does not matter for it.
  cases kind with
  | array =>
    simp only [Option.bind_eq_some_iff] at h
    obtain ⟨-, -, items, hitems, -⟩ := h
    exact readAt_of_requiredPart? hitems
  | object =>
    simp only [Option.bind_eq_some_iff] at h
    obtain ⟨schema, hschema, -⟩ := h
    exact readAt_properties_of_objectSchema hschema
  | params =>
    simp only [Option.bind_eq_some_iff] at h
    obtain ⟨schema, hschema, -⟩ := h
    exact readAt_properties_of_paramsSchema hschema
  | record =>
    simp only [Option.bind_eq_some_iff] at h
    obtain ⟨-, -, -, -, schema, hschema, -⟩ := h
    exact readAt_of_requiredPart? hschema
  | query =>
    simp only [Option.bind_eq_some_iff] at h
    obtain ⟨-, -, parameters, hparameters, output, houtput, errors, herrors, -⟩ := h
    exact ⟨readAt_of_optionalPart? hparameters, readAt_of_optionalPart? houtput,
      readAt_of_optionalAt? herrors⟩
  | procedure =>
    simp only [Option.bind_eq_some_iff] at h
    obtain ⟨-, -, parameters, hparameters, input, hinput, output, houtput, errors, herrors, -⟩ := h
    exact ⟨readAt_of_optionalPart? hparameters, readAt_of_optionalPart? hinput,
      readAt_of_optionalPart? houtput, readAt_of_optionalAt? herrors⟩
  | _ => trivial

end

/-- The same for every part that has a kind. -/
theorem Reads.fieldsRead {slot : Slot} {json : Json} (hreads : slot.Reads json) {kind : Kind}
    {fields : List (String × Json)} (hread : slot.readAs? json = some (kind, fields)) :
    FieldsRead kind fields := by
  cases slot with
  | descriptor nested =>
    obtain ⟨result, h⟩ := hreads
    obtain ⟨⟨found, parts⟩, htagged, heq⟩ := Option.map_eq_some_iff.1 hread
    cases heq
    exact fieldsRead_of_descriptor h htagged
  -- Here the slot tells the kind, and the part is read without looking for one.
  | record =>
    obtain ⟨result, h⟩ := hreads
    obtain ⟨parts, hparts, heq⟩ := Option.map_eq_some_iff.1 hread
    cases heq
    rw [ObjectSchema.ofJson?, hparts] at h
    exact readAt_properties_of_objectSchema h
  | parameters =>
    obtain ⟨result, h⟩ := hreads
    obtain ⟨parts, hparts, heq⟩ := Option.map_eq_some_iff.1 hread
    cases heq
    rw [ParamsSchema.ofJson?, hparts] at h
    exact readAt_properties_of_paramsSchema h
  | body | callError => cases hread

/-- Named descriptors are all read. -/
theorem exists_of_ofEntries? {entries : List (String × Json)}
    {properties : List (String × Descriptor)}
    (h : Descriptor.ofEntries? (.object entries) = some properties) :
    ∀ entry ∈ entries, ∃ descriptor, Descriptor.ofJson? true entry.2 = some descriptor := by
  obtain ⟨parts, hparts, hplain⟩ := exists_entryParts?_object entries
  rw [Descriptor.ofEntries?, hparts] at h
  -- Each entry is read by itself, as part of what is read as a whole.
  have hentries : (plain parts).mapM (fun entry => do
      return (entry.1, ← Descriptor.ofJson? true entry.2)) = some properties :=
    (mapM_plain (fun name json => do return (name, ← Descriptor.ofJson? true json)) parts).trans h
  rw [hplain] at hentries
  intro entry hmem
  obtain ⟨property, hproperty⟩ := exists_of_mapM_eq_some hentries entry hmem
  obtain ⟨descriptor, hdescriptor, -⟩ := Option.bind_eq_some_iff.1 hproperty
  exact ⟨descriptor, hdescriptor⟩

/-- **What a part holds is read**, if the part itself is. -/
theorem reads_of_holds {slot slot' : Slot} {json part : Json} (hreads : slot.Reads json)
    (hholds : Holds slot json slot' part) : slot'.Reads part := by
  cases hholds with
  | @field _ _ kind _ key _ _ hread hkey hbelow hlookup hnull =>
    have hfields := hreads.fieldsRead hread
    simp only [below, List.mem_cons, Prod.mk.injEq, List.not_mem_nil, or_false] at hbelow
    -- Each key is declared for few kinds, and these read what stands there.
    obtain ⟨rfl, rfl⟩ | ⟨rfl, rfl⟩ | ⟨rfl, rfl⟩ | ⟨rfl, rfl⟩ | ⟨rfl, rfl⟩ := hbelow <;>
      cases kind <;> simp [Kind.declaredKeys] at hkey
    · exact hfields part hlookup hnull
    · exact hfields part hlookup hnull
    · exact hfields.1 part hlookup hnull
    · exact hfields.1 part hlookup hnull
    · exact hfields.2.1 part hlookup hnull
    · exact hfields.2.1 part hlookup hnull
    · exact hfields.2.2.1 part hlookup hnull
  | @property _ _ kind fields _ _ _ hread hkey hlookup hmem =>
    have hfields := hreads.fieldsRead hread
    have hproperties : ReadAt Descriptor.ofEntries? "properties" fields := by
      cases kind <;> simp [Kind.declaredKeys] at hkey
      · exact hfields
      · exact hfields
    obtain ⟨descriptors, h⟩ := hproperties _ hlookup Json.noConfusion
    exact exists_of_ofEntries? h _ hmem
  | @error _ _ kind fields _ _ hread hkey hlookup hmem =>
    have hfields := hreads.fieldsRead hread
    have herrors : ReadAt (listOf? CallError.ofJson?) "errors" fields := by
      cases kind <;> simp [Kind.declaredKeys] at hkey
      · exact hfields.2.2
      · exact hfields.2.2.2
    obtain ⟨results, h⟩ := herrors _ hlookup Json.noConfusion
    exact exists_of_mapM_eq_some h part hmem
  | schema hparts hlookup hnull =>
    obtain ⟨body, h⟩ := hreads
    rw [Body.ofJson?, hparts] at h
    simp only [Option.bind_eq_bind, Option.bind_some, Option.bind_eq_some_iff] at h
    obtain ⟨-, -, -, -, schema, hschema, -⟩ := h
    exact readAt_of_optionalPart? hschema part hlookup hnull

end Slot

/-! ### Documents -/

/-- The parts of the data of a document, with what they are read as.  The holders of a part meet the
    condition `through`. -/
inductive Contains (through : Slot → Json → Prop) (json : Json) : Slot → Json → Prop where
  | definition {definitions name part} :
      json.get? "defs" = some (.object definitions) → (name, part) ∈ definitions →
      Contains through json (.descriptor false) part
  | held {slot part slot' part'} :
      Contains through json slot part → through slot part → Slot.Holds slot part slot' part' →
      Contains through json slot' part'

section

variable {through : Slot → Json → Prop} {json : Json} {document : Document}
  {definitions : List (String × Json)}

/-- The definitions of a document are read. -/
theorem Document.exists_of_ofJson? (h : Document.ofJson? json = some document)
    (hdefinitions : json.get? "defs" = some (.object definitions)) :
    ∀ definition ∈ definitions,
      ∃ descriptor, Descriptor.ofJson? false definition.2 = some descriptor := by
  obtain ⟨fields, rfl⟩ : ∃ fields, json = .object fields := by
    cases json with
    | object fields => exact ⟨fields, rfl⟩
    | _ => cases hdefinitions
  have hfields : (Json.object fields).fieldsOf? fieldNames 5 = some fields := rfl
  rw [Document.ofJson?, hfields] at h
  simp only [Option.bind_eq_bind, Option.bind_some, Option.bind_eq_some_iff] at h
  obtain ⟨-, -, -, -, -, -, -, -, results, hresults, -⟩ := h
  obtain ⟨results, h⟩ := readAt_of_requiredAt? hresults _ hdefinitions Json.noConfusion
  intro definition hmem
  obtain ⟨result, hresult⟩ := exists_of_mapM_eq_some h definition hmem
  obtain ⟨descriptor, hdescriptor, -⟩ := Option.bind_eq_some_iff.1 hresult
  exact ⟨descriptor, hdescriptor⟩

/-- **All parts are read as what they are said to be.** -/
theorem reads_of_contains (h : Document.ofJson? json = some document) {slot : Slot} {part : Json}
    (hcontains : Contains through json slot part) : slot.Reads part := by
  induction hcontains with
  | definition hdefinitions hmem => exact Document.exists_of_ofJson? h hdefinitions _ hmem
  | held _ _ hholds ih => exact Slot.reads_of_holds ih hholds

end

end Lexicon
