import Lexicon.Descriptor.Decode
import Lexicon.Descriptor.Encode
import Lexicon.Proofs.Descriptor.Induction
import Lexicon.Proofs.Rules.RoundTrip

namespace Lexicon

open Lexicon.Json

/-!
# Descriptors are read as they were written

* `toEntries_eq`, `ParamsSchema.toEntry_eq`, … — what is written for the parts of a descriptor;
* `exists_taggedParts?_tagged` — the kind of a written descriptor is found, and all its fields;
* `ObjectSchema.ofJson?_toFields`, `ParamsSchema.ofJson?_toFields`, `Body.ofJson?_toFields` — parts
  are read as they were written, if the descriptors in them are;
* `Descriptor.ofJson?_toJson` — so are all descriptors.
-/

variable {whole : Json}

/-! ### What is written -/

/-- Every property is written under its name. -/
theorem Descriptor.toEntries_eq (properties : List (String × Descriptor)) :
    Descriptor.toEntries properties =
      properties.map fun property => (property.1, property.2.toJson) := by
  induction properties with
  | nil => rfl
  | cons property rest ih => rw [Descriptor.toEntries, ih, List.map_cons]

@[simp] theorem Descriptor.toEntry_eq (schema : Option Descriptor) :
    Descriptor.toEntry schema = entry "schema" Descriptor.toJson schema := by
  cases schema <;> rfl

@[simp] theorem ParamsSchema.toEntry_eq (parameters : Option ParamsSchema) :
    ParamsSchema.toEntry parameters =
      entry "parameters" (fun schema => .object schema.toFields) parameters := by
  cases parameters <;> rfl

@[simp] theorem Body.toEntry_eq (key : String) (body : Option Body) :
    Body.toEntry key body = entry key (fun body => .object body.toFields) body := by
  cases body <;> rfl

theorem lookup_namesEntry (key other : String) (names : List String) :
    (namesEntry other names).lookup key =
      if key = other ∧ names ≠ [] then some (ofStrings names) else none := by
  cases names <;> simp [namesEntry, Assoc.lookup_cons]

theorem keys_namesEntry_subset {key : String} {allowed : List String} (h : key ∈ allowed)
    (names : List String) : Assoc.keys (namesEntry key names) ⊆ allowed := by
  cases names <;> simp [namesEntry, h]

/-! ### Parts without descriptors -/

@[simp] theorem denotes_format (format : Format) :
    Denotes Format.ofJson? (.string format.name) format :=
  ⟨Json.noConfusion, format.ofName?_name⟩

@[simp] theorem denotes_callError (error : CallError) :
    Denotes CallError.ofJson? error.toJson error := by
  refine ⟨Json.noConfusion, ?_⟩
  simp [CallError.ofJson?, CallError.toJson, fieldsOf?, requiredAt?, describe, string?]

/-- A list of names is read as it was written, also if it was left out. -/
theorem defaultAt?_of_namesEntry {key : String} {names : List String}
    {fields : List (String × Json)}
    (h : fields.lookup key = (namesEntry key names).lookup key) :
    defaultAt? stringList? [] key fields = some names := by
  rw [lookup_namesEntry] at h
  by_cases hnames : names = []
  · exact defaultAt?_of_lookup (.inl ⟨by rw [h, if_neg (by simp [hnames])], hnames⟩)
  · exact defaultAt?_of_lookup
      (.inr ⟨_, by rw [h, if_pos ⟨rfl, hnames⟩], (denotes_ofStrings names).decode_eq⟩)

/-! ### Parts with descriptors -/

/-- A written descriptor is found to have its kind, and all the fields that were written. -/
theorem exists_taggedParts?_tagged (nested : Bool) (kind : Kind) (fields : List (String × Json)) :
    ∃ parts, taggedParts? nested (tagged kind fields) = some (kind, parts) ∧
      plain parts = ("type", .string kind.name) :: fields := by
  obtain ⟨parts, hparts, hplain⟩ :=
    exists_entryParts?_object (("type", .string kind.name) :: fields)
  refine ⟨parts, ?_, hplain⟩
  -- A written descriptor is an object, not the list that is read as one.
  have hitems : (tagged kind fields).itemParts? = none := rfl
  have htag : Kind.ofTag? nested (.string kind.name) = some kind := kind.ofName?_name
  have hkind : requiredAt? (Kind.ofTag? nested) "type" (plain parts) = some kind :=
    requiredAt?_of_lookup (by rw [hplain, Assoc.lookup_cons, if_pos rfl]) htag
  rw [taggedParts?, hitems]
  simp only [tagged, hparts, hkind, Option.bind_eq_bind, Option.bind_some, Option.pure_def]

/-- A descriptor is read as it was written, wherever it stands. -/
def Descriptor.ReadsBack (descriptor : Descriptor) : Prop :=
  ∀ nested, Descriptor.ofJson? nested descriptor.toJson = some descriptor

/-- What is written of a descriptor that reads back is an object, hence not null, and denotes it. -/
theorem Descriptor.ReadsBack.denotes {descriptor : Descriptor} (h : descriptor.ReadsBack)
    (nested : Bool) : Denotes (Descriptor.ofJson? nested) descriptor.toJson descriptor := by
  obtain ⟨fields, hfields⟩ := descriptor.exists_toJson_eq
  exact ⟨by rw [hfields]; exact Json.noConfusion, h nested⟩

/-- Properties that are read back one by one are read back together. -/
theorem Descriptor.ofEntries?_toEntries {properties : List (String × Descriptor)}
    (h : ∀ child ∈ properties.map Prod.snd, child.ReadsBack) :
    Descriptor.ofEntries? (.object (Descriptor.toEntries properties)) = some properties := by
  obtain ⟨parts, hparts, hplain⟩ := exists_entryParts?_object (Descriptor.toEntries properties)
  rw [Descriptor.ofEntries?, hparts]
  -- The properties are read as parts, and `mapM_plain` makes values of these.
  show parts.mapM (fun entry => do
    return (entry.1, ← Descriptor.ofJson? true entry.2.val)) = some properties
  rw [← mapM_plain (fun name json => do return (name, ← Descriptor.ofJson? true json)), hplain,
    Descriptor.toEntries_eq]
  refine mapM_map_eq_some fun property hproperty => ?_
  rw [h _ (List.mem_map_of_mem hproperty) true]
  rfl

section Schemas

variable {parts : List (String × Part whole)} (before : List (String × Json))

/-- The fields of an object schema are read back, whatever fields of other names come before
    them. -/
theorem ObjectSchema.ofParts?_of_plain {schema : ObjectSchema}
    (hplain : plain parts = before ++ schema.toFields)
    (hbefore : ∀ name ∈ ["description", "properties", "required", "nullable"],
      before.lookup name = none)
    (h : ∀ child ∈ schema.properties.map Prod.snd, child.ReadsBack) :
    ObjectSchema.ofParts? parts = some schema := by
  obtain ⟨description, properties, required, nullable⟩ := schema
  simp only [List.forall_mem_cons] at hbefore
  -- Field by field: what is written under a name, if anything, is what the reader finds there.
  have hdescription : descriptionAt? (plain parts) = some description := by
    simp [hplain, descriptionAt?, ObjectSchema.toFields, describe, hbefore, lookup_namesEntry]
  have hproperties : defaultPart? (fun properties => Descriptor.ofEntries? properties.val) []
      "properties" parts = some properties := by
    rw [defaultPart?_eq, hplain]
    refine defaultAt?_of_lookup (.inr ⟨_, ?_, Descriptor.ofEntries?_toEntries h⟩)
    simp [ObjectSchema.toFields, describe, hbefore]
  have hrequired : defaultAt? stringList? [] "required" (plain parts) = some required := by
    refine defaultAt?_of_namesEntry ?_
    simp [hplain, ObjectSchema.toFields, describe, hbefore, lookup_namesEntry]
  have hnullable : defaultAt? stringList? [] "nullable" (plain parts) = some nullable := by
    refine defaultAt?_of_namesEntry ?_
    simp [hplain, ObjectSchema.toFields, describe, hbefore, lookup_namesEntry]
  rw [ObjectSchema.ofParts?]
  simp only [hdescription, hproperties, hrequired, hnullable, Option.bind_eq_bind,
    Option.bind_some]
  rfl

/-- The fields of parameters are read back, whatever fields of other names come before them. -/
theorem ParamsSchema.ofParts?_of_plain {schema : ParamsSchema}
    (hplain : plain parts = before ++ schema.toFields)
    (hbefore : ∀ name ∈ ["description", "properties", "required"], before.lookup name = none)
    (h : ∀ child ∈ schema.properties.map Prod.snd, child.ReadsBack) :
    ParamsSchema.ofParts? parts = some schema := by
  obtain ⟨description, properties, required⟩ := schema
  simp only [List.forall_mem_cons] at hbefore
  -- Field by field, as for objects.
  have hdescription : descriptionAt? (plain parts) = some description := by
    simp [hplain, descriptionAt?, ParamsSchema.toFields, describe, hbefore, lookup_namesEntry]
  have hproperties : defaultPart? (fun properties => Descriptor.ofEntries? properties.val) []
      "properties" parts = some properties := by
    rw [defaultPart?_eq, hplain]
    refine defaultAt?_of_lookup (.inr ⟨_, ?_, Descriptor.ofEntries?_toEntries h⟩)
    simp [ParamsSchema.toFields, describe, hbefore]
  have hrequired : defaultAt? stringList? [] "required" (plain parts) = some required := by
    refine defaultAt?_of_namesEntry ?_
    simp [hplain, ParamsSchema.toFields, describe, hbefore, lookup_namesEntry]
  rw [ParamsSchema.ofParts?]
  simp only [hdescription, hproperties, hrequired, Option.bind_eq_bind, Option.bind_some]
  rfl

end Schemas

/-- An object schema on its own, without the name of a kind. -/
theorem ObjectSchema.ofJson?_toFields {schema : ObjectSchema}
    (h : ∀ child ∈ schema.properties.map Prod.snd, child.ReadsBack) :
    ObjectSchema.ofJson? (.object schema.toFields) = some schema := by
  obtain ⟨parts, hparts, hplain⟩ := exists_fieldParts?_object
    ["description", "properties", "required", "nullable"] 1 schema.toFields
  rw [ObjectSchema.ofJson?, hparts]
  exact ObjectSchema.ofParts?_of_plain [] hplain (fun _ _ => rfl) h

/-- Parameters that are written are read back. -/
theorem ParamsSchema.denotes {parameters : Option ParamsSchema}
    (h : ∀ child ∈ ParamsSchema.children parameters, child.ReadsBack) :
    ∀ schema ∈ parameters, Denotes ParamsSchema.ofJson? (.object schema.toFields) schema := by
  rintro schema rfl
  refine ⟨Json.noConfusion, ?_⟩
  obtain ⟨parts, hparts, hplain⟩ := exists_fieldParts?_object
    ["description", "properties", "required"] 1 schema.toFields
  rw [ParamsSchema.ofJson?, hparts]
  exact ParamsSchema.ofParts?_of_plain [] hplain (fun _ _ => rfl) fun child hchild =>
    h child (by simpa [ParamsSchema.children] using hchild)

/-- A body that is written is read back. -/
theorem Body.denotes {body : Option Body} (h : ∀ child ∈ Body.children body, child.ReadsBack) :
    ∀ b ∈ body, Denotes Body.ofJson? (.object b.toFields) b := by
  rintro ⟨description, encoding, schema⟩ rfl
  refine ⟨Json.noConfusion, ?_⟩
  obtain ⟨parts, hparts, hplain⟩ := exists_fieldParts?_object
    ["description", "encoding", "schema"] 3 (Body.mk description encoding schema).toFields
  have hdescription : descriptionAt? (plain parts) = some description := by
    rw [hplain]
    simp [descriptionAt?, Body.toFields, describe]
  have hencoding : requiredAt? Json.string? "encoding" (plain parts) = some encoding := by
    refine requiredAt?_of_lookup ?_ (denotes_string encoding).decode_eq
    rw [hplain]
    simp [Body.toFields, describe]
  -- The schema of a body is a child, and read as such.
  have hschema : optionalPart? (fun schema => Descriptor.ofJson? true schema.val) "schema" parts =
      some schema := by
    rw [optionalPart?_eq, hplain]
    refine optionalAt?_of_lookup ?_ fun child hchild => (h child ?_).denotes true
    · simp [Body.toFields, describe]
    · exact Option.mem_toList.2 hchild
  rw [Body.ofJson?, hparts]
  simp only [hdescription, hencoding, hschema, Option.bind_eq_bind, Option.bind_some]
  rfl

/-! ### All kinds -/

/-- A written descriptor is found to have its kind, its description, and what else was written. -/
theorem exists_describedParts? (nested : Bool) (kind : Kind) (description : Option String)
    {rest : List (String × Json)} (hrest : rest.lookup "description" = none) :
    ∃ parts, taggedParts? nested (tagged kind (describe description ++ rest)) = some (kind, parts) ∧
      plain parts = (("type", .string kind.name) :: describe description) ++ rest ∧
      descriptionAt? (plain parts) = some description := by
  obtain ⟨parts, hparts, hplain⟩ :=
    exists_taggedParts?_tagged nested kind (describe description ++ rest)
  refine ⟨parts, hparts, hplain, ?_⟩
  rw [hplain]
  simp [descriptionAt?, describe, hrest]

namespace Descriptor

/-- A kind with rules, all of whose fields are the description and the fields of the rules. -/
theorem readsBack_of_rules {ρ : Type} {kind : Kind} {make : Option String → ρ → Descriptor}
    {read : List (String × Json) → Option ρ} {description : Option String} {rules : ρ}
    {fields : List (String × Json)}
    (hwrite : (make description rules).toJson = tagged kind (describe description ++ fields))
    (hread : ∀ nested whole parts, taggedParts? nested whole = some (kind, parts) →
      ofJson? nested whole =
        (do return make (← descriptionAt? (plain parts)) (← read (plain parts))))
    (hfields : fields.lookup "description" = none)
    (hrules : read ((("type", .string kind.name) :: describe description) ++ fields) = some rules) :
    (make description rules).ReadsBack := by
  intro nested
  obtain ⟨parts, hparts, hplain, hdescription⟩ :=
    exists_describedParts? nested kind description hfields
  rw [← hplain] at hrules
  rw [hwrite, hread nested _ parts hparts, hdescription, hrules]
  rfl

/-- A boolean has no fields but its rules. -/
theorem readsBack_boolean (description : Option String) (rules : BooleanRules) :
    (boolean description rules).ReadsBack := by
  refine readsBack_of_rules rfl (fun _ _ _ hparts => by rw [ofJson?, hparts]; rfl)
    (Assoc.lookup_eq_none_of_subset rules.keys_toFields (by decide))
    (rules.ofFields?_append _ ?_)
  simp [BooleanRules.fieldNames, describe]

/-- An integer has no fields but its rules. -/
theorem readsBack_integer (description : Option String) (rules : IntegerRules) :
    (integer description rules).ReadsBack := by
  refine readsBack_of_rules rfl (fun _ _ _ hparts => by rw [ofJson?, hparts]; rfl)
    (Assoc.lookup_eq_none_of_subset rules.keys_toFields (by decide))
    (rules.ofFields?_append _ ?_)
  simp [IntegerRules.fieldNames, describe]

/-- Bytes have no fields but their rules. -/
theorem readsBack_bytes (description : Option String) (rules : LengthRules) :
    (bytes description rules).ReadsBack := by
  refine readsBack_of_rules rfl (fun _ _ _ hparts => by rw [ofJson?, hparts]; rfl)
    (Assoc.lookup_eq_none_of_subset rules.keys_toFields (by decide))
    (rules.ofFields?_append _ ?_)
  simp [LengthRules.fieldNames, describe]

/-- A blob has no fields but its rules. -/
theorem readsBack_blob (description : Option String) (rules : BlobRules) :
    (blob description rules).ReadsBack := by
  refine readsBack_of_rules rfl (fun _ _ _ hparts => by rw [ofJson?, hparts]; rfl)
    (Assoc.lookup_eq_none_of_subset rules.keys_toFields (by decide))
    (rules.ofFields?_append _ ?_)
  simp [BlobRules.fieldNames, describe]

/-- A string has its format in front of its rules. -/
theorem readsBack_string (description : Option String) (format : Option Format)
    (rules : StringRules) : (string description format rules).ReadsBack := by
  intro nested
  have hrest : (entry "format" (fun f => Json.string f.name) format ++ rules.toFields).lookup
      "description" = none := by
    simp [Assoc.lookup_eq_none_of_subset rules.keys_toFields, StringRules.fieldNames]
  obtain ⟨parts, hparts, hplain, hdescription⟩ :=
    exists_describedParts? nested .string description hrest
  have hformat : optionalAt? Format.ofJson? "format" (plain parts) = some format := by
    rw [hplain]
    simp [describe, Assoc.lookup_eq_none_of_subset rules.keys_toFields, StringRules.fieldNames]
  have hrules : StringRules.ofFields? (plain parts) = some rules := by
    rw [hplain, ← List.append_assoc, StringRules.ofFields?_append]
    simp [StringRules.fieldNames, describe]
  rw [toJson, List.append_assoc, ofJson?, hparts]
  simp only [hdescription, hformat, hrules, Option.bind_eq_bind, Option.bind_some]
  rfl

/-- A kind that is written and read as a description and nothing else. -/
theorem readsBack_of_description {kind : Kind} {make : Option String → Descriptor}
    {description : Option String}
    (hwrite : (make description).toJson = tagged kind (describe description))
    (hread : ∀ nested whole parts, taggedParts? nested whole = some (kind, parts) →
      ofJson? nested whole = (do return make (← descriptionAt? (plain parts)))) :
    (make description).ReadsBack := by
  intro nested
  obtain ⟨parts, hparts, -, hdescription⟩ :=
    exists_describedParts? nested kind description List.lookup_nil
  rw [← List.append_nil (describe description)] at hwrite
  rw [hwrite, hread nested _ parts hparts, hdescription]
  rfl

theorem readsBack_cidLink (description : Option String) : (cidLink description).ReadsBack :=
  readsBack_of_description rfl fun _ _ _ hparts => by rw [ofJson?, hparts]; rfl

theorem readsBack_token (description : Option String) : (token description).ReadsBack :=
  readsBack_of_description rfl fun _ _ _ hparts => by rw [ofJson?, hparts]; rfl

theorem readsBack_unknown (description : Option String) : (unknown description).ReadsBack :=
  readsBack_of_description rfl fun _ _ _ hparts => by rw [ofJson?, hparts]; rfl

/-- An array has its items in front of its rules; they are read back as properties are. -/
theorem readsBack_array (description : Option String) {items : Descriptor} (rules : LengthRules)
    (h : items.ReadsBack) : (array description items rules).ReadsBack := by
  intro nested
  have hrest : ([("items", items.toJson)] ++ rules.toFields).lookup "description" = none := by
    simp [Assoc.lookup_eq_none_of_subset rules.keys_toFields,
      LengthRules.fieldNames]
  obtain ⟨parts, hparts, hplain, hdescription⟩ :=
    exists_describedParts? nested .array description hrest
  have hitems : requiredPart? (fun items => ofJson? true items.val) "items" parts =
      some items := by
    rw [requiredPart?_eq, hplain]
    refine requiredAt?_of_lookup ?_ (h true)
    simp [describe]
  have hrules : LengthRules.ofFields? (plain parts) = some rules := by
    rw [hplain, ← List.append_assoc, LengthRules.ofFields?_append]
    simp [LengthRules.fieldNames, describe]
  rw [toJson, List.append_assoc, ofJson?, hparts]
  simp only [hdescription, hitems, hrules, Option.bind_eq_bind, Option.bind_some]
  rfl

/-- An object is read back if its properties are. -/
theorem readsBack_object {schema : ObjectSchema}
    (h : ∀ child ∈ schema.properties.map Prod.snd, child.ReadsBack) :
    (object schema).ReadsBack := by
  intro nested
  obtain ⟨parts, hparts, hplain⟩ := exists_taggedParts?_tagged nested .object schema.toFields
  have hschema : ObjectSchema.ofParts? parts = some schema :=
    ObjectSchema.ofParts?_of_plain [_] hplain (by simp) h
  rw [toJson, ofJson?, hparts]
  simp only [hschema, Option.bind_eq_bind, Option.bind_some]
  rfl

/-- Parameters are read back if each of them is. -/
theorem readsBack_params {schema : ParamsSchema}
    (h : ∀ child ∈ schema.properties.map Prod.snd, child.ReadsBack) :
    (params schema).ReadsBack := by
  intro nested
  obtain ⟨parts, hparts, hplain⟩ := exists_taggedParts?_tagged nested .params schema.toFields
  have hschema : ParamsSchema.ofParts? parts = some schema :=
    ParamsSchema.ofParts?_of_plain [_] hplain (by simp) h
  rw [toJson, ofJson?, hparts]
  simp only [hschema, Option.bind_eq_bind, Option.bind_some]
  rfl

/-- A union has its members as text, and the mark that closes it. -/
theorem readsBack_union (description : Option String) (members : List String)
    (closed : Option Bool) : (union description members closed).ReadsBack := by
  intro nested
  have hrest : ([("refs", ofStrings members)] ++ entry "closed" Json.boolean closed).lookup
      "description" = none := by
    simp
  obtain ⟨parts, hparts, hplain, hdescription⟩ :=
    exists_describedParts? nested .union description hrest
  have hmembers : requiredAt? stringList? "refs" (plain parts) = some members := by
    refine requiredAt?_of_lookup ?_ (denotes_ofStrings members).decode_eq
    rw [hplain]
    simp [describe]
  have hclosed : optionalAt? boolean? "closed" (plain parts) = some closed := by
    rw [hplain]
    simp [describe]
  rw [toJson, List.append_assoc, ofJson?, hparts]
  simp only [hdescription, hmembers, hclosed, Option.bind_eq_bind, Option.bind_some]
  rfl

/-- A reference has its target as text. -/
theorem readsBack_ref (description : Option String) (target : String) :
    (ref description target).ReadsBack := by
  intro nested
  have hrest : [("ref", Json.string target)].lookup "description" = none := rfl
  obtain ⟨parts, hparts, hplain, hdescription⟩ :=
    exists_describedParts? nested .ref description hrest
  have htarget : requiredAt? string? "ref" (plain parts) = some target := by
    refine requiredAt?_of_lookup ?_ (denotes_string target).decode_eq
    rw [hplain]
    simp [describe]
  rw [toJson, ofJson?, hparts]
  simp only [hdescription, htarget, Option.bind_eq_bind, Option.bind_some]
  rfl

/-- A record is read back if the properties of its schema are; its key is text. -/
theorem readsBack_record (description key : Option String) {schema : ObjectSchema}
    (h : ∀ child ∈ schema.properties.map Prod.snd, child.ReadsBack) :
    (record description key schema).ReadsBack := by
  intro nested
  have hrest : (entry "key" Json.string key ++ [("record", Json.object schema.toFields)]).lookup
      "description" = none := by
    simp
  obtain ⟨parts, hparts, hplain, hdescription⟩ :=
    exists_describedParts? nested .record description hrest
  have hkey : optionalAt? string? "key" (plain parts) = some key := by
    rw [hplain]
    simp [describe]
  have hschema : requiredPart? (fun schema => ObjectSchema.ofJson? schema.val) "record" parts =
      some schema := by
    rw [requiredPart?_eq, hplain]
    refine requiredAt?_of_lookup ?_ (ObjectSchema.ofJson?_toFields h)
    simp [describe]
  rw [toJson, List.append_assoc, ofJson?, hparts]
  simp only [hdescription, hkey, hschema, Option.bind_eq_bind, Option.bind_some]
  rfl

/-- A query is read back if its parameters and its output are. -/
theorem readsBack_query (description : Option String) {parameters : Option ParamsSchema}
    {output : Option Body} (errors : Option (List CallError))
    (hparameters : ∀ child ∈ ParamsSchema.children parameters, child.ReadsBack)
    (houtput : ∀ child ∈ Body.children output, child.ReadsBack) :
    (query description parameters output errors).ReadsBack := by
  intro nested
  have hrest : (ParamsSchema.toEntry parameters ++ (Body.toEntry "output" output ++
      errorsEntry errors)).lookup "description" = none := by
    simp [errorsEntry]
  obtain ⟨parts, hparts, hplain, hdescription⟩ :=
    exists_describedParts? nested .query description hrest
  -- Parts that are left out are not written, and read as left out.
  have hparameters : optionalPart? (fun schema => ParamsSchema.ofJson? schema.val) "parameters"
      parts = some parameters := by
    rw [optionalPart?_eq, hplain]
    refine optionalAt?_of_lookup ?_ (ParamsSchema.denotes hparameters)
    simp [describe, errorsEntry]
  have houtput : optionalPart? (fun body => Body.ofJson? body.val) "output" parts =
      some output := by
    rw [optionalPart?_eq, hplain]
    refine optionalAt?_of_lookup ?_ (Body.denotes houtput)
    simp [describe, errorsEntry]
  have herrors : optionalAt? (listOf? CallError.ofJson?) "errors" (plain parts) = some errors := by
    rw [hplain]
    simp [describe, errorsEntry]
  rw [toJson, List.append_assoc, List.append_assoc, ofJson?, hparts]
  simp only [hdescription, hparameters, houtput, herrors, Option.bind_eq_bind, Option.bind_some]
  rfl

/-- A procedure is read back if its parameters, its input and its output are. -/
theorem readsBack_procedure (description : Option String) {parameters : Option ParamsSchema}
    {input output : Option Body} (errors : Option (List CallError))
    (hparameters : ∀ child ∈ ParamsSchema.children parameters, child.ReadsBack)
    (hinput : ∀ child ∈ Body.children input, child.ReadsBack)
    (houtput : ∀ child ∈ Body.children output, child.ReadsBack) :
    (procedure description parameters input output errors).ReadsBack := by
  intro nested
  have hrest : (ParamsSchema.toEntry parameters ++ (Body.toEntry "input" input ++
      (Body.toEntry "output" output ++ errorsEntry errors))).lookup "description" = none := by
    simp [errorsEntry]
  obtain ⟨parts, hparts, hplain, hdescription⟩ :=
    exists_describedParts? nested .procedure description hrest
  -- The same as for a query, with an input in between.
  have hparameters : optionalPart? (fun schema => ParamsSchema.ofJson? schema.val) "parameters"
      parts = some parameters := by
    rw [optionalPart?_eq, hplain]
    refine optionalAt?_of_lookup ?_ (ParamsSchema.denotes hparameters)
    simp [describe, errorsEntry]
  have hinput : optionalPart? (fun body => Body.ofJson? body.val) "input" parts = some input := by
    rw [optionalPart?_eq, hplain]
    refine optionalAt?_of_lookup ?_ (Body.denotes hinput)
    simp [describe, errorsEntry]
  have houtput : optionalPart? (fun body => Body.ofJson? body.val) "output" parts =
      some output := by
    rw [optionalPart?_eq, hplain]
    refine optionalAt?_of_lookup ?_ (Body.denotes houtput)
    simp [describe, errorsEntry]
  have herrors : optionalAt? (listOf? CallError.ofJson?) "errors" (plain parts) = some errors := by
    rw [hplain]
    simp [describe, errorsEntry]
  rw [toJson, List.append_assoc, List.append_assoc, List.append_assoc, ofJson?, hparts]
  simp only [hdescription, hparameters, hinput, houtput, herrors, Option.bind_eq_bind,
    Option.bind_some]
  rfl

/-- **Descriptors are read as they were written.**  By induction on the descriptor, one law for each
    kind. -/
theorem ofJson?_toJson (descriptor : Descriptor) : descriptor.ReadsBack := by
  induction descriptor using induction_children with
  | step descriptor ih =>
    cases descriptor with
    | boolean description rules => exact readsBack_boolean description rules
    | integer description rules => exact readsBack_integer description rules
    | string description format rules => exact readsBack_string description format rules
    | bytes description rules => exact readsBack_bytes description rules
    | cidLink description => exact readsBack_cidLink description
    | blob description rules => exact readsBack_blob description rules
    | array description items rules =>
      exact readsBack_array description rules (ih items (List.mem_singleton_self items))
    | object schema => exact readsBack_object ih
    | token description => exact readsBack_token description
    | union description members closed => exact readsBack_union description members closed
    | unknown description => exact readsBack_unknown description
    | ref description target => exact readsBack_ref description target
    | record description key schema => exact readsBack_record description key ih
    | params schema => exact readsBack_params ih
    -- The children of a call are those of its parameters and of its bodies.
    | query description parameters output errors =>
      obtain ⟨hparameters, houtput⟩ := List.forall_mem_append.1 ih
      exact readsBack_query description errors hparameters houtput
    | procedure description parameters input output errors =>
      obtain ⟨hcall, houtput⟩ := List.forall_mem_append.1 ih
      obtain ⟨hparameters, hinput⟩ := List.forall_mem_append.1 hcall
      exact readsBack_procedure description errors hparameters hinput houtput

end Descriptor

end Lexicon
