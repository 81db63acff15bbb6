import Lexicon.Json.Part
import Lexicon.Proofs.Number.Word
import Lexicon.Proofs.Assoc

namespace Lexicon.Json

/-!
# Fields are read as they were written

* `Denotes decode json a` — `json` is read as `a`, and is not null, which would be read as nothing;
* `lookup_entry` — the entry of a field is found under its own key only;
* `requiredAt?_of_lookup`, `optionalAt?_of_lookup`, `defaultAt?_of_lookup` — a field whose value
  denotes something is read as that;
* `ReadAt decode key fields` — conversely, a field that was read stands for something
  (`readAt_of_requiredAt?`, `readAt_of_optionalAt?`, `readAt_of_defaultAt?`);
* `requiredPart?_eq`, `optionalPart?_eq`, `defaultPart?_eq` — reading a part is reading its value.
-/

variable {α : Type} {decode : Json → Option α} {encode : α → Json} {key : String}
  {fields : List (String × Json)}

/-! ### Values -/

/-- A value that is read as `a`.  It is not null, since an absent field may be given as null. -/
structure Denotes (decode : Json → Option α) (json : Json) (a : α) : Prop where
  ne_null : json ≠ null
  decode_eq : decode json = some a

@[simp] theorem denotes_string (s : String) : Denotes string? (string s) s :=
  ⟨Json.noConfusion, rfl⟩

@[simp] theorem denotes_boolean (b : Bool) : Denotes boolean? (boolean b) b :=
  ⟨Json.noConfusion, rfl⟩

@[simp] theorem denotes_ofInt64 (n : Int64) : Denotes int64? (ofInt64 n) n :=
  ⟨Json.noConfusion, int64OfInt?_toInt n⟩

@[simp] theorem denotes_ofUInt64 (n : UInt64) : Denotes uint64? (ofUInt64 n) n :=
  ⟨Json.noConfusion, uint64OfInt?_toNat n⟩

@[simp] theorem denotes_ofUInt32 (n : UInt32) : Denotes uint32? (ofUInt32 n) n :=
  ⟨Json.noConfusion, uint32OfInt?_toNat n⟩

/-- A list is read item by item. -/
theorem mapM_map_eq_some {β : Type} {f : β → Option α} {g : α → β} {items : List α}
    (h : ∀ a ∈ items, f (g a) = some a) : (items.map g).mapM f = some items := by
  induction items with
  | nil => rfl
  | cons a rest ih =>
    rw [List.forall_mem_cons] at h
    rw [List.map_cons, List.mapM_cons, h.1, ih h.2]
    rfl

@[simp] theorem denotes_array {items : List α} (h : ∀ a ∈ items, Denotes decode (encode a) a) :
    Denotes (listOf? decode) (array (items.map encode)) items :=
  ⟨Json.noConfusion, mapM_map_eq_some fun a ha => (h a ha).decode_eq⟩

@[simp] theorem denotes_ofStrings (texts : List String) :
    Denotes stringList? (ofStrings texts) texts :=
  denotes_array fun s _ => denotes_string s

/-! ### Fields -/

attribute [simp] Assoc.lookup_cons List.lookup_append

/-- The entry of a field is found under its own key only. -/
@[simp] theorem lookup_entry (key other : String) (encode : α → Json) (value : Option α) :
    (entry other encode value).lookup key = if key = other then value.map encode else none := by
  cases value with
  | none => simp [entry]
  | some a => simp [entry, Assoc.lookup_cons]

/-- The entry of a field has no other key. -/
theorem keys_entry_subset {names : List String} (h : key ∈ names) (value : Option α) :
    Assoc.keys (entry key encode value) ⊆ names := by
  cases value with
  | none => exact List.nil_subset names
  | some a => simpa [entry, Assoc.keys] using h

theorem requiredAt?_of_lookup {json : Json} {a : α} (hlookup : fields.lookup key = some json)
    (h : decode json = some a) : requiredAt? decode key fields = some a := by
  rw [requiredAt?, hlookup, Option.bind_some, h]

/-- A field that is written where there is a value, and left out where there is none, is read
    back. -/
theorem optionalAt?_of_lookup {value : Option α} (hlookup : fields.lookup key = value.map encode)
    (h : ∀ a ∈ value, Denotes decode (encode a) a) :
    optionalAt? decode key fields = some value := by
  cases value with
  | none => rw [optionalAt?, hlookup, Option.map_none]
  | some a =>
    obtain ⟨hnull, hdecode⟩ := h a rfl
    rw [Option.map_some] at hlookup
    unfold optionalAt?
    split
    · simp_all
    · simp_all
    · rename_i value _ hvalue
      rw [hlookup, Option.some.injEq] at hvalue
      rw [← hvalue, hdecode, Option.map_some]

/-- Fields under other keys in front of a field do not matter. -/
@[simp] theorem optionalAt?_append_of_none {before : List (String × Json)}
    (h : before.lookup key = none) :
    optionalAt? decode key (before ++ fields) = optionalAt? decode key fields := by
  rw [optionalAt?, List.lookup_append, h, Option.none_or, optionalAt?]

@[simp] theorem optionalAt?_cons_of_ne {other : String} {json : Json} (h : key ≠ other) :
    optionalAt? decode key ((other, json) :: fields) = optionalAt? decode key fields := by
  rw [optionalAt?, Assoc.lookup_cons, if_neg h, optionalAt?]

section Entry

variable (h : ∀ a, Denotes decode (encode a) a) (value : Option α)
include h

/-- A field that may be absent is read as it was written. -/
@[simp] theorem optionalAt?_entry :
    optionalAt? decode key (entry key encode value) = some value :=
  optionalAt?_of_lookup (by rw [lookup_entry, if_pos rfl]) fun a _ => h a

@[simp] theorem optionalAt?_entry_append (hrest : fields.lookup key = none) :
    optionalAt? decode key (entry key encode value ++ fields) = some value := by
  refine optionalAt?_of_lookup ?_ fun a _ => h a
  rw [List.lookup_append, lookup_entry, if_pos rfl, hrest, Option.or_none]

end Entry

/-- A field that is left out when it says the default is read as the default. -/
theorem defaultAt?_of_lookup {default a : α}
    (h : (fields.lookup key = none ∧ a = default) ∨
      ∃ json, fields.lookup key = some json ∧ decode json = some a) :
    defaultAt? decode default key fields = some a := by
  rcases h with ⟨hnone, rfl⟩ | ⟨json, hsome, hdecode⟩
  · rw [defaultAt?, hnone]
  · rw [defaultAt?, hsome]
    exact hdecode

/-! ### Fields that were read -/

/-- What stands under a key, if anything does and it is not null, is read. -/
def ReadAt (decode : Json → Option α) (key : String) (fields : List (String × Json)) : Prop :=
  ∀ json, fields.lookup key = some json → json ≠ null → ∃ a, decode json = some a

/-- A required field that was read is readable. -/
theorem readAt_of_requiredAt? {a : α} (h : requiredAt? decode key fields = some a) :
    ReadAt decode key fields := by
  intro json hlookup _
  rw [requiredAt?, hlookup, Option.bind_some] at h
  exact ⟨a, h⟩

/-- An optional field that was read was null, absent or readable. -/
theorem readAt_of_optionalAt? {value : Option α} (h : optionalAt? decode key fields = some value) :
    ReadAt decode key fields := by
  intro json hlookup hnull
  unfold optionalAt? at h
  rw [hlookup] at h
  cases json with
  | null => exact absurd rfl hnull
  | _ =>
    obtain ⟨a, ha, -⟩ := Option.map_eq_some_iff.1 h
    exact ⟨a, ha⟩

/-- A field with a default that was read was absent or readable. -/
theorem readAt_of_defaultAt? {default a : α} (h : defaultAt? decode default key fields = some a) :
    ReadAt decode key fields := by
  intro json hlookup _
  rw [defaultAt?, hlookup] at h
  exact ⟨a, h⟩

/-- A step along a list that succeeds does so on every item. -/
theorem exists_of_mapM_eq_some {β : Type} {f : β → Option α} {items : List β} {results : List α}
    (h : items.mapM f = some results) : ∀ item ∈ items, ∃ a, f item = some a := by
  induction items generalizing results with
  | nil => simp
  | cons item rest ih =>
    simp only [List.mapM_cons, Option.bind_eq_bind, Option.bind_eq_some_iff] at h
    obtain ⟨a, ha, rest', hrest, -⟩ := h
    exact List.forall_mem_cons.2 ⟨⟨a, ha⟩, ih hrest⟩

/-! ### Parts -/

section Parts

variable {whole : Json} {parts : List (String × Part whole)}

/-- The parts of an object are its entries. -/
theorem exists_entryParts?_object (fields : List (String × Json)) :
    ∃ parts, (object fields).entryParts? = some parts ∧ plain parts = fields := by
  refine ⟨_, rfl, ?_⟩
  rw [plain, List.map_map]
  exact List.attach_map_subtype_val fields

theorem exists_fieldParts?_object (names : List String) (mandatory : Nat)
    (fields : List (String × Json)) :
    ∃ parts, (object fields).fieldParts? names mandatory = some parts ∧ plain parts = fields :=
  exists_entryParts?_object fields

/-- Parts keep the keys of the values that they are. -/
theorem keys_plain (parts : List (String × Part whole)) :
    Assoc.keys (plain parts) = Assoc.keys parts := by
  rw [Assoc.keys, plain, List.map_map]
  rfl

/-- Parts are found under the keys of the values that they are. -/
theorem lookup_plain (parts : List (String × Part whole)) (key : String) :
    (plain parts).lookup key = (parts.lookup key).map Subtype.val := by
  induction parts with
  | nil => rfl
  | cons entry rest ih =>
    obtain ⟨name, part⟩ := entry
    show ((name, part.val) :: plain rest).lookup key = _
    rw [Assoc.lookup_cons, Assoc.lookup_cons, ih]
    split <;> rfl

/-- A step along parts is one along their values. -/
theorem mapM_plain (step : String → Json → Option α) (parts : List (String × Part whole)) :
    (plain parts).mapM (fun entry => step entry.1 entry.2) =
      parts.mapM (fun entry => step entry.1 entry.2.val) :=
  List.mapM_map

theorem forM_plain {ε : Type} (step : String → Json → Except ε Unit)
    (parts : List (String × Part whole)) :
    (plain parts).forM (fun entry => step entry.1 entry.2) =
      parts.forM (fun entry => step entry.1 entry.2.val) :=
  List.forM_map

variable (decode : Json → Option α) (key : String) (parts : List (String × Part whole))

theorem requiredPart?_eq : requiredPart? (fun part => decode part.val) key parts =
    requiredAt? decode key (plain parts) := by
  rw [requiredPart?, requiredAt?, lookup_plain, Option.bind_map]
  rfl

/-- To read a part is to read the value that it is. -/
theorem optionalPart?_eq : optionalPart? (fun part => decode part.val) key parts =
    optionalAt? decode key (plain parts) := by
  rw [optionalPart?, optionalAt?, lookup_plain]
  rcases parts.lookup key with _ | ⟨json, _⟩
  · rfl
  · cases json <;> rfl

theorem defaultPart?_eq (default : α) :
    defaultPart? (fun part => decode part.val) default key parts =
      defaultAt? decode default key (plain parts) := by
  rw [defaultPart?, defaultAt?, lookup_plain]
  cases parts.lookup key <;> rfl

variable {decode key parts}

theorem readAt_of_requiredPart? {a : α}
    (h : requiredPart? (fun part => decode part.val) key parts = some a) :
    ReadAt decode key (plain parts) := by
  rw [requiredPart?_eq] at h
  exact readAt_of_requiredAt? h

theorem readAt_of_optionalPart? {value : Option α}
    (h : optionalPart? (fun part => decode part.val) key parts = some value) :
    ReadAt decode key (plain parts) := by
  rw [optionalPart?_eq] at h
  exact readAt_of_optionalAt? h

theorem readAt_of_defaultPart? {default a : α}
    (h : defaultPart? (fun part => decode part.val) default key parts = some a) :
    ReadAt decode key (plain parts) := by
  rw [defaultPart?_eq] at h
  exact readAt_of_defaultAt? h

end Parts

end Lexicon.Json
