import Lexicon.Conformance
import Lexicon.Proofs.Assoc
import Lexicon.Proofs.Number.Binary64
import Lexicon.Proofs.Rules.Admits

namespace Lexicon

open Lexicon.Outcome

/-!
# What a check comes to

One law for each function of the validator and for each kind of descriptor.  The recursion is
unfolded here and nowhere else.

* `Value.IsInteger`, `Value.IsBlob` — what the two kinds of descriptors ask of a value that look
  further than at its constructor;
* `checkItems_eq_forM`, `checkProperties_eq_forM`, … — the validator as equations;
* `checkBoolean_eq_ok`, `checkUnion_eq_ok`, … — when a check of each kind succeeds;
* `UnionFails`, `checkUnion_fails` — the ways in which the check of a union fails;
* `Registry.value_hops_induction` — the induction that follows the validator: the value gets smaller
  or, for the same value, one hop more has been made.
-/

/-! ### Looking into values -/

/-- A field that is read as a string is there and is that string. -/
theorem Value.bind_string?_eq_some {field : Option Value} {s : String} :
    field.bind Value.string? = some s ↔ field = some (.string s) := by
  rw [Option.bind_eq_some_iff]
  constructor
  · rintro ⟨value, rfl, h⟩
    cases value <;> simp_all [Value.string?]
  · rintro rfl
    exact ⟨_, rfl, rfl⟩

theorem Value.get?_eq_some {value : Value} {key : String} {field : Value} :
    value.get? key = some field ↔
      ∃ fields, value = .object fields ∧ fields.lookup key = some field := by
  cases value <;> simp [Value.get?]

/-! ### Integers and blobs as values -/

/-- A value is a number with the integer `n` as its exact value, however it is written. -/
def Value.IsInteger : Value → Int → Prop
  | .integer i, n => i.toInt = n
  | .float x, n => x.IsWhole n
  | _, _ => False

/-- The integer check passes for integers that the rules admit. -/
theorem integerCheck_eq_ok {rules : IntegerRules} {value : Value} :
    integerCheck rules value = .ok () ↔ ∃ n, value.IsInteger n ∧ rules.Admits n := by
  cases value with
  | integer i => simp [integerCheck, Value.integer?, Value.IsInteger, IntegerRules.check_eq_ok]
  | float x =>
    -- The number is read once, as an integer of any magnitude; the word comes second.
    simp only [Value.IsInteger, ← Binary64.integer?_eq_some]
    cases hx : x.integer? with
    | none => simp [integerCheck, Value.integer?, hx]
    | some n =>
      have hvalue : (Value.float x).integer? = int64OfInt? n := by simp [Value.integer?, hx]
      simp only [integerCheck, hvalue, hx, Option.some.injEq, exists_eq_left']
      cases hn : int64OfInt? n with
      | none => exact IntegerRules.checkBeyond_eq_ok (int64OfInt?_eq_none.1 hn)
      | some i => rw [← int64OfInt?_eq_some.1 hn]; exact IntegerRules.check_eq_ok
  | _ => simp [integerCheck, Value.integer?, Value.IsInteger]

/-- A value is the reference to a blob: an object of exactly four entries, in any order. -/
def Value.IsBlob (value : Value) (mimeType : String) (size : Nat) : Prop :=
  ∃ fields cid i, value = .object fields ∧
    fields.Perm [("$type", .string "blob"), ("ref", .link cid), ("mimeType", .string mimeType),
      ("size", .integer i)] ∧
    mimeType ≠ "" ∧ i.toInt = size

/-- What is read as a blob is one. -/
theorem blobOf?_eq_some {value : Value} {mimeType : String} {size : Nat} :
    blobOf? value = some (mimeType, size) ↔ value.IsBlob mimeType size := by
  constructor
  · intro h
    unfold blobOf? at h
    split at h
    · rename_i fields
      split at h
      · rename_i type cid mime i htype href hmime hsize
        split at h
        · rename_i hblob
          obtain ⟨hlength, rfl, hne, hnonneg⟩ := hblob
          simp only [Option.some.injEq, Prod.mk.injEq] at h
          obtain ⟨rfl, rfl⟩ := h
          refine ⟨fields, cid, i, rfl, ?_, hne, by omega⟩
          -- Four different keys among four entries are all of them.
          refine List.Perm.symm (List.Subperm.perm_of_length_le (List.subperm_of_subset ?_ ?_) ?_)
          · simp
          · simp only [List.cons_subset, List.nil_subset, and_true]
            exact ⟨Assoc.mem_of_lookup htype, Assoc.mem_of_lookup href, Assoc.mem_of_lookup hmime,
              Assoc.mem_of_lookup hsize⟩
          · exact hlength.le
        · cases h
      · cases h
    · cases h
  · rintro ⟨fields, cid, i, rfl, hperm, hne, hi⟩
    have hlookup := Assoc.lookup_eq_of_perm hperm (by simp)
    have hlength := hperm.length_eq
    simp [blobOf?, hlookup, hlength, Assoc.lookup_cons, hne, hi]

/-! ### References -/

theorem Address.locate_eq_ok {reference : String} {base : Option String} {address : Address} :
    Address.locate reference base = .ok address ↔ Address.parse reference base = .ok address := by
  unfold Address.locate
  cases Address.parse reference base <;> simp

/-- Nothing but its spelling is wrong with a reference that stands for no address. -/
theorem Address.locate_eq_error {reference : String} {base : Option String} {failure : Failure}
    (h : Address.locate reference base = .error failure) :
    ∃ error, failure = .resolution (.invalidReference error) := by
  unfold Address.locate at h
  cases hparse : Address.parse reference base with
  | ok address =>
    rw [hparse] at h
    cases h
  | error error =>
    rw [hparse] at h
    cases h
    exact ⟨error, rfl⟩

namespace Registry

variable {registry : Registry} {base : String} {value : Value} {path : Path} {hops : Nat}

/-- A document is found under its own identifier. -/
theorem id_of_find? {id : String} {document : Document}
    (h : registry.find? id = some document) : document.id = id := by
  unfold find? at h
  have hid := List.find?_some h
  simpa using hid

theorem lookUp_eq_ok {address : Address} {descriptor : Descriptor} :
    registry.lookUp address = .ok descriptor ↔ registry.resolve address = .ok descriptor := by
  rw [lookUp, mapError_eq_ok]

/-- Where documents are changed one by one, and keep their identifiers, an address leads to what has
    become of the definition that was there. -/
theorem lookUp_map (registry : Registry) (change : Document → Document)
    (replace : String → Descriptor → Descriptor)
    (hid : ∀ document, (change document).id = document.id)
    (hfind : ∀ document name,
      (change document).find? name = (document.find? name).map (replace document.id))
    (address : Address) :
    lookUp { registry with documents := registry.documents.map change } address =
      (registry.lookUp address).map (replace address.document) := by
  have hdocument : find? { registry with documents := registry.documents.map change }
      address.document = (registry.find? address.document).map change := by
    unfold find?
    rw [List.find?_map]
    congr 2
    funext document
    exact congrArg (· == address.document) (hid document)
  unfold lookUp resolve
  rw [hdocument]
  cases hfound : registry.find? address.document with
  | none => rfl
  | some document =>
    rw [Option.map_some]
    dsimp only
    -- The document that is found has the identifier in the address.
    rw [hfind, id_of_find? hfound]
    cases document.find? address.name <;> rfl

/-- The members of a union, as addresses and in order. -/
theorem unionMembers_eq_ok {members : List String} {addresses : List Address} :
    unionMembers base members = .ok addresses ↔
      List.Forall₂ (fun member address => Address.parse member (some base) = .ok address) members
        addresses := by
  simp only [unionMembers, mapM_eq_ok, Address.locate_eq_ok]

/-- The members of a union, as addresses, are those behind its references. -/
theorem mem_unionMembers {members : List String} {addresses : List Address}
    (h : unionMembers base members = .ok addresses) {address : Address} :
    address ∈ addresses ↔ ∃ member ∈ members, Address.parse member (some base) = .ok address := by
  rw [unionMembers_eq_ok] at h
  induction h with
  | nil => simp
  | cons hhead _ ih =>
    rw [List.mem_cons, ih, List.exists_mem_cons_iff, hhead, Except.ok.injEq, eq_comm]

/-- The members of a union can be compared if all of them parse. -/
theorem exists_unionMembers_eq_ok {members : List String} :
    (∃ addresses, unionMembers base members = .ok addresses) ↔
      ∀ member ∈ members, ∃ address, Address.parse member (some base) = .ok address := by
  simp only [unionMembers, exists_mapM_eq_ok, Address.locate_eq_ok]

/-- The members of a union fail only in parsing. -/
theorem unionMembers_eq_error {members : List String} {failure : Failure}
    (h : unionMembers base members = .error failure) :
    ∃ error, failure = .resolution (.invalidReference error) := by
  obtain ⟨member, -, hmember⟩ := exists_of_mapM_eq_error h
  exact Address.locate_eq_error hmember

/-! ### The validator as equations -/

/-- The items are checked one after the other, all at the path of the array. -/
theorem checkItems_eq_forM (items : Descriptor) (values : List Value) :
    registry.checkItems base items values path =
      values.forM fun value => registry.checkValue base items value path 0 := by
  induction values with
  | nil => rw [checkItems]; rfl
  | cons value rest ih => rw [checkItems, ih]; rfl

/-- The properties are checked one after the other, in the order of the schema. -/
theorem checkProperties_eq_forM (mayBeNull : String → Bool)
    (properties : List (String × Descriptor)) (fields : List (String × Value)) :
    registry.checkProperties base mayBeNull properties fields path =
      properties.forM fun property =>
        registry.checkProperty base (mayBeNull property.1) property.1 property.2 fields path := by
  induction properties with
  | nil => rw [checkProperties]; rfl
  | cons property rest ih => rw [checkProperties, ih]; rfl

section Property

variable {mayBeNull : Bool} {name : String} {descriptor : Descriptor}
  {fields : List (String × Value)}

/-- An absent property passes: only the required names are asked for, and before. -/
theorem checkProperty_of_none (h : fields.lookup name = none) :
    registry.checkProperty base mayBeNull name descriptor fields path = .ok () := by
  rw [checkProperty]
  split <;> simp_all

/-- A property with a value is checked below its name, unless it is null and may be. -/
theorem checkProperty_of_some {field : Value} (h : fields.lookup name = some field) :
    registry.checkProperty base mayBeNull name descriptor fields path =
      if field.isNull && mayBeNull then .ok ()
      else registry.checkValue base descriptor field (path.child name) 0 := by
  rw [checkProperty]
  split <;> simp_all

/-- Two checks of a property come out the same, if the checks of its value do. -/
theorem checkProperty_congr {registry' : Registry} {base' : String} {descriptor' : Descriptor}
    (hfield : ∀ field, fields.lookup name = some field →
      registry'.checkValue base' descriptor' field (path.child name) 0 =
        registry.checkValue base descriptor field (path.child name) 0) :
    registry'.checkProperty base' mayBeNull name descriptor' fields path =
      registry.checkProperty base mayBeNull name descriptor fields path := by
  cases hlookup : fields.lookup name with
  | none => rw [checkProperty_of_none hlookup, checkProperty_of_none hlookup]
  | some field =>
    rw [checkProperty_of_some hlookup, checkProperty_of_some hlookup, hfield field hlookup]

/-- A property fails as the value at its name does, one step down the path. -/
theorem checkProperty_eq_error {failure : Failure}
    (h : registry.checkProperty base mayBeNull name descriptor fields path = .error failure) :
    ∃ field, fields.lookup name = some field ∧ ¬ (field = .null ∧ mayBeNull) ∧
      registry.checkValue base descriptor field (path.child name) 0 = .error failure := by
  cases hfield : fields.lookup name with
  | none =>
    rw [checkProperty_of_none hfield] at h
    cases h
  | some field =>
    rw [checkProperty_of_some hfield] at h
    by_cases hnull : field.isNull && mayBeNull
    · rw [if_pos hnull] at h
      cases h
    · rw [if_neg hnull] at h
      refine ⟨field, rfl, fun hskipped => hnull ?_, h⟩
      rw [hskipped.1, hskipped.2]
      rfl

end Property

/-- An array is checked as a whole before its items are. -/
theorem checkArray_eq (description : Option String) (items : Descriptor) (rules : LengthRules)
    (values : List Value) :
    registry.checkValue base (.array description items rules) (.array values) path hops = (do
      (rules.checkItems values.length).at path
      values.forM fun value => registry.checkValue base items value path 0) := by
  rw [checkValue, checkItems_eq_forM]

/-- An object is checked for its required names before its properties. -/
theorem checkObject_eq (schema : ObjectSchema) (fields : List (String × Value)) :
    registry.checkObject base schema (.object fields) path = (do
      checkRequiredNames schema.required fields path
      schema.properties.forM fun property =>
        registry.checkProperty base (schema.isNullable property.1) property.1 property.2 fields
          path) := by
  rw [checkObject, checkProperties_eq_forM]

/-- What is behind an address fails because there are too many hops, because nothing is there, or
    as the definition there does. -/
theorem checkTarget_eq_error {address : Address} {failure : Failure}
    (h : registry.checkTarget address value path hops = .error failure) :
    failure = .resolution (.tooManyHops registry.settings.maxHops path) ∨
      (∃ error, registry.resolve address = .error error ∧ failure = .resolution error) ∨
      hops < registry.settings.maxHops ∧ ∃ descriptor,
        registry.resolve address = .ok descriptor ∧
          registry.checkValue address.document descriptor value path (hops + 1) =
            .error failure := by
  rw [checkTarget] at h
  by_cases hlt : hops < registry.settings.maxHops
  · -- With a hop left, either the address does not resolve or the check behind it fails.
    rw [if_pos hlt] at h
    rcases bind_eq_error.1 h with hlookUp | ⟨descriptor, hlookUp, h⟩
    · obtain ⟨error, hresolve, rfl⟩ := mapError_eq_error.1 hlookUp
      exact .inr (.inl ⟨error, hresolve, rfl⟩)
    · exact .inr (.inr ⟨hlt, descriptor, lookUp_eq_ok.1 hlookUp, h⟩)
  · rw [if_neg hlt] at h
    cases h
    exact .inl rfl

/-! ### When a check succeeds -/

theorem Check.at_eq_ok {check : Check} : check.at path = .ok () ↔ check = .ok () := by
  rw [Check.at, mapError_eq_ok]

section Scalars

variable {description : Option String}

theorem checkBoolean_eq_ok {rules : BooleanRules} :
    registry.checkValue base (.boolean description rules) value path hops = .ok () ↔
      ∃ b, value = .boolean b ∧ rules.Admits b := by
  cases value <;> simp [checkValue, violates, Check.at_eq_ok, BooleanRules.check_eq_ok]

theorem checkInteger_eq_ok {rules : IntegerRules} :
    registry.checkValue base (.integer description rules) value path hops = .ok () ↔
      ∃ n, value.IsInteger n ∧ rules.Admits n := by
  rw [checkValue, Check.at_eq_ok, integerCheck_eq_ok]

/-- A string passes if its format accepts it and the rules admit it. -/
theorem checkString_eq_ok {format : Option Format} {rules : StringRules} :
    registry.checkValue base (.string description format rules) value path hops = .ok () ↔
      ∃ s, value = .string s ∧ (∀ f ∈ format, f.accepts s) ∧ rules.Admits s := by
  cases value with
  | string s =>
    rw [checkValue]
    cases format with
    | none => simp [Check.at_eq_ok, StringRules.check_eq_ok]
    | some f =>
      cases hf : f.accepts s <;>
        simp [Option.filter, hf, violates, Check.at_eq_ok, StringRules.check_eq_ok]
  | _ => simp [checkValue, violates]

theorem checkBytes_eq_ok {rules : LengthRules} :
    registry.checkValue base (.bytes description rules) value path hops = .ok () ↔
      ∃ data, value = .bytes data ∧ rules.Admits data.length := by
  cases value <;> simp [checkValue, violates, Check.at_eq_ok, LengthRules.checkBytes_eq_ok]

/-- Every link passes. -/
theorem checkLink_eq_ok :
    registry.checkValue base (.cidLink description) value path hops = .ok () ↔
      ∃ cid, value = .link cid := by
  cases value <;> simp [checkValue, violates]

/-- A blob passes if the rules admit its media type and size. -/
theorem checkBlob_eq_ok {rules : BlobRules} :
    registry.checkValue base (.blob description rules) value path hops = .ok () ↔
      ∃ mimeType size, value.IsBlob mimeType size ∧ rules.Admits mimeType size := by
  simp only [checkValue, ← blobOf?_eq_some]
  cases blobOf? value with
  | none => simp [violates]
  | some blob => simp [Check.at_eq_ok, BlobRules.check_eq_ok, Prod.ext_iff]

end Scalars

/-- An array passes if the rules admit its length and all its items pass. -/
theorem checkArray_eq_ok {description : Option String} {items : Descriptor} {rules : LengthRules} :
    registry.checkValue base (.array description items rules) value path hops = .ok () ↔
      ∃ values, value = .array values ∧ rules.Admits values.length ∧
        ∀ value ∈ values, registry.checkValue base items value path 0 = .ok () := by
  cases value with
  | array values =>
    rw [checkArray_eq, then_eq_ok, Check.at_eq_ok, LengthRules.checkItems_eq_ok, forM_eq_ok]
    simp
  | _ => simp [checkValue, violates]

/-- The required names pass if they are all keys. -/
theorem checkRequiredNames_eq_ok {required : List String} {fields : List (String × Value)} :
    checkRequiredNames required fields path = .ok () ↔
      ∀ name ∈ required, name ∈ Assoc.keys fields := by
  unfold checkRequiredNames
  simp only [← Assoc.hasKey_iff]
  cases h : required.find? (!Assoc.hasKey fields ·) with
  | none => simpa using h
  | some name =>
    have hname := List.find?_some h
    simp only [violates, reduceCtorEq, false_iff, not_forall]
    exact ⟨name, List.mem_of_find?_eq_some h, by simpa using hname⟩

/-- A property passes if it is absent, or null where it may be, or if its value passes. -/
theorem checkProperty_eq_ok {mayBeNull : Bool} {name : String} {descriptor : Descriptor}
    {fields : List (String × Value)} :
    registry.checkProperty base mayBeNull name descriptor fields path = .ok () ↔
      ∀ field, fields.lookup name = some field → ¬ (field = .null ∧ mayBeNull) →
        registry.checkValue base descriptor field (path.child name) 0 = .ok () := by
  cases h : fields.lookup name with
  | none => simp [checkProperty_of_none h]
  | some field =>
    rw [checkProperty_of_some h]
    cases field <;> cases mayBeNull <;> simp [Value.isNull]

/-- An object passes if it has the required names and all its properties pass. -/
theorem checkObject_eq_ok {schema : ObjectSchema} :
    registry.checkObject base schema value path = .ok () ↔
      ∃ fields, value = .object fields ∧ (∀ name ∈ schema.required, name ∈ Assoc.keys fields) ∧
        ∀ name descriptor, (name, descriptor) ∈ schema.properties →
          registry.checkProperty base (schema.isNullable name) name descriptor fields path =
            .ok () := by
  cases value with
  | object fields =>
    rw [checkObject_eq, then_eq_ok, checkRequiredNames_eq_ok, forM_eq_ok]
    simp
  | _ => simp [checkObject, violates]

/-- What an address names passes a value if there is a hop left, the address resolves, and the
    definition there passes the value. -/
theorem checkTarget_eq_ok {address : Address} :
    registry.checkTarget address value path hops = .ok () ↔
      hops < registry.settings.maxHops ∧ ∃ descriptor,
        registry.resolve address = .ok descriptor ∧
          registry.checkValue address.document descriptor value path (hops + 1) = .ok () := by
  rw [checkTarget]
  split
  · rename_i h; simp [h, bind_eq_ok, lookUp_eq_ok]
  · rename_i h; simp [h]

/-- A reference passes what its target passes. -/
theorem checkRef_eq_ok {description : Option String} {target : String} :
    registry.checkValue base (.ref description target) value path hops = .ok () ↔
      ∃ address, Address.parse target (some base) = .ok address ∧
        registry.checkTarget address value path hops = .ok () := by
  rw [checkValue, bind_eq_ok]
  simp only [Address.locate_eq_ok]

/-- What a union asks for: all its members are references, the value names its type, and either
    the type is a member and the value is as the definition there says, or it is none and the union
    is open. -/
theorem checkUnion_eq_ok {description : Option String} {members : List String}
    {closed : Option Bool} :
    registry.checkValue base (.union description members closed) value path hops = .ok () ↔
      (∀ member ∈ members, ∃ address, Address.parse member (some base) = .ok address) ∧
      ∃ type given, value.get? "$type" = some (.string type) ∧
        Address.parse type none = .ok given ∧
        if ∃ member ∈ members, Address.parse member (some base) = .ok given then
          registry.checkTarget given value path hops = .ok ()
        else Descriptor.isClosed closed = false := by
  -- Only whether the type is a member matters, not which addresses the error would list.
  have hrest (addresses : List Address) (given : Address)
      (haddresses : unionMembers base members = .ok addresses) :
      (if addresses.contains given then registry.checkTarget given value path hops
        else if Descriptor.isClosed closed then
          violates path (.unionTypeNotAllowed (addresses.map Address.render))
        else .ok ()) = .ok () ↔
      if ∃ member ∈ members, Address.parse member (some base) = .ok given then
        registry.checkTarget given value path hops = .ok ()
      else Descriptor.isClosed closed = false := by
    simp only [← mem_unionMembers haddresses, List.contains_iff_mem]
    split
    · rfl
    · cases Descriptor.isClosed closed <;> simp [violates]
  rw [checkValue, ← exists_unionMembers_eq_ok]
  simp only [← Value.bind_string?_eq_some]
  cases h : (value.get? "$type").bind Value.string? with
  | none => simp [violates]
  | some type =>
    simp only [bind_eq_ok, Option.some.injEq, Address.locate_eq_ok]
    constructor
    · rintro ⟨addresses, haddresses, given, hgiven, h⟩
      exact ⟨⟨addresses, haddresses⟩, type, given, rfl, hgiven,
        (hrest addresses given haddresses).1 h⟩
    · rintro ⟨⟨addresses, haddresses⟩, _, given, rfl, hgiven, h⟩
      exact ⟨addresses, haddresses, given, hgiven, (hrest addresses given haddresses).2 h⟩

/-- What a failing check of a union tells, in the order in which it looks for it. -/
inductive UnionFails (registry : Registry) (base : String) (members : List String)
    (closed : Option Bool) (value : Value) (path : Path) (hops : Nat) : Failure → Prop where
  /-- The value names no type. -/
  | untyped : (∀ type, value.get? "$type" ≠ some (.string type)) →
      UnionFails registry base members closed value path hops
        (.violation path .missingTypeProperty)
  /-- A member cannot be read, whether the value is of this type or not. -/
  | member {failure : Failure} : unionMembers base members = .error failure →
      UnionFails registry base members closed value path hops failure
  /-- The type cannot be read. -/
  | type {type : String} {failure : Failure} : value.get? "$type" = some (.string type) →
      Address.locate type none = .error failure →
      UnionFails registry base members closed value path hops failure
  /-- The value is of the type of a member, and fails behind it. -/
  | target {addresses : List Address} {type : String} {given : Address} {failure : Failure} :
      unionMembers base members = .ok addresses → value.get? "$type" = some (.string type) →
      Address.parse type none = .ok given → given ∈ addresses →
      registry.checkTarget given value path hops = .error failure →
      UnionFails registry base members closed value path hops failure
  /-- The value is of the type of no member, and the union is closed. -/
  | stranger {addresses : List Address} {type : String} {given : Address} :
      unionMembers base members = .ok addresses → value.get? "$type" = some (.string type) →
      Address.parse type none = .ok given → given ∉ addresses →
      Descriptor.isClosed closed = true →
      UnionFails registry base members closed value path hops
        (.violation path (.unionTypeNotAllowed (addresses.map Address.render)))

/-- The check of a union fails in one of these ways. -/
theorem checkUnion_fails {description : Option String} {members : List String}
    {closed : Option Bool} {failure : Failure}
    (h : registry.checkValue base (.union description members closed) value path hops =
      .error failure) :
    UnionFails registry base members closed value path hops failure := by
  rw [checkValue] at h
  cases htype : (value.get? "$type").bind Value.string? with
  | none =>
    rw [htype] at h
    cases h
    refine .untyped fun type hget => ?_
    rw [Value.bind_string?_eq_some.2 hget] at htype
    cases htype
  | some type =>
    rw [htype] at h
    rw [Value.bind_string?_eq_some] at htype
    rcases bind_eq_error.1 h with h | ⟨addresses, hmembers, h⟩
    · exact .member h
    rcases bind_eq_error.1 h with h | ⟨given, hgiven, h⟩
    · exact .type htype h
    rw [Address.locate_eq_ok] at hgiven
    by_cases hcontains : addresses.contains given
    · rw [if_pos hcontains] at h
      exact .target hmembers htype hgiven (List.contains_iff_mem.1 hcontains) h
    · rw [if_neg hcontains] at h
      by_cases hclosed : Descriptor.isClosed closed
      · rw [if_pos hclosed] at h
        cases h
        exact .stranger hmembers htype hgiven (mt List.contains_iff_mem.2 hcontains) hclosed
      · -- An open union lets strangers pass.
        rw [if_neg hclosed] at h
        cases h

/-- The kinds that describe no value. -/
theorem checkValue_ne_ok_of_kind {descriptor : Descriptor}
    (h : descriptor.kind = .token ∨ descriptor.kind.isTopLevelOnly) :
    registry.checkValue base descriptor value path hops ≠ .ok () := by
  cases descriptor <;> simp [Descriptor.kind, Kind.isTopLevelOnly] at h <;> simp [checkValue]

/-! ### Induction along the validator -/

/-- An item is smaller than its array. -/
theorem sizeOf_item_lt {item : Value} {values : List Value} (h : item ∈ values) :
    sizeOf item < sizeOf (Value.array values) := by
  have := List.sizeOf_lt_of_mem h
  rw [Value.array.sizeOf_spec]
  omega

/-- A field is smaller than its object. -/
theorem sizeOf_field_lt {name : String} {field : Value} {fields : List (String × Value)}
    (h : fields.lookup name = some field) : sizeOf field < sizeOf (Value.object fields) := by
  have := sizeOf_lt_of_lookup h
  rw [Value.object.sizeOf_spec]
  omega

/-- **Induction along the validator.**  A statement on a value and a number of hops holds if it
    follows from the same for all smaller values, with any number of hops, and for the same value
    one hop further, as long as there may be one more. -/
theorem value_hops_induction (limit : Nat) {P : Value → Nat → Prop}
    (step : ∀ value hops, (∀ smaller hops', sizeOf smaller < sizeOf value → P smaller hops') →
      (hops < limit → P value (hops + 1)) → P value hops)
    (value : Value) (hops : Nat) : P value hops := by
  induction h : sizeOf value using Nat.strong_induction_on generalizing value hops with
  | _ size ihsize =>
    -- For one value, the hops that are left get fewer.
    induction hleft : limit - hops generalizing hops with
    | zero => exact step value hops (fun v k hv => ihsize _ (h ▸ hv) v k rfl) (by omega)
    | succ left ihhops =>
      exact step value hops (fun v k hv => ihsize _ (h ▸ hv) v k rfl)
        fun _ => ihhops (hops + 1) (by omega)

end Registry

end Lexicon
