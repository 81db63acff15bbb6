import Lexicon.Proofs.Descriptor.Rearranged

namespace Lexicon

open Lexicon.Outcome

/-!
# Checks by schemas in another order

A check stops at the first violation, and which one that is depends on the order of the schema.
Whether there is any does not: a check succeeds iff all that it asks for holds, and all of it is
asked for in every order.

* `StringRules.Rearranged.admits_iff`, … — rules that list the same choices admit the same;
* `checkValue_rearranged` — a value passes a check by a descriptor iff it passes the check by a
  rearranged one, in a rearranged registry;
* `checkParams_rearranged` — the same for parameters, which have no descriptor of their own.
-/

/-! ### Choices -/

/-- What holds of a member of one list holds of a member of the other. -/
theorem SameMembers.exists_mem_iff {α : Type} {first second : List α}
    (h : SameMembers first second) {P : α → Prop} :
    (∃ a ∈ first, P a) ↔ ∃ a ∈ second, P a :=
  exists_congr fun a => and_congr_left fun _ => h a

/-- What holds of all members of one list holds of all members of the other. -/
theorem SameMembers.forall_mem_iff {α : Type} {first second : List α}
    (h : SameMembers first second) {P : α → Prop} :
    (∀ a ∈ first, P a) ↔ ∀ a ∈ second, P a :=
  forall_congr' fun a => imp_congr_left (h a)

/-- A demand on the list that is given, if one is, is a demand on the other list. -/
theorem forall_mem_option_iff {α : Type} {list list' : Option (List α)} {P Q : List α → Prop}
    (h : Option.Rel SameMembers list list')
    (hlist : ∀ first second, SameMembers first second → (P first ↔ Q second)) :
    (∀ first ∈ list, P first) ↔ ∀ second ∈ list', Q second := by
  cases h with
  | none => simp
  | some hmembers => simpa using hlist _ _ hmembers

/-- The same choices allow the same. -/
theorem allowed_iff {α : Type} {allowed allowed' : Option (List α)} {const : Option α} {a : α}
    (h : Option.Rel SameMembers allowed allowed') :
    Allowed allowed const a ↔ Allowed allowed' const a :=
  and_congr_left fun _ => forall_mem_option_iff h fun _ _ hmembers => hmembers a

/-- Strings are admitted whatever the order in which the choices are listed. -/
theorem StringRules.Rearranged.admits_iff {rules rules' : StringRules}
    (h : rules.Rearranged rules') (s : String) : rules.Admits s ↔ rules'.Admits s := by
  obtain ⟨allowed, hallowed, rfl⟩ := h
  unfold Admits
  rw [allowed_iff hallowed]

/-- Integers are admitted whatever the order in which the choices are listed. -/
theorem IntegerRules.Rearranged.admits_iff {rules rules' : IntegerRules}
    (h : rules.Rearranged rules') (n : Int) : rules.Admits n ↔ rules'.Admits n := by
  obtain ⟨allowed, hallowed, rfl⟩ := h
  have hvalues : Option.Rel SameMembers (rules.allowed.map (·.map Int64.toInt))
      (allowed.map (·.map Int64.toInt)) := by
    rcases relOption_cases hallowed with ⟨hnone, rfl⟩ | ⟨first, second, hsome, rfl, hmembers⟩
    · rw [hnone]
      exact .none
    · rw [hsome]
      exact .some (hmembers.map Int64.toInt)
  unfold Admits
  rw [allowed_iff hvalues]

/-- Blobs are admitted whatever the order in which the media types are listed. -/
theorem BlobRules.Rearranged.admits_iff {rules rules' : BlobRules} (h : rules.Rearranged rules')
    (mimeType : String) (size : Nat) : rules.Admits mimeType size ↔ rules'.Admits mimeType size := by
  obtain ⟨accept, haccept, rfl⟩ := h
  exact and_congr_right fun _ =>
    forall_mem_option_iff haccept fun _ _ hmembers => hmembers.exists_mem_iff

/-! ### Checks -/

namespace Registry

variable {registry registry' : Registry} {base : String} {value : Value} {path : Path} {hops : Nat}

/-- What an address leads to is passed in both registries, if what is there is. -/
theorem checkTarget_rearranged (h : registry.Rearranged registry') {address : Address}
    (hnext : hops < registry.settings.maxHops → ∀ descriptor descriptor',
      descriptor.Rearranged descriptor' →
      (registry.checkValue address.document descriptor value path (hops + 1) = .ok () ↔
        registry'.checkValue address.document descriptor' value path (hops + 1) = .ok ())) :
    registry.checkTarget address value path hops = .ok () ↔
      registry'.checkTarget address value path hops = .ok () := by
  -- Both registries allow as many hops.
  rw [checkTarget, checkTarget, ← h.settings]
  by_cases hlt : hops < registry.settings.maxHops
  · rw [if_pos hlt, if_pos hlt]
    exact (lookUp_rearranged h address).bind_eq_ok_iff (hnext hlt)
  · rw [if_neg hlt, if_neg hlt]

/-- A property is passed in both registries, if its value is. -/
theorem checkProperty_rearranged {mayBeNull mayBeNull' : Bool} {name : String}
    {descriptor descriptor' : Descriptor} {fields : List (String × Value)}
    (hnull : mayBeNull = true ↔ mayBeNull' = true)
    (hfield : ∀ field, fields.lookup name = some field →
      (registry.checkValue base descriptor field (path.child name) 0 = .ok () ↔
        registry'.checkValue base descriptor' field (path.child name) 0 = .ok ())) :
    registry.checkProperty base mayBeNull name descriptor fields path = .ok () ↔
      registry'.checkProperty base mayBeNull' name descriptor' fields path = .ok () := by
  rw [checkProperty_eq_ok, checkProperty_eq_ok, hnull]
  exact forall_congr' fun field => forall_congr' fun hlookup => imp_congr_right fun _ =>
    hfield field hlookup

/-- An object is passed in both registries, if the values of its properties are. -/
theorem checkObject_rearranged_of_forall {schema schema' : ObjectSchema}
    (h : schema.Rearranged schema')
    (hfield : ∀ name field, value.get? name = some field → ∀ descriptor descriptor' path,
      descriptor.Rearranged descriptor' →
      (registry.checkValue base descriptor field path 0 = .ok () ↔
        registry'.checkValue base descriptor' field path 0 = .ok ())) :
    registry.checkObject base schema value path = .ok () ↔
      registry'.checkObject base schema' value path = .ok () := by
  obtain ⟨hproperties, hrequired, hnullable⟩ := h
  rw [checkObject_eq_ok, checkObject_eq_ok]
  refine exists_congr fun fields => and_congr_right fun hvalue => ?_
  subst hvalue
  -- What is asked for is a list of names, and something of each property by itself.
  refine and_congr hrequired.forall_mem_iff (hproperties.forall_mem_iff ?_)
  intro name descriptor descriptor' hdescriptor
  apply checkProperty_rearranged
  · simpa [ObjectSchema.isNullable] using hnullable name
  · intro field hlookup
    exact hfield name field hlookup descriptor descriptor' _ hdescriptor

/-- **Acceptance does not depend on order.**  A value passes a check by a descriptor iff it passes
    the check by a rearranged one in a rearranged registry.  By induction along the validator. -/
theorem checkValue_rearranged (hregistry : registry.Rearranged registry')
    {descriptor descriptor' : Descriptor} (h : descriptor.Rearranged descriptor') :
    registry.checkValue base descriptor value path hops = .ok () ↔
      registry'.checkValue base descriptor' value path hops = .ok () := by
  induction value, hops using value_hops_induction registry.settings.maxHops
    generalizing base descriptor descriptor' path with
  | step value hops ihvalue ihhops =>
    have htarget (address : Address) :
        registry.checkTarget address value path hops = .ok () ↔
          registry'.checkTarget address value path hops = .ok () :=
      checkTarget_rearranged hregistry fun hlt _ _ hdescriptor => ihhops hlt hdescriptor
    cases h with
    | boolean => rw [checkBoolean_eq_ok, checkBoolean_eq_ok]
    | integer hrules => simp only [checkInteger_eq_ok, hrules.admits_iff]
    | string hrules => simp only [checkString_eq_ok, hrules.admits_iff]
    | bytes => rw [checkBytes_eq_ok, checkBytes_eq_ok]
    | cidLink => rw [checkLink_eq_ok, checkLink_eq_ok]
    | blob hrules => simp only [checkBlob_eq_ok, hrules.admits_iff]
    | unknown => simp only [checkValue_unknown]
    | array hitems =>
      rw [checkArray_eq_ok, checkArray_eq_ok]
      refine exists_congr fun values => and_congr_right fun hvalue => and_congr_right fun _ => ?_
      subst hvalue
      exact forall_congr' fun item => forall_congr' fun hmem =>
        ihvalue item 0 (sizeOf_item_lt hmem) hitems
    | object hschema =>
      rw [checkValue, checkValue]
      refine checkObject_rearranged_of_forall hschema ?_
      intro name field hget descriptor descriptor' path hdescriptor
      obtain ⟨fields, rfl, hlookup⟩ := Value.get?_eq_some.1 hget
      exact ihvalue field 0 (sizeOf_field_lt hlookup) hdescriptor
    | ref => simp only [checkRef_eq_ok, htarget]
    | union hmembers =>
      simp only [checkUnion_eq_ok, htarget, hmembers.forall_mem_iff, hmembers.exists_mem_iff]
    -- The other kinds describe no value, in whatever order.
    | token =>
      exact iff_of_false (checkValue_ne_ok_of_kind (.inl rfl)) (checkValue_ne_ok_of_kind (.inl rfl))
    | _ =>
      exact iff_of_false (checkValue_ne_ok_of_kind (.inr rfl)) (checkValue_ne_ok_of_kind (.inr rfl))

/-- Parameters are checked as properties, each of them by itself. -/
theorem checkParams_rearranged (hregistry : registry.Rearranged registry')
    {schema schema' : ParamsSchema} (h : schema.Rearranged schema') {label : Path} :
    registry.checkParams base schema value label = .ok () ↔
      registry'.checkParams base schema' value label = .ok () := by
  obtain ⟨hproperties, hrequired⟩ := h
  rw [checkParams_eq_ok, checkParams_eq_ok]
  refine exists_congr fun fields => and_congr_right fun _ => ?_
  refine and_congr hrequired.forall_mem_iff (hproperties.forall_mem_iff ?_)
  intro name descriptor descriptor' hdescriptor
  exact checkProperty_rearranged Iff.rfl fun field _ => checkValue_rearranged hregistry hdescriptor

end Registry

end Lexicon
