import Lexicon.Proofs.Conformance.Agreement
import Lexicon.Proofs.Conformance.Roles
import Mathlib.Order.Filter.AtTopBot.Basic
import Mathlib.Order.Filter.Finite

namespace Lexicon

open Lexicon.Outcome
open Filter

/-!
# Conformance as a relation

What it means that a value is as a descriptor says, without paths, without an order and without
counting hops.

* `Registry.Conforms` — the relation, with one rule for each kind of descriptor that describes
  values and two for unions;
* `Registry.Accepts` — the same for the definition behind a reference;
* `conforms_of_checkValue`, `eventually_checkValue_of_conforms` — soundness, and completeness for
  high limits;
* `Decides check holds` — a check with a limit decides a property, as far as the limit lets it;
* `validator_decides_conformance` — the validator decides the relation.
-/

/-- The registry with another limit on hops. -/
def Registry.withMaxHops (registry : Registry) (max : Nat) : Registry :=
  { registry with settings := { maxHops := max } }

namespace Registry

/-- A value is as a descriptor of the document `base` says. -/
inductive Conforms (registry : Registry) : String → Descriptor → Value → Prop where
  | boolean {base description rules b} :
      BooleanRules.Admits rules b →
      Conforms registry base (.boolean description rules) (.boolean b)
  | integer {base description rules value n} :
      Value.IsInteger value n → IntegerRules.Admits rules n →
      Conforms registry base (.integer description rules) value
  | string {base description format rules s} :
      (∀ f ∈ format, Format.accepts f s) → StringRules.Admits rules s →
      Conforms registry base (.string description format rules) (.string s)
  | bytes {base description rules data} :
      LengthRules.Admits rules data.length →
      Conforms registry base (.bytes description rules) (.bytes data)
  | link {base description cid} :
      Conforms registry base (.cidLink description) (.link cid)
  | blob {base description rules value mimeType size} :
      Value.IsBlob value mimeType size → BlobRules.Admits rules mimeType size →
      Conforms registry base (.blob description rules) value
  | unknown {base description value} :
      Conforms registry base (.unknown description) value
  | array {base description items rules values} :
      LengthRules.Admits rules values.length →
      (∀ value ∈ values, Conforms registry base items value) →
      Conforms registry base (.array description items rules) (.array values)
  | object {base schema fields} :
      (∀ name ∈ schema.required, name ∈ Assoc.keys fields) →
      (∀ name descriptor field, (name, descriptor) ∈ schema.properties →
        fields.lookup name = some field → ¬ (field = .null ∧ name ∈ schema.nullable) →
        Conforms registry base descriptor field) →
      Conforms registry base (.object schema) (.object fields)
  | ref {base description target value address descriptor} :
      Address.parse target (some base) = .ok address →
      registry.resolve address = .ok descriptor →
      Conforms registry address.document descriptor value →
      Conforms registry base (.ref description target) value
  /-- The value names one of the members, and is as the definition there says. -/
  | member {base description members closed fields type given descriptor} :
      (∀ member ∈ members, ∃ address, Address.parse member (some base) = .ok address) →
      List.lookup "$type" fields = some (.string type) → Address.parse type none = .ok given →
      (∃ member ∈ members, Address.parse member (some base) = .ok given) →
      registry.resolve given = .ok descriptor →
      Conforms registry given.document descriptor (.object fields) →
      Conforms registry base (.union description members closed) (.object fields)
  /-- The value names none of the members, and the union is open. -/
  | stranger {base description members closed fields type given} :
      (∀ member ∈ members, ∃ address, Address.parse member (some base) = .ok address) →
      List.lookup "$type" fields = some (.string type) → Address.parse type none = .ok given →
      (¬ ∃ member ∈ members, Address.parse member (some base) = .ok given) →
      Descriptor.isClosed closed = false →
      Conforms registry base (.union description members closed) (.object fields)

/-- A value is as the definition behind a reference says. -/
def Accepts (registry : Registry) (reference : String) (value : Value) : Prop :=
  ∃ address definition, Address.parse reference none = .ok address ∧
    registry.resolve address = .ok definition ∧
    registry.Conforms address.document definition.described value

variable {registry : Registry} {base : String} {descriptor : Descriptor} {value : Value}
  {max : Nat}

/-! ### Soundness -/

/-- **Soundness.**  A value that passes a check with any limit conforms. -/
theorem conforms_of_checkValue {path : Path} {hops : Nat}
    (h : (registry.withMaxHops max).checkValue base descriptor value path hops = .ok ()) :
    registry.Conforms base descriptor value := by
  induction value, hops using value_hops_induction max generalizing base descriptor path with
  | step value hops ihvalue ihhops =>
    -- What a reference or a union leads to: the same value, one hop further.
    have htarget (address : Address)
        (h : (registry.withMaxHops max).checkTarget address value path hops = .ok ()) :
        ∃ descriptor, registry.resolve address = .ok descriptor ∧
          registry.Conforms address.document descriptor value := by
      obtain ⟨hlt, descriptor, hresolve, h⟩ := checkTarget_eq_ok.1 h
      exact ⟨descriptor, hresolve, ihhops hlt h⟩
    cases descriptor with
    | boolean => obtain ⟨b, rfl, hb⟩ := checkBoolean_eq_ok.1 h; exact .boolean hb
    | integer => obtain ⟨n, hvalue, hn⟩ := checkInteger_eq_ok.1 h; exact .integer hvalue hn
    | string => obtain ⟨s, rfl, hformat, hs⟩ := checkString_eq_ok.1 h; exact .string hformat hs
    | bytes => obtain ⟨data, rfl, hdata⟩ := checkBytes_eq_ok.1 h; exact .bytes hdata
    | cidLink => obtain ⟨cid, rfl⟩ := checkLink_eq_ok.1 h; exact .link
    | blob => obtain ⟨_, _, hblob, hrules⟩ := checkBlob_eq_ok.1 h; exact .blob hblob hrules
    | unknown => exact .unknown
    | array =>
      obtain ⟨values, rfl, hlength, hitems⟩ := checkArray_eq_ok.1 h
      exact .array hlength fun item hmem => ihvalue item 0 (sizeOf_item_lt hmem) (hitems item hmem)
    | object schema =>
      rw [checkValue] at h
      obtain ⟨fields, rfl, hrequired, hproperties⟩ := checkObject_eq_ok.1 h
      refine .object hrequired fun name descriptor field hmem hfield hnull => ?_
      refine ihvalue field 0 (sizeOf_field_lt hfield)
        (checkProperty_eq_ok.1 (hproperties name descriptor hmem) field hfield ?_)
      simpa [ObjectSchema.isNullable] using hnull
    | ref =>
      obtain ⟨address, hparse, h⟩ := checkRef_eq_ok.1 h
      obtain ⟨descriptor, hresolve, h⟩ := htarget address h
      exact .ref hparse hresolve h
    | union =>
      obtain ⟨hmembers, type, given, htype, hgiven, h⟩ := checkUnion_eq_ok.1 h
      obtain ⟨fields, rfl, htype⟩ := Value.get?_eq_some.1 htype
      split at h
      · rename_i hmember
        obtain ⟨descriptor, hresolve, h⟩ := htarget given h
        exact .member hmembers htype hgiven hmember hresolve h
      · rename_i hstranger
        exact .stranger hmembers htype hgiven hstranger h
    -- The other kinds describe no value.
    | token => exact absurd h (checkValue_ne_ok_of_kind (.inl rfl))
    | _ => exact absurd h (checkValue_ne_ok_of_kind (.inr rfl))

/-! ### Completeness -/

/-- Finitely many demands on the limit are met by one limit. -/
theorem eventually_forall_mem {α : Type} {items : List α} {P : α → Nat → Prop}
    (h : ∀ item ∈ items, ∀ᶠ max in atTop, P item max) :
    ∀ᶠ max in atTop, ∀ item ∈ items, P item max :=
  (eventually_all_finite items.finite_toSet).2 h

/-- **Completeness.**  A value that conforms passes all checks whose limit is high enough. -/
theorem eventually_checkValue_of_conforms (h : registry.Conforms base descriptor value)
    (hops : Nat) :
    ∀ᶠ max in atTop, ∀ path,
      (registry.withMaxHops max).checkValue base descriptor value path hops = .ok () := by
  induction h generalizing hops with
  | boolean hb => exact .of_forall fun _ _ => checkBoolean_eq_ok.2 ⟨_, rfl, hb⟩
  | integer hvalue hn => exact .of_forall fun _ _ => checkInteger_eq_ok.2 ⟨_, hvalue, hn⟩
  | string hformat hs => exact .of_forall fun _ _ => checkString_eq_ok.2 ⟨_, rfl, hformat, hs⟩
  | bytes hdata => exact .of_forall fun _ _ => checkBytes_eq_ok.2 ⟨_, rfl, hdata⟩
  | link => exact .of_forall fun _ _ => checkLink_eq_ok.2 ⟨_, rfl⟩
  | blob hblob hrules => exact .of_forall fun _ _ => checkBlob_eq_ok.2 ⟨_, _, hblob, hrules⟩
  | unknown => exact .of_forall fun _ _ => checkValue_unknown _ _ _ _ _ _
  | array hlength _ ih =>
    filter_upwards [eventually_forall_mem fun item hmem => ih item hmem 0] with max hitems path
    exact checkArray_eq_ok.2 ⟨_, rfl, hlength, fun item hmem => hitems item hmem path⟩
  | @object base schema fields hrequired _ ih =>
    -- Each property has a limit of its own, and there are finitely many of them.
    have hproperties : ∀ property ∈ schema.properties, ∀ᶠ max in atTop, ∀ path,
        (registry.withMaxHops max).checkProperty base (schema.isNullable property.1) property.1
          property.2 fields path = .ok () := by
      intro property hmem
      simp only [checkProperty_eq_ok]
      cases hfield : fields.lookup property.1 with
      | none => exact .of_forall (by simp)
      | some field =>
        by_cases hnull : field = .null ∧ property.1 ∈ schema.nullable
        · exact .of_forall fun _ _ _ h hnot => absurd
            ⟨Option.some.inj h ▸ hnull.1, by simpa [ObjectSchema.isNullable] using hnull.2⟩ hnot
        · filter_upwards [ih _ _ field hmem hfield hnull 0] with max hcheck path
          rintro _ ⟨⟩ -
          exact hcheck _
    filter_upwards [eventually_forall_mem hproperties] with max hproperties path
    rw [checkValue]
    exact checkObject_eq_ok.2
      ⟨fields, rfl, hrequired, fun name descriptor hmem => hproperties (name, descriptor) hmem path⟩
  | ref hparse hresolve _ ih =>
    -- The target comes one hop later, and the limit must allow for that hop.
    filter_upwards [ih (hops + 1), eventually_gt_atTop hops] with max hcheck hlt path
    exact checkRef_eq_ok.2
      ⟨_, hparse, checkTarget_eq_ok.2 ⟨hlt, _, hresolve, hcheck path⟩⟩
  | member hmembers htype hgiven hmember hresolve _ ih =>
    filter_upwards [ih (hops + 1), eventually_gt_atTop hops] with max hcheck hlt path
    refine checkUnion_eq_ok.2 ⟨hmembers, _, _, htype, hgiven, ?_⟩
    rw [if_pos hmember]
    exact checkTarget_eq_ok.2 ⟨hlt, _, hresolve, hcheck path⟩
  | stranger hmembers htype hgiven hstranger hopen =>
    refine .of_forall fun _ _ => checkUnion_eq_ok.2 ⟨hmembers, _, _, htype, hgiven, ?_⟩
    rw [if_neg hstranger]
    exact hopen

/-! ### The limit -/

/-- Giving up at a limit. -/
def GivesUp (max : Nat) (failure : Failure) : Prop :=
  ∃ path, failure = .resolution (.tooManyHops max path)

theorem lookUp_withMaxHops (address : Address) :
    (registry.withMaxHops max).lookUp address = registry.lookUp address := rfl

/-- A higher limit changes no outcome but that of giving up. -/
theorem leavesRoom_withMaxHops {less more : Nat} (h : less ≤ more) (hops : Nat) :
    LeavesRoom (GivesUp less) (registry.withMaxHops less) (registry.withMaxHops more) hops hops :=
  .inr ⟨h, le_rfl, fun path => ⟨path, rfl⟩⟩

/-- A check under a higher limit says the same, unless the lower limit gives up. -/
theorem checkValue_withMaxHops_agree {less more : Nat} (h : less ≤ more) (path : Path)
    (hops : Nat) :
    Agree (GivesUp less)
      ((registry.withMaxHops less).checkValue base descriptor value path hops)
      ((registry.withMaxHops more).checkValue base descriptor value path hops) :=
  checkValue_agree (fun address => by rw [lookUp_withMaxHops, lookUp_withMaxHops]; exact .refl _)
    (leavesRoom_withMaxHops h hops) _ _ _ _

/-- A validation under a higher limit says the same, unless the lower limit gives up. -/
theorem validate_withMaxHops_agree {less more : Nat} (h : less ≤ more) (reference : String) :
    Agree (GivesUp less) ((registry.withMaxHops less).validate reference value)
      ((registry.withMaxHops more).validate reference value) := by
  rw [validate_eq, validate_eq]
  simp only [lookUp_withMaxHops]
  exact (Agree.refl _).bind fun _ _ => (Agree.refl _).bind fun _ _ =>
    checkValue_withMaxHops_agree h _ _

end Registry

/-- A check with a limit decides a property, as far as the limit lets it: it never succeeds without
    the property; where the property holds, it fails at most by giving up at the limit; and it
    does not give up once the limit is high enough. -/
structure Decides (check : Nat → Verdict) (holds : Prop) : Prop where
  sound : ∀ max, check max = .ok () → holds
  complete : holds → ∀ max, check max = .ok () ∨
    ∃ path, check max = .error (.resolution (.tooManyHops max path))
  enough : holds → ∃ enough, ∀ max ≥ enough, check max = .ok ()

/-- A sound check decides a property if high limits suffice for it, and higher limits change no
    outcome but that of giving up. -/
theorem Decides.of_agree {check : Nat → Verdict} {holds : Prop}
    (hsound : ∀ max, check max = .ok () → holds)
    (henough : holds → ∀ᶠ max in atTop, check max = .ok ())
    (hagree : ∀ less more, less ≤ more →
      Agree (Registry.GivesUp less) (check less) (check more)) : Decides check holds where
  sound := hsound
  enough h := eventually_atTop.1 (henough h)
  complete h max := by
    obtain ⟨enough, hok⟩ := eventually_atTop.1 (henough h)
    -- Compare with a limit that is both enough and no lower.
    rcases hagree max (enough + max) (by omega) with heq | ⟨_, hfail, path, rfl⟩
    · exact .inl (heq.trans (hok _ (by omega)))
    · exact .inr ⟨path, hfail⟩

/-! ### The validator decides conformance -/

namespace Registry

/-- What passes with any limit is accepted by the definition behind the reference. -/
theorem accepts_of_validate {registry : Registry} {reference : String} {value : Value} {max : Nat}
    (h : (registry.withMaxHops max).validate reference value = .ok ()) :
    registry.Accepts reference value := by
  rw [validate_eq] at h
  obtain ⟨address, hlocate, h⟩ := bind_eq_ok.1 h
  obtain ⟨definition, hlookUp, h⟩ := bind_eq_ok.1 h
  exact ⟨address, definition, Address.locate_eq_ok.1 hlocate, lookUp_eq_ok.1 hlookUp,
    conforms_of_checkValue h⟩

/-- What the definition behind the reference accepts passes with high limits. -/
theorem eventually_validate_of_accepts {registry : Registry} {reference : String} {value : Value}
    (h : registry.Accepts reference value) :
    ∀ᶠ max in atTop, (registry.withMaxHops max).validate reference value = .ok () := by
  obtain ⟨address, definition, hparse, hresolve, h⟩ := h
  filter_upwards [eventually_checkValue_of_conforms h 0] with max hcheck
  rw [validate_eq]
  exact bind_eq_ok.2 ⟨address, Address.locate_eq_ok.2 hparse,
    bind_eq_ok.2 ⟨definition, lookUp_eq_ok.2 hresolve, hcheck _⟩⟩

/-- **The validator decides conformance.**  With every limit on hops, and with any number of them
    made already, a check of a value against a descriptor decides whether the value conforms, and
    `validate` whether the definition behind a reference accepts the value. -/
theorem validator_decides_conformance (registry : Registry) :
    (∀ base descriptor value path hops,
      Decides (fun max => (registry.withMaxHops max).checkValue base descriptor value path hops)
        (registry.Conforms base descriptor value)) ∧
    ∀ reference value,
      Decides (fun max => (registry.withMaxHops max).validate reference value)
        (registry.Accepts reference value) := by
  refine ⟨fun base descriptor value path hops => ?_, fun reference value => ?_⟩
  · refine .of_agree (fun max h => conforms_of_checkValue h) (fun h => ?_)
      fun less more hle => checkValue_withMaxHops_agree hle path hops
    exact (eventually_checkValue_of_conforms h hops).mono fun max hcheck => hcheck path
  · exact .of_agree (fun max h => accepts_of_validate h) eventually_validate_of_accepts
      fun less more hle => validate_withMaxHops_agree hle reference

end Registry

end Lexicon
