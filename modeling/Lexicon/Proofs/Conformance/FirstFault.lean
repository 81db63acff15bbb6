import Lexicon.Proofs.Conformance.OwnFaults
import Lexicon.Proofs.Conformance.Typing
import Lexicon.Proofs.Reference

namespace Lexicon

/-!
# The first fault of a value

A value that does not conform has a first fault: a violation that is true of a part of it, while
everything that comes earlier conforms.

* `Value.Leads value names part` — a part of a value, below the properties `names`; items of arrays
  on the way leave no trace;
* `Registry.FirstFault` — the first fault of a value: where it is and what it is;
* `FirstFault.leads`, `FirstFault.holdsOf` — it is where it is said to be, and true;
* `FirstFault.not_conforms`, `FirstFault.unique` — a value that conforms has none, and any other
  value one at most.
-/

/-! ### Parts of a value -/

/-- A part of a value, below properties of the given names.  Items of arrays add no name. -/
inductive Value.Leads : Value → List String → Value → Prop where
  | here {value : Value} : Leads value [] value
  | item {items : List Value} {item part : Value} {names : List String} :
      item ∈ items → Leads item names part → Leads (.array items) names part
  | property {fields : List (String × Value)} {name : String} {field part : Value}
      {names : List String} :
      fields.lookup name = some field → Leads field names part →
      Leads (.object fields) (name :: names) part

namespace Registry

variable {registry : Registry} {base : String} {value : Value}

/-- What a descriptor looks for in the value itself is true of no value that conforms. -/
theorem Conforms.not_holdsOf {descriptor : Descriptor}
    (h : registry.Conforms base descriptor value) :
    ∀ violation ∈ descriptor.violations, ¬ violation.HoldsOf value := by
  -- What is judged by itself passes its check, which tells these very violations.
  have hpasses (htells : TellsAt "" (registry.checkValue base descriptor value "" 0)
      descriptor.violations value)
      (hok : registry.checkValue base descriptor value "" 0 = .ok ()) :
      ∀ violation ∈ descriptor.violations, ¬ violation.HoldsOf value := htells.passes hok
  cases h with
  | boolean hb => exact hpasses (checkBoolean_tells _) (checkBoolean_eq_ok.2 ⟨_, rfl, hb⟩)
  | integer hvalue hn =>
    exact hpasses (checkInteger_tells _) (checkInteger_eq_ok.2 ⟨_, hvalue, hn⟩)
  | string hformat hs =>
    exact hpasses (checkString_tells _ _) (checkString_eq_ok.2 ⟨_, rfl, hformat, hs⟩)
  | bytes hdata => exact hpasses (checkBytes_tells _) (checkBytes_eq_ok.2 ⟨_, rfl, hdata⟩)
  | link => exact hpasses checkLink_tells (checkLink_eq_ok.2 ⟨_, rfl⟩)
  | blob hblob hrules => exact hpasses (checkBlob_tells _) (checkBlob_eq_ok.2 ⟨_, _, hblob, hrules⟩)
  -- Arrays and objects look for violations in the whole before they look at what is inside.
  | array hlength _ =>
    exact (checkArray_tells "" _ _ _ _).passes
      (Check.at_eq_ok.2 (LengthRules.checkItems_eq_ok.2 hlength))
  | object hrequired _ =>
    exact (checkObject_tells "" _ _).passes (checkRequiredNames_eq_ok.2 hrequired)
  | unknown | ref => exact List.forall_mem_nil _
  | member _ htype | stranger _ htype =>
    exact List.forall_mem_singleton.2 fun h => h _ htype

/-! ### The first fault of a value -/

/-- The first fault of a value, by a descriptor of the document `base`: the part that has it, the
    names of the properties above that part, and what is wrong.  All that comes earlier conforms. -/
inductive FirstFault (registry : Registry) :
    String → Descriptor → Value → List String → Value → Violation → Prop where
  /-- The value itself is not as it should be. -/
  | here {base descriptor value reason} :
      Violation.IsFirstOf reason (Descriptor.violations descriptor) value →
      FirstFault registry base descriptor value [] value reason
  | item {base description items rules values earlier item later names part reason} :
      (∀ violation ∈ (Descriptor.array description items rules).violations,
        ¬ violation.HoldsOf (.array values)) →
      values = earlier ++ item :: later →
      (∀ other ∈ earlier, registry.Conforms base items other) →
      FirstFault registry base items item names part reason →
      FirstFault registry base (.array description items rules) (.array values) names part reason
  | property {base fields earlier name descriptor later field names part reason}
      {schema : ObjectSchema} :
      (∀ violation ∈ (Descriptor.object schema).violations,
        ¬ violation.HoldsOf (.object fields)) →
      schema.properties = earlier ++ (name, descriptor) :: later →
      (∀ name descriptor field, (name, descriptor) ∈ earlier →
        fields.lookup name = some field → ¬ (field = .null ∧ name ∈ schema.nullable) →
        registry.Conforms base descriptor field) →
      fields.lookup name = some field → ¬ (field = .null ∧ name ∈ schema.nullable) →
      FirstFault registry base descriptor field names part reason →
      FirstFault registry base (.object schema) (.object fields) (name :: names) part reason
  | ref {base description target address descriptor value names part reason} :
      Address.parse target (some base) = .ok address →
      registry.resolve address = .ok descriptor →
      FirstFault registry address.document descriptor value names part reason →
      FirstFault registry base (.ref description target) value names part reason
  /-- The value names one of the members of a union. -/
  | member {base description members closed type given descriptor value names part reason} :
      (∀ member ∈ members, ∃ address, Address.parse member (some base) = .ok address) →
      Value.get? "$type" value = some (.string type) → Address.parse type none = .ok given →
      (∃ member ∈ members, Address.parse member (some base) = .ok given) →
      registry.resolve given = .ok descriptor →
      FirstFault registry given.document descriptor value names part reason →
      FirstFault registry base (.union description members closed) value names part reason
  /-- The value names none of the members, which are told in canonical form and in order. -/
  | stranger {base description members closed addresses type given value} :
      List.Forall₂ (fun member address => Address.parse member (some base) = .ok address)
        members addresses →
      Value.get? "$type" value = some (.string type) → Address.parse type none = .ok given →
      given ∉ addresses → Descriptor.isClosed closed = true →
      FirstFault registry base (.union description members closed) value [] value
        (.unionTypeNotAllowed (addresses.map Address.render))

namespace FirstFault

variable {descriptor : Descriptor} {names : List String} {part : Value} {reason : Violation}

/-- The names of a fault lead to the part that has it. -/
theorem leads (h : registry.FirstFault base descriptor value names part reason) :
    value.Leads names part := by
  induction h with
  | here => exact .here
  | item _ hsplit _ _ ih =>
    subst hsplit
    exact .item (List.mem_append_right _ List.mem_cons_self) ih
  | property _ _ _ hfield _ _ ih => exact .property hfield ih
  | ref _ _ _ ih => exact ih
  | member _ _ _ _ _ _ ih => exact ih
  | stranger => exact .here

/-- What is told about the part is true.  That the type of a value differs from all members of a
    union can be told from canonical references only because both come from proper documents. -/
theorem holdsOf (hbase : IsReferencePart base)
    (h : registry.FirstFault base descriptor value names part reason) : reason.HoldsOf part := by
  induction h with
  | here h => exact h.1
  | item _ _ _ _ ih => exact ih hbase
  | property _ _ _ _ _ _ ih => exact ih hbase
  | ref hparse _ _ ih =>
    exact ih (Address.isProper_of_parse (by simpa using hbase) hparse).document
  | member _ _ hgiven _ _ _ ih => exact ih (Address.isProper_of_parse (by simp) hgiven).document
  -- A type that is rendered like a member is that member, since both are proper addresses.
  | stranger hmembers htype hgiven hnot _ =>
    refine ⟨_, _, htype, hgiven, fun hmem => hnot ?_⟩
    obtain ⟨address, haddress, hrender⟩ := List.mem_map.1 hmem
    obtain ⟨member, -, hparse⟩ := (mem_unionMembers (unionMembers_eq_ok.2 hmembers)).1 haddress
    have hproper : address.IsProper :=
      Address.isProper_of_parse (by simpa using hbase) hparse
    have hgivenProper := Address.isProper_of_parse (by simp) hgiven
    rwa [← Address.render_injective hproper hgivenProper hrender]

/-- A value that names its type does so once, and with one meaning. -/
theorem given_unique {type type' : String} {given given' : Address}
    (htype : value.get? "$type" = some (.string type)) (hgiven : Address.parse type none = .ok given)
    (htype' : value.get? "$type" = some (.string type'))
    (hgiven' : Address.parse type' none = .ok given') : given' = given := by
  cases htype.symm.trans htype'
  cases hgiven.symm.trans hgiven'
  rfl

/-- A value with a fault does not conform. -/
theorem not_conforms (h : registry.FirstFault base descriptor value names part reason) :
    ¬ registry.Conforms base descriptor value := by
  intro hconforms
  induction h with
  | here h => exact hconforms.not_holdsOf _ h.mem h.1
  | item _ hsplit _ _ ih =>
    cases hconforms with
    | array _ hitems =>
      subst hsplit
      exact ih (hitems _ (List.mem_append_right _ List.mem_cons_self))
  | property _ hsplit _ hfield hnull _ ih =>
    cases hconforms with
    | object _ hproperties =>
      refine ih (hproperties _ _ _ ?_ hfield hnull)
      rw [hsplit]
      exact List.mem_append_right _ List.mem_cons_self
  -- A reference leads to one definition, so the value conforms to what it has a fault in.
  | ref hparse hresolve _ ih =>
    cases hconforms with
    | ref hparse' hresolve' htarget =>
      cases hparse.symm.trans hparse'
      cases hresolve.symm.trans hresolve'
      exact ih htarget
  | member _ htype hgiven hmember hresolve _ ih =>
    cases hconforms with
    | member _ htype' hgiven' _ hresolve' htarget =>
      cases given_unique htype hgiven htype' hgiven'
      cases hresolve.symm.trans hresolve'
      exact ih htarget
    | stranger _ htype' hgiven' hstranger =>
      cases given_unique htype hgiven htype' hgiven'
      exact hstranger hmember
  | stranger hmembers htype hgiven hnot hclosed =>
    cases hconforms with
    | member _ htype' hgiven' hmember =>
      cases given_unique htype hgiven htype' hgiven'
      exact hnot ((mem_unionMembers (unionMembers_eq_ok.2 hmembers)).2 hmember)
    | stranger _ _ _ _ hopen =>
      rw [hclosed] at hopen
      cases hopen

/-- **There is one first fault at most**: one part, one way to it and one reason. -/
theorem unique (h : registry.FirstFault base descriptor value names part reason)
    {names' : List String} {part' : Value} {reason' : Violation}
    (h' : registry.FirstFault base descriptor value names' part' reason') :
    names' = names ∧ part' = part ∧ reason' = reason := by
  induction h generalizing names' part' reason' with
  -- A fault of the value itself comes before all faults in parts of it.
  | here h =>
    cases h' with
    | here h' => exact ⟨rfl, rfl, h.unique h'⟩
    | item hown | property hown => exact absurd h.1 (hown _ h.mem)
    | ref => cases h.mem
    | member _ htype | stranger _ htype =>
      have hmissing := List.mem_singleton.1 h.mem
      rw [hmissing] at h
      exact absurd htype (h.1 _)
  | item hown hsplit hearlier hfault ih =>
    cases h' with
    | here h' => exact absurd h'.1 (hown _ h'.mem)
    | item _ hsplit' hearlier' hfault' =>
      -- The items in front conform in both, and the one at fault does not, so it is the same item.
      obtain ⟨-, rfl, -⟩ := eq_of_splits (hsplit.symm.trans hsplit') hearlier hfault.not_conforms
        hearlier' hfault'.not_conforms
      exact ih hfault'
  | @property base fields _ name descriptor _ field _ _ _ schema hown hsplit hearlier hfield hnull
      hfault ih =>
    cases h' with
    | here h' => exact absurd h'.1 (hown _ h'.mem)
    | @property _ _ _ name' descriptor' _ field' _ _ _ _ _ hsplit' hearlier' hfield' hnull'
        hfault' =>
      -- The properties before the fault are those whose values conform.
      let Passes (property : String × Descriptor) : Prop := ∀ field,
        fields.lookup property.1 = some field → ¬ (field = .null ∧ property.1 ∈ schema.nullable) →
        registry.Conforms base property.2 field
      have hfails : ¬ Passes (name, descriptor) := fun h =>
        hfault.not_conforms (h field hfield hnull)
      have hfails' : ¬ Passes (name', descriptor') := fun h =>
        hfault'.not_conforms (h field' hfield' hnull')
      obtain ⟨-, hsame, -⟩ := eq_of_splits (P := Passes) (hsplit.symm.trans hsplit')
        (fun property hmem field => hearlier _ _ field hmem) hfails
        (fun property hmem field => hearlier' _ _ field hmem) hfails'
      cases hsame
      cases hfield.symm.trans hfield'
      obtain ⟨rfl, rfl, rfl⟩ := ih hfault'
      exact ⟨rfl, rfl, rfl⟩
  | ref hparse hresolve _ ih =>
    cases h' with
    | here h' => cases h'.mem
    | ref hparse' hresolve' hfault' =>
      -- A reference leads to one definition.
      cases hparse.symm.trans hparse'
      cases hresolve.symm.trans hresolve'
      exact ih hfault'
  | member _ htype hgiven hmember hresolve _ ih =>
    cases h' with
    | here h' =>
      have hmissing := List.mem_singleton.1 h'.mem
      rw [hmissing] at h'
      exact absurd htype (h'.1 _)
    | member _ htype' hgiven' _ hresolve' hfault' =>
      cases given_unique htype hgiven htype' hgiven'
      cases hresolve.symm.trans hresolve'
      exact ih hfault'
    | stranger hmembers' htype' hgiven' hnot =>
      cases given_unique htype hgiven htype' hgiven'
      -- The type cannot be that of a member and a stranger.
      exact absurd ((mem_unionMembers (unionMembers_eq_ok.2 hmembers')).2 hmember) hnot
  | stranger hmembers htype hgiven hnot hclosed =>
    rw [← unionMembers_eq_ok] at hmembers
    cases h' with
    | here h' =>
      have hmissing := List.mem_singleton.1 h'.mem
      rw [hmissing] at h'
      exact absurd htype (h'.1 _)
    | member _ htype' hgiven' hmember' =>
      cases given_unique htype hgiven htype' hgiven'
      exact absurd ((mem_unionMembers hmembers).2 hmember') hnot
    | stranger hmembers' =>
      cases hmembers.symm.trans (unionMembers_eq_ok.2 hmembers')
      exact ⟨rfl, rfl, rfl⟩

end FirstFault

end Registry

end Lexicon
