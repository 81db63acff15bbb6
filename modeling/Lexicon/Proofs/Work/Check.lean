import Lexicon.Proofs.Conformance.Check
import Lexicon.Proofs.Descriptor.Parts
import Lexicon.Proofs.Value.Size
import Lexicon.Proofs.Work.Inquiry
import Mathlib

namespace Lexicon

open Lexicon.Outcome

/-!
# The validator as an inquiry

The validator, with its hops and its steps into the value laid open.  Nothing else is changed: the
recursion is the one of `Registry.checkValue`, on the value and the hops that are left.

* `Inquiry.checkValue`, with `checkTarget`, `checkItems`, `checkObject`, `checkProperties` and
  `checkProperty` — the validator as an inquiry; `run_checkValue` — it is the validator;
* `paced_checkValue` — every walk along references is short: the count starts anew only where the
  value gets smaller;
* `entries_checkValue_lt` — no part of the value is gone into twice.
-/

namespace Inquiry

mutual

/-- A value against a descriptor of the document `base`, where at most `limit` hops are allowed. The
    kinds that lead to no other definition ask for nothing, and any registry will do for them. -/
def checkValue (limit : Nat) (base : String) (descriptor : Descriptor) (value : Value) (path : Path)
    (hops : Nat) : Inquiry Unit :=
  match descriptor with
  | .array _ items rules =>
    match value with
    | .array values => do
      answer ((rules.checkItems values.length).at path)
      checkItems limit base items values path
    | _ => answer (violates path .notArray)
  | .object schema => checkObject limit base schema value path
  | .ref _ target => do
    checkTarget limit (← answer (Address.locate target (some base))) value path hops
  | .union _ members closed =>
    match (value.get? "$type").bind Value.string? with
    | none => answer (violates path .missingTypeProperty)
    | some type => do
      let members ← answer (Registry.unionMembers base members)
      let given ← answer (Address.locate type none)
      if members.contains given then checkTarget limit given value path hops
      else if Descriptor.isClosed closed then
        answer (violates path (.unionTypeNotAllowed (members.map Address.render)))
      else answer (.ok ())
  | descriptor => answer (Registry.checkValue {} base descriptor value path hops)
termination_by (sizeOf value, limit - hops + 1, 0)

/-- A value against the definition at an address, one hop further. -/
def checkTarget (limit : Nat) (address : Address) (value : Value) (path : Path) (hops : Nat) :
    Inquiry Unit :=
  if hops < limit then
    hop address fun descriptor => checkValue limit address.document descriptor value path (hops + 1)
  else answer (.error (.resolution (.tooManyHops limit path)))
termination_by (sizeOf value, limit - hops, 1)
decreasing_by
  rw [show limit - (hops + 1) + 1 = limit - hops by omega]
  exact .right _ (.right _ Nat.zero_lt_one)

/-- The items of an array. -/
def checkItems (limit : Nat) (base : String) (descriptor : Descriptor) (values : List Value)
    (path : Path) : Inquiry Unit :=
  match values with
  | [] => answer (.ok ())
  | value :: rest => do
    enter (checkValue limit base descriptor value path 0)
    checkItems limit base descriptor rest path
termination_by (sizeOf values, 0, 0)

/-- A value as an object. -/
def checkObject (limit : Nat) (base : String) (schema : ObjectSchema) (value : Value)
    (path : Path) : Inquiry Unit :=
  match value with
  | .object fields => do
    answer (checkRequiredNames schema.required fields path)
    checkProperties limit base schema.isNullable schema.properties fields path
  | _ => answer (violates path .notObject)
termination_by (sizeOf value, 0, 0)

/-- The properties in the order in which they are declared. -/
def checkProperties (limit : Nat) (base : String) (mayBeNull : String → Bool)
    (properties : List (String × Descriptor)) (fields : List (String × Value)) (path : Path) :
    Inquiry Unit :=
  match properties with
  | [] => answer (.ok ())
  | (name, descriptor) :: rest => do
    checkProperty limit base (mayBeNull name) name descriptor fields path
    checkProperties limit base mayBeNull rest fields path
termination_by (sizeOf fields, 0, properties.length)

/-- A property, unless it is absent, or null where that is allowed. -/
def checkProperty (limit : Nat) (base : String) (mayBeNull : Bool) (name : String)
    (descriptor : Descriptor) (fields : List (String × Value)) (path : Path) : Inquiry Unit :=
  match _h : fields.lookup name with
  | none => answer (.ok ())
  | some field =>
    if field.isNull && mayBeNull then answer (.ok ())
    else enter (checkValue limit base descriptor field (path.child name) 0)
termination_by (sizeOf fields, 0, 0)
decreasing_by exact .left _ _ (sizeOf_lt_of_lookup _h)

end

variable {registry : Registry} {limit : Nat} {base : String} {value : Value} {path : Path}
  {hops : Nat}

section Property

variable {mayBeNull : Bool} {name : String} {descriptor : Descriptor}
  {fields : List (String × Value)}

/-- No work is done for an absent property. -/
theorem checkProperty_of_none (h : fields.lookup name = none) :
    checkProperty limit base mayBeNull name descriptor fields path = answer (.ok ()) := by
  rw [checkProperty]
  split <;> simp_all

/-- A property with a value is looked at, unless it is null and may be. -/
theorem checkProperty_of_some {field : Value} (h : fields.lookup name = some field) :
    checkProperty limit base mayBeNull name descriptor fields path =
      if field.isNull && mayBeNull then answer (.ok ())
      else enter (checkValue limit base descriptor field (path.child name) 0) := by
  rw [checkProperty]
  split <;> simp_all

end Property

/-! ### It is the validator -/

/-- The inquiry about the items comes to what the check of them does. -/
theorem run_checkItems {items : Descriptor} {values : List Value}
    (h : ∀ item ∈ values, (checkValue limit base items item path 0).run registry =
      registry.checkValue base items item path 0) :
    (checkItems limit base items values path).run registry =
      registry.checkItems base items values path := by
  induction values with
  | nil => rw [checkItems, Registry.checkItems, run]
  | cons item rest ih =>
    rw [List.forall_mem_cons] at h
    rw [checkItems, Registry.checkItems, bind_eq_bind, run_bind, run, h.1, ih h.2]

/-- The inquiry about the properties comes to what the check of them does. -/
theorem run_checkProperties {mayBeNull : String → Bool} {properties : List (String × Descriptor)}
    {fields : List (String × Value)}
    (h : ∀ name descriptor field, fields.lookup name = some field →
      (checkValue limit base descriptor field (path.child name) 0).run registry =
        registry.checkValue base descriptor field (path.child name) 0) :
    (checkProperties limit base mayBeNull properties fields path).run registry =
      registry.checkProperties base mayBeNull properties fields path := by
  induction properties with
  | nil => rw [checkProperties, Registry.checkProperties, run]
  | cons property rest ih =>
    obtain ⟨name, descriptor⟩ := property
    have hproperty : (checkProperty limit base (mayBeNull name) name descriptor fields path).run
        registry = registry.checkProperty base (mayBeNull name) name descriptor fields path := by
      cases hfield : fields.lookup name with
      | none => rw [checkProperty_of_none hfield, Registry.checkProperty_of_none hfield, run]
      | some field =>
        rw [checkProperty_of_some hfield, Registry.checkProperty_of_some hfield,
          apply_ite (run registry), run, run, h name descriptor field hfield]
    rw [checkProperties, Registry.checkProperties, bind_eq_bind, run_bind, hproperty, ih]

/-- **The inquiry is the validator.** -/
theorem run_checkValue {descriptor : Descriptor} :
    (checkValue registry.settings.maxHops base descriptor value path hops).run registry =
      registry.checkValue base descriptor value path hops := by
  induction value, hops using Registry.value_hops_induction registry.settings.maxHops
    generalizing base descriptor path with
  | step value hops ihvalue ihhops =>
    -- A hop is allowed under the same limit, and leads to the same definition.
    have htarget (address : Address) :
        (checkTarget registry.settings.maxHops address value path hops).run registry =
          registry.checkTarget address value path hops := by
      rw [checkTarget, Registry.checkTarget]
      by_cases hlt : hops < registry.settings.maxHops
      · rw [if_pos hlt, if_pos hlt, run]
        exact congrArg _ (funext fun _ => ihhops hlt)
      · rw [if_neg hlt, if_neg hlt, run]
    cases descriptor with
    | array description items rules =>
      cases value with
      | array values =>
        rw [checkValue, Registry.checkValue, bind_eq_bind, run_bind, run]
        exact congrArg _ (funext fun _ => run_checkItems fun item hmem =>
          ihvalue item 0 (Registry.sizeOf_item_lt hmem))
      | _ =>
        unfold checkValue Registry.checkValue
        rfl
    | object schema =>
      rw [checkValue, Registry.checkValue]
      cases value with
      | object fields =>
        rw [checkObject, Registry.checkObject, bind_eq_bind, run_bind, run]
        exact congrArg _ (funext fun _ => run_checkProperties fun name descriptor field hfield =>
          ihvalue field 0 (Registry.sizeOf_field_lt hfield))
      | _ =>
        unfold checkObject Registry.checkObject
        rfl
    | ref description target =>
      rw [checkValue, Registry.checkValue]
      simp only [bind_eq_bind, run_bind, run, htarget]
    | union description members closed =>
      rw [checkValue, Registry.checkValue]
      cases (value.get? "$type").bind Value.string? with
      | none => rfl
      | some type => simp only [bind_eq_bind, run_bind, run, apply_ite (run registry), htarget]
    -- The other kinds ask for nothing.
    | _ =>
      unfold checkValue Registry.checkValue
      rfl

/-! ### How many hops it makes -/

/-- Each item is a step into the value, so the hops are counted anew. -/
theorem paced_checkItems {left : Nat} {items : Descriptor} {values : List Value}
    (h : ∀ item ∈ values, Paced registry limit limit (checkValue limit base items item path 0)) :
    Paced registry limit left (checkItems limit base items values path) := by
  induction values generalizing left with
  | nil =>
    rw [checkItems]
    trivial
  | cons item rest ih =>
    rw [List.forall_mem_cons] at h
    rw [checkItems, bind_eq_bind]
    exact Paced.bind h.1 fun _ _ => ih h.2

/-- Each property is a step into the value, so the hops are counted anew. -/
theorem paced_checkProperties {left : Nat} {mayBeNull : String → Bool}
    {properties : List (String × Descriptor)} {fields : List (String × Value)}
    (h : ∀ name descriptor field, fields.lookup name = some field →
      Paced registry limit limit (checkValue limit base descriptor field (path.child name) 0)) :
    Paced registry limit left (checkProperties limit base mayBeNull properties fields path) := by
  induction properties generalizing left with
  | nil =>
    rw [checkProperties]
    trivial
  | cons property rest ih =>
    obtain ⟨name, descriptor⟩ := property
    rw [checkProperties, bind_eq_bind]
    refine Paced.bind ?_ fun _ _ => ih
    -- Only what is there is entered, with all hops left.
    cases hfield : fields.lookup name with
    | none =>
      rw [checkProperty_of_none hfield]
      trivial
    | some field =>
      rw [checkProperty_of_some hfield]
      split
      · trivial
      · exact h name descriptor field hfield

/-- **Every walk along references is short.**  For one part of the value there are no more hops than
    are left, and with every smaller part the count starts anew. -/
theorem paced_checkValue {descriptor : Descriptor} :
    Paced registry limit (limit - hops) (checkValue limit base descriptor value path hops) := by
  induction value, hops using Registry.value_hops_induction limit
    generalizing base descriptor path with
  | step value hops ihvalue ihhops =>
    -- A hop is one of those that are left, and fewer are left behind it.
    have htarget (address : Address) :
        Paced registry limit (limit - hops) (checkTarget limit address value path hops) := by
      rw [checkTarget]
      split
      · rename_i hlt
        exact ⟨limit - (hops + 1), by omega, fun _ _ => ihhops hlt⟩
      · trivial
    cases descriptor with
    | array description items rules =>
      cases value with
      | array values =>
        rw [checkValue, bind_eq_bind]
        exact Paced.bind_answer fun _ => paced_checkItems fun item hmem =>
          ihvalue item 0 (Registry.sizeOf_item_lt hmem)
      | _ =>
        unfold checkValue
        trivial
    | object schema =>
      rw [checkValue]
      cases value with
      | object fields =>
        rw [checkObject, bind_eq_bind]
        exact Paced.bind_answer fun _ => paced_checkProperties fun name descriptor field hfield =>
          ihvalue field 0 (Registry.sizeOf_field_lt hfield)
      | _ =>
        unfold checkObject
        trivial
    | ref description target =>
      rw [checkValue, bind_eq_bind]
      exact Paced.bind_answer htarget
    | union description members closed =>
      rw [checkValue]
      split
      · trivial
      · -- Members and type are read without a hop; the one hop leads to the definition of the type.
        refine Paced.bind_answer fun addresses => Paced.bind_answer fun given => ?_
        split
        · exact htarget given
        · split <;> trivial
    | _ =>
      unfold checkValue
      trivial

/-- At the step into a part of the value all hops are left. -/
theorem paced_checkValue_zero {descriptor : Descriptor} :
    Paced registry limit limit (checkValue limit base descriptor value path 0) := by
  have h : Paced registry limit (limit - 0) (checkValue limit base descriptor value path 0) :=
    paced_checkValue
  exact h

/-! ### How often it goes into the value -/

/-- The items are entered no more often than they have nodes. -/
theorem entries_checkItems_le {items : Descriptor} {values : List Value}
    (h : ∀ item ∈ values,
      (checkValue limit base items item path 0).entries registry < item.nodes) :
    (checkItems limit base items values path).entries registry ≤ Value.nodesOfItems values := by
  induction values with
  | nil =>
    rw [checkItems]
    exact Nat.zero_le _
  | cons item rest ih =>
    rw [List.forall_mem_cons] at h
    rw [checkItems, bind_eq_bind]
    refine (entries_bind_le fun _ _ => ih h.2).trans ?_
    rw [Value.nodesOfItems, entries]
    exact Nat.add_le_add_right h.1 _

/-- A property counts for what is found under its name. -/
theorem entries_checkProperty_le {mayBeNull : Bool} {name : String} {descriptor : Descriptor}
    {fields : List (String × Value)}
    (h : ∀ field, fields.lookup name = some field →
      (checkValue limit base descriptor field (path.child name) 0).entries registry <
        field.nodes) :
    (checkProperty limit base mayBeNull name descriptor fields path).entries registry ≤
      ((fields.lookup name).map Value.nodes).getD 0 := by
  cases hfield : fields.lookup name with
  | none =>
    rw [checkProperty_of_none hfield]
    exact Nat.zero_le _
  | some field =>
    rw [checkProperty_of_some hfield]
    split
    · exact Nat.zero_le _
    · exact h field hfield

/-- The properties are entered no more often than the fields of their names have nodes. -/
theorem entries_checkProperties_le {mayBeNull : String → Bool}
    {properties : List (String × Descriptor)} {fields : List (String × Value)}
    (h : ∀ name descriptor field, (name, descriptor) ∈ properties →
      fields.lookup name = some field →
      (checkValue limit base descriptor field (path.child name) 0).entries registry <
        field.nodes) :
    (checkProperties limit base mayBeNull properties fields path).entries registry ≤
      ((Assoc.keys properties).map fun name =>
        ((fields.lookup name).map Value.nodes).getD 0).sum := by
  induction properties with
  | nil =>
    rw [checkProperties]
    exact Nat.zero_le _
  | cons property rest ih =>
    obtain ⟨name, descriptor⟩ := property
    rw [checkProperties, bind_eq_bind, Assoc.keys_cons, List.map_cons, List.sum_cons]
    have hfirst : (checkProperty limit base (mayBeNull name) name descriptor fields path).entries
        registry ≤ ((fields.lookup name).map Value.nodes).getD 0 :=
      entries_checkProperty_le fun field => h name descriptor field List.mem_cons_self
    have hrest := ih fun other d field hmem => h other d field (List.mem_cons_of_mem _ hmem)
    exact (entries_bind_le fun _ _ => hrest).trans (Nat.add_le_add_right hfirst _)

/-- **No part of the value is gone into twice**, where property lists are maps: a walk along
    references ends in one descriptor, and that one goes into each smaller part once. -/
theorem entries_checkValue_lt (hnames : registry.NamesDiffer) {descriptor : Descriptor}
    (hdescriptor : descriptor.NamesDiffer) :
    (checkValue limit base descriptor value path hops).entries registry < value.nodes := by
  induction value, hops using Registry.value_hops_induction limit
    generalizing base descriptor path with
  | step value hops ihvalue ihhops =>
    have htarget (address : Address) :
        (checkTarget limit address value path hops).entries registry < value.nodes := by
      rw [checkTarget]
      split
      · rename_i hlt
        rw [entries]
        cases hlookUp : registry.lookUp address with
        | ok definition =>
          exact ihhops hlt (hnames.of_resolve (Registry.lookUp_eq_ok.1 hlookUp))
        | error => exact value.nodes_pos
      · exact value.nodes_pos
    cases descriptor with
    | array description items rules =>
      cases value with
      | array values =>
        rw [checkValue, bind_eq_bind, Value.nodes, Nat.lt_succ_iff]
        exact entries_bind_answer_le fun _ => entries_checkItems_le fun item hmem =>
          ihvalue item 0 (Registry.sizeOf_item_lt hmem) hdescriptor.items
      | _ =>
        unfold checkValue
        exact Value.nodes_pos _
    | object schema =>
      rw [checkValue]
      cases value with
      | object fields =>
        rw [checkObject, bind_eq_bind, Value.nodes, Nat.lt_succ_iff, Value.nodesOfFields_eq_sum]
        -- Different properties have different names, and so go into different parts.
        refine le_trans (entries_bind_answer_le fun _ => entries_checkProperties_le ?_)
          (Assoc.sum_lookup_le Value.nodes hdescriptor.nodup fields)
        exact fun name property field hmem hfield =>
          ihvalue field 0 (Registry.sizeOf_field_lt hfield) (hdescriptor.of_mem_declared hmem)
      | _ =>
        unfold checkObject
        exact Value.nodes_pos _
    | ref description target =>
      rw [checkValue, bind_eq_bind]
      exact Nat.lt_of_le_pred value.nodes_pos
        (entries_bind_answer_le fun address => Nat.le_pred_of_lt (htarget address))
    | union description members closed =>
      rw [checkValue]
      split
      · exact value.nodes_pos
      · refine Nat.lt_of_le_pred value.nodes_pos (entries_bind_answer_le fun addresses =>
          entries_bind_answer_le fun given => Nat.le_pred_of_lt ?_)
        split
        · exact htarget given
        · split <;> exact value.nodes_pos
    | _ =>
      unfold checkValue
      exact value.nodes_pos

end Inquiry

end Lexicon
