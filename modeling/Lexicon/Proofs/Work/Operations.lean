import Lexicon.Proofs.Conformance.Roles
import Lexicon.Proofs.Work.Check
import Lexicon.Proofs.Work.Fill
import Mathlib

namespace Lexicon

open Lexicon.Outcome

/-!
# The work of validation and filling

Definitions may refer to each other in circles.  The work that this causes is bounded by the value:
each part of it is gone into once, and for each part a limited number of references is followed.

* `Inquiry.located` — the definition that all is about, in the role that it is needed in;
* `Inquiry.validate`, `Inquiry.validateRecord`, …, `Inquiry.fillParams` — all that a registry does
  with values, as inquiries;
* `Works registry inquiry outcome size` — an inquiry has the outcome, and takes work that is linear
  in a size;
* `work_is_linear` — all validation takes work that is linear in the number of values in the value,
  and all filling in the number of its properties that are objects.
-/

/-- What a definition describes has maps for property lists, if the definition has. -/
theorem Descriptor.NamesDiffer.described {definition : Descriptor} (h : definition.NamesDiffer) :
    definition.described.NamesDiffer := by
  cases definition with
  | record description key schema =>
    intro part hpart
    rcases List.mem_cons.1 hpart with rfl | hpart
    · exact h.nodup
    · exact h part (List.mem_cons_of_mem _ hpart)
  | _ => exact h

/-- The parts of a body of a call are parts of its definition. -/
theorem Descriptor.Exchanges.parts_subset {definition : Descriptor} {body : Option Body}
    (h : definition.Exchanges body) : Body.partsIfAny body ⊆ definition.parts := by
  intro part hpart
  unfold Exchanges at h
  rcases h with h | h <;> cases definition <;> cases h <;> simp [parts, hpart]

namespace Inquiry

variable {α : Type}

/-! ### Definitions in a role -/

/-- What is needed of the definition behind a reference, from outside all documents. -/
def located (reference : String) (role : Address → Descriptor → Except Failure α) : Inquiry α := do
  let address ← answer (Address.locate reference none)
  find address fun definition => answer (role address definition)

/-- The address of a record definition, and its schema. -/
def recordAt (reference : String) : Inquiry (Address × ObjectSchema) :=
  located reference fun address definition =>
    match definition with
    | .record _ _ schema => .ok (address, schema)
    | _ => .error (.wrongKind address .record)

/-- The address of a call, and its parameters. -/
def parametersAt (reference : String) : Inquiry (Address × Option ParamsSchema) :=
  located reference fun address definition =>
    match definition with
    | .query _ parameters _ _ | .procedure _ parameters _ _ _ => .ok (address, parameters)
    | _ => .error (.wrongKind address .call)

/-- The address of a procedure, and its input. -/
def inputAt (reference : String) : Inquiry (Address × Option Body) :=
  located reference fun address definition =>
    match definition with
    | .procedure _ _ input _ _ => .ok (address, input)
    | _ => .error (.wrongKind address .procedure)

/-- The address of a call, and its output. -/
def outputAt (reference : String) : Inquiry (Address × Option Body) :=
  located reference fun address definition =>
    match definition with
    | .query _ _ output _ | .procedure _ _ _ output _ => .ok (address, output)
    | _ => .error (.wrongKind address .call)

/-! ### Ways in -/

/-- A value against any definition. -/
def validate (limit : Nat) (reference : String) (value : Value) : Inquiry Unit := do
  let (address, definition) ← located reference fun address definition => .ok (address, definition)
  enter (checkValue limit address.document definition.described value definition.rootLabel 0)

/-- A record. -/
def validateRecord (limit : Nat) (reference : String) (value : Value) : Inquiry Unit := do
  let (address, schema) ← recordAt reference
  match value with
  | .object fields =>
    match (fields.lookup "$type").bind Value.string? with
    | none => answer (violates "Record/$type" .notString)
    | some type =>
      if address.isNamedBy type then
        enter (checkObject limit address.document schema value "Record")
      else answer (violates "" (.recordTypeMismatch address.render type))
  | _ => answer (violates "Record" .notObject)

/-- The parameters of a call, checked like properties that have no path above them and that may not
    be null. -/
def checkParams (limit : Nat) (base : String) (schema : ParamsSchema) (value : Value)
    (label : Path) : Inquiry Unit :=
  match value with
  | .object fields => do
    answer (checkRequiredNames schema.required fields label)
    checkProperties limit base (fun _ => false) schema.properties fields ""
  | _ => answer (violates label .notObject)

/-- The parameters of a call; one that declares none takes any. -/
def validateParams (limit : Nat) (reference : String) (value : Value) : Inquiry Unit := do
  match ← parametersAt reference with
  | (address, some schema) => enter (checkParams limit address.document schema value "Params")
  | (_, none) => return

/-- A body of a call, under a label; one without a schema may be anything. -/
def checkBody (limit : Nat) (address : Address) (body : Option Body) (value : Value)
    (label : Path) : Inquiry Unit :=
  match body.bind Body.schema with
  | some schema => enter (checkValue limit address.document schema value label 0)
  | none => answer (.ok ())

/-- The input of a procedure. -/
def validateInput (limit : Nat) (reference : String) (value : Value) : Inquiry Unit := do
  let (address, body) ← inputAt reference
  checkBody limit address body value "Input"

/-- The output of a call. -/
def validateOutput (limit : Nat) (reference : String) (value : Value) : Inquiry Unit := do
  let (address, body) ← outputAt reference
  checkBody limit address body value "Output"

/-- A value with its properties filled in, if it is an object. -/
def fill (limit : Nat) (base : String) (properties : List (String × Descriptor)) (value : Value)
    (label : Path) : Inquiry Value :=
  match value with
  | .object fields => do return .object (← fillProperties limit base properties fields label fields)
  | value => answer (.ok value)

/-- A record with its defaults. -/
def fillRecord (limit : Nat) (reference : String) (value : Value) : Inquiry Value := do
  let (address, schema) ← recordAt reference
  fill limit address.document schema.properties value "Record"

/-- The parameters of a call with their defaults. -/
def fillParams (limit : Nat) (reference : String) (value : Value) : Inquiry Value := do
  match ← parametersAt reference with
  | (address, some schema) => fill limit address.document schema.properties value "Params"
  | (_, none) => return value

end Inquiry

/-! ### Linear work -/

open Inquiry

/-- An inquiry has an outcome and takes work that is linear in a size: it goes into so many parts of
    the value at most, and for each of them it makes no more hops than the registry allows. -/
structure Works {α : Type} (registry : Registry) (inquiry : Inquiry α) (outcome : Except Failure α)
    (size : Nat) : Prop where
  run : inquiry.run registry = outcome
  paced : inquiry.Paced registry registry.settings.maxHops 0
  entries : inquiry.entries registry ≤ size
  hops : inquiry.hops registry ≤ registry.settings.maxHops * size

namespace Works

variable {α β : Type} {registry : Registry} {base reference : String} {value : Value}
  {label path : Path} {size : Nat}

/-- Short walks and few steps into the value make little work. -/
theorem of_paced {inquiry : Inquiry α} {outcome : Except Failure α}
    (hrun : inquiry.run registry = outcome)
    (hpaced : inquiry.Paced registry registry.settings.maxHops 0)
    (hentries : inquiry.entries registry ≤ size) : Works registry inquiry outcome size where
  run := hrun
  paced := hpaced
  entries := hentries
  hops := by
    have hhops : inquiry.hops registry ≤
        0 + registry.settings.maxHops * inquiry.entries registry := hops_le_of_paced hpaced
    have hmul := Nat.mul_le_mul_left registry.settings.maxHops hentries
    omega

theorem answer (outcome : Except Failure α) : Works registry (.answer outcome) outcome size :=
  of_paced rfl trivial (Nat.zero_le _)

/-- What takes no work leaves all of it to what follows. -/
theorem bind {x : Inquiry α} {outcome : Except Failure α} {f : α → Inquiry β}
    {g : α → Except Failure β} (hx : Works registry x outcome 0)
    (hf : ∀ a, outcome = .ok a → Works registry (f a) (g a) size) :
    Works registry (x >>= f) (outcome >>= g) size := by
  refine of_paced ?_ (hx.paced.bind fun a ha => (hf a (hx.run.symm.trans ha)).paced) ?_
  · rw [bind_eq_bind, run_bind, hx.run]
    cases outcome with
    | ok a => exact (hf a rfl).run
    | error failure => rfl
  · refine (entries_bind_le fun a ha => (hf a (hx.run.symm.trans ha)).entries).trans ?_
    have := hx.entries
    omega

/-! ### Definitions in a role -/

/-- Finding the definition that all is about takes no work. -/
theorem located (role : Address → Descriptor → Except Failure α) :
    Works registry (Inquiry.located reference role) (do
      let address ← Address.locate reference none
      let definition ← registry.lookUp address
      role address definition) 0 :=
  (answer _).bind fun address _ => of_paced rfl (fun _ _ => trivial) (by
    rw [Inquiry.entries]
    split <;> exact le_rfl)

theorem recordAt :
    Works registry (Inquiry.recordAt reference) (registry.recordAt reference) 0 :=
  located _

theorem parametersAt :
    Works registry (Inquiry.parametersAt reference) (registry.parametersAt reference) 0 :=
  located _

theorem inputAt : Works registry (Inquiry.inputAt reference) (registry.inputAt reference) 0 :=
  located _

theorem outputAt : Works registry (Inquiry.outputAt reference) (registry.outputAt reference) 0 :=
  located _

/-! ### Checks -/

section

variable (hnames : registry.NamesDiffer)
include hnames

/-- A value takes work linear in its nodes. -/
theorem checkValue {descriptor : Descriptor} (h : descriptor.NamesDiffer) :
    Works registry
      (enter (Inquiry.checkValue registry.settings.maxHops base descriptor value path 0))
      (registry.checkValue base descriptor value path 0) value.nodes :=
  of_paced run_checkValue paced_checkValue_zero (entries_checkValue_lt hnames h)

/-- An object takes work linear in its nodes. -/
theorem checkObject {schema : ObjectSchema} (h : (Descriptor.object schema).NamesDiffer) :
    Works registry (enter (Inquiry.checkObject registry.settings.maxHops base schema value path))
      (registry.checkObject base schema value path) value.nodes := by
  have hobject : Works registry
      (enter (Inquiry.checkValue registry.settings.maxHops base (.object schema) value path 0))
      (registry.checkValue base (.object schema) value path 0) value.nodes := checkValue hnames h
  rwa [Inquiry.checkValue, Registry.checkValue] at hobject

/-- Parameters take work linear in their nodes. -/
theorem checkParams {schema : ParamsSchema} (hkeys : (Assoc.keys schema.properties).Nodup)
    (h : ∀ name descriptor, (name, descriptor) ∈ schema.properties → descriptor.NamesDiffer) :
    Works registry (enter (Inquiry.checkParams registry.settings.maxHops base schema value label))
      (registry.checkParams base schema value label) value.nodes := by
  cases value with
  | object fields =>
    refine of_paced ?_ ?_ ?_
    · rw [Inquiry.run, Inquiry.checkParams, bind_eq_bind, run_bind, Registry.checkParams_eq]
      refine congrArg _ (funext fun _ => ?_)
      exact (run_checkProperties fun _ _ _ _ => run_checkValue).trans
        (Registry.checkProperties_eq_forM (fun _ => false) schema.properties fields)
    · exact Paced.bind_answer fun _ => paced_checkProperties fun _ _ _ _ => paced_checkValue_zero
    · rw [Inquiry.entries, Value.nodes, Inquiry.checkParams, bind_eq_bind,
        Value.nodesOfFields_eq_sum]
      refine Nat.succ_le_succ (le_trans (entries_bind_answer_le fun _ =>
        entries_checkProperties_le ?_) (Assoc.sum_lookup_le Value.nodes hkeys fields))
      exact fun name descriptor field hmem _ =>
        entries_checkValue_lt hnames (h name descriptor hmem)
  | _ => exact of_paced rfl trivial (Value.nodes_pos _)

/-- To validate takes work linear in the nodes of the value. -/
theorem validate :
    Works registry (Inquiry.validate registry.settings.maxHops reference value)
      (registry.validate reference value) value.nodes := by
  have hvalidate : registry.validate reference value = (do
      let (address, definition) ← (do
        let address ← Address.locate reference none
        let definition ← registry.lookUp address
        .ok (address, definition))
      registry.checkValue address.document definition.described value definition.rootLabel 0) := by
    rw [Registry.validate_eq, bind_assoc]
    simp only [bind_assoc, ok_bind]
  rw [hvalidate]
  refine (located _).bind fun ⟨address, definition⟩ hlocated => checkValue hnames ?_
  obtain ⟨_, -, hlocated⟩ := bind_eq_ok.1 hlocated
  obtain ⟨_, hlookUp, hlocated⟩ := bind_eq_ok.1 hlocated
  cases hlocated
  exact (hnames.of_resolve (Registry.lookUp_eq_ok.1 hlookUp)).described

/-- To validate a record takes work linear in its nodes. -/
theorem validateRecord :
    Works registry (Inquiry.validateRecord registry.settings.maxHops reference value)
      (registry.validateRecord reference value) value.nodes := by
  refine recordAt.bind fun ⟨address, schema⟩ hrecord => ?_
  obtain ⟨-, description, key, hresolve⟩ := Registry.recordAt_eq_ok.1 hrecord
  have hschema := (hnames.of_resolve hresolve).described
  cases value with
  | object fields =>
    cases htype : (fields.lookup "$type").bind Value.string? with
    | none =>
      simp only [htype]
      exact answer _
    | some type =>
      simp only [htype]
      by_cases hnamed : address.isNamedBy type
      · rw [if_pos hnamed, if_pos hnamed]
        exact checkObject hnames hschema
      · rw [if_neg hnamed, if_neg hnamed]
        exact answer _
  | _ => exact answer _

/-- To validate parameters takes work linear in their nodes. -/
theorem validateParams :
    Works registry (Inquiry.validateParams registry.settings.maxHops reference value)
      (registry.validateParams reference value) value.nodes := by
  refine parametersAt.bind fun ⟨address, parameters⟩ hcall => ?_
  obtain ⟨-, definition, hresolve, hcall⟩ := Registry.parametersAt_eq_ok.1 hcall
  have hdefinition := hnames.of_resolve hresolve
  cases parameters with
  | none => exact answer _
  | some schema =>
    cases hcall <;>
      exact checkParams hnames hdefinition.nodup fun _ _ => hdefinition.of_mem_declared

/-- A body takes work linear in its nodes. -/
theorem checkBody {address : Address} {body : Option Body}
    (h : ∀ schema, body.bind Body.schema = some schema → schema.NamesDiffer) :
    Works registry (Inquiry.checkBody registry.settings.maxHops address body value label)
      (registry.checkBody address body value label) value.nodes := by
  unfold Inquiry.checkBody Registry.checkBody
  cases hschema : body.bind Body.schema with
  | none => exact answer _
  | some schema => exact checkValue hnames (h schema hschema)

/-- To validate an input takes work linear in its nodes. -/
theorem validateInput :
    Works registry (Inquiry.validateInput registry.settings.maxHops reference value)
      (registry.validateInput reference value) value.nodes := by
  refine inputAt.bind fun ⟨address, body⟩ hinput => checkBody hnames fun schema hschema => ?_
  obtain ⟨definition, hresolve, hbody⟩ := Registry.exchanges_of_inputAt hinput
  exact (hnames.of_resolve hresolve).of_body hbody.parts_subset hschema

/-- To validate an output takes work linear in its nodes. -/
theorem validateOutput :
    Works registry (Inquiry.validateOutput registry.settings.maxHops reference value)
      (registry.validateOutput reference value) value.nodes := by
  refine outputAt.bind fun ⟨address, body⟩ houtput => checkBody hnames fun schema hschema => ?_
  obtain ⟨definition, hresolve, hbody⟩ := Registry.exchanges_of_outputAt houtput
  exact (hnames.of_resolve hresolve).of_body hbody.parts_subset hschema

/-! ### Filling -/

/-- To fill a value takes work linear in the fields of its objects. -/
theorem fill {properties : List (String × Descriptor)}
    (hkeys : (Assoc.keys properties).Nodup)
    (h : ∀ name descriptor, (name, descriptor) ∈ properties → descriptor.NamesDiffer) :
    Works registry (Inquiry.fill registry.settings.maxHops base properties value label)
      (registry.fill base properties value label) value.objectFields := by
  cases value with
  | object fields =>
    refine of_paced ?_ (paced_fillProperties.bind fun _ _ => trivial) ?_
    · rw [Inquiry.fill, bind_eq_bind, run_bind, run_fillProperties, Registry.fill_object]
      cases registry.fillProperties base properties fields label fields <;> rfl
    · exact (entries_bind_le fun _ _ => Nat.zero_le 0).trans
        (entries_fillProperties_le hnames hkeys h)
  | _ => exact answer _

/-- To fill a record takes work linear in the fields of its objects. -/
theorem fillRecord :
    Works registry (Inquiry.fillRecord registry.settings.maxHops reference value)
      (registry.fillRecord reference value) value.objectFields := by
  refine recordAt.bind fun ⟨address, schema⟩ hrecord => ?_
  obtain ⟨-, description, key, hresolve⟩ := Registry.recordAt_eq_ok.1 hrecord
  have hdefinition := hnames.of_resolve hresolve
  exact fill hnames hdefinition.nodup fun _ _ => hdefinition.of_mem_declared

/-- To fill parameters takes work linear in the fields of their objects. -/
theorem fillParams :
    Works registry (Inquiry.fillParams registry.settings.maxHops reference value)
      (registry.fillParams reference value) value.objectFields := by
  refine parametersAt.bind fun ⟨address, parameters⟩ hcall => ?_
  obtain ⟨-, definition, hresolve, hcall⟩ := Registry.parametersAt_eq_ok.1 hcall
  have hdefinition := hnames.of_resolve hresolve
  cases parameters with
  | none => exact answer _
  | some schema =>
    cases hcall <;> exact fill hnames hdefinition.nodup fun _ _ => hdefinition.of_mem_declared

end

end Works

namespace Registry

/-- **The work is linear in the value**, however the definitions of a registry refer to each other.
    Whatever is done with a value goes into each part of it once, and makes for each part no more
    hops than allowed; so a check makes at most that many times as many hops as there are values
    in the value, and filling at most that many times as many as it has properties that are
    objects. -/
theorem work_is_linear (registry : Registry) (hnames : registry.NamesDiffer) (reference : String)
    (value : Value) :
    Works registry (Inquiry.validate registry.settings.maxHops reference value)
      (registry.validate reference value) value.nodes ∧
    Works registry (Inquiry.validateRecord registry.settings.maxHops reference value)
      (registry.validateRecord reference value) value.nodes ∧
    Works registry (Inquiry.validateParams registry.settings.maxHops reference value)
      (registry.validateParams reference value) value.nodes ∧
    Works registry (Inquiry.validateInput registry.settings.maxHops reference value)
      (registry.validateInput reference value) value.nodes ∧
    Works registry (Inquiry.validateOutput registry.settings.maxHops reference value)
      (registry.validateOutput reference value) value.nodes ∧
    Works registry (Inquiry.fillRecord registry.settings.maxHops reference value)
      (registry.fillRecord reference value) value.objectFields ∧
    Works registry (Inquiry.fillParams registry.settings.maxHops reference value)
      (registry.fillParams reference value) value.objectFields :=
  ⟨.validate hnames, .validateRecord hnames, .validateParams hnames, .validateInput hnames,
    .validateOutput hnames, .fillRecord hnames, .fillParams hnames⟩

/-- Rings of a chain, each of which leads to the next one by two references, as many as may follow
    each other; and a definition that leads to itself. -/
def rings : Registry where
  documents := [
    { Document.empty "com.example.ring" with definitions := [
        ("main", .record none none ⟨none, [("next", .ref none "#link")], [], []⟩),
        ("first", .ref none "#link"),
        ("link", .ref none "#ring"),
        ("ring", .object ⟨none, [("next", .ref none "#link")], [], []⟩),
        ("self", .ref none "#self")] }]
  settings := { maxHops := 2 }

/-- A chain of three rings. -/
def chain : Value :=
  .object [("next", .object [("next", .object [])])]

/-- The bounds are reached: two hops for each of three rings, for each of the two rings that are
    properties, and for a value whose descriptor leads to itself. -/
theorem work_is_linear_rings :
    rings.NamesDiffer ∧
      Works rings (Inquiry.validate 2 "com.example.ring#first" chain) (.ok ()) 3 ∧
      (Inquiry.validate 2 "com.example.ring#first" chain).hops rings = 2 * 3 ∧
      Works rings (Inquiry.fillRecord 2 "com.example.ring" chain) (.ok chain) 2 ∧
      (Inquiry.fillRecord 2 "com.example.ring" chain).hops rings = 2 * 2 ∧
      Works rings (Inquiry.validate 2 "com.example.ring#self" .null)
        (.error (.resolution (.tooManyHops 2 "Object"))) 1 ∧
      (Inquiry.validate 2 "com.example.ring#self" .null).hops rings = 2 * 1 := by
  have hnames : rings.NamesDiffer := by
    simp [NamesDiffer, descriptors, rings, Document.descriptors, Descriptor.partsOfEntries,
      Descriptor.parts, ObjectSchema.parts, Descriptor.declared, Document.empty]
  have hvalid : rings.validate "com.example.ring#first" chain = .ok () := by cbv
  have hfilled : rings.fillRecord "com.example.ring" chain = .ok chain := by cbv
  have hself : rings.validate "com.example.ring#self" .null =
      .error (.resolution (.tooManyHops 2 "Object")) := by cbv
  obtain ⟨hfirst, -⟩ := work_is_linear rings hnames "com.example.ring#first" chain
  obtain ⟨-, -, -, -, -, hfill, -⟩ := work_is_linear rings hnames "com.example.ring" chain
  obtain ⟨hloop, -⟩ := work_is_linear rings hnames "com.example.ring#self" .null
  rw [hvalid] at hfirst
  rw [hfilled] at hfill
  rw [hself] at hloop
  exact ⟨hnames, hfirst, by cbv, hfill, by cbv, hloop, by cbv⟩

end Registry

end Lexicon
