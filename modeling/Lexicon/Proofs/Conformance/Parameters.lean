import Lexicon.Proofs.Document.Structure

namespace Lexicon

open Lexicon.Outcome

/-!
# Checks of parameters

A descriptor of a parameter is a primitive or an array of primitives.  It judges a value by itself:
the registry, the document, the path and the hops that have led to the value play no part.

* `Descriptor.Judges descriptor value check` — a descriptor does no more with a value than to make a
  check, and to tell what is wrong at the path that it is given;
* `exists_judges_of_describesParameter` — a descriptor of a parameter is such;
* `ParamsFault` — what can be wrong with the parameters of a call, and where it is told;
* `checkParams_fails`, `checkParams_congr`, `checkParams_eq_ok_iff_object` — a check of parameters
  fails in these ways only, does not depend on the registry, and is that of an object.
-/

/-- Two checks, one after the other, at one path. -/
theorem Check.at_then (path : Path) (first second : Check) :
    Check.at path (do first; second) = (do first.at path; second.at path) := by
  cases first <;> rfl

/-- Checks along a list, all at one path. -/
theorem Check.at_forM {α : Type} (path : Path) (items : List α) (check : α → Check) :
    Check.at path (items.forM check) = items.forM fun item => (check item).at path := by
  induction items with
  | nil => rfl
  | cons item rest ih =>
    show Check.at path (do check item; rest.forM check) = _
    rw [Check.at_then, ih]
    rfl

/-- A check at a path fails with a violation at that path. -/
theorem Check.at_eq_error {path : Path} {check : Check} {failure : Failure}
    (h : check.at path = .error failure) : ∃ reason, failure = .violation path reason := by
  obtain ⟨reason, -, rfl⟩ := mapError_eq_error.1 h
  exact ⟨reason, rfl⟩

namespace Descriptor

/-- A descriptor does no more with a value than to make a check, at whatever path. -/
def Judges (descriptor : Descriptor) (value : Value) (check : Check) : Prop :=
  ∀ (registry : Registry) (base : String) (path : Path) (hops : Nat),
    registry.checkValue base descriptor value path hops = check.at path

variable {descriptor : Descriptor}

/-- What a parameter may be made of refers to nothing and has no parts, so it judges alone. -/
theorem exists_judges_of_isParamPrimitive (h : descriptor.kind.isParamPrimitive) (value : Value) :
    ∃ check, descriptor.Judges value check := by
  unfold Judges Registry.checkValue
  cases descriptor with
  | boolean description rules =>
    cases value with
    | boolean b => exact ⟨rules.check b, fun _ _ _ _ => rfl⟩
    | _ => exact ⟨.error .notBoolean, fun _ _ _ _ => rfl⟩
  | integer description rules => exact ⟨integerCheck rules value, fun _ _ _ _ => rfl⟩
  | string description format rules =>
    cases value with
    | string s =>
      -- The format comes first, and only then the other rules.
      cases hformat : format.filter (!·.accepts s) with
      | some format =>
        refine ⟨.error (.invalidFormat format), fun _ _ _ _ => ?_⟩
        simp only [hformat]
        rfl
      | none =>
        refine ⟨rules.check s, fun _ _ _ _ => ?_⟩
        simp only [hformat]
    | _ => exact ⟨.error .notString, fun _ _ _ _ => rfl⟩
  | unknown description => exact ⟨.ok (), fun _ _ _ _ => rfl⟩
  | _ => simp [kind, Kind.isParamPrimitive] at h

/-- An array judges a value if its items do; they are all judged at the path of the array. -/
theorem exists_judges_array {items : Descriptor} (h : ∀ value, ∃ check, items.Judges value check)
    (description : Option String) (rules : LengthRules) (value : Value) :
    ∃ check, (Descriptor.array description items rules).Judges value check := by
  cases value with
  | array values =>
    choose check hcheck using h
    refine ⟨do rules.checkItems values.length; values.forM check, fun registry base path hops => ?_⟩
    rw [Registry.checkArray_eq, Check.at_then, Check.at_forM]
    exact congrArg _ (funext fun _ => forM_congr fun item _ => hcheck item registry base path 0)
  | _ =>
    unfold Judges Registry.checkValue
    exact ⟨.error .notArray, fun _ _ _ _ => rfl⟩

/-- A descriptor of a parameter judges values by itself. -/
theorem exists_judges_of_describesParameter (h : descriptor.describesParameter) (value : Value) :
    ∃ check, descriptor.Judges value check := by
  cases descriptor with
  | array description items rules =>
    exact exists_judges_array (exists_judges_of_isParamPrimitive h) description rules value
  | _ =>
    refine exists_judges_of_isParamPrimitive ?_ value
    exact h

end Descriptor

/-- What can be wrong with the parameters of a call, under the label `label`: something about them
    as a whole is told under the label, and something about one of them under its name. -/
inductive ParamsFault (schema : ParamsSchema) (value : Value) (label : Path) :
    Path → Violation → Prop where
  | notObject : value.object? = none → ParamsFault schema value label label .notObject
  | missing {name} : name ∈ schema.required → value.get? name = none →
      ParamsFault schema value label label (.missingProperty name)
  | parameter {name field reason} : name ∈ Assoc.keys schema.properties →
      value.get? name = some field → ParamsFault schema value label name reason

namespace Registry

variable {registry registry' : Registry} {base base' : String} {schema : ParamsSchema}
  {value : Value} {path label : Path} {hops hops' : Nat}

section Property

variable {descriptor : Descriptor} (h : descriptor.describesParameter)
include h

/-- A check of one parameter is the same in every registry and every document. -/
theorem checkProperty_eq_of_describesParameter {mayBeNull : Bool} {name : String}
    {fields : List (String × Value)} :
    registry.checkProperty base mayBeNull name descriptor fields path =
      registry'.checkProperty base' mayBeNull name descriptor fields path := by
  refine checkProperty_congr fun field _ => ?_
  obtain ⟨check, hcheck⟩ := Descriptor.exists_judges_of_describesParameter h field
  rw [hcheck, hcheck]

/-- Whether a value passes depends on nothing but the descriptor. -/
theorem checkValue_eq_ok_iff {path' : Path} :
    registry.checkValue base descriptor value path hops = .ok () ↔
      registry'.checkValue base' descriptor value path' hops' = .ok () := by
  obtain ⟨check, hcheck⟩ := Descriptor.exists_judges_of_describesParameter h value
  rw [hcheck, hcheck, Check.at_eq_ok, Check.at_eq_ok]

/-- A parameter that is wrong is there, and told about under its name. -/
theorem checkProperty_fails {name : String} {fields : List (String × Value)} {failure : Failure}
    (hfails : registry.checkProperty base false name descriptor fields "" = .error failure) :
    ∃ field reason, fields.lookup name = some field ∧ failure = .violation name reason := by
  cases hfield : fields.lookup name with
  | none =>
    rw [checkProperty_of_none hfield] at hfails
    cases hfails
  | some field =>
    obtain ⟨check, hcheck⟩ := Descriptor.exists_judges_of_describesParameter h field
    rw [checkProperty_of_some hfield, Bool.and_false, if_neg Bool.false_ne_true, hcheck] at hfails
    obtain ⟨reason, rfl⟩ := Check.at_eq_error hfails
    exact ⟨field, reason, rfl, rfl⟩

end Property

/-- A required name that is missing is told at the path. -/
theorem checkRequiredNames_fails {required : List String} {fields : List (String × Value)}
    {failure : Failure} (h : checkRequiredNames required fields path = .error failure) :
    ∃ name ∈ required, fields.lookup name = none ∧
      failure = .violation path (.missingProperty name) := by
  unfold checkRequiredNames at h
  cases hfind : required.find? (!Assoc.hasKey fields ·) with
  | none =>
    rw [hfind] at h
    cases h
  | some name =>
    rw [hfind] at h
    cases h
    refine ⟨name, List.mem_of_find?_eq_some hfind, ?_, rfl⟩
    simpa [Assoc.hasKey] using List.find?_some hfind

section Params

variable (h : ∀ name descriptor, (name, descriptor) ∈ schema.properties →
  descriptor.describesParameter)
include h

/-- A check of parameters fails with one of the faults that parameters can have. -/
theorem checkParams_fails {failure : Failure}
    (hfails : registry.checkParams base schema value label = .error failure) :
    ∃ path reason, failure = .violation path reason ∧
      ParamsFault schema value label path reason := by
  cases value with
  | object fields =>
    rw [checkParams_eq] at hfails
    rcases then_eq_error.1 hfails with hfails | ⟨-, hfails⟩
    · obtain ⟨name, hmem, hlookup, rfl⟩ := checkRequiredNames_fails hfails
      exact ⟨_, _, rfl, .missing hmem hlookup⟩
    · -- A parameter fails at its own name, since it is not nested.
      obtain ⟨earlier, ⟨name, descriptor⟩, later, hsplit, -, hfails⟩ := forM_eq_error.1 hfails
      have hmem : (name, descriptor) ∈ schema.properties :=
        hsplit ▸ List.mem_append_right _ List.mem_cons_self
      obtain ⟨field, reason, hfield, rfl⟩ := checkProperty_fails (h name descriptor hmem) hfails
      exact ⟨_, _, rfl, .parameter (List.mem_map_of_mem hmem) hfield⟩
  | _ =>
    cases hfails
    exact ⟨_, _, rfl, .notObject rfl⟩

/-- A check of parameters is the same in every registry and every document. -/
theorem checkParams_congr :
    registry.checkParams base schema value label =
      registry'.checkParams base' schema value label := by
  cases value with
  | object fields =>
    rw [checkParams_eq, checkParams_eq]
    exact congrArg _ (funext fun _ => forM_congr fun property hmem =>
      checkProperty_eq_of_describesParameter (h property.1 property.2 hmem))
  | _ => rfl

/-- Parameters are valid iff they are so as an object none of whose properties may be null. -/
theorem checkParams_eq_ok_iff_object {description : Option String} :
    registry.checkParams base schema value label = .ok () ↔
      registry.checkValue base (.object ⟨description, schema.properties, schema.required, []⟩)
        value path hops = .ok () := by
  rw [checkValue, checkParams_eq_ok, checkObject_eq_ok]
  refine exists_congr fun fields => and_congr_right fun _ => and_congr_right fun _ =>
    forall_congr' fun name => forall_congr' fun descriptor => forall_congr' fun hmem => ?_
  simp only [checkProperty_eq_ok, ObjectSchema.isNullable, List.contains_nil]
  exact forall_congr' fun field => imp_congr_right fun _ => imp_congr_right fun _ =>
    checkValue_eq_ok_iff (h name descriptor hmem)

end Params

end Registry

end Lexicon
