import Lexicon.Proofs.Defaults.Fill
import Lexicon.Proofs.Descriptor.Parts
import Lexicon.Proofs.Value.Size
import Lexicon.Proofs.Work.Inquiry
import Mathlib

namespace Lexicon

open Lexicon.Outcome

/-!
# The filling of defaults as an inquiry

Filling goes into a value only where a property is an object, and follows references only to learn
what that object is.

* `Inquiry.followRefs`, `Inquiry.fillProperties`, `Inquiry.fillProperty` — filling as an inquiry;
  `run_fillProperties` — it is the filling;
* `paced_fillProperties` — for each property that is an object it makes no more hops than allowed;
* `entries_fillProperties_le` — it goes into no object twice.
-/

namespace Inquiry

/-- The definition at the end of a chain of references, and its document. -/
def followRefs (limit : Nat) (base : String) (descriptor : Descriptor) (path : Path) (hops : Nat) :
    Inquiry (String × Descriptor) :=
  match descriptor with
  | .ref _ target =>
    if hops < limit then do
      let address ← answer (Address.locate target (some base))
      hop address fun next => followRefs limit address.document next path (hops + 1)
    else answer (.error (.resolution (.tooManyHops limit path)))
  | descriptor => answer (.ok (base, descriptor))
termination_by limit - hops

mutual

/-- The entries `filled`, with the properties in declared order filled in as they are found in
    `fields`. -/
def fillProperties (limit : Nat) (base : String) (properties : List (String × Descriptor))
    (fields : List (String × Value)) (path : Path) (filled : List (String × Value)) :
    Inquiry (List (String × Value)) :=
  match properties with
  | [] => answer (.ok filled)
  | (name, descriptor) :: rest => do
    match ← fillProperty limit base name descriptor fields path with
    | some value =>
      fillProperties limit base rest fields path (Assoc.insert filled name value)
    | none => fillProperties limit base rest fields path filled
termination_by (sizeOf fields, properties.length)

/-- The new value of a property, if it has one. -/
def fillProperty (limit : Nat) (base : String) (name : String) (descriptor : Descriptor)
    (fields : List (String × Value)) (path : Path) : Inquiry (Option Value) :=
  match _h : fields.lookup name with
  | none => answer (.ok descriptor.default?)
  | some (.object inner) => enter do
    match ← followRefs limit base descriptor (path.child name) 0 with
    | (base, .object schema) =>
      let inner ← fillProperties limit base schema.properties inner (path.child name) inner
      return some (.object inner)
    | _ => return none
  | some _ => answer (.ok none)
termination_by (sizeOf fields, 0)
decreasing_by
  have := sizeOf_lt_of_lookup _h
  simp only [Value.object.sizeOf_spec] at this
  exact .left _ _ (by omega)

end

variable {registry : Registry} {limit : Nat} {base : String} {path : Path} {hops : Nat}

/-! ### References -/

/-- The inquiry about where references lead comes to where they do. -/
theorem run_followRefs {descriptor : Descriptor} :
    (followRefs registry.settings.maxHops base descriptor path hops).run registry =
      registry.followRefs base descriptor path hops := by
  fun_induction Registry.followRefs registry base descriptor path hops with
  | case1 base hops description target hlt ih =>
    rw [followRefs, if_pos hlt, bind_eq_bind, run_bind, run]
    exact congrArg _ (funext fun address => congrArg _ (funext fun next => ih address next))
  | case2 base hops description target hlt => rw [followRefs, if_neg hlt, run]
  | case3 base hops descriptor hnotRef =>
    unfold followRefs
    cases descriptor <;> first | rfl | exact absurd rfl (hnotRef _ _)

/-- Each reference that is followed is one of the hops that are left. -/
theorem paced_followRefs {descriptor : Descriptor} :
    Paced registry limit (limit - hops) (followRefs limit base descriptor path hops) := by
  fun_induction followRefs limit base descriptor path hops with
  | case1 base hops description target hlt ih =>
    exact Paced.bind_answer fun address =>
      ⟨limit - (hops + 1), by omega, fun next _ => ih address next⟩
  | case2 => trivial
  | case3 => trivial

/-- A chain of references does not go into the value. -/
theorem entries_followRefs {descriptor : Descriptor} :
    (followRefs limit base descriptor path hops).entries registry = 0 := by
  fun_induction followRefs limit base descriptor path hops with
  | case1 base hops description target hlt ih =>
    refine Nat.le_zero.1 (entries_bind_answer_le fun address => ?_)
    rw [entries]
    split
    · exact (ih address _).le
    · exact le_rfl
  | case2 => rfl
  | case3 => rfl

/-! ### Properties -/

section Property

variable {name : String} {descriptor : Descriptor} {fields : List (String × Value)}

/-- A default is at hand without any work. -/
theorem fillProperty_of_none (h : fields.lookup name = none) :
    fillProperty limit base name descriptor fields path = answer (.ok descriptor.default?) := by
  rw [fillProperty]
  split <;> simp_all

/-- No work is done for a value that is no object. -/
theorem fillProperty_of_plain {field : Value} (h : fields.lookup name = some field)
    (hplain : field.object? = none) :
    fillProperty limit base name descriptor fields path = answer (.ok none) := by
  rw [fillProperty]
  split
  · simp_all
  · rename_i heq
    rw [h] at heq
    cases heq
    cases hplain
  · rfl

/-- An object is entered before its references are followed. -/
theorem fillProperty_of_object {inner : List (String × Value)}
    (h : fields.lookup name = some (.object inner)) :
    fillProperty limit base name descriptor fields path = enter (do
      match ← followRefs limit base descriptor (path.child name) 0 with
      | (base, .object schema) =>
        let inner ← fillProperties limit base schema.properties inner (path.child name) inner
        return some (.object inner)
      | _ => return none) := by
  rw [fillProperty]
  split
  · simp_all
  · rename_i heq
    rw [h] at heq
    cases heq
    rfl
  · simp_all

end Property

/-- The properties are filled one after the other. -/
theorem fillProperties_cons (name : String) (descriptor : Descriptor)
    (rest : List (String × Descriptor)) (fields filled : List (String × Value)) :
    fillProperties limit base ((name, descriptor) :: rest) fields path filled =
      (fillProperty limit base name descriptor fields path).bind fun value =>
        fillProperties limit base rest fields path (Assoc.update filled name value) := by
  rw [fillProperties, bind_eq_bind]
  congr 1
  funext value
  cases value <;> rfl

variable {properties : List (String × Descriptor)} {fields filled : List (String × Value)}

/-- Entries are filled as by the filling, if each property is. -/
theorem run_fillProperties_of_forall
    (h : ∀ name descriptor, (fillProperty limit base name descriptor fields path).run registry =
      registry.fillProperty base name descriptor fields path) :
    (fillProperties limit base properties fields path filled).run registry =
      registry.fillProperties base properties fields path filled := by
  induction properties generalizing filled with
  | nil => rw [fillProperties, Registry.fillProperties, run]
  | cons property rest ih =>
    obtain ⟨name, descriptor⟩ := property
    rw [fillProperties_cons, Registry.fillProperties_cons, run_bind, h]
    exact congrArg _ (funext fun _ => ih)

/-- **The inquiry is the filling.**  By induction on the object. -/
theorem run_fillProperties :
    (fillProperties registry.settings.maxHops base properties fields path filled).run registry =
      registry.fillProperties base properties fields path filled := by
  induction hsize : sizeOf fields using Nat.strong_induction_on
    generalizing base properties fields path filled with
  | _ size ih =>
    refine run_fillProperties_of_forall fun name descriptor => ?_
    cases hfield : fields.lookup name with
    | none => rw [fillProperty_of_none hfield, Registry.fillProperty_of_none hfield, run]
    | some field =>
      cases field with
      | object inner =>
        rw [fillProperty_of_object hfield, Registry.fillProperty_of_object hfield, run,
          bind_eq_bind, run_bind, run_followRefs]
        congr 1
        funext target
        -- Only where the references lead to an object does filling go on.
        obtain ⟨base', descriptor'⟩ := target
        cases descriptor' with
        | object schema =>
          simp only [bind_eq_bind, run_bind, ih _ (hsize ▸ Registry.sizeOf_inner_lt hfield) rfl]
          rfl
        | _ => rfl
      | _ => rw [fillProperty_of_plain hfield rfl, Registry.fillProperty_of_plain hfield rfl, run]

/-- Entries are filled without any hop before the first property that is an object, if each
    property is. -/
theorem paced_fillProperties_of_forall
    (h : ∀ name descriptor,
      Paced registry limit 0 (fillProperty limit base name descriptor fields path)) :
    Paced registry limit 0 (fillProperties limit base properties fields path filled) := by
  induction properties generalizing filled with
  | nil =>
    rw [fillProperties]
    trivial
  | cons property rest ih =>
    obtain ⟨name, descriptor⟩ := property
    rw [fillProperties_cons]
    exact (h name descriptor).bind fun _ _ => ih

/-- **For each property that is an object, no more hops are made than allowed.** -/
theorem paced_fillProperties :
    Paced registry limit 0 (fillProperties limit base properties fields path filled) := by
  induction hsize : sizeOf fields using Nat.strong_induction_on
    generalizing base properties fields path filled with
  | _ size ih =>
    refine paced_fillProperties_of_forall fun name descriptor => ?_
    cases hfield : fields.lookup name with
    | none =>
      rw [fillProperty_of_none hfield]
      trivial
    | some field =>
      cases field with
      | object inner =>
        -- Having entered the object, filling may make all hops, and then it goes on in the end of
        -- these.
        have hwalk : Paced registry limit (limit - 0)
            (followRefs limit base descriptor (path.child name) 0) := paced_followRefs
        rw [fillProperty_of_object hfield]
        refine Paced.bind hwalk fun target _ => ?_
        obtain ⟨base', descriptor'⟩ := target
        cases descriptor' with
        | object schema =>
          exact Paced.bind (ih _ (hsize ▸ Registry.sizeOf_inner_lt hfield) rfl) fun _ _ => trivial
        | _ => trivial
      | _ =>
        rw [fillProperty_of_plain hfield rfl]
        trivial

/-- Properties count for what is found under their names, if each of them does. -/
theorem entries_fillProperties_le_sum
    (h : ∀ name descriptor, (name, descriptor) ∈ properties →
      (fillProperty limit base name descriptor fields path).entries registry ≤
        ((fields.lookup name).map Value.objects).getD 0) :
    (fillProperties limit base properties fields path filled).entries registry ≤
      ((Assoc.keys properties).map fun name =>
        ((fields.lookup name).map Value.objects).getD 0).sum := by
  induction properties generalizing filled with
  | nil =>
    rw [fillProperties]
    exact Nat.zero_le _
  | cons property rest ih =>
    obtain ⟨name, descriptor⟩ := property
    rw [fillProperties_cons, Assoc.keys_cons, List.map_cons, List.sum_cons]
    have hfirst := h name descriptor List.mem_cons_self
    refine (entries_bind_le fun value _ => ?_).trans (Nat.add_le_add_right hfirst _)
    exact ih fun other d hmem => h other d (List.mem_cons_of_mem _ hmem)

/-- **No object is gone into twice**, where property lists are maps. -/
theorem entries_fillProperties_le (hnames : registry.NamesDiffer)
    (hkeys : (Assoc.keys properties).Nodup)
    (hproperties : ∀ name descriptor, (name, descriptor) ∈ properties → descriptor.NamesDiffer) :
    (fillProperties registry.settings.maxHops base properties fields path filled).entries registry ≤
      Value.objectsOfFields fields := by
  induction hsize : sizeOf fields using Nat.strong_induction_on
    generalizing base properties fields path filled with
  | _ size ih =>
    rw [Value.objectsOfFields_eq_sum]
    refine (entries_fillProperties_le_sum fun name descriptor hmem => ?_).trans
      (Assoc.sum_lookup_le Value.objects hkeys fields)
    cases hfield : fields.lookup name with
    | none =>
      rw [fillProperty_of_none hfield]
      exact Nat.zero_le _
    | some field =>
      cases field with
      | object inner =>
        rw [fillProperty_of_object hfield, Option.map_some, Option.getD_some, Value.objects,
          entries, bind_eq_bind]
        refine Nat.succ_le_succ ((entries_bind_le fun target htarget => ?_).trans_eq
          ((congrArg (· + _) entries_followRefs).trans (Nat.zero_add _)))
        -- The references lead out of the definition, but still to properties with different names.
        rw [run_followRefs] at htarget
        have hnamesTarget : target.2.NamesDiffer :=
          Registry.of_followRefs (P := Descriptor.NamesDiffer) (hproperties name descriptor hmem)
            (fun _ _ hresolve => hnames.of_resolve hresolve) htarget
        obtain ⟨base', descriptor'⟩ := target
        cases descriptor' with
        | object schema =>
          refine (entries_bind_le fun _ _ => Nat.zero_le 0).trans ?_
          exact ih _ (hsize ▸ Registry.sizeOf_inner_lt hfield) hnamesTarget.nodup
            (fun _ _ => hnamesTarget.of_mem_declared) rfl
        | _ => exact Nat.zero_le _
      | _ =>
        rw [fillProperty_of_plain hfield rfl]
        exact Nat.zero_le _

end Inquiry

end Lexicon
