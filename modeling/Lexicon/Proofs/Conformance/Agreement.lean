import Lexicon.Proofs.Conformance.Check

namespace Lexicon.Registry

open Lexicon.Outcome

/-!
# Two registries, one check

A check asks its registry for two things only: the definitions at addresses, and how many hops are
allowed.  If a second registry answers these questions as the first one does, up to failures that
are excused, then so does every check.

* `LeavesRoom excused registry registry' hops hops'` — from `hops'` on the second registry lets a
  check go as far as the first one does from `hops` on, or giving up is excused;
* `checkValue_agree` — the two checks agree.
-/

variable {excused : Failure → Prop} {registry registry' : Registry} {hops hops' : Nat}

/-- The second run is as far from its limit as the first one; or it is no nearer to it, and giving
    up is excused. -/
def LeavesRoom (excused : Failure → Prop) (registry registry' : Registry) (hops hops' : Nat) :
    Prop :=
  (registry.settings.maxHops = registry'.settings.maxHops ∧ hops = hops') ∨
    (registry.settings.maxHops ≤ registry'.settings.maxHops ∧ hops' ≤ hops ∧
      ∀ path, excused (.resolution (.tooManyHops registry.settings.maxHops path)))

namespace LeavesRoom

variable (h : LeavesRoom excused registry registry' hops hops')
include h

/-- Both counts start anew at the same time. -/
theorem anew : LeavesRoom excused registry registry' 0 0 := by
  rcases h with ⟨hmax, -⟩ | ⟨hmax, -, hexcused⟩
  · exact .inl ⟨hmax, rfl⟩
  · exact .inr ⟨hmax, le_rfl, hexcused⟩

/-- One hop more on both sides leaves as much room. -/
theorem succ : LeavesRoom excused registry registry' (hops + 1) (hops' + 1) := by
  rcases h with ⟨hmax, rfl⟩ | ⟨hmax, hle, hexcused⟩
  · exact .inl ⟨hmax, rfl⟩
  · exact .inr ⟨hmax, Nat.succ_le_succ hle, hexcused⟩

/-- One more hop keeps agreement, if what comes after it does. -/
theorem ite {α : Type} {x y : Except Failure α} (path : Path)
    (hnext : hops < registry.settings.maxHops → Agree excused x y) :
    Agree excused
      (if hops < registry.settings.maxHops then x
        else .error (.resolution (.tooManyHops registry.settings.maxHops path)))
      (if hops' < registry'.settings.maxHops then y
        else .error (.resolution (.tooManyHops registry'.settings.maxHops path))) := by
  by_cases hlt : hops < registry.settings.maxHops
  · -- Where the first run goes on, the second one has room to do so.
    have hlt' : hops' < registry'.settings.maxHops := by
      rcases h with ⟨hmax, rfl⟩ | ⟨hmax, hle, -⟩ <;> omega
    rw [if_pos hlt, if_pos hlt']
    exact hnext hlt
  · -- Where the first run gives up, either the second one does too, or that is excused.
    rw [if_neg hlt]
    rcases h with ⟨hmax, rfl⟩ | ⟨-, -, hexcused⟩
    · rw [if_neg (hmax ▸ hlt), hmax]
      exact .refl _
    · exact .error (hexcused _) _

end LeavesRoom

/-- One hop keeps agreement, if the check behind it does. -/
theorem checkTarget_agree
    (hlookUp : ∀ address, Agree excused (registry.lookUp address) (registry'.lookUp address))
    (hroom : LeavesRoom excused registry registry' hops hops') (value : Value) (path : Path)
    (hnext : hops < registry.settings.maxHops → ∀ base descriptor,
      Agree excused (registry.checkValue base descriptor value path (hops + 1))
        (registry'.checkValue base descriptor value path (hops' + 1)))
    (address : Address) :
    Agree excused (registry.checkTarget address value path hops)
      (registry'.checkTarget address value path hops') := by
  rw [checkTarget, checkTarget]
  refine hroom.ite path fun hlt => ?_
  exact (hlookUp address).bind fun descriptor _ => hnext hlt _ _

/-- A property keeps agreement, if the check of its value does. -/
theorem checkProperty_agree {base : String} {mayBeNull : Bool} {name : String}
    {descriptor : Descriptor} {fields : List (String × Value)} {path : Path}
    (hfield : ∀ field, fields.lookup name = some field →
      Agree excused (registry.checkValue base descriptor field (path.child name) 0)
        (registry'.checkValue base descriptor field (path.child name) 0)) :
    Agree excused (registry.checkProperty base mayBeNull name descriptor fields path)
      (registry'.checkProperty base mayBeNull name descriptor fields path) := by
  cases hlookup : fields.lookup name with
  | none =>
    rw [checkProperty_of_none hlookup, checkProperty_of_none hlookup]
    exact .refl _
  | some field =>
    rw [checkProperty_of_some hlookup, checkProperty_of_some hlookup]
    by_cases hnull : field.isNull && mayBeNull
    · rw [if_pos hnull, if_pos hnull]
      exact .refl _
    · rw [if_neg hnull, if_neg hnull]
      exact hfield field hlookup

/-- **Agreement.**  If two registries agree on every definition, and the second one leaves room,
    then their checks agree. -/
theorem checkValue_agree
    (hlookUp : ∀ address, Agree excused (registry.lookUp address) (registry'.lookUp address))
    (hroom : LeavesRoom excused registry registry' hops hops') (base : String)
    (descriptor : Descriptor) (value : Value) (path : Path) :
    Agree excused (registry.checkValue base descriptor value path hops)
      (registry'.checkValue base descriptor value path hops') := by
  induction value, hops using value_hops_induction registry.settings.maxHops
    generalizing base descriptor path hops' with
  | step value hops ihvalue ihhops =>
    -- What is behind a reference is one hop further; inside the value the count starts anew.
    have htarget := checkTarget_agree hlookUp hroom value path
      fun hlt base descriptor => ihhops hlt hroom.succ base descriptor path
    cases descriptor with
    | array description items rules =>
      cases value with
      | array values =>
        rw [checkArray_eq, checkArray_eq]
        exact (Agree.refl _).bind fun _ _ => .forM fun item hmem =>
          ihvalue item 0 (sizeOf_item_lt hmem) hroom.anew base items path
      | _ => unfold checkValue; exact .refl _
    | object schema =>
      rw [checkValue, checkValue]
      cases value with
      | object fields =>
        rw [checkObject_eq, checkObject_eq]
        refine (Agree.refl _).bind fun _ _ => .forM fun property _ => ?_
        exact checkProperty_agree fun field hfield =>
          ihvalue field 0 (sizeOf_field_lt hfield) hroom.anew base property.2 _
      | _ => unfold checkObject; exact .refl _
    | ref description target =>
      rw [checkValue, checkValue]
      exact (Agree.refl _).bind fun address _ => htarget address
    | union description members closed =>
      rw [checkValue, checkValue]
      split
      · exact .refl _
      · refine (Agree.refl _).bind fun addresses _ => (Agree.refl _).bind fun given _ => ?_
        split
        · exact htarget given
        · exact .refl _
    -- The other kinds ask the registry for nothing.
    | _ => unfold checkValue; exact .refl _

end Lexicon.Registry
