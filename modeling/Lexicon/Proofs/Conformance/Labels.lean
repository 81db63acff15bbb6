import Lexicon.Proofs.Conformance.Report

namespace Lexicon

open Lexicon.Outcome

/-!
# Checks under different labels

A check is told the path of its value, and all that it does with it is to put it in front of what it
tells.  So two checks of one value, under the paths `p` and `q`, come out the same but for `q` in the
place of `p`.

* `Failure.Moved p q` — a failure below `p`, and the same one below `q`;
* `checkTarget_alike`, `checkProperty_alike` — one hop, and one step down to a property;
* `checkValue_alike` — the two checks come out alike, by induction along the validator.
-/

/-- The first failure is told at a path that begins with `p`, and the second one is the same, told
    at the path that begins with `q` instead; or they are the same failure, which has no path. -/
inductive Failure.Moved (p q : Path) : Failure → Failure → Prop where
  | violation (suffix : String) (reason : Violation) :
      Moved p q (.violation (p ++ suffix) reason) (.violation (q ++ suffix) reason)
  | tooManyHops (max : Nat) (suffix : String) :
      Moved p q (.resolution (.tooManyHops max (p ++ suffix)))
        (.resolution (.tooManyHops max (q ++ suffix)))
  | unexpectedKind (kind : Kind) (suffix : String) :
      Moved p q (.resolution (.unexpectedKind kind (p ++ suffix)))
        (.resolution (.unexpectedKind kind (q ++ suffix)))
  | invalidReference (error : ReferenceError) :
      Moved p q (.resolution (.invalidReference error)) (.resolution (.invalidReference error))
  | documentNotFound (id : String) :
      Moved p q (.resolution (.documentNotFound id)) (.resolution (.documentNotFound id))
  | definitionNotFound (id name : String) :
      Moved p q (.resolution (.definitionNotFound id name))
        (.resolution (.definitionNotFound id name))

variable {p q : Path}

namespace Failure.Moved

/-- What fails at the path itself moves with the path. -/
theorem violation_here (p q : Path) (reason : Violation) :
    Moved p q (.violation p reason) (.violation q reason) := by
  have h : Moved p q (.violation (p ++ "") reason) (.violation (q ++ "") reason) :=
    .violation "" reason
  rwa [String.append_empty, String.append_empty] at h

/-- A chain that is too long is told at the path itself, and moves with it. -/
theorem tooManyHops_here (p q : Path) (max : Nat) :
    Moved p q (.resolution (.tooManyHops max p)) (.resolution (.tooManyHops max q)) := by
  have h : Moved p q (.resolution (.tooManyHops max (p ++ "")))
      (.resolution (.tooManyHops max (q ++ ""))) := .tooManyHops max ""
  rwa [String.append_empty, String.append_empty] at h

/-- A definition of the wrong kind is told at the path itself, and moves with it. -/
theorem unexpectedKind_here (p q : Path) (kind : Kind) :
    Moved p q (.resolution (.unexpectedKind kind p)) (.resolution (.unexpectedKind kind q)) := by
  have h : Moved p q (.resolution (.unexpectedKind kind (p ++ "")))
      (.resolution (.unexpectedKind kind (q ++ ""))) := .unexpectedKind kind ""
  rwa [String.append_empty, String.append_empty] at h

/-- What is told below a property is told below the object that has it. -/
theorem of_child {name : String} {failure failure' : Failure} (hp : p ≠ "") (hq : q ≠ "")
    (h : Moved (p.child name) (q.child name) failure failure') : Moved p q failure failure' := by
  -- Both paths end alike, so the name only makes the common end longer.
  rw [Path.child_of_ne_empty hp, Path.child_of_ne_empty hq] at h
  cases h with
  | violation suffix reason =>
    simp only [String.append_assoc]
    exact .violation _ reason
  | tooManyHops max suffix =>
    simp only [String.append_assoc]
    exact .tooManyHops max _
  | unexpectedKind kind suffix =>
    simp only [String.append_assoc]
    exact .unexpectedKind kind _
  | invalidReference error => exact .invalidReference error
  | documentNotFound id => exact .documentNotFound id
  | definitionNotFound id name => exact .definitionNotFound id name

end Failure.Moved

/-! ### Steps of a check -/

/-- The same reason at the two paths is the same failure, moved. -/
theorem alike_violates (reason : Violation) :
    Alike (Failure.Moved p q) (violates p reason) (violates q reason) :=
  .error (.violation_here p q reason)

/-- The same check fails for the same reason, at the path that moves. -/
theorem alike_at (check : Check) : Alike (Failure.Moved p q) (check.at p) (check.at q) := by
  cases check with
  | ok _ => exact .ok ()
  | error reason => exact alike_violates reason

/-- Missing names are told at the path of the object, which moves. -/
theorem alike_requiredNames (required : List String) (fields : List (String × Value)) :
    Alike (Failure.Moved p q) (checkRequiredNames required fields p)
      (checkRequiredNames required fields q) := by
  unfold checkRequiredNames
  cases required.find? (!Assoc.hasKey fields ·) with
  | none => exact .ok ()
  | some name => exact alike_violates _

/-- Where no path is told, the two runs do the same. -/
theorem alike_locate (reference : String) (base : Option String) :
    Alike (Failure.Moved p q) (Address.locate reference base) (Address.locate reference base) := by
  cases h : Address.locate reference base with
  | ok address => exact .ok address
  | error failure =>
    obtain ⟨error, rfl⟩ := Address.locate_eq_error h
    exact .error (.invalidReference error)

namespace Registry

variable {registry : Registry} {base : String} {value : Value} {hops : Nat}

/-- A union whose members do not all parse fails in the same way at every path. -/
theorem alike_unionMembers (members : List String) :
    Alike (Failure.Moved p q) (unionMembers base members) (unionMembers base members) := by
  cases h : unionMembers base members with
  | ok addresses => exact .ok addresses
  | error failure =>
    obtain ⟨error, rfl⟩ := unionMembers_eq_error h
    exact .error (.invalidReference error)

/-- A definition that is not there is told without a path. -/
theorem alike_lookUp (address : Address) :
    Alike (Failure.Moved p q) (registry.lookUp address) (registry.lookUp address) := by
  unfold lookUp resolve
  cases registry.find? address.document with
  | none => exact .error (.documentNotFound _)
  | some document =>
    dsimp only
    cases document.find? address.name with
    | none => exact .error (.definitionNotFound _ _)
    | some definition => exact .ok definition

/-- One hop comes out alike, if the check behind it does. -/
theorem checkTarget_alike (address : Address)
    (hnext : hops < registry.settings.maxHops → ∀ descriptor,
      Alike (Failure.Moved p q)
        (registry.checkValue address.document descriptor value p (hops + 1))
        (registry.checkValue address.document descriptor value q (hops + 1))) :
    Alike (Failure.Moved p q) (registry.checkTarget address value p hops)
      (registry.checkTarget address value q hops) := by
  rw [checkTarget, checkTarget]
  by_cases hlt : hops < registry.settings.maxHops
  · rw [if_pos hlt, if_pos hlt]
    exact (alike_lookUp address).bind (hnext hlt)
  · rw [if_neg hlt, if_neg hlt]
    exact .error (.tooManyHops_here p q _)

/-- A property comes out alike, if its value does one step further down. -/
theorem checkProperty_alike {mayBeNull : Bool} {name : String} {descriptor : Descriptor}
    {fields : List (String × Value)} (hp : p ≠ "") (hq : q ≠ "")
    (hfield : ∀ field, fields.lookup name = some field →
      Alike (Failure.Moved (p.child name) (q.child name))
        (registry.checkValue base descriptor field (p.child name) 0)
        (registry.checkValue base descriptor field (q.child name) 0)) :
    Alike (Failure.Moved p q)
      (registry.checkProperty base mayBeNull name descriptor fields p)
      (registry.checkProperty base mayBeNull name descriptor fields q) := by
  cases hlookup : fields.lookup name with
  | none =>
    rw [checkProperty_of_none hlookup, checkProperty_of_none hlookup]
    exact .ok ()
  | some field =>
    rw [checkProperty_of_some hlookup, checkProperty_of_some hlookup]
    by_cases hnull : field.isNull && mayBeNull
    · rw [if_pos hnull, if_pos hnull]
      exact .ok ()
    · rw [if_neg hnull, if_neg hnull]
      exact (hfield field hlookup).mono fun _ _ => .of_child hp hq

/-! ### The whole check -/

/-- **The path of a value is an opaque prefix.**  Under two paths, neither of them empty, a value
    passes the same checks, or fails them with the same failure below either path.  By induction
    along the validator, for all paths at once, as they get longer on the way down. -/
theorem checkValue_alike (hp : p ≠ "") (hq : q ≠ "") (base : String) (descriptor : Descriptor)
    (value : Value) (hops : Nat) :
    Alike (Failure.Moved p q) (registry.checkValue base descriptor value p hops)
      (registry.checkValue base descriptor value q hops) := by
  induction value, hops using value_hops_induction registry.settings.maxHops
    generalizing base descriptor p q with
  | step value hops ihvalue ihhops =>
    have htarget (address : Address) :
        Alike (Failure.Moved p q) (registry.checkTarget address value p hops)
          (registry.checkTarget address value q hops) :=
      checkTarget_alike address fun hlt descriptor => ihhops hlt hp hq address.document descriptor
    cases descriptor with
    | boolean description rules =>
      cases value with
      | boolean b => rw [checkValue, checkValue]; exact alike_at _
      | _ => unfold checkValue; exact alike_violates _
    | integer description rules =>
      rw [checkValue, checkValue]
      exact alike_at _
    | string description format rules =>
      cases value with
      | string s =>
        rw [checkValue, checkValue]
        cases format.filter (!·.accepts s) with
        | some format => exact alike_violates _
        | none => exact alike_at _
      | _ => unfold checkValue; exact alike_violates _
    | bytes description rules =>
      cases value with
      | bytes data => rw [checkValue, checkValue]; exact alike_at _
      | _ => unfold checkValue; exact alike_violates _
    | cidLink description =>
      cases value with
      | link cid => rw [checkValue, checkValue]; exact .ok ()
      | _ => unfold checkValue; exact alike_violates _
    | blob description rules =>
      rw [checkValue, checkValue]
      cases blobOf? value with
      | some blob => exact alike_at _
      | none => exact alike_violates _
    | unknown description =>
      rw [checkValue_unknown, checkValue_unknown]
      exact .ok ()
    | array description items rules =>
      cases value with
      | array values =>
        rw [checkArray_eq, checkArray_eq]
        exact (alike_at _).bind fun _ => .forM fun item hmem =>
          ihvalue item 0 (sizeOf_item_lt hmem) hp hq base items
      | _ => unfold checkValue; exact alike_violates _
    | object schema =>
      rw [checkValue, checkValue]
      cases value with
      | object fields =>
        rw [checkObject_eq, checkObject_eq]
        refine (alike_requiredNames _ fields).bind fun _ => .forM fun property _ => ?_
        refine checkProperty_alike hp hq fun field hfield => ?_
        have hchild {path : Path} (h : path ≠ "") : path.child property.1 ≠ "" := by
          rw [Path.child_of_ne_empty h]
          simp
        exact ihvalue field 0 (sizeOf_field_lt hfield) (hchild hp) (hchild hq) base property.2
      | _ => unfold checkObject; exact alike_violates _
    | ref description target =>
      rw [checkValue, checkValue]
      exact (alike_locate target _).bind htarget
    | union description members closed =>
      rw [checkValue, checkValue]
      cases (value.get? "$type").bind Value.string? with
      | none => exact alike_violates _
      | some type =>
        refine (alike_unionMembers members).bind fun addresses =>
          (alike_locate type none).bind fun given => ?_
        by_cases hmember : addresses.contains given
        · rw [if_pos hmember, if_pos hmember]
          exact htarget given
        · rw [if_neg hmember, if_neg hmember]
          by_cases hclosed : Descriptor.isClosed closed
          · rw [if_pos hclosed, if_pos hclosed]
            exact alike_violates _
          · rw [if_neg hclosed, if_neg hclosed]
            exact .ok ()
    -- The kinds that describe no value are told at the path of the value.
    | _ => unfold checkValue; exact .error (.unexpectedKind_here p q _)

/-- What is told of an object is told below its path. -/
theorem exists_suffix_of_checkObject {schema : ObjectSchema} {path : Path} {reason : Violation}
    (hp : p ≠ "") (h : registry.checkObject base schema value p = .error (.violation path reason)) :
    ∃ suffix, path = p ++ suffix := by
  have halike : Alike (Failure.Moved p p) (registry.checkValue base (.object schema) value p 0) _ :=
    checkValue_alike hp hp base (.object schema) value 0
  rw [checkValue, h] at halike
  cases halike with
  | error hmoved =>
    cases hmoved with
    | violation suffix _ => exact ⟨suffix, rfl⟩

end Registry

end Lexicon
