import Lexicon.Proofs.Conformance.FirstFault

namespace Lexicon

open Lexicon.Outcome

/-!
# The fault that a check reports

A check that finds a violation reports a path and a reason: the way to the first fault of the value,
and what it is.

* `Path.foldl_child` — the path of a part has slashes between the names that lead to it;
* `firstFault_of_checkValue` — a check reports the first fault, by induction along the validator;
* `validate_reports_first_fault` — so does `validate`.
-/

/-! ### Paths -/

theorem Path.child_of_ne_empty {path : Path} (h : path ≠ "") (name : String) :
    path.child name = path ++ "/" ++ name :=
  if_neg h

/-- Names added one by one make the path in which slashes stand between them. -/
theorem Path.foldl_child {path : Path} (h : path ≠ "") (names : List String) :
    names.foldl Path.child path = String.intercalate "/" (path :: names) := by
  induction names generalizing path with
  | nil => rw [List.foldl_nil, String.intercalate_singleton]
  | cons name rest ih =>
    have hchild : path.child name ≠ "" := by
      rw [child_of_ne_empty h]
      simp
    rw [List.foldl_cons, ih hchild, child_of_ne_empty h, String.intercalate_cons_cons]
    -- The first two pieces are one already.
    cases rest with
    | nil => rw [String.intercalate_singleton, String.intercalate_singleton]
    | cons next rest =>
      rw [String.intercalate_cons_cons, String.intercalate_cons_cons]
      simp only [String.append_assoc]

namespace Registry

variable {registry : Registry} {base : String} {value : Value} {path : Path} {hops : Nat}

/-! ### What a check reports -/

/-- Failing to find a definition is no violation. -/
theorem locate_ne_violation {reference : String} {origin : Option String} {reason : Violation} :
    Address.locate reference origin ≠ .error (.violation path reason) := by
  intro h
  obtain ⟨error, herror⟩ := Address.locate_eq_error h
  cases herror

/-- The members of a union are parsed without a look at the value. -/
theorem unionMembers_ne_violation {members : List String} {reason : Violation} :
    unionMembers base members ≠ .error (.violation path reason) := by
  intro h
  obtain ⟨error, herror⟩ := unionMembers_eq_error h
  cases herror

/-- A violation behind an address is one by the definition there. -/
theorem checkTarget_eq_violation {address : Address} {path' : Path} {reason : Violation}
    (h : registry.checkTarget address value path hops = .error (.violation path' reason)) :
    hops < registry.settings.maxHops ∧ ∃ descriptor,
      registry.resolve address = .ok descriptor ∧
        registry.checkValue address.document descriptor value path (hops + 1) =
          .error (.violation path' reason) := by
  rcases checkTarget_eq_error h with h | ⟨error, -, h⟩ | h
  · cases h
  · cases h
  · exact h

/-- What passes a check conforms. -/
theorem conforms_of_checkValue_eq_ok {descriptor : Descriptor}
    (h : registry.checkValue base descriptor value path hops = .ok ()) :
    registry.Conforms base descriptor value := by
  have hlimit : registry.withMaxHops registry.settings.maxHops = registry := rfl
  rw [← hlimit] at h
  exact conforms_of_checkValue h

/-- **A check reports the first fault.**  The path of a violation is the path of the check, followed
    by names that lead to the part that has the fault.  By induction along the validator. -/
theorem firstFault_of_checkValue {descriptor : Descriptor} {path' : Path} {reason : Violation}
    (h : registry.checkValue base descriptor value path hops = .error (.violation path' reason)) :
    ∃ names part, path' = names.foldl Path.child path ∧
      registry.FirstFault base descriptor value names part reason := by
  induction value, hops using value_hops_induction registry.settings.maxHops
    generalizing base descriptor path with
  | step value hops ihvalue ihhops =>
    have hhere {verdict : Verdict} (htells : TellsAt path verdict descriptor.violations value)
        (hverdict : verdict = .error (.violation path' reason)) :
        ∃ names part, path' = names.foldl Path.child path ∧
          registry.FirstFault base descriptor value names part reason := by
      obtain ⟨rfl, hfirst⟩ := htells.fails hverdict
      exact ⟨[], value, rfl, .here hfirst⟩
    cases descriptor with
    | boolean => exact hhere (checkBoolean_tells _) h
    | integer => exact hhere (checkInteger_tells _) h
    | string => exact hhere (checkString_tells _ _) h
    | bytes => exact hhere (checkBytes_tells _) h
    | cidLink => exact hhere checkLink_tells h
    | blob => exact hhere (checkBlob_tells _) h
    | array description items rules =>
      cases value with
      | array values =>
        rw [checkArray_eq] at h
        have hown := checkArray_tells path description items rules values
        rcases then_eq_error.1 h with h | ⟨hlength, h⟩
        · exact hhere hown h
        · -- The first item that does not pass has the fault.
          obtain ⟨earlier, item, later, rfl, hearlier, h⟩ := forM_eq_error.1 h
          have hlt : sizeOf item < sizeOf (Value.array (earlier ++ item :: later)) :=
            sizeOf_item_lt (List.mem_append_right _ List.mem_cons_self)
          obtain ⟨names, part, hpath, hfault⟩ := ihvalue item 0 hlt h
          exact ⟨names, part, hpath, .item (hown.passes hlength) rfl
            (fun other hmem => conforms_of_checkValue_eq_ok (hearlier other hmem)) hfault⟩
      | _ =>
        unfold checkValue at h
        exact hhere (.head (by simp [Violation.HoldsOf])) h
    | object schema =>
      rw [checkValue] at h
      cases value with
      | object fields =>
        rw [checkObject_eq] at h
        have hown := checkObject_tells path schema fields
        rcases then_eq_error.1 h with h | ⟨hrequired, h⟩
        · exact hhere hown h
        · -- The first property that does not pass has the fault.
          obtain ⟨earlier, ⟨name, target⟩, later, hproperties, hearlier, h⟩ := forM_eq_error.1 h
          obtain ⟨field, hfield, hnull, h⟩ := checkProperty_eq_error h
          obtain ⟨names, part, hpath, hfault⟩ :=
            ihvalue field 0 (sizeOf_field_lt hfield) h
          refine ⟨name :: names, part, hpath, .property (hown.passes hrequired) hproperties ?_
            hfield (by simpa [ObjectSchema.isNullable] using hnull) hfault⟩
          intro name descriptor field hmem hfield hnull
          refine conforms_of_checkValue_eq_ok
            (checkProperty_eq_ok.1 (hearlier (name, descriptor) hmem) field hfield ?_)
          simpa [ObjectSchema.isNullable] using hnull
      | _ =>
        unfold checkObject at h
        exact hhere (.head (by simp [Violation.HoldsOf])) h
    | ref description target =>
      rw [checkValue] at h
      rcases bind_eq_error.1 h with h | ⟨address, hlocate, h⟩
      · exact absurd h locate_ne_violation
      obtain ⟨hlt, descriptor, hresolve, h⟩ := checkTarget_eq_violation h
      obtain ⟨names, part, hpath, hfault⟩ := ihhops hlt h
      exact ⟨names, part, hpath, .ref (Address.locate_eq_ok.1 hlocate) hresolve hfault⟩
    | union description members closed =>
      cases checkUnion_fails h with
      | untyped hnone => exact hhere (.head hnone) rfl
      | member h => exact absurd h unionMembers_ne_violation
      | type _ h => exact absurd h locate_ne_violation
      | target hmembers htype hgiven hmem h =>
        -- The value is what it says it is, one hop further.
        obtain ⟨hlt, descriptor, hresolve, h⟩ := checkTarget_eq_violation h
        obtain ⟨names, part, hpath, hfault⟩ := ihhops hlt h
        exact ⟨names, part, hpath, .member (exists_unionMembers_eq_ok.1 ⟨_, hmembers⟩) htype hgiven
          ((mem_unionMembers hmembers).1 hmem) hresolve hfault⟩
      | stranger hmembers htype hgiven hnot hclosed =>
        exact ⟨[], value, rfl, .stranger (unionMembers_eq_ok.1 hmembers) htype hgiven hnot hclosed⟩
    | unknown =>
      rw [checkValue_unknown] at h
      cases h
    -- The other kinds describe no value, which is no violation.
    | _ =>
      unfold checkValue at h
      cases h

/-- **A reported violation is true, in its place, and the first one.**  Where `validate` finds a
    violation, the path is the label of the definition followed by the names of properties that
    lead to a part of the value; what is told is true of that part, and everything that is looked
    at earlier conforms. -/
theorem validate_reports_first_fault {reference : String} {reason : Violation}
    (h : registry.validate reference value = .error (.violation path reason)) :
    ∃ address definition names part,
      Address.parse reference none = .ok address ∧ registry.resolve address = .ok definition ∧
      path = String.intercalate "/" (definition.rootLabel :: names) ∧
      value.Leads names part ∧ reason.HoldsOf part ∧
      registry.FirstFault address.document definition.described value names part reason := by
  rw [validate_eq] at h
  -- No violation comes of locating a definition or of looking it up, so the check tells it.
  rcases bind_eq_error.1 h with h | ⟨address, hlocate, h⟩
  · exact absurd h locate_ne_violation
  rcases bind_eq_error.1 h with h | ⟨definition, hlookUp, h⟩
  · obtain ⟨error, -, herror⟩ := mapError_eq_error.1 h
    cases herror
  obtain ⟨names, part, hpath, hfault⟩ := firstFault_of_checkValue h
  have hparse := Address.locate_eq_ok.1 hlocate
  have hbase : IsReferencePart address.document :=
    (Address.isProper_of_parse (by simp) hparse).document
  have hlabel : definition.rootLabel ≠ "" := by
    cases definition <;> simp [Descriptor.rootLabel]
  -- The label is not empty, so there is a slash in front of every name.
  rw [Path.foldl_child hlabel] at hpath
  exact ⟨address, definition, names, part, hparse, lookUp_eq_ok.1 hlookUp, hpath, hfault.leads,
    hfault.holdsOf hbase, hfault⟩

/-- Orders of several lines, each with a price. -/
def orders : Registry where
  documents := [
    { Document.empty "com.example.order" with definitions := [
        ("main", .record none (some "tid") {
          description := none
          properties := [
            ("note", .string none none { maxLength := some 20 }),
            ("lines", .array none (.ref none "#line") {})]
          required := ["lines"]
          nullable := [] }),
        ("line", .object {
          description := none
          properties := [
            ("name", .string none none {}),
            ("price", .integer none { minimum := some 0 })]
          required := ["price"]
          nullable := [] })] }]

/-- An order whose second line has a negative price, and whose third one has no price. -/
def refund : Value :=
  .object [("lines", .array [
    .object [("name", .string "pen"), ("price", .integer 3)],
    .object [("name", .string "ink"), ("price", .integer (-5))],
    .object [("name", .string "paper")]])]

/-- The price is told, and not the missing one behind it; the lines leave no trace in the path. -/
theorem validate_reports_first_fault_refund :
    orders.validate "com.example.order" refund =
        .error (.violation "Record/lines/price" (.belowMinimum 0)) ∧
      ∃ definition names part,
        "Record/lines/price" = String.intercalate "/" (Descriptor.rootLabel definition :: names) ∧
        refund.Leads names part ∧ (Violation.belowMinimum 0).HoldsOf part := by
  have hreported : orders.validate "com.example.order" refund =
      .error (.violation "Record/lines/price" (.belowMinimum 0)) := by cbv
  obtain ⟨_, definition, names, part, -, -, hpath, hleads, hholds, -⟩ :=
    validate_reports_first_fault hreported
  exact ⟨hreported, definition, names, part, hpath, hleads, hholds⟩

end Registry

end Lexicon
