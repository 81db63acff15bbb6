import Lexicon.Proofs.Conformance.Rearranged
import Lexicon.Proofs.Registry.Counterparts
import Mathlib

namespace Lexicon

open Lexicon.Outcome

/-!
# Schemas in another order accept the same values

The order of a schema decides which violation is told, and never whether there is one.

* `Descriptor.Rearranged.counterparts` — the parts of rearranged definitions are rearranged;
* `meetCounterparts_rearranged` — a reference leads to rearranged definitions in two registries that
  are rearranged;
* `rearranging_keeps_acceptance` — two registries that are rearranged accept the same values in
  every way in.
-/

/-- What rearranged definitions describe is rearranged. -/
theorem Descriptor.Rearranged.described {definition definition' : Descriptor}
    (h : definition.Rearranged definition') :
    definition.described.Rearranged definition'.described := by
  have hsame := h
  cases h with
  | record hschema => exact .object hschema
  | _ => exact hsame

/-- Rearranged definitions are of one kind, and so under one label. -/
theorem Descriptor.Rearranged.rootLabel_eq {definition definition' : Descriptor}
    (h : definition.Rearranged definition') : definition.rootLabel = definition'.rootLabel := by
  cases h <;> rfl

/-- The schemas of rearranged bodies are rearranged, if they have any. -/
theorem Body.Rearranged.schema {body body' : Option Body} (h : Option.Rel Body.Rearranged body body') :
    Option.Rel Descriptor.Rearranged (body.bind Body.schema) (body'.bind Body.schema) := by
  cases h with
  | none => exact .none
  | some hbody =>
    obtain ⟨hschema⟩ := hbody
    exact hschema

/-- Rearranged definitions have rearranged parts, each of them for the same role. -/
theorem Descriptor.Rearranged.counterparts {definition definition' : Descriptor}
    (h : definition.Rearranged definition') :
    Counterparts Descriptor.Rearranged ParamsSchema.Rearranged definition definition' := by
  refine ⟨h.described, h.rootLabel_eq, ?_, ?_, ?_, ?_⟩
  · cases h with
    | record hschema => exact .some (.object hschema)
    | _ => exact .none
  · cases h with
    | query hparameters _ | procedure hparameters _ _ => exact .some hparameters
    | _ => exact .none
  · cases h with
    | procedure _ hinput _ => exact .some (Body.Rearranged.schema hinput)
    | _ => exact .none
  · cases h with
    | query _ houtput | procedure _ _ houtput => exact .some (Body.Rearranged.schema houtput)
    | _ => exact .none

namespace Registry

variable {registry registry' : Registry}

/-- Rearranged registries meet rearranged definitions.  What counts of an outcome is whether it is a
    success. -/
theorem meetCounterparts_rearranged (h : registry.Rearranged registry') :
    MeetCounterparts (fun verdict verdict' : Verdict => verdict = .ok () ↔ verdict' = .ok ())
      (fun _ => Descriptor.Rearranged) (fun _ => ParamsSchema.Rearranged) registry registry' := by
  refine .of_related (fun _ => Iff.rfl) fun address _ => ?_
  have hlookUp := lookUp_rearranged h address
  generalize registry.lookUp address = found at hlookUp ⊢
  generalize registry'.lookUp address = found' at hlookUp ⊢
  cases hlookUp with
  | ok hdefinition => exact .ok hdefinition.counterparts
  | error failure => exact .error failure

/-- **The order of a schema does not decide what is accepted.**  Take two registries that differ in
    the order of definitions, of properties, of required and nullable names, of the members of
    unions, and of the choices of strings, integers and blobs, in any documents and at any depth; in
    lists of names, members and choices the same one may also be given again.  Then every way in
    accepts a value in the one registry iff it does in the other. -/
theorem rearranging_keeps_acceptance (h : registry.Rearranged registry') (reference : String)
    (value : Value) :
    (registry.validate reference value = .ok () ↔ registry'.validate reference value = .ok ()) ∧
    (registry.validateRecord reference value = .ok () ↔
      registry'.validateRecord reference value = .ok ()) ∧
    (registry.validateParams reference value = .ok () ↔
      registry'.validateParams reference value = .ok ()) ∧
    (registry.validateInput reference value = .ok () ↔
      registry'.validateInput reference value = .ok ()) ∧
    (registry.validateOutput reference value = .ok () ↔
      registry'.validateOutput reference value = .ok ()) := by
  have hvalue : ∀ document schema schema' value path, Descriptor.Rearranged schema schema' →
      (registry.checkValue document schema value path 0 = .ok () ↔
        registry'.checkValue document schema' value path 0 = .ok ()) :=
    fun _ _ _ _ _ hschema => checkValue_rearranged h hschema
  have hparams : ∀ document schema schema' value label, ParamsSchema.Rearranged schema schema' →
      (registry.checkParams document schema value label = .ok () ↔
        registry'.checkParams document schema' value label = .ok ()) :=
    fun _ _ _ _ _ hschema => checkParams_rearranged h hschema
  -- Each way in meets rearranged definitions, and accepts the same with them.
  have hchecks := meetCounterparts_rearranged h
  exact ⟨hchecks.validate hvalue reference value, hchecks.validateRecord hvalue reference value,
    hchecks.validateParams hparams reference value, hchecks.validateInput hvalue reference value,
    hchecks.validateOutput hvalue reference value⟩

/-- A dish of a menu: a course, stars, a photo and something on the side. -/
def dish : ObjectSchema where
  description := none
  properties := [
    ("course", .string none none { allowed := some ["starter", "main"] }),
    ("stars", .integer none { allowed := some [1, 2, 3] }),
    ("photo", .blob none { accept := some ["image/png", "image/gif"] }),
    ("side", .union none ["#bread", "#salad"] (some true))]
  required := ["course", "photo"]
  nullable := ["stars", "side"]

/-- The same dish with everything in another order, and some of it twice. -/
def dishBackwards : ObjectSchema where
  description := none
  properties := [
    ("side", .union none ["#salad", "#bread", "#salad"] (some true)),
    ("photo", .blob none { accept := some ["image/gif", "image/png", "image/gif"] }),
    ("stars", .integer none { allowed := some [3, 2, 1, 3] }),
    ("course", .string none none { allowed := some ["main", "starter"] })]
  required := ["photo", "course", "photo"]
  nullable := ["side", "stars"]

/-- A menu with a bread and a salad on it. -/
def menu : Registry where
  documents := [
    { Document.empty "com.example.menu" with definitions := [
        ("main", .record none (some "tid") dish),
        ("bread", .object ⟨none, [("slices", .integer none {})], [], []⟩),
        ("salad", .object ⟨none, [], [], []⟩)] }]

/-- The menu read from the end. -/
def menuBackwards : Registry where
  documents := [
    { Document.empty "com.example.menu" with definitions := [
        ("salad", .object ⟨none, [], [], []⟩),
        ("bread", .object ⟨none, [("slices", .integer none {})], [], []⟩),
        ("main", .record none (some "tid") dishBackwards)] }]

/-- A soup with the given fields besides a photo and bread. -/
def soup (course : String) (stars : Int64) : Value :=
  .object [
    ("$type", .string "com.example.menu"), ("course", .string course), ("stars", .integer stars),
    ("photo", .object [("$type", .string "blob"), ("ref", .link "bafkreib"),
      ("mimeType", .string "image/gif"), ("size", .integer 12)]),
    ("side", .object [("$type", .string "com.example.menu#bread"), ("slices", .integer 2)])]

/-- The same dish, with its properties and its lists in another order. -/
theorem dish_rearranged : dish.Rearranged dishBackwards := by
  have hmembers {α : Type} (a b : α) : SameMembers [a, b] [b, a, b] := by
    intro c
    simp only [List.mem_cons, List.not_mem_nil]
    tauto
  have hstars : SameMembers [(1 : Int64), 2, 3] [3, 2, 1, 3] := by
    intro c
    simp only [List.mem_cons, List.not_mem_nil]
    tauto
  refine .mk (.mk ?_ (List.reverse_perm dishBackwards.properties)) (hmembers _ _)
    (.of_perm (.swap _ _ _))
  refine .cons (.mk (.string ⟨_, .some (.of_perm (.swap _ _ _)), rfl⟩)) ?_
  refine .cons (.mk (.integer ⟨_, .some hstars, rfl⟩)) ?_
  refine .cons (.mk (.blob ⟨_, .some (hmembers _ _), rfl⟩)) ?_
  exact .cons (.mk (.union (hmembers _ _))) .nil

theorem menu_rearranged : menu.Rearranged menuBackwards := by
  refine ⟨rfl, .cons (.mk (by decide) (.mk ?_ (List.reverse_perm _))) .nil⟩
  exact .cons (.mk (.record dish_rearranged)) (.cons (.mk (.refl _)) (.cons (.mk (.refl _)) .nil))

/-- A soup with two faults is on neither menu, but what is told about it differs; one without any is
    on both. -/
theorem rearranging_keeps_acceptance_menu :
    menu.Rearranged menuBackwards ∧
      menu.validateRecord "com.example.menu" (soup "starter" 3) = .ok () ∧
      menuBackwards.validateRecord "com.example.menu" (soup "starter" 3) = .ok () ∧
      menu.validateRecord "com.example.menu" (soup "dessert" 4) =
        .error (.violation "Record/course" (.notInEnum ["starter", "main"])) ∧
      menuBackwards.validateRecord "com.example.menu" (soup "dessert" 4) =
        .error (.violation "Record/stars" (.notInEnum ["3", "2", "1", "3"])) := by
  have hsame := rearranging_keeps_acceptance menu_rearranged "com.example.menu"
    (soup "starter" 3)
  have hsoup : menu.validateRecord "com.example.menu" (soup "starter" 3) = .ok () := by cbv
  exact ⟨menu_rearranged, hsoup, hsame.2.1.1 hsoup, by cbv, by cbv⟩

end Registry

end Lexicon
