import Lexicon.Proofs.Conformance.Typing
import Lexicon.Proofs.Registry.Agreement
import Mathlib

namespace Lexicon.Registry

open Lexicon.Outcome

/-!
# Registries with a higher limit on hops

The limit keeps references that lead to each other from being followed for ever.  It decides when to
give up, and nothing else: a check or a filling that did not give up has the same outcome under
every higher limit, and so has one that starts with fewer hops made.

* `lookUp_of_documents_eq` — definitions are found in the documents, whatever the limit is;
* `leavesRoom_of_le` — a higher limit, or a lower count, leaves room;
* `higher_limit_keeps_answers` — no outcome changes but that of giving up.
-/

variable {registry registry' : Registry}

/-- Definitions are found in the documents, whatever the limit is. -/
theorem lookUp_of_documents_eq (h : registry'.documents = registry.documents) (address : Address) :
    registry'.lookUp address = registry.lookUp address := by
  unfold lookUp resolve find?
  rw [h]

/-- A higher limit leaves room for all hops that a lower one allows, and so does a lower count. -/
theorem leavesRoom_of_le {hops hops' : Nat}
    (hmax : registry.settings.maxHops ≤ registry'.settings.maxHops) (hhops : hops' ≤ hops) :
    LeavesRoom (GivesUp registry.settings.maxHops) registry registry' hops hops' :=
  .inr ⟨hmax, hhops, fun path => ⟨path, rfl⟩⟩

/-- **A higher limit changes no settled answer.**  Take two registries with the same documents, the
    second one with the same limit on hops or a higher one.  A check that has made some hops, or a
    walk along references that has, comes out the same in the second registry after as many hops or
    fewer, value or failure, path and all, unless it gave up at the limit of the first one.  The same
    goes for all answers of the registries. -/
theorem higher_limit_keeps_answers (registry registry' : Registry)
    (hdocuments : registry'.documents = registry.documents)
    (hmax : registry.settings.maxHops ≤ registry'.settings.maxHops) :
    (∀ base descriptor value path hops hops', hops' ≤ hops →
      Agree (GivesUp registry.settings.maxHops)
        (registry.checkValue base descriptor value path hops)
        (registry'.checkValue base descriptor value path hops')) ∧
    (∀ base descriptor path hops hops', hops' ≤ hops →
      Agree (GivesUp registry.settings.maxHops)
        (registry.followRefs base descriptor path hops)
        (registry'.followRefs base descriptor path hops')) ∧
    AnswersAgree (GivesUp registry.settings.maxHops) registry registry' := by
  have hlookUp (address : Address) : Agree (GivesUp registry.settings.maxHops)
      (registry.lookUp address) (registry'.lookUp address) :=
    .inl (lookUp_of_documents_eq hdocuments address).symm
  refine ⟨fun base descriptor value path hops hops' hle => ?_,
    fun base descriptor path hops hops' hle => ?_, ?_⟩
  · exact checkValue_agree hlookUp (leavesRoom_of_le hmax hle) base descriptor value path
  · exact followRefs_agree hlookUp (leavesRoom_of_le hmax hle) base descriptor path
  · exact answersAgree hlookUp (leavesRoom_of_le hmax le_rfl)

/-- Stairs, each flight of which is two references away from a floor, and three from the flight
    above. -/
def stairs (max : Nat) : Registry where
  documents := [
    { Document.empty "com.example.stairs" with definitions := [
        ("main", .record none (some "tid") {
          description := none
          properties := [("down", .ref none "#flight")]
          required := []
          nullable := [] }),
        ("flight", .ref none "#landing"),
        ("landing", .ref none "#floor"),
        ("floor", .object {
          description := none
          properties := [
            ("steps", .integer none { minimum := some 1, default := some 12 }),
            ("down", .ref none "#flight")]
          required := []
          nullable := [] })] }]
  settings := { maxHops := max }

/-- Two flights down, the second one without steps. -/
def descent : Value :=
  .object [("down", .object [("down", .object [("steps", .integer 0)])])]

/-- Three hops are enough to find the fault of the second flight, and five find the same one.  Two
    are not, and the checker gives up on the first flight.  One hop on, at the landing, two are left
    of three, and that is enough too. -/
theorem higher_limit_keeps_answers_stairs :
    (stairs 5).documents = (stairs 3).documents ∧
      (stairs 3).settings.maxHops ≤ (stairs 5).settings.maxHops ∧
      (stairs 3).validate "com.example.stairs" descent =
        .error (.violation "Record/down/down/steps" (.belowMinimum 1)) ∧
      (stairs 5).validate "com.example.stairs" descent =
        .error (.violation "Record/down/down/steps" (.belowMinimum 1)) ∧
      (∃ filled, (stairs 3).fillRecord "com.example.stairs" descent = .ok filled ∧
        (stairs 5).fillRecord "com.example.stairs" descent = .ok filled) ∧
      (stairs 2).validate "com.example.stairs" descent =
        .error (.resolution (.tooManyHops 2 "Record/down")) ∧
      0 ≤ 1 ∧
      (stairs 3).checkValue "com.example.stairs" (.ref none "#landing") (.object []) "" 1 = .ok () ∧
      (stairs 5).checkValue "com.example.stairs" (.ref none "#landing") (.object []) "" 0 = .ok () ∧
      ∃ floor, (stairs 3).followRefs "com.example.stairs" (.ref none "#landing") "" 1 = .ok floor ∧
        (stairs 5).followRefs "com.example.stairs" (.ref none "#landing") "" 0 = .ok floor := by
  have hmax : (stairs 3).settings.maxHops ≤ (stairs 5).settings.maxHops := by decide
  obtain ⟨hchecks, hwalks, hanswers⟩ :=
    higher_limit_keeps_answers (stairs 3) (stairs 5) rfl hmax
  have hfault : (stairs 3).validate "com.example.stairs" descent =
      .error (.violation "Record/down/down/steps" (.belowMinimum 1)) := by cbv
  have hfilled : (stairs 3).fillRecord "com.example.stairs" descent = .ok (.object [
      ("down", .object [
        ("down", .object [("steps", .integer 0)]),
        ("steps", .integer 12)])]) := by cbv
  have hcheck : (stairs 3).checkValue "com.example.stairs" (.ref none "#landing") (.object []) ""
      1 = .ok () := by cbv
  obtain ⟨floor, hwalk⟩ : ∃ floor,
      (stairs 3).followRefs "com.example.stairs" (.ref none "#landing") "" 1 = .ok floor :=
    exists_followRefs_of_checkValue hcheck ""
  have hsettled : ¬ GivesUp (stairs 3).settings.maxHops
      (.violation "Record/down/down/steps" (.belowMinimum 1)) := by
    rintro ⟨path, h⟩
    cases h
  exact ⟨rfl, hmax, hfault, (hanswers.validate _ _).eq_error hfault hsettled,
    ⟨_, hfilled, (hanswers.fillRecord _ _).eq_ok hfilled⟩, by cbv, Nat.zero_le 1,
    hcheck, (hchecks _ _ _ _ 1 0 (Nat.zero_le 1)).eq_ok hcheck,
    floor, hwalk, (hwalks _ _ _ 1 0 (Nat.zero_le 1)).eq_ok hwalk⟩

end Lexicon.Registry
