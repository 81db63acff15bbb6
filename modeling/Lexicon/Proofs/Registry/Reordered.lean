import Lexicon.Proofs.Conformance.Reordered
import Lexicon.Proofs.Defaults.Reordered
import Mathlib

namespace Lexicon.Registry

open Lexicon.Outcome

/-!
# Answers and the order of keys

* `checkObject_reordered`, `checkParams_reordered`, `checkBody_reordered` — the checks that the ways
  in start with have the same verdict on values that differ in the order of their keys;
* `answers_of_reordered` — so has every way in, and what is filled differs in the order of keys
  only.
-/

variable {registry : Registry} {base : String} {value value' : Value}

/-- An object is judged whatever the order of its entries. -/
theorem checkObject_reordered (h : value.Reordered value') (schema : ObjectSchema) (path : Path) :
    registry.checkObject base schema value path = registry.checkObject base schema value' path := by
  have hobject : registry.checkValue base (.object schema) value path 0 =
      registry.checkValue base (.object schema) value' path 0 :=
    checkValue_reordered h (.object schema) path 0
  rw [checkValue, checkValue] at hobject
  exact hobject

/-- Parameters are checked as properties, each of them by itself. -/
theorem checkParams_reordered (h : value.Reordered value') (schema : ParamsSchema) (label : Path) :
    registry.checkParams base schema value label =
      registry.checkParams base schema value' label := by
  rcases h.object_or_plain with ⟨fields, fields', rfl, rfl⟩ | ⟨hplain, hplain'⟩
  · rw [checkParams_eq, checkParams_eq, checkRequiredNames_reordered h]
    refine congrArg _ (funext fun _ => forM_congr fun property _ => ?_)
    exact checkProperty_reordered h fun field field' _ hrel =>
      checkValue_reordered hrel property.2 _ 0
  · rw [checkParams_of_plain hplain, checkParams_of_plain hplain']

/-- A body is judged whatever the order of its entries. -/
theorem checkBody_reordered (h : value.Reordered value') (address : Address) (body : Option Body)
    (label : Path) :
    registry.checkBody address body value label = registry.checkBody address body value' label := by
  unfold checkBody
  cases body.bind Body.schema with
  | none => rfl
  | some schema => exact checkValue_reordered h schema label 0

/-- A record names its collection at a key, wherever that stands. -/
theorem validateRecord_reordered (h : value.Reordered value') (reference : String) :
    registry.validateRecord reference value = registry.validateRecord reference value' := by
  rcases h.object_or_plain with ⟨fields, fields', rfl, rfl⟩ | ⟨hplain, hplain'⟩
  · unfold validateRecord
    refine congrArg _ (funext fun found => ?_)
    obtain ⟨address, schema⟩ := found
    dsimp only
    rw [h.bind_string?_eq, checkObject_reordered h]
  · rw [validateRecord_of_plain hplain, validateRecord_of_plain hplain']

/-- Parameters are judged whatever their order. -/
theorem validateParams_reordered (h : value.Reordered value') (reference : String) :
    registry.validateParams reference value = registry.validateParams reference value' := by
  unfold validateParams
  refine congrArg _ (funext fun found => ?_)
  obtain ⟨address, parameters⟩ := found
  cases parameters with
  | none => rfl
  | some schema => exact checkParams_reordered h schema "Params"

/-- Parameters are filled to the same in another order, or fail in the same way. -/
theorem fillParams_reordered (h : value.Reordered value') (reference : String) :
    Related Value.Reordered (registry.fillParams reference value)
      (registry.fillParams reference value') := by
  unfold fillParams
  cases registry.parametersAt reference with
  | error failure => exact .error failure
  | ok found =>
    obtain ⟨address, parameters⟩ := found
    cases parameters with
    | none => exact .ok h
    | some schema => exact fill_reordered h address.document schema.properties "Params"

/-- Records are filled to the same in another order, or fail in the same way. -/
theorem fillRecord_reordered (h : value.Reordered value') (reference : String) :
    Related Value.Reordered (registry.fillRecord reference value)
      (registry.fillRecord reference value') := by
  unfold fillRecord
  cases registry.recordAt reference with
  | error failure => exact .error failure
  | ok found => exact fill_reordered h found.1.document found.2.properties "Record"

/-- **The order of keys does not matter.**  Two values that differ in the order of the keys of
    objects only, at any depth, have the same verdict in every way in: both pass, or both fail with
    the same failure, path and all.  And both fail to be filled alike, or what they are filled to
    differs in the order of keys only. -/
theorem answers_of_reordered (registry : Registry) (reference : String)
    (h : value.Reordered value') :
    registry.validate reference value = registry.validate reference value' ∧
    registry.validateRecord reference value = registry.validateRecord reference value' ∧
    registry.validateParams reference value = registry.validateParams reference value' ∧
    registry.validateInput reference value = registry.validateInput reference value' ∧
    registry.validateOutput reference value = registry.validateOutput reference value' ∧
    Related Value.Reordered (registry.fillRecord reference value)
      (registry.fillRecord reference value') ∧
    Related Value.Reordered (registry.fillParams reference value)
      (registry.fillParams reference value') := by
  refine ⟨?_, validateRecord_reordered h reference, validateParams_reordered h reference, ?_, ?_,
    fillRecord_reordered h reference, fillParams_reordered h reference⟩
  · simp only [validate_eq, checkValue_reordered h]
  · unfold validateInput
    simp only [checkBody_reordered h]
  · unfold validateOutput
    simp only [checkBody_reordered h]

/-- Posts with a picture and with what they are about. -/
def posts : Registry where
  documents := [
    { Document.empty "com.example.post" with definitions := [
        ("main", .record none (some "tid") {
          description := none
          properties := [
            ("language", .string none none { default := some "en" }),
            ("picture", .blob none { maxSize := some 100 }),
            ("about", .union none ["#place"] none)]
          required := ["picture"]
          nullable := [] }),
        ("place", .object {
          description := none
          properties := [
            ("name", .string none none {}),
            ("height", .integer none { minimum := some 0 })]
          required := ["name"]
          nullable := [] })] }]

/-- What a picture holds. -/
def photo : List (String × Value) :=
  [("$type", .string "blob"), ("ref", .link "bafkreib"), ("mimeType", .string "image/png"),
    ("size", .integer 12)]

/-- A place with a number for its name, below the sea. -/
def seabed : List (String × Value) :=
  [("$type", .string "com.example.post#place"), ("name", .integer 5), ("height", .integer (-1))]

/-- A post with a picture of a place. -/
def harbour : Value :=
  .object [("$type", .string "com.example.post"), ("picture", .object photo),
    ("about", .object seabed)]

/-- The same post with all keys in reverse order, at both depths. -/
def harbourReversed : Value :=
  .object [("about", .object seabed.reverse), ("picture", .object photo.reverse),
    ("$type", .string "com.example.post")]

/-- The same harbour, with its entries in another order at every depth. -/
theorem harbour_reordered : harbour.Reordered harbourReversed := by
  have hreverse (fields : List (String × Value)) (hkeys : (Assoc.keys fields).Nodup) :
      (Value.object fields).Reordered (.object fields.reverse) := by
    refine (Value.Reordered.object_iff_perm hkeys).2 ⟨fields, ?_, (List.reverse_perm _).symm⟩
    exact List.forall₂_same.2 fun _ _ => ⟨rfl, .same⟩
  have hphoto := hreverse photo (by decide)
  have hseabed := hreverse seabed (by decide)
  refine (Value.Reordered.object_iff_perm (by decide)).2 ⟨_, ?_, List.reverse_perm _⟩
  exact .cons ⟨rfl, .same⟩ (.cons ⟨rfl, hphoto⟩ (.cons ⟨rfl, hseabed⟩ .nil))

/-- The name comes before the height in the schema, so it is what is told about both posts. -/
theorem answers_of_reordered_harbour :
    harbour.Reordered harbourReversed ∧
      posts.validateRecord "com.example.post" harbour =
        .error (.violation "Record/about/name" .notString) ∧
      posts.validateRecord "com.example.post" harbourReversed =
        .error (.violation "Record/about/name" .notString) ∧
      Related Value.Reordered (posts.fillRecord "com.example.post" harbour)
        (posts.fillRecord "com.example.post" harbourReversed) := by
  have hrecord : posts.validateRecord "com.example.post" harbour =
      .error (.violation "Record/about/name" .notString) := by cbv
  obtain ⟨-, hsame, -, -, -, hfilled, -⟩ :=
    answers_of_reordered posts "com.example.post" harbour_reordered
  exact ⟨harbour_reordered, hrecord, hsame ▸ hrecord, hfilled⟩

end Lexicon.Registry
