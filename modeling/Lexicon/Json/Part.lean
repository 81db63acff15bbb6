import Lexicon.Json.Field

namespace Lexicon.Json

/-!
# Parts of a JSON value

A reader that descends into a value ends because what it descends into is smaller.  Here the items
and entries of a value come with the proof of that.

* `Part` — a smaller value;
* `itemParts?`, `entryParts?`, `fieldParts?` — the items of an array, the entries of an object, and
  the fields of a record;
* `plain` — entries without the proofs;
* `requiredPart?`, `optionalPart?`, `defaultPart?` — reading a field that holds a deep value.
-/

/-- A value that is smaller than `whole`. -/
abbrev Part (whole : Json) := { part : Json // sizeOf part < sizeOf whole }

/-- The items of an array. -/
def itemParts? : (whole : Json) → Option (List (Part whole))
  | array items =>
    some (items.attach.map fun ⟨item, h⟩ => ⟨item, by
      have := List.sizeOf_lt_of_mem h
      simp only [array.sizeOf_spec]
      omega⟩)
  | _ => none

/-- The entries of an object. -/
def entryParts? : (whole : Json) → Option (List (String × Part whole))
  | object fields =>
    some (fields.attach.map fun ⟨(key, value), h⟩ => (key, ⟨value, by
      have := List.sizeOf_lt_of_mem h
      simp only [Prod.mk.sizeOf_spec] at this
      simp only [object.sizeOf_spec]
      omega⟩))
  | _ => none

/-- The fields of a record in either form, as `fieldsOf?` gives them. -/
def fieldParts? (names : List String) (mandatory : Nat) (whole : Json) :
    Option (List (String × Part whole)) :=
  match whole.itemParts? with
  | some items =>
    if mandatory ≤ items.length ∧ items.length ≤ names.length then some (names.zip items) else none
  | none => whole.entryParts?

/-- Entries without the proofs that their values are smaller. -/
def plain {whole : Json} (fields : List (String × Part whole)) : List (String × Json) :=
  fields.map fun (key, part) => (key, part.val)

variable {α : Type} {whole : Json}

/-- A field that has to be there. -/
def requiredPart? (decode : Part whole → Option α) (key : String)
    (fields : List (String × Part whole)) : Option α :=
  (fields.lookup key).bind decode

/-- A field that may be absent or null. -/
def optionalPart? (decode : Part whole → Option α) (key : String)
    (fields : List (String × Part whole)) : Option (Option α) :=
  match fields.lookup key with
  | none | some ⟨null, _⟩ => some none
  | some part => (decode part).map some

/-- A field that may be absent, but not null. -/
def defaultPart? (decode : Part whole → Option α) (default : α) (key : String)
    (fields : List (String × Part whole)) : Option α :=
  match fields.lookup key with
  | none => some default
  | some part => decode part

end Lexicon.Json
