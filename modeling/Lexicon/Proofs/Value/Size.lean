import Lexicon.Proofs.Assoc
import Lexicon.Value
import Mathlib

namespace Lexicon

/-!
# The size of a value

* `Value.nodes` — how many values there are in a value, itself included;
* `Value.objects` — how many objects are reached in it through properties alone, itself included;
  `Value.objectFields` counts those that are properties;
* `Assoc.sum_lookup_le` — what is found under different names is not more than all there is.
-/

namespace Assoc

variable {α : Type} (weight : α → Nat) {names : List String}

/-- One more entry is found under one name at most. -/
theorem sum_lookup_cons_le (hnames : names.Nodup) (key : String) (value : α)
    (rest : List (String × α)) :
    (names.map fun name => ((((key, value) :: rest).lookup name).map weight).getD 0).sum ≤
      weight value + (names.map fun name => ((rest.lookup name).map weight).getD 0).sum := by
  induction names with
  | nil => simp
  | cons name names ih =>
    obtain ⟨hname, hnames⟩ := List.nodup_cons.1 hnames
    have htail := ih hnames
    rw [List.map_cons, List.sum_cons, List.map_cons, List.sum_cons, lookup_cons]
    -- No later name is the key again, so the value is counted once.
    by_cases hkey : name = key
    · have hothers : (names.map fun name =>
          ((((key, value) :: rest).lookup name).map weight).getD 0) =
          names.map fun name => ((rest.lookup name).map weight).getD 0 := by
        refine List.map_congr_left fun other hother => ?_
        rw [lookup_cons, if_neg]
        rintro rfl
        exact hname (hkey ▸ hother)
      rw [hothers, if_pos hkey, Option.map_some, Option.getD_some]
      omega
    · rw [if_neg hkey]
      omega

/-- What is found under names that differ from each other weighs at most as much as all entries. -/
theorem sum_lookup_le (hnames : names.Nodup) (entries : List (String × α)) :
    (names.map fun name => ((entries.lookup name).map weight).getD 0).sum ≤
      (entries.map fun entry => weight entry.2).sum := by
  induction entries with
  | nil => simp
  | cons entry rest ih =>
    obtain ⟨key, value⟩ := entry
    rw [List.map_cons, List.sum_cons]
    exact (sum_lookup_cons_le weight hnames key value rest).trans (Nat.add_le_add_left ih _)

end Assoc

namespace Value

mutual

/-- The number of values in a value, itself included. -/
def nodes : Value → Nat
  | array items => nodesOfItems items + 1
  | object fields => nodesOfFields fields + 1
  | null | boolean _ | integer _ | float _ | string _ | bytes _ | link _ => 1

/-- The number of values in the items of an array. -/
def nodesOfItems : List Value → Nat
  | [] => 0
  | item :: rest => item.nodes + nodesOfItems rest

/-- The number of values in the entries of an object. -/
def nodesOfFields : List (String × Value) → Nat
  | [] => 0
  | (_, field) :: rest => field.nodes + nodesOfFields rest

end

mutual

/-- The number of objects that are reached in a value through properties alone, itself included. -/
def objects : Value → Nat
  | object fields => objectsOfFields fields + 1
  | null | boolean _ | integer _ | float _ | string _ | bytes _ | link _ | array _ => 0

/-- The number of objects that are reached in the entries of an object. -/
def objectsOfFields : List (String × Value) → Nat
  | [] => 0
  | (_, field) :: rest => field.objects + objectsOfFields rest

end

/-- The number of properties that are objects, and that are reached through such properties. -/
def objectFields : Value → Nat
  | object fields => objectsOfFields fields
  | _ => 0

/-- The nodes of fields are those of their values, taken together. -/
theorem nodesOfFields_eq_sum (fields : List (String × Value)) :
    nodesOfFields fields = (fields.map fun entry => entry.2.nodes).sum := by
  induction fields with
  | nil => rfl
  | cons entry rest ih => rw [nodesOfFields, ih, List.map_cons, List.sum_cons]

/-- The objects of fields are those of their values, taken together. -/
theorem objectsOfFields_eq_sum (fields : List (String × Value)) :
    objectsOfFields fields = (fields.map fun entry => entry.2.objects).sum := by
  induction fields with
  | nil => rfl
  | cons entry rest ih => rw [objectsOfFields, ih, List.map_cons, List.sum_cons]

theorem nodes_pos (value : Value) : 0 < value.nodes := by
  cases value <;> simp [nodes]

end Value

end Lexicon
