import Lexicon.Assoc
import Mathlib.Data.List.Nodup

namespace Lexicon.Assoc

/-!
# Look-up and entries

* `mem_keys_iff`, `hasKey_iff` — a key is there iff look-up finds something;
* `lookup_eq_some_iff_mem` — where keys differ from each other, look-up finds exactly the entries,
  so that the order of the entries does not matter (`lookup_eq_of_perm`);
* `lookup_map` — what look-up finds among changed values;
* `insert_append_of_not_mem`, `insert_eq_self`, `mem_of_mem_insert`, `nodup_keys_insert` — what is
  there after an insertion.
-/

variable {α : Type} {entries : List (String × α)} {key : String} {value : α}

@[simp] theorem keys_nil : keys ([] : List (String × α)) = [] := rfl

@[simp] theorem keys_cons (key : String) (value : α) (rest : List (String × α)) :
    keys ((key, value) :: rest) = key :: keys rest := rfl

@[simp] theorem keys_append (first second : List (String × α)) :
    keys (first ++ second) = keys first ++ keys second :=
  List.map_append

/-- The keys are those for which a lookup finds something. -/
theorem mem_keys_iff : key ∈ keys entries ↔ ∃ value, entries.lookup key = some value := by
  induction entries with
  | nil => simp
  | cons entry rest ih =>
    obtain ⟨k, v⟩ := entry
    rw [lookup_cons, keys_cons, List.mem_cons, ih]
    by_cases h : key = k <;> simp [h]

theorem lookup_eq_none_iff : entries.lookup key = none ↔ key ∉ keys entries := by
  rw [mem_keys_iff]
  cases entries.lookup key <;> simp

/-- Values that are changed one by one are found under the same keys. -/
theorem lookup_map {β : Type} (change : α → β) (entries : List (String × α)) (key : String) :
    (entries.map fun entry => (entry.1, change entry.2)).lookup key =
      (entries.lookup key).map change := by
  induction entries with
  | nil => rfl
  | cons entry rest ih =>
    obtain ⟨k, v⟩ := entry
    rw [List.map_cons, lookup_cons, lookup_cons, ih]
    split <;> rfl

/-- A key that is none of the names is not found where all keys are names. -/
theorem lookup_eq_none_of_subset {names : List String} (h : keys entries ⊆ names)
    (hkey : key ∉ names) : entries.lookup key = none :=
  lookup_eq_none_iff.2 fun hmem => hkey (h hmem)

theorem hasKey_iff : hasKey entries key = true ↔ key ∈ keys entries := by
  rw [hasKey, Option.isSome_iff_exists, mem_keys_iff]

/-- Where keys differ from each other, look-up finds exactly the entries. -/
theorem lookup_eq_some_iff_mem (hkeys : (keys entries).Nodup) :
    entries.lookup key = some value ↔ (key, value) ∈ entries := by
  refine ⟨mem_of_lookup, fun hmem => ?_⟩
  induction entries with
  | nil => cases hmem
  | cons entry rest ih =>
    obtain ⟨k, v⟩ := entry
    obtain ⟨hk, hrest⟩ := List.nodup_cons.1 hkeys
    rw [lookup_cons]
    rcases List.mem_cons.1 hmem with heq | htail
    · cases heq
      rw [if_pos rfl]
    · rw [if_neg, ih hrest htail]
      rintro rfl
      exact hk (List.mem_map.2 ⟨_, htail, rfl⟩)

/-- The order of entries whose keys differ from each other does not matter. -/
theorem lookup_eq_of_perm {entries' : List (String × α)} (hperm : entries.Perm entries')
    (hkeys : (keys entries').Nodup) (key : String) :
    entries.lookup key = entries'.lookup key := by
  have hkeys' : (keys entries).Nodup := (hperm.map Prod.fst).nodup_iff.2 hkeys
  ext value
  rw [lookup_eq_some_iff_mem hkeys, lookup_eq_some_iff_mem hkeys', hperm.mem_iff]

/-! ### Insertion -/

/-- A new key gets behind entries that do not have it. -/
theorem insert_append_of_not_mem (h : key ∉ keys entries) (rest : List (String × α)) :
    insert (entries ++ rest) key value = entries ++ insert rest key value := by
  induction entries with
  | nil => rfl
  | cons entry entries ih =>
    obtain ⟨k, v⟩ := entry
    obtain ⟨hne, hrest⟩ := not_or.1 (mt List.mem_cons.2 h)
    rw [List.cons_append, insert, if_neg hne, ih hrest, List.cons_append]

/-- To set a key to the value that it has changes nothing. -/
theorem insert_eq_self (h : entries.lookup key = some value) :
    insert entries key value = entries := by
  induction entries with
  | nil => cases h
  | cons entry rest ih =>
    obtain ⟨k, v⟩ := entry
    rw [lookup_cons] at h
    rw [insert]
    split at h
    · rename_i hkey
      cases h
      rw [if_pos hkey, hkey]
    · rename_i hkey
      rw [if_neg hkey, ih h]

/-- After an insertion there is no entry but the new one and the old ones. -/
theorem mem_of_mem_insert {entry : String × α} (h : entry ∈ insert entries key value) :
    entry = (key, value) ∨ entry ∈ entries := by
  induction entries with
  | nil => exact .inl (List.mem_singleton.1 h)
  | cons head rest ih =>
    obtain ⟨k, v⟩ := head
    rw [insert] at h
    split at h
    · exact (List.mem_cons.1 h).imp_right (List.mem_cons_of_mem _)
    · rcases List.mem_cons.1 h with rfl | h
      · exact .inr List.mem_cons_self
      · exact (ih h).imp_right (List.mem_cons_of_mem _)

/-- Setting a value adds its key to the keys, and no other. -/
theorem mem_keys_insert {other : String} :
    other ∈ keys (insert entries key value) ↔ other = key ∨ other ∈ keys entries := by
  by_cases h : key ∈ keys entries
  · rw [keys_insert_of_mem h]
    exact ⟨.inr, fun hother => hother.elim (· ▸ h) id⟩
  · rw [keys_insert_of_not_mem h, List.mem_append, List.mem_singleton, or_comm]

/-- Setting a value makes no key appear twice. -/
theorem nodup_keys_insert (h : (keys entries).Nodup) : (keys (insert entries key value)).Nodup := by
  by_cases hkey : key ∈ keys entries
  · rw [keys_insert_of_mem hkey]
    exact h
  · rw [keys_insert_of_not_mem hkey]
    exact List.nodup_append_comm.1 (List.nodup_cons.2 ⟨hkey, h⟩)

end Lexicon.Assoc
