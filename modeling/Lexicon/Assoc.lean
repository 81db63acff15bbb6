namespace Lexicon.Assoc

/-!
# Association lists in insertion order

Objects, property maps and documents hold their entries in the order in which the keys first
appeared.  `List.lookup` reads such a list; here is the operation that writes it.

* `keys`, `hasKey` — the keys in order, and membership among them;
* `insert` — a new key goes to the end, a known key keeps its place;
* `mem_of_lookup` — what a look-up finds is an entry.
-/

variable {α : Type}

/-- The keys of the entries, in order. -/
def keys (entries : List (String × α)) : List String :=
  entries.map Prod.fst

/-- Whether some entry has the key. -/
def hasKey (entries : List (String × α)) (key : String) : Bool :=
  (entries.lookup key).isSome

/-- The entries with `key` set to `value`: in place if the key is there, and at the end if not. -/
def insert (entries : List (String × α)) (key : String) (value : α) : List (String × α) :=
  match entries with
  | [] => [(key, value)]
  | (k, v) :: rest => if key = k then (key, value) :: rest else (k, v) :: insert rest key value

/-! ### Laws of look-up -/

/-- A lookup reads the entries in order: the first of the key decides. -/
theorem lookup_cons (key k : String) (v : α) (rest : List (String × α)) :
    ((k, v) :: rest).lookup key = if key = k then some v else rest.lookup key := by
  by_cases h : key = k
  · simp [h]
  · have : (key == k) = false := by simpa using h
    simp [List.lookup_cons, this, h]

/-- What a lookup finds is an entry. -/
theorem mem_of_lookup {key : String} {value : α} {entries : List (String × α)}
    (h : entries.lookup key = some value) : (key, value) ∈ entries := by
  induction entries with
  | nil => simp at h
  | cons entry rest ih =>
    obtain ⟨k, v⟩ := entry
    rw [lookup_cons] at h
    split at h
    · simp_all
    · exact List.mem_cons_of_mem _ (ih h)

/-- A value that is set is found. -/
theorem lookup_insert_self (entries : List (String × α)) (key : String) (value : α) :
    (insert entries key value).lookup key = some value := by
  induction entries with
  | nil => simp [insert]
  | cons entry rest ih =>
    obtain ⟨k, v⟩ := entry
    by_cases h : key = k
    · simp [insert, h]
    · simp [insert, h, lookup_cons, ih]

/-- Setting a value leaves what the other keys hold as it is. -/
theorem lookup_insert_of_ne {key other : String} (hne : other ≠ key)
    (entries : List (String × α)) (value : α) :
    (insert entries key value).lookup other = entries.lookup other := by
  induction entries with
  | nil => simp [insert, lookup_cons, hne]
  | cons entry rest ih =>
    obtain ⟨k, v⟩ := entry
    by_cases h : key = k
    · simp [insert, ← h, lookup_cons, hne]
    · simp [insert, h, lookup_cons, ih]

/-- A key that is there already keeps its place when its value is set. -/
theorem keys_insert_of_mem {key : String} {entries : List (String × α)} (h : key ∈ keys entries)
    (value : α) : keys (insert entries key value) = keys entries := by
  induction entries with
  | nil => simp [keys] at h
  | cons entry rest ih =>
    obtain ⟨k, v⟩ := entry
    by_cases hk : key = k
    · simp [insert, keys, hk]
    · simp only [keys, List.map_cons, List.mem_cons, hk, false_or] at h
      simp only [insert, hk, if_false, keys, List.map_cons]
      exact congrArg _ (ih h)

/-- A new key comes last. -/
theorem keys_insert_of_not_mem {key : String} {entries : List (String × α)}
    (h : key ∉ keys entries) (value : α) :
    keys (insert entries key value) = keys entries ++ [key] := by
  induction entries with
  | nil => rfl
  | cons entry rest ih =>
    obtain ⟨k, v⟩ := entry
    simp only [keys, List.map_cons, List.mem_cons, not_or] at h
    simp only [insert, h.1, if_false, keys, List.map_cons, List.cons_append]
    exact congrArg _ (ih h.2)

end Lexicon.Assoc
