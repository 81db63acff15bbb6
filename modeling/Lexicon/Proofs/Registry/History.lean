import Lexicon.Proofs.Descriptor.Canonical
import Lexicon.Proofs.Registry.Growth
import Mathlib

namespace Lexicon.Registry

open Lexicon.Outcome

/-!
# Registries over whole runs

A registry is filled by attempts to add documents, one after the other.  An attempt with an
identifier that is there already fails, and the run goes on with the registry as it was.

* `attempt`, `after`, `outcomes` — one attempt, and what a run of attempts leads to;
* `attempt_of_mem`, `attempt_of_not_mem` — all that one attempt can do;
* `Remembers` — what a registry is like after a run, with `Remembers.attempt` for one more attempt
  and `remembers_after` for a whole run;
* `ofDocuments_eq_ok` — a registry can be made of documents iff their identifiers differ;
* `SameAnswers` — two registries answer all questions alike, as they do if they find the same
  documents (`sameAnswers_of_find?_eq`);
* `registry_remembers_run` — all of this about every run.
-/

/-! ### First occurrences -/

/-- The last item of a list is an occurrence of its own iff it does not come earlier. -/
theorem eraseDups_append_singleton {α : Type} [BEq α] [LawfulBEq α] (list : List α) (a : α) :
    (list ++ [a]).eraseDups = list.eraseDups ++ if list.contains a then [] else [a] := by
  rw [List.eraseDups_append]
  cases h : list.contains a <;> simp_all [List.removeAll, List.eraseDups_cons]

/-! ### Attempts -/

/-- A registry without documents. -/
def empty (settings : Settings) : Registry := { settings }

/-- One attempt to add a document: its outcome, and the registry from then on. -/
def attempt (registry : Registry) (document : Document) : Except Failure Unit × Registry :=
  match registry.add document with
  | .ok larger => (.ok (), larger)
  | .error failure => (.error failure, registry)

/-- The registry after attempts to add some documents, one after the other. -/
def after (registry : Registry) (documents : List Document) : Registry :=
  documents.foldl (fun registry document => (registry.attempt document).2) registry

/-- The outcomes of attempts to add some documents, one after the other. -/
def outcomes (registry : Registry) : List Document → List (Except Failure Unit)
  | [] => []
  | document :: rest =>
    (registry.attempt document).1 :: outcomes (registry.attempt document).2 rest

variable {registry registry' : Registry} {settings : Settings} {document : Document}
  {documents : List Document} {id : String}

/-- The search fails for identifiers under which nothing is registered, and for no others. -/
theorem find?_eq_none_iff : registry.find? id = none ↔ id ∉ registry.ids := by
  rw [find?, List.find?_eq_none, ids, List.mem_map]
  simp

theorem ids_append (registry : Registry) (document : Document) :
    (registry.append document).ids = registry.ids ++ [document.id] :=
  List.map_append

/-- Adding succeeds with a new identifier only, and puts the document behind the others. -/
theorem add_eq_ok {larger : Registry} :
    registry.add document = .ok larger ↔
      document.id ∉ registry.ids ∧ larger = registry.append document := by
  rw [← find?_eq_none_iff]
  constructor
  · intro h
    cases hfound : registry.find? document.id with
    | none =>
      rw [exists_add_eq_ok hfound] at h
      exact ⟨rfl, (Except.ok.inj h).symm⟩
    | some found =>
      rw [add, hfound] at h
      cases h
  · rintro ⟨hnew, rfl⟩
    exact exists_add_eq_ok hnew

/-- An identifier that is there already makes an attempt fail, and nothing changes. -/
theorem attempt_of_mem (h : document.id ∈ registry.ids) :
    registry.attempt document = (.error (.alreadyRegistered document.id), registry) := by
  have hfound : (registry.find? document.id).isSome := by
    rw [Option.isSome_iff_ne_none]
    exact fun hnone => find?_eq_none_iff.1 hnone h
  rw [attempt, add, if_pos hfound]

/-- With a new identifier an attempt succeeds. -/
theorem attempt_of_not_mem (h : document.id ∉ registry.ids) :
    registry.attempt document = (.ok (), registry.append document) := by
  rw [attempt, add_eq_ok.2 ⟨h, rfl⟩]

/-- An attempt fails in one way only. -/
theorem mem_ids_of_attempt_eq_error {failure : Failure}
    (h : (registry.attempt document).1 = .error failure) : document.id ∈ registry.ids := by
  by_contra hnew
  rw [attempt_of_not_mem hnew] at h
  cases h

/-! ### Runs -/

/-- One more attempt is made in the registry after those before. -/
theorem after_append_singleton (registry : Registry) (documents : List Document)
    (document : Document) :
    registry.after (documents ++ [document]) = ((registry.after documents).attempt document).2 :=
  List.foldl_concat _ _ _ _

/-- One more attempt adds its outcome to those before. -/
theorem outcomes_append_singleton (registry : Registry) (documents : List Document)
    (document : Document) :
    registry.outcomes (documents ++ [document]) =
      registry.outcomes documents ++ [((registry.after documents).attempt document).1] := by
  induction documents generalizing registry with
  | nil => rfl
  | cons first rest ih =>
    rw [List.cons_append, outcomes, outcomes, ih, List.cons_append]
    rfl

/-- What a registry is like that was set up with some settings, and to which some documents were
    attempted to be added. -/
structure Remembers (registry : Registry) (settings : Settings) (documents : List Document) :
    Prop where
  /-- The settings stay. -/
  settings_eq : registry.settings = settings
  /-- An identifier leads to the first document that came with it. -/
  find?_eq : ∀ id, registry.find? id = documents.find? (·.id == id)
  /-- A document is found under its own identifier. -/
  id_eq : ∀ id document, registry.find? id = some document → document.id = id
  /-- The identifiers differ from each other. -/
  ids_nodup : registry.ids.Nodup
  /-- The identifiers are in the order in which they came first. -/
  ids_eq : registry.ids = (documents.map Document.id).eraseDups

namespace Remembers

/-- A new registry remembers its settings, and no document. -/
theorem empty (settings : Settings) : (Registry.empty settings).Remembers settings [] where
  settings_eq := rfl
  find?_eq _ := rfl
  id_eq _ _ h := by cases h
  ids_nodup := .nil
  ids_eq := rfl

/-- An identifier is there iff some document came with it. -/
theorem mem_ids_iff (h : registry.Remembers settings documents) :
    id ∈ registry.ids ↔ ∃ document ∈ documents, document.id = id := by
  rw [h.ids_eq, List.mem_eraseDups, List.mem_map]

/-- **One more attempt.** -/
theorem attempt (h : registry.Remembers settings documents) (document : Document) :
    (registry.attempt document).2.Remembers settings (documents ++ [document]) := by
  by_cases hmem : document.id ∈ registry.ids
  · -- An earlier document has the identifier, so the last one is never the first.
    have hmem' : document.id ∈ documents.map Document.id := by
      rwa [h.ids_eq, List.mem_eraseDups] at hmem
    rw [attempt_of_mem hmem]
    refine ⟨h.settings_eq, fun id => ?_, h.id_eq, h.ids_nodup, ?_⟩
    · rw [h.find?_eq, List.find?_append, List.find?_singleton]
      by_cases hid : document.id = id
      · obtain ⟨first, hfirst, hsame⟩ := List.mem_map.1 hmem'
        have hfound : (documents.find? (·.id == id)).isSome := by
          rw [List.find?_isSome]
          exact ⟨first, hfirst, beq_iff_eq.2 (hsame.trans hid)⟩
        rw [Option.or_of_isSome hfound]
      · rw [if_neg (mt beq_iff_eq.1 hid), Option.or_none]
    · rw [h.ids_eq, List.map_append, List.map_singleton, eraseDups_append_singleton,
        if_pos (List.contains_iff_mem.2 hmem'), List.append_nil]
  · -- The last document is the first one with its identifier.
    have hmem' : document.id ∉ documents.map Document.id := by
      rwa [h.ids_eq, List.mem_eraseDups] at hmem
    rw [attempt_of_not_mem hmem]
    refine ⟨h.settings_eq, fun id => ?_, fun _ _ => id_of_find?, ?_, ?_⟩
    · rw [List.find?_append, ← h.find?_eq]
      exact List.find?_append
    · rw [ids_append]
      exact h.ids_nodup.append (List.nodup_singleton _) (by simpa using hmem)
    · rw [ids_append, h.ids_eq, List.map_append, List.map_singleton, eraseDups_append_singleton,
        if_neg (mt List.contains_iff_mem.1 hmem')]

end Remembers

/-- **A run is remembered.**  By induction on the run, one attempt at a time. -/
theorem remembers_after (settings : Settings) (documents : List Document) :
    ((empty settings).after documents).Remembers settings documents := by
  induction documents using List.reverseRecOn with
  | nil => exact .empty settings
  | append_singleton documents document ih =>
    rw [after_append_singleton]
    exact ih.attempt document

/-- There are as many documents as attempts that succeeded. -/
theorem length_after (settings : Settings) (documents : List Document) :
    ((empty settings).after documents).documents.length =
      ((empty settings).outcomes documents).countP Except.isOk := by
  induction documents using List.reverseRecOn with
  | nil => rfl
  | append_singleton documents document ih =>
    rw [after_append_singleton, outcomes_append_singleton, List.countP_append, ← ih]
    by_cases hmem : document.id ∈ ((empty settings).after documents).ids
    · rw [attempt_of_mem hmem]
      rfl
    · rw [attempt_of_not_mem hmem]
      exact List.length_append

/-- An identifier is there after a run iff some attempt with it succeeded on the way: the first
    one with it did. -/
theorem mem_ids_after_iff (settings : Settings) (documents : List Document) :
    id ∈ ((empty settings).after documents).ids ↔ ∃ earlier document later,
      documents = earlier ++ document :: later ∧ document.id = id ∧
        (((empty settings).after earlier).attempt document).1 = .ok () := by
  have hremembers := remembers_after settings documents
  constructor
  · intro hmem
    obtain ⟨document, hfound⟩ : ∃ document, documents.find? (·.id == id) = some document := by
      rw [← Option.isSome_iff_exists, List.find?_isSome]
      simpa using hremembers.mem_ids_iff.1 hmem
    -- The first document with the identifier is the one that was new when it came.
    obtain ⟨hid, earlier, later, rfl, hearlier⟩ := List.find?_eq_some_iff_append.1 hfound
    rw [beq_iff_eq] at hid
    refine ⟨earlier, document, later, rfl, hid, ?_⟩
    have hnew : document.id ∉ ((empty settings).after earlier).ids := by
      rw [(remembers_after settings earlier).mem_ids_iff]
      rintro ⟨other, hother, hsame⟩
      have hdiffers := hearlier other hother
      rw [hsame, hid, beq_self_eq_true] at hdiffers
      cases hdiffers
    rw [attempt_of_not_mem hnew]
  · rintro ⟨earlier, document, later, rfl, hid, -⟩
    rw [hremembers.mem_ids_iff]
    exact ⟨document, List.mem_append_right _ List.mem_cons_self, hid⟩

/-! ### Registries made of documents -/

/-- Documents are added without a failure iff their identifiers are new and differ from each other;
    then this leads to the same registry as the attempts to add them. -/
theorem foldlM_add_eq_ok :
    documents.foldlM add registry = .ok registry' ↔
      (∀ document ∈ documents, document.id ∉ registry.ids) ∧
        (documents.map Document.id).Nodup ∧ registry' = registry.after documents := by
  induction documents generalizing registry with
  | nil => simp [after, eq_comm]
  | cons document rest ih =>
    have hafter (hnew : document.id ∉ registry.ids) :
        registry.after (document :: rest) = (registry.append document).after rest := by
      show ((registry.attempt document).2).after rest = _
      rw [attempt_of_not_mem hnew]
    -- What comes later must differ from the first document too, which is there by then.
    have hrest : (∀ other ∈ rest, other.id ∉ (registry.append document).ids) ↔
        (∀ other ∈ rest, other.id ∉ registry.ids) ∧ document.id ∉ rest.map Document.id := by
      simp only [ids_append, List.mem_append, List.mem_singleton, not_or, List.mem_map, not_exists,
        not_and, forall_and]
    rw [List.foldlM_cons, bind_eq_ok, List.forall_mem_cons, List.map_cons, List.nodup_cons]
    constructor
    · rintro ⟨larger, hadd, h⟩
      obtain ⟨hnew, rfl⟩ := add_eq_ok.1 hadd
      obtain ⟨hothers, hnodup, rfl⟩ := ih.1 h
      obtain ⟨hothers, hdiffers⟩ := hrest.1 hothers
      exact ⟨⟨hnew, hothers⟩, ⟨hdiffers, hnodup⟩, (hafter hnew).symm⟩
    · rintro ⟨⟨hnew, hothers⟩, ⟨hdiffers, hnodup⟩, rfl⟩
      refine ⟨registry.append document, add_eq_ok.2 ⟨hnew, rfl⟩, ?_⟩
      exact ih.2 ⟨hrest.2 ⟨hothers, hdiffers⟩, hnodup, hafter hnew⟩

/-- A registry can be made of documents iff their identifiers differ from each other. -/
theorem ofDocuments_eq_ok :
    ofDocuments documents = .ok registry ↔
      (documents.map Document.id).Nodup ∧ registry = (empty {}).after documents := by
  rw [ofDocuments]
  refine foldlM_add_eq_ok.trans (and_iff_right fun document _ => ?_)
  exact List.not_mem_nil

/-! ### Registries with the same answers -/

/-- The registries find the same documents and definitions, and have the same verdicts and
    fillings, failures included. -/
structure SameAnswers (registry registry' : Registry) : Prop where
  get? : ∀ reference, registry.get? reference = registry'.get? reference
  contains : ∀ reference, registry.contains reference = registry'.contains reference
  resolve : ∀ address, registry.resolve address = registry'.resolve address
  definition : ∀ reference, registry.definition reference = registry'.definition reference
  validate : ∀ reference value, registry.validate reference value =
    registry'.validate reference value
  validateRecord : ∀ reference value, registry.validateRecord reference value =
    registry'.validateRecord reference value
  validateParams : ∀ reference value, registry.validateParams reference value =
    registry'.validateParams reference value
  validateInput : ∀ reference value, registry.validateInput reference value =
    registry'.validateInput reference value
  validateOutput : ∀ reference value, registry.validateOutput reference value =
    registry'.validateOutput reference value
  fillRecord : ∀ reference value, registry.fillRecord reference value =
    registry'.fillRecord reference value
  fillParams : ∀ reference value, registry.fillParams reference value =
    registry'.fillParams reference value

/-- Agreement without any excuse is equality. -/
theorem eq_of_agree {ε α : Type} {x y : Except ε α} (h : Agree (fun _ => False) x y) : x = y := by
  rcases h with h | ⟨_, -, hexcused⟩
  · exact h
  · exact hexcused.elim

/-- Registries that find the same documents, and allow as many hops, have the same answers. -/
theorem sameAnswers_of_find?_eq (hfind : ∀ id, registry.find? id = registry'.find? id)
    (hsettings : registry.settings = registry'.settings) : SameAnswers registry registry' := by
  have hget (reference : String) : registry.get? reference = registry'.get? reference := hfind _
  have hresolve (address : Address) : registry.resolve address = registry'.resolve address := by
    unfold resolve
    rw [hfind]
  -- The answers depend on the look-ups alone, as `answersAgree` tells without any excuse.
  have hlookUp (address : Address) :
      Agree (fun _ => False) (registry.lookUp address) (registry'.lookUp address) := by
    unfold lookUp
    rw [hresolve]
    exact .refl _
  have hroom : LeavesRoom (fun _ => False) registry registry' 0 0 :=
    .inl ⟨congrArg Settings.maxHops hsettings, rfl⟩
  have hanswers := answersAgree hlookUp hroom
  exact {
    get? := hget
    contains := fun reference => congrArg Option.isSome (hget reference)
    resolve := hresolve
    definition := fun reference => eq_of_agree (hanswers.definition reference)
    validate := fun reference value => eq_of_agree (hanswers.validate reference value)
    validateRecord := fun reference value => eq_of_agree (hanswers.validateRecord reference value)
    validateParams := fun reference value => eq_of_agree (hanswers.validateParams reference value)
    validateInput := fun reference value => eq_of_agree (hanswers.validateInput reference value)
    validateOutput := fun reference value => eq_of_agree (hanswers.validateOutput reference value)
    fillRecord := fun reference value => eq_of_agree (hanswers.fillRecord reference value)
    fillParams := fun reference value => eq_of_agree (hanswers.fillParams reference value) }

/-- The first document with an identifier, as a look-up. -/
theorem find?_eq_lookup (documents : List Document) (id : String) :
    documents.find? (·.id == id) =
      (documents.map fun document => (document.id, document)).lookup id := by
  induction documents with
  | nil => rfl
  | cons document rest ih =>
    rw [List.find?_cons, List.map_cons, Assoc.lookup_cons, ← ih]
    by_cases hid : document.id = id
    · rw [if_pos hid.symm, beq_iff_eq.2 hid]
    · rw [if_neg (Ne.symm hid), beq_eq_false_iff_ne.2 hid]

/-- The order of documents whose identifiers differ from each other does not matter. -/
theorem find?_eq_of_perm {documents' : List Document} (hperm : documents.Perm documents')
    (hids : (documents.map Document.id).Nodup) (id : String) :
    documents.find? (·.id == id) = documents'.find? (·.id == id) := by
  rw [find?_eq_lookup, find?_eq_lookup]
  refine Assoc.lookup_eq_of_perm (hperm.map _) ?_ id
  have hkeys : Assoc.keys (documents'.map fun document => (document.id, document)) =
      documents'.map Document.id := List.map_map
  rw [hkeys]
  exact (hperm.map _).nodup_iff.1 hids

/-! ### Every run -/

/-- **A registry remembers its run.**  Set up a registry with any settings, and attempt to add any
    documents.  Each identifier leads to the first document that came with it, and the identifiers
    are in the order in which they came first, without repetition.  An attempt fails iff an earlier
    one with the same identifier has succeeded, it fails with that identifier, and then the registry
    stays as it was.  There are as many documents as attempts that succeeded.  A registry can be
    made of documents iff their identifiers differ, and then it is the one that the run leads to.
    And the order of documents whose identifiers differ makes no difference to any answer. -/
theorem registry_remembers_run (settings : Settings) (documents : List Document) :
    ((empty settings).after documents).Remembers settings documents ∧
    (∀ document, ((empty settings).after documents).attempt document =
        (.error (.alreadyRegistered document.id), (empty settings).after documents) ↔
      ∃ earlier first later, documents = earlier ++ first :: later ∧ first.id = document.id ∧
        (((empty settings).after earlier).attempt first).1 = .ok ()) ∧
    (∀ document failure, (((empty settings).after documents).attempt document).1 = .error failure →
      ((empty settings).after documents).attempt document =
        (.error (.alreadyRegistered document.id), (empty settings).after documents)) ∧
    ((empty settings).after documents).documents.length =
      ((empty settings).outcomes documents).countP Except.isOk ∧
    (∀ registry, ofDocuments documents = .ok registry ↔
      (documents.map Document.id).Nodup ∧ registry = (empty {}).after documents) ∧
    ∀ documents', documents.Perm documents' → (documents.map Document.id).Nodup →
      SameAnswers ((empty settings).after documents) ((empty settings).after documents') := by
  have hremembers := remembers_after settings
  refine ⟨hremembers documents, fun document => ?_, fun document failure hfails => ?_,
    length_after settings documents, fun registry => ofDocuments_eq_ok, ?_⟩
  · rw [← mem_ids_after_iff]
    constructor
    · intro hfails
      exact mem_ids_of_attempt_eq_error (congrArg Prod.fst hfails)
    · exact attempt_of_mem
  · exact attempt_of_mem (mem_ids_of_attempt_eq_error hfails)
  · -- In another order, each identifier still leads to its one document.
    intro documents' hperm hids
    refine sameAnswers_of_find?_eq (fun id => ?_) ?_
    · rw [(hremembers documents).find?_eq, (hremembers documents').find?_eq,
        find?_eq_of_perm hperm hids]
    · rw [(hremembers documents).settings_eq, (hremembers documents').settings_eq]

/-- A document without definitions under the identifier of the document on owners. -/
def landlords : Document := Document.empty "com.example.owner"

/-- A document on vases. -/
def vases : Document :=
  { Document.empty "com.example.vase" with definitions := [("main", .token none)] }

/-- Whoever comes second under an identifier is turned away, and owners stay who they were.  Vases
    may come before owners or after them. -/
theorem registry_remembers_run_owners :
    ((empty {}).after [owners, vases, landlords]).ids = ["com.example.owner", "com.example.vase"] ∧
      ((empty {}).after [owners, vases, landlords]).find? "com.example.owner" = some owners ∧
      ((empty {}).after [owners, vases]).attempt landlords =
        (.error (.alreadyRegistered "com.example.owner"), (empty {}).after [owners, vases]) ∧
      (empty {}).outcomes [owners, vases, landlords] =
        [.ok (), .ok (), .error (.alreadyRegistered "com.example.owner")] ∧
      ofDocuments [owners, vases] = .ok ((empty {}).after [owners, vases]) ∧
      [owners, vases].Perm [vases, owners] ∧ ([owners, vases].map Document.id).Nodup ∧
      SameAnswers ((empty {}).after [owners, vases]) ((empty {}).after [vases, owners]) := by
  obtain ⟨hremembers, -, -, -, -, -⟩ := registry_remembers_run {} [owners, vases, landlords]
  obtain ⟨-, hattempt, -, -, hmade, horder⟩ := registry_remembers_run {} [owners, vases]
  have hids : ([owners, vases].map Document.id).Nodup := by decide
  have hfirst : ((empty {}).after []).attempt owners = (.ok (), (empty {}).append owners) :=
    attempt_of_not_mem List.not_mem_nil
  refine ⟨hremembers.ids_eq.trans (by decide), (hremembers.find?_eq _).trans rfl, ?_,
    rfl, (hmade _).2 ⟨hids, rfl⟩, .swap _ _ _, hids, horder _ (.swap _ _ _) hids⟩
  exact (hattempt landlords).2 ⟨[], owners, [vases], rfl, rfl, congrArg Prod.fst hfirst⟩

end Lexicon.Registry
