import Lexicon.Proofs.Conformance.FirstFault
import Lexicon.Proofs.Defaults.Fill
import Lexicon.Proofs.Document.WellFormed
import Lexicon.Proofs.Reference.Unfinished
import Lexicon.Proofs.Registry.Misplaced
import Mathlib

namespace Lexicon

open Lexicon.Outcome

/-!
# References that cannot be read

The references of a sound document have one `#` at most.  That does not make all of them readable:
an unfinished one is found only when a value leads to it.

* `Value.NamesUnreadable`, `Registry.WritesUnreadable` — an error in a type that a value names, and
  one in a reference of a document;
* `checkValue_tells_unreadable`, `fillProperties_tells_unreadable` — a check or a filling tells no
  other errors of references;
* `verdicts_tell_unreadable`, `fillRecord_tells_unreadable`, `fillParams_tells_unreadable` — nor does
  any way in, the reference that was asked about apart;
* `Registry.WritesUnfinished`, `references_of_sound_documents` — what all of this comes to in sound
  documents.
-/

/-- Somewhere in a value a type is named that cannot be read as a reference. -/
def Value.NamesUnreadable (value : Value) (reason : ReferenceError) : Prop :=
  ∃ names part type, value.Leads names part ∧ part.get? "$type" = some (.string type) ∧
    Address.parse type none = .error reason

/-- What a part names, the value names. -/
theorem Value.NamesUnreadable.of_part {value part : Value} {reason : ReferenceError}
    (h : part.NamesUnreadable reason) (hpart : value.HasPart part) :
    value.NamesUnreadable reason := by
  obtain ⟨names, named, type, hleads, htype, hparse⟩ := h
  cases hpart with
  | item hmem => exact ⟨names, named, type, .item hmem hleads, htype, hparse⟩
  | field hfield => exact ⟨_ :: names, named, type, .property hfield hleads, htype, hparse⟩

namespace Registry

variable {registry : Registry} {address : Address} {base reference : String}
  {descriptor : Descriptor} {value : Value} {path label : Path} {hops : Nat}
  {reason : ReferenceError}

/-- A reference of some document cannot be read where it stands. -/
def WritesUnreadable (registry : Registry) (reason : ReferenceError) : Prop :=
  ∃ document ∈ registry.documents, ∃ part ∈ document.descriptors, ∃ target ∈ part.references,
    Address.parse target (some document.id) = .error reason

/-- A reference that cannot be read, in something that a document holds, is written in that
    document. -/
theorem Holds.writesUnreadable (h : registry.Holds base descriptor) {target : String}
    (htarget : target ∈ descriptor.references)
    (hparse : Address.parse target (some base) = .error reason) :
    registry.WritesUnreadable reason := by
  obtain ⟨document, hfound, hmem⟩ := h
  obtain rfl : document.id = base := id_of_find? hfound
  exact ⟨document, List.mem_of_find?_eq_some hfound, descriptor, hmem, target, htarget, hparse⟩

/-- An address has been read already when it is resolved. -/
theorem resolve_ne_invalidReference :
    registry.resolve address ≠ .error (.invalidReference reason) := by
  intro h
  rcases resolve_eq_error h with herror | herror <;> cases herror

/-! ### Checking -/

/-- **An unreadable reference is one of the value or one of the documents.**  By induction along the
    validator: what is checked next stands in a document again, and its value is a part of the value
    or the value itself. -/
theorem checkValue_tells_unreadable (hholds : registry.Holds base descriptor)
    (h : registry.checkValue base descriptor value path hops =
      .error (.resolution (.invalidReference reason))) :
    value.NamesUnreadable reason ∨ registry.WritesUnreadable reason := by
  induction value, hops using value_hops_induction registry.settings.maxHops
    generalizing base descriptor path with
  | step value hops ihvalue ihhops =>
    cases origin_of_checkValue h with
    | reference hreference hparse => exact .inr (hholds.writesUnreadable hreference hparse)
    | type htype hparse => exact .inl ⟨[], value, _, .here, htype, hparse⟩
    | target _ _ h =>
      rcases checkTarget_eq_error h with h | ⟨_, hresolve, h⟩ | ⟨hlt, definition, hresolve, h⟩
      · cases h
      · cases h
        exact absurd hresolve resolve_ne_invalidReference
      · exact ihhops hlt (holds_of_resolve hresolve) h
    -- What a part of the value names, the value names.
    | part hchild hpart h =>
      exact (ihvalue _ 0 hpart.sizeOf_lt (hholds.of_child hchild) h).imp_left (·.of_part hpart)

/-! ### Ways into checking -/

/-- No reference is read while looking for the definition, but the one that was asked about. -/
theorem Lost.parse_eq_error (h : registry.Lost reference (.invalidReference reason)) :
    Address.parse reference none = .error reason := by
  cases h with
  | unreadable hparse => exact hparse
  | absent _ hresolve => exact absurd hresolve resolve_ne_invalidReference

/-- A check that fails for a cause below the definition has read a reference of the value or of the
    documents by then. -/
theorem Cause.tells_unreadable
    (h : registry.Cause reference value (.invalidReference reason)) :
    Address.parse reference none = .error reason ∨
      value.NamesUnreadable reason ∨ registry.WritesUnreadable reason := by
  cases h with
  | lost hlost => exact .inl hlost.parse_eq_error
  | child hresolve hchild hpart h =>
    have hholds := (holds_of_resolve hresolve).of_child hchild
    rcases hpart with rfl | hpart
    · exact .inr (checkValue_tells_unreadable hholds h)
    · exact .inr ((checkValue_tells_unreadable hholds h).imp_left (·.of_part hpart))

/-- Whichever check is made, an error of a reference is that of the reference which was asked about,
    of a type in the value, or of a reference in a document. -/
theorem verdicts_tell_unreadable
    (h : .error (.resolution (.invalidReference reason)) ∈ registry.verdicts reference value) :
    Address.parse reference none = .error reason ∨
      value.NamesUnreadable reason ∨ registry.WritesUnreadable reason := by
  simp only [verdicts, List.mem_cons, List.not_mem_nil, or_false] at h
  rcases h with h | h | h | h | h
  · rcases cause_of_validate h.symm with hcause | ⟨address, definition, path, -, hresolve, h⟩
    · exact hcause.tells_unreadable
    · exact .inr (checkValue_tells_unreadable (holds_of_resolve hresolve) h)
  -- The other ways in do not check a value against the definition itself.
  · exact (cause_of_validateRecord h.symm).tells_unreadable
  · exact (cause_of_validateParams h.symm).tells_unreadable
  · exact (cause_of_validateInput h.symm).tells_unreadable
  · exact (cause_of_validateOutput h.symm).tells_unreadable

/-! ### Filling -/

/-- The end of the references stands in a document, if their start does. -/
theorem holds_of_followRefs {target : String × Descriptor} (hholds : registry.Holds base descriptor)
    (h : registry.followRefs base descriptor path hops = .ok target) :
    registry.Holds target.1 target.2 := by
  fun_induction followRefs registry base descriptor path hops with
  | case1 base hops description target hlt ih =>
    obtain ⟨address, -, h⟩ := bind_eq_ok.1 h
    obtain ⟨next, hlookUp, h⟩ := bind_eq_ok.1 h
    exact ih address next (holds_of_resolve (lookUp_eq_ok.1 hlookUp)) h
  | case2 => cases h
  | case3 => cases h; exact hholds

/-- The walk along the references reads references of documents only. -/
theorem followRefs_tells_unreadable (hholds : registry.Holds base descriptor)
    (h : registry.followRefs base descriptor path hops =
      .error (.resolution (.invalidReference reason))) : registry.WritesUnreadable reason := by
  fun_induction followRefs registry base descriptor path hops with
  | case1 base hops description target hlt ih =>
    rcases bind_eq_error.1 h with h | ⟨address, -, h⟩
    · obtain ⟨_, hparse, herror⟩ := Address.locate_eq_resolution h
      cases herror
      exact hholds.writesUnreadable List.mem_cons_self hparse
    rcases bind_eq_error.1 h with h | ⟨next, hlookUp, h⟩
    · obtain ⟨_, hresolve, herror⟩ := mapError_eq_error.1 h
      cases herror
      exact absurd hresolve resolve_ne_invalidReference
    · exact ih address next (holds_of_resolve (lookUp_eq_ok.1 hlookUp)) h
  | case2 => cases h
  | case3 => cases h

/-- **Filling reads references of documents only.**  By induction on the object that is filled: it
    goes on into properties, at the end of their references. -/
theorem fillProperties_tells_unreadable {properties : List (String × Descriptor)}
    {fields filled : List (String × Value)}
    (hholds : ∀ child ∈ properties.map Prod.snd, registry.Holds base child)
    (h : registry.fillProperties base properties fields path filled =
      .error (.resolution (.invalidReference reason))) : registry.WritesUnreadable reason := by
  induction hsize : sizeOf fields using Nat.strong_induction_on
    generalizing base properties fields path filled with
  | _ size ih =>
    obtain ⟨name, descriptor, hmem, h⟩ := fillProperties_eq_error h
    have hproperty : registry.Holds base descriptor := hholds _ (List.mem_map_of_mem hmem)
    obtain ⟨inner, hfield, h | ⟨base', schema, htarget, h⟩⟩ := fillProperty_eq_error h
    · exact followRefs_tells_unreadable hproperty h
    · have hschema := holds_of_followRefs hproperty htarget
      exact ih _ (hsize ▸ sizeOf_inner_lt hfield) (fun _ hchild => hschema.of_child hchild) h rfl

/-- Filling looks at no type, so only a reference in a document can be unreadable. -/
theorem fill_tells_unreadable {properties : List (String × Descriptor)}
    (hholds : ∀ child ∈ properties.map Prod.snd, registry.Holds base child)
    (h : registry.fill base properties value label =
      .error (.resolution (.invalidReference reason))) : registry.WritesUnreadable reason := by
  cases value with
  | object fields =>
    rw [fill_object] at h
    cases hfill : registry.fillProperties base properties fields label fields with
    | ok filled =>
      rw [hfill] at h
      cases h
    | error failure =>
      rw [hfill] at h
      cases h
      exact fillProperties_tells_unreadable hholds hfill
  | _ => cases h

/-- Filling a record meets an unreadable reference only in the collection it is asked for, or in a
    document. -/
theorem fillRecord_tells_unreadable
    (h : registry.fillRecord reference value =
      .error (.resolution (.invalidReference reason))) :
    Address.parse reference none = .error reason ∨ registry.WritesUnreadable reason := by
  rcases bind_eq_error.1 h with h | ⟨⟨address, schema⟩, hrecord, h⟩
  · exact .inl (lost_of_inRole (recordAt_eq ▸ h)).parse_eq_error
  obtain ⟨-, description, key, hresolve⟩ := recordAt_eq_ok.1 hrecord
  have hholds := holds_of_resolve hresolve
  exact .inr (fill_tells_unreadable (fun _ hchild => hholds.of_child hchild) h)

/-- Filling parameters meets an unreadable reference only in the call it is asked for, or in a
    document. -/
theorem fillParams_tells_unreadable
    (h : registry.fillParams reference value =
      .error (.resolution (.invalidReference reason))) :
    Address.parse reference none = .error reason ∨ registry.WritesUnreadable reason := by
  rcases bind_eq_error.1 h with h | ⟨⟨address, parameters⟩, hparameters, h⟩
  · exact .inl (lost_of_inRole (parametersAt_eq ▸ h)).parse_eq_error
  obtain ⟨-, definition, hresolve, hcall⟩ := parametersAt_eq_ok.1 hparameters
  cases parameters with
  | none => cases h
  | some schema =>
    have hholds (child : Descriptor) (hchild : child ∈ schema.properties.map Prod.snd) :
        registry.Holds address.document child := by
      refine (holds_of_resolve hresolve).of_child (hcall.children_subset ?_)
      simpa [ParamsSchema.children] using hchild
    exact .inr (fill_tells_unreadable hholds h)

end Registry

/-! ### Sound documents -/

/-- All descriptors of a sound document keep the rules for descriptors. -/
theorem Document.keepsRules_of_checkStructure {document : Document}
    (h : document.checkStructure = .ok ()) {part : Descriptor}
    (hpart : part ∈ document.descriptors) : part.KeepsRules := by
  obtain ⟨name, definition, hmem, hpart⟩ := Descriptor.mem_partsOfEntries.1 hpart
  have hdefinition := (Document.checkStructure_eq_ok.1 h).2.2 name definition hmem
  exact (Descriptor.checkStructure_eq_ok_iff.1 hdefinition).2 part hpart

namespace Registry

/-- A reference of some document is unfinished, which is why it cannot be read. -/
def WritesUnfinished (registry : Registry) (reason : ReferenceError) : Prop :=
  ∃ document ∈ registry.documents, ∃ part ∈ document.descriptors, ∃ target ∈ part.references,
    Address.IsUnfinished target ∧ Address.parse target (some document.id) = .error reason

/-- In sound documents only unfinished references cannot be read. -/
theorem WritesUnreadable.unfinished {registry : Registry} {reason : ReferenceError}
    (hsound : ∀ document ∈ registry.documents, document.checkStructure = .ok ())
    (h : registry.WritesUnreadable reason) : registry.WritesUnfinished reason := by
  obtain ⟨document, hmem, part, hpart, target, htarget, hparse⟩ := h
  refine ⟨document, hmem, part, hpart, target, htarget, ?_, hparse⟩
  have hcount : target.toList.count '#' ≤ 1 :=
    (Document.keepsRules_of_checkStructure (hsound document hmem) hpart).references target htarget
  by_contra hfinished
  obtain ⟨address, hread⟩ := (Address.exists_parse_iff_finished hcount).2 hfinished
  rw [hparse] at hread
  cases hread

/-- **References of sound documents.**  A reference that stands in a sound document is read exactly
    when it is not unfinished, and never fails for more than one `#`.  So over sound documents, an
    error of a reference is that of the reference which was asked about, that of a type which the
    value names, or that of an unfinished reference of a document; filling looks at no type. -/
theorem references_of_sound_documents :
    (∀ document : Document, document.checkStructure = .ok () →
      ∀ part ∈ document.descriptors, ∀ target ∈ part.references,
        ((∃ address, Address.parse target (some document.id) = .ok address) ↔
          ¬ Address.IsUnfinished target) ∧
        ∀ reason, Address.parse target (some document.id) = .error reason →
          reason = .noDocument target ∨ reason = .emptyName target) ∧
    ∀ registry : Registry,
      (∀ document ∈ registry.documents, document.checkStructure = .ok ()) →
      ∀ reference value reason,
        (.error (.resolution (.invalidReference reason)) ∈ registry.verdicts reference value →
          Address.parse reference none = .error reason ∨ value.NamesUnreadable reason ∨
            registry.WritesUnfinished reason) ∧
        (.error (.resolution (.invalidReference reason)) ∈
            [registry.fillRecord reference value, registry.fillParams reference value] →
          Address.parse reference none = .error reason ∨ registry.WritesUnfinished reason) := by
  constructor
  · intro document hsound part hpart target htarget
    -- The check of the structure lets references through that have one `#` at most.
    have hcount : target.toList.count '#' ≤ 1 :=
      (Document.keepsRules_of_checkStructure hsound hpart).references target htarget
    exact ⟨Address.exists_parse_iff_finished hcount,
      fun _ hparse => Address.parse_eq_error_of_count hcount hparse⟩
  · intro registry hsound reference value reason
    constructor
    · intro h
      exact (verdicts_tell_unreadable h).imp_right (Or.imp_right (·.unfinished hsound))
    · intro h
      simp only [List.mem_cons, List.not_mem_nil, or_false] at h
      rcases h with h | h
      · exact (fillRecord_tells_unreadable h.symm).imp_right (·.unfinished hsound)
      · exact (fillParams_tells_unreadable h.symm).imp_right (·.unfinished hsound)

/-! ### A sound document with an unfinished reference -/

/-- A feed shows items of any sort.  One sort is named with a `#` and nothing behind it. -/
def feed : Document :=
  { Document.empty "com.example.feed" with definitions := [
      ("main", .object ⟨none, [("item", .union none ["#view", "com.example.post#"] none)], [], []⟩),
      ("view", .object ⟨none, [], [], []⟩)] }

/-- A feed that shows an item of another sort. -/
def feedOfLike : Value :=
  .object [("item", .object [("$type", .string "com.example.like")])]

/-- The feed passes the checks at registration. -/
theorem checkStructure_feed : feed.checkStructure = .ok () := by
  have hid : Nsid.isValid "com.example.feed" = true := by cbv
  simp [Document.checkStructure, feed, Document.empty, hid, Descriptor.checkStructure,
    ObjectSchema.checkStructure, checkRequired, Descriptor.checkProperties, checkReference]

/-- The feed has a union with a reference that nothing can be made of. -/
theorem union_mem_feed :
    .union none ["#view", "com.example.post#"] none ∈ feed.descriptors := by
  simp [Document.descriptors, feed, Document.empty, Descriptor.partsOfEntries, Descriptor.parts,
    ObjectSchema.parts]

/-- The only type that the value names can be read. -/
theorem feedOfLike_not_namesUnreadable (reason : ReferenceError) :
    ¬ feedOfLike.NamesUnreadable reason := by
  rintro ⟨names, part, type, hleads, htype, hparse⟩
  cases hleads with
  | here => cases htype
  | property hfield hleads =>
    obtain ⟨rfl, rfl⟩ := List.mem_singleton.1 (Assoc.mem_of_lookup hfield)
    cases hleads with
    | here =>
      cases htype
      cases hparse
    | property hfield hleads =>
      obtain ⟨rfl, rfl⟩ := List.mem_singleton.1 (Assoc.mem_of_lookup hfield)
      cases hleads
      cases htype

/-- The feed is sound, but one of its references cannot be read, and a value fails for that reason
    where neither the reference that is asked about nor the type in the value is wrong. -/
theorem sound_document_with_unreadable_reference :
    let registry : Registry := { documents := [feed] }
    feed.checkStructure = .ok () ∧
      (∃ part ∈ feed.descriptors, "com.example.post#" ∈ part.references) ∧
      (∀ address, Address.parse "com.example.post#" (some feed.id) ≠ .ok address) ∧
      registry.validate "com.example.feed" feedOfLike =
        .error (.resolution (.invalidReference (.emptyName "com.example.post#"))) ∧
      Address.parse "com.example.feed" none = .ok ⟨"com.example.feed", "main"⟩ ∧
      ∀ reason, ¬ feedOfLike.NamesUnreadable reason := by
  intro registry
  refine ⟨checkStructure_feed, ⟨_, union_mem_feed, ?_⟩, ?_, ?_, rfl, feedOfLike_not_namesUnreadable⟩
  · decide
  · rintro address ⟨⟩
  · cbv

/-- Of the references of the feed, one can be read and one cannot, which is what the value fails
    for. -/
theorem references_of_sound_documents_feed :
    let registry : Registry := { documents := [feed] }
    (∃ address, Address.parse "#view" (some feed.id) = .ok address) ∧
      (¬ ∃ address, Address.parse "com.example.post#" (some feed.id) = .ok address) ∧
      registry.WritesUnfinished (.emptyName "com.example.post#") := by
  intro registry
  obtain ⟨hread, htold⟩ := references_of_sound_documents
  have hview : ¬ Address.IsUnfinished "#view" := by
    rw [Address.isUnfinished_iff]
    decide
  have hpost : Address.IsUnfinished "com.example.post#" := by
    rw [Address.isUnfinished_iff]
    decide
  have hfeed := hread feed checkStructure_feed _ union_mem_feed
  refine ⟨(hfeed "#view" (by decide)).1.2 hview, ?_, ?_⟩
  · exact fun hpost' => (hfeed "com.example.post#" (by decide)).1.1 hpost' hpost
  · have hsound : ∀ document ∈ registry.documents, document.checkStructure = .ok () := by
      intro document hmem
      rw [List.mem_singleton.1 hmem]
      exact checkStructure_feed
    have hverdict : registry.validate "com.example.feed" feedOfLike =
        .error (.resolution (.invalidReference (.emptyName "com.example.post#"))) := by cbv
    have hmem : .error (.resolution (.invalidReference (.emptyName "com.example.post#"))) ∈
        registry.verdicts "com.example.feed" feedOfLike := by
      rw [verdicts, hverdict]
      exact List.mem_cons_self
    rcases (htold registry hsound _ _ _).1 hmem with hasked | hnamed | hwritten
    · cases hasked
    · exact absurd hnamed (feedOfLike_not_namesUnreadable _)
    · exact hwritten

end Registry

end Lexicon
