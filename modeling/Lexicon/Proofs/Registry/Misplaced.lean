import Lexicon.Proofs.Conformance.Misplaced
import Lexicon.Proofs.Registry.Origins
import Mathlib

namespace Lexicon.Registry

/-!
# Misplaced definitions and references to them

The checks of a registry start at a definition or at children of one, so the definition itself and
the references within the documents are the only ways to a definition that describes no value.

* `refersTo_of_child`, `Cause.refersTo` — what a check of a child tells is a kind that is referred to;
* `validate_tells_kind`, …, `validateOutput_tells_kind` — one law for each way in;
* `misplaced_definitions_need_references` — all of this for documents that have been read.
-/

variable {registry : Registry} {base reference : String} {descriptor child : Descriptor}
  {value : Value} {path path' : Path} {hops : Nat} {kind : Kind}

section Read

variable (hread : registry.AllRead) (hkind : kind ≠ .token)
include hread hkind

/-- What a check of a child tells is a kind that is referred to. -/
theorem refersTo_of_child (hholds : registry.Holds base descriptor)
    (hchild : child ∈ descriptor.children)
    (h : registry.checkValue base child value path hops =
      .error (.resolution (.unexpectedKind kind path'))) : registry.RefersTo kind :=
  hholds.refersTo_of_child hread hchild
    (checkValue_tells_kind hread hkind (hholds.of_child hchild) h)

/-- Where a check tells a kind for a cause below the definition, it is one that is referred to. -/
theorem Cause.refersTo (h : registry.Cause reference value (.unexpectedKind kind path)) :
    registry.RefersTo kind := by
  cases h with
  | lost hlost =>
    cases hlost with
    | absent _ hresolve => exact absurd hresolve resolve_ne_unexpectedKind
  | child hresolve hchild _ h =>
    exact refersTo_of_child hread hkind (holds_of_resolve hresolve) hchild h

/-! ### Ways in -/

/-- A check against a definition tells the kind of the definition or one that is referred to. -/
theorem validate_tells_kind
    (h : registry.validate reference value = .error (.resolution (.unexpectedKind kind path))) :
    (∃ definition, registry.definition reference = .ok definition ∧ definition.kind = kind) ∨
      registry.RefersTo kind := by
  rcases cause_of_validate h with hcause | ⟨address, definition, path, hparse, hresolve, h⟩
  · exact .inr (hcause.refersTo hread hkind)
  · have hfound := definition_eq_ok.2 ⟨address, hparse, hresolve⟩
    refine (checkValue_tells_kind hread hkind (holds_of_resolve hresolve) h).imp_left ?_
    intro hsame
    exact ⟨definition, hfound, hsame.1⟩

/-- The definition of a record is not checked against itself, so only references are left. -/
theorem validateRecord_tells_kind
    (h : registry.validateRecord reference value =
      .error (.resolution (.unexpectedKind kind path))) : registry.RefersTo kind :=
  (cause_of_validateRecord h).refersTo hread hkind

/-- Validating parameters finds a kind out of place only behind a reference. -/
theorem validateParams_tells_kind
    (h : registry.validateParams reference value =
      .error (.resolution (.unexpectedKind kind path))) : registry.RefersTo kind :=
  (cause_of_validateParams h).refersTo hread hkind

/-- Validating an input finds a kind out of place only behind a reference. -/
theorem validateInput_tells_kind
    (h : registry.validateInput reference value =
      .error (.resolution (.unexpectedKind kind path))) : registry.RefersTo kind :=
  (cause_of_validateInput h).refersTo hread hkind

/-- Validating an output finds a kind out of place only behind a reference. -/
theorem validateOutput_tells_kind
    (h : registry.validateOutput reference value =
      .error (.resolution (.unexpectedKind kind path))) : registry.RefersTo kind :=
  (cause_of_validateOutput h).refersTo hread hkind

end Read

/-! ### Misplaced definitions -/

/-- The verdicts of all checks on a value, for the definition behind a reference. -/
def verdicts (registry : Registry) (reference : String) (value : Value) : List Verdict :=
  [registry.validate reference value, registry.validateRecord reference value,
    registry.validateParams reference value, registry.validateInput reference value,
    registry.validateOutput reference value]

/-- **Misplaced definitions need references.**  In documents that have been read, whatever a
    descriptor holds is of no kind that can only be that of a definition.  So where a check tells a
    kind other than that of tokens, it is that of the definition which it was asked about, or some
    reference in a document leads to a definition of the kind. -/
theorem misplaced_definitions_need_references (registry : Registry) (hread : registry.AllRead) :
    (∀ reference value kind path,
      .error (.resolution (.unexpectedKind kind path)) ∈ registry.verdicts reference value →
      kind ≠ .token →
        (∃ definition, registry.definition reference = .ok definition ∧
          definition.kind = kind) ∨ registry.RefersTo kind) ∧
    ∀ document ∈ registry.documents, ∀ part ∈ document.descriptors, ∀ child ∈ part.children,
      child.kind ∉ [.record, .params, .query, .procedure] := by
  constructor
  · intro reference value kind path h hkind
    simp only [verdicts, List.mem_cons, List.not_mem_nil, or_false] at h
    rcases h with h | h | h | h | h
    · -- Only `validate` may be asked about a definition of a kind that it does not check.
      exact validate_tells_kind hread hkind h.symm
    · exact .inr (validateRecord_tells_kind hread hkind h.symm)
    · exact .inr (validateParams_tells_kind hread hkind h.symm)
    · exact .inr (validateInput_tells_kind hread hkind h.symm)
    · exact .inr (validateOutput_tells_kind hread hkind h.symm)
  · intro document hmem part hpart child hchild
    -- The check at registration has refused such kinds below a definition.
    have hplaced : child.kind.isTopLevelOnly = false :=
      document.isTopLevelOnly_of_child (hread.checkStructure hmem) hpart hchild
    intro hmisplaced
    simp only [List.mem_cons, List.not_mem_nil, or_false] at hmisplaced
    rcases hmisplaced with hkind | hkind | hkind | hkind <;> rw [hkind] at hplaced <;> cases hplaced

/-- A timeline shows posts, which are records, and refers to their definition. -/
def timeline : Document :=
  { Document.empty "com.example.timeline" with definitions := [
      ("main", .object ⟨none, [("newest", .ref none "#post")], [], []⟩),
      ("post", .record none none ⟨none, [("text", .string none none {})], [], []⟩)] }

/-- The timeline as data. -/
def timelineData : Json :=
  .object [("lexicon", .number (.integer 1)), ("id", .string "com.example.timeline"),
    ("defs", .object [
      ("main", .object [("type", .string "object"), ("properties", .object [
        ("newest", .object [("type", .string "ref"), ("ref", .string "#post")])])]),
      ("post", .object [("type", .string "record"), ("record", .object [
        ("type", .string "object"), ("properties", .object [
          ("text", .object [("type", .string "string")])])])])])]

/-- The timeline is read, since no check asks where its references lead. -/
theorem read_timelineData : Document.read timelineData = .ok timeline := by
  have hkeys : checkDocumentKeys timelineData = .ok () := by cbv
  have hshape : Document.ofJson? timelineData = some timeline := by cbv
  have hid : Nsid.isValid "com.example.timeline" = true := by cbv
  refine Document.read_eq_ok.2 ⟨hkeys, hshape, ?_⟩
  simp [Document.checkStructure, timeline, Document.empty, hid, Descriptor.checkStructure,
    ObjectSchema.checkStructure, checkRequired, Descriptor.checkProperties, checkReference,
    checkPlace]

/-- The timeline is not a record, so what it tells comes from its reference. -/
theorem misplaced_definitions_need_references_timeline :
    let registry : Registry := { documents := [timeline] }
    registry.AllRead ∧
      registry.validate "com.example.timeline" (.object [("newest", .object [])]) =
        .error (.resolution (.unexpectedKind .record "Object/newest")) ∧
      registry.RefersTo .record ∧
      Descriptor.kind (.ref none "#post") ∉ [.record, .params, .query, .procedure] := by
  intro registry
  have hread : registry.AllRead := by
    intro document hmem
    rw [List.mem_singleton.1 hmem]
    exact ⟨timelineData, read_timelineData⟩
  have htold : registry.validate "com.example.timeline" (.object [("newest", .object [])]) =
      .error (.resolution (.unexpectedKind .record "Object/newest")) := by cbv
  obtain ⟨hneed, hplaced⟩ := misplaced_definitions_need_references registry hread
  have hmember : timeline ∈ registry.documents := List.mem_singleton_self _
  have hmain : timeline.definitions.map Prod.snd ⊆ timeline.descriptors := by
    intro definition hdefinition
    exact Descriptor.mem_partsOfEntries_iff.2 ⟨definition, hdefinition, definition.mem_parts_self⟩
  refine ⟨hread, htold, ?_, ?_⟩
  · have hverdict : .error (.resolution (.unexpectedKind .record "Object/newest")) ∈
        registry.verdicts "com.example.timeline" (.object [("newest", .object [])]) := by
      rw [verdicts, htold]
      exact List.mem_cons_self
    rcases hneed _ _ _ _ hverdict (by decide) with ⟨definition, hfound, hkind⟩ | hrefers
    · have hobject : registry.definition "com.example.timeline" = .ok
          (.object ⟨none, [("newest", .ref none "#post")], [], []⟩) := by cbv
      rw [hobject] at hfound
      cases hfound
      cases hkind
    · exact hrefers
  · exact hplaced timeline hmember _ (hmain List.mem_cons_self) _ (List.mem_singleton_self _)

end Lexicon.Registry
