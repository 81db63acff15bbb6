import Lexicon.Proofs.Conformance.Check
import Lexicon.Proofs.Rules.MimeType

namespace Lexicon

/-!
# References to blobs

The shape of a reference is looked at first, then the size, then the MIME type.

* `BlobRules.Accepts`, `checkBlob_eq_ok_iff` — when a reference is passed;
* `checkBlob_eq_notBlob`, `checkBlob_eq_tooLarge`, `checkBlob_eq_notAccepted` — what is wrong with a
  reference that is not passed;
* `BlobRules.accepts_congr`, `BlobRules.Accepts.of_subset` — other patterns;
* `blobOf?_insert_mimeType` — the rest of a reference does not depend on its MIME type;
* `blob_check_is_exact` — all this for the validator.
-/

/-- The rules for blobs accept a MIME type and a size. -/
def BlobRules.Accepts (rules : BlobRules) (mimeType : String) (size : Nat) : Prop :=
  (∀ max ∈ rules.maxSize, size ≤ max.toNat) ∧
    ∀ patterns ∈ rules.accept, ∃ pattern ∈ patterns, Covers pattern mimeType

/-- The rules admit exactly what they accept by their patterns. -/
theorem BlobRules.admits_iff_accepts {rules : BlobRules} {mimeType : String} {size : Nat} :
    rules.Admits mimeType size ↔ rules.Accepts mimeType size := by
  simp only [Admits, Accepts, mimeMatches_iff]

/-! ### What is wrong with a reference -/

section Faults

variable {registry : Registry} {base : String} {description : Option String} {rules : BlobRules}
  {value : Value} {path : Path} {hops : Nat} {mimeType : String} {size : Nat}

/-- The check of a blob passes for the blobs that the rules accept, and for no other value. -/
theorem checkBlob_eq_ok_iff :
    registry.checkValue base (.blob description rules) value path hops = .ok () ↔
      ∃ mimeType size, value.IsBlob mimeType size ∧ rules.Accepts mimeType size := by
  simp only [Registry.checkBlob_eq_ok, BlobRules.admits_iff_accepts]

/-- A value that is no blob is refused as such, whatever the rules. -/
theorem checkBlob_eq_notBlob (h : ∀ mimeType size, ¬ value.IsBlob mimeType size) :
    registry.checkValue base (.blob description rules) value path hops =
      violates path .notBlob := by
  have hnone : blobOf? value = none := by
    refine Option.eq_none_iff_forall_ne_some.2 fun blob hblob => ?_
    exact h blob.1 blob.2 (blobOf?_eq_some.1 hblob)
  rw [Registry.checkValue, hnone]

/-- Nothing but the rules is looked at once the shape is right. -/
theorem checkBlob_eq_check (h : value.IsBlob mimeType size) :
    registry.checkValue base (.blob description rules) value path hops =
      (rules.check mimeType size).at path := by
  rw [Registry.checkValue, blobOf?_eq_some.2 h]

/-- The size of a blob is judged before its media type. -/
theorem checkBlob_eq_tooLarge (h : value.IsBlob mimeType size) {max : UInt64}
    (hmax : rules.maxSize = some max) (hsize : max.toNat < size) :
    registry.checkValue base (.blob description rules) value path hops =
      violates path (.blobTooLarge max.toNat) := by
  rw [checkBlob_eq_check h, BlobRules.check, hmax, atMost, decide_eq_true hsize]
  rfl

/-- A blob that is not too large is refused if no pattern covers its media type. -/
theorem checkBlob_eq_notAccepted (h : value.IsBlob mimeType size)
    (hsize : ∀ max ∈ rules.maxSize, size ≤ max.toNat) {patterns : List String}
    (haccept : rules.accept = some patterns)
    (hnone : ∀ pattern ∈ patterns, ¬ Covers pattern mimeType) :
    registry.checkValue base (.blob description rules) value path hops =
      violates path (.mimeTypeNotAccepted patterns) := by
  have hfalse : patterns.any (mimeMatches · mimeType) = false := by
    rw [List.any_eq_false]
    exact fun pattern hpattern => mt mimeMatches_iff.1 (hnone pattern hpattern)
  rw [checkBlob_eq_check h, BlobRules.check, atMost_eq_ok.2 hsize, haccept]
  simp only [hfalse]
  rfl

end Faults

/-! ### Other MIME types and other patterns -/

/-- Lists of patterns that differ in case cover the same MIME types, in any case. -/
theorem exists_covers_congr {patterns patterns' : List String} {mimeType mimeType' : String}
    (hpatterns : List.Forall₂ SameButCase patterns patterns')
    (hmimeType : SameButCase mimeType mimeType') :
    (∃ pattern ∈ patterns, Covers pattern mimeType) ↔
      ∃ pattern ∈ patterns', Covers pattern mimeType' := by
  induction hpatterns with
  | nil => simp
  | cons hpattern _ ih => simp only [List.exists_mem_cons_iff, covers_congr hpattern hmimeType, ih]

/-- The case of letters matters neither in the patterns nor in the media type. -/
theorem BlobRules.accepts_congr {rules : BlobRules} {accept : Option (List String)}
    {mimeType mimeType' : String} {size : Nat}
    (haccept : Option.Rel (List.Forall₂ SameButCase) rules.accept accept)
    (hmimeType : SameButCase mimeType mimeType') :
    rules.Accepts mimeType size ↔ { rules with accept := accept }.Accepts mimeType' size := by
  obtain ⟨declared, maxSize⟩ := rules
  refine and_congr_right fun _ => ?_
  cases haccept with
  | none => simp
  | some hpatterns => simpa using exists_covers_congr hpatterns hmimeType

/-- More patterns accept more. -/
theorem BlobRules.Accepts.of_subset {rules : BlobRules} {mimeType : String} {size : Nat}
    (h : rules.Accepts mimeType size) {patterns more : List String}
    (haccept : rules.accept = some patterns) (hsub : patterns ⊆ more) :
    { rules with accept := some more }.Accepts mimeType size := by
  refine ⟨h.1, ?_⟩
  rintro _ ⟨⟩
  obtain ⟨pattern, hpattern, hcovers⟩ := h.2 patterns haccept
  exact ⟨pattern, hsub hpattern, hcovers⟩

/-- The rest of a reference does not depend on its MIME type, as long as there is one. -/
theorem blobOf?_insert_mimeType {fields : List (String × Value)} {mimeType mimeType' : String}
    (hlookup : fields.lookup "mimeType" = some (.string mimeType))
    (hempty : mimeType = "" ↔ mimeType' = "") :
    blobOf? (.object (Assoc.insert fields "mimeType" (.string mimeType'))) =
      (blobOf? (.object fields)).map fun blob => (mimeType', blob.2) := by
  have hother (key : String) (hkey : key ≠ "mimeType") :
      (Assoc.insert fields "mimeType" (.string mimeType')).lookup key = fields.lookup key :=
    Assoc.lookup_insert_of_ne hkey fields _
  have hlength : (Assoc.insert fields "mimeType" (.string mimeType')).length = fields.length := by
    have hkeys := congrArg List.length
      (Assoc.keys_insert_of_mem (Assoc.mem_keys_iff.2 ⟨_, hlookup⟩) (.string mimeType'))
    simpa [Assoc.keys] using hkeys
  -- Of all that the reader looks at, only the media type has changed.
  simp only [blobOf?, hlookup, hlength, Assoc.lookup_insert_self, hother "$type" (by decide),
    hother "ref" (by decide), hother "size" (by decide)]
  split
  · rename_i htype href hmimeType hsize
    cases hmimeType
    simp only [htype, href, hsize, ne_eq, hempty]
    split <;> rfl
  · rename_i hshape
    split
    · rename_i htype href hmimeType hsize
      exact (hshape _ _ _ _ htype href rfl hsize).elim
    · rfl

/-- The entry `mimeType` of a blob holds its media type. -/
theorem Value.IsBlob.lookup_mimeType {fields : List (String × Value)} {mimeType : String}
    {size : Nat} (h : (Value.object fields).IsBlob mimeType size) :
    fields.lookup "mimeType" = some (.string mimeType) := by
  obtain ⟨_, cid, i, ⟨⟩, hperm, -, -⟩ := h
  rw [Assoc.lookup_eq_of_perm hperm (by simp)]
  simp [Assoc.lookup_cons]

/-- The MIME type of a reference may be replaced. -/
theorem Value.isBlob_insert_mimeType_iff {fields : List (String × Value)}
    {mimeType mimeType' : String} {size : Nat}
    (hlookup : fields.lookup "mimeType" = some (.string mimeType))
    (hempty : mimeType = "" ↔ mimeType' = "") :
    (Value.object (Assoc.insert fields "mimeType" (.string mimeType'))).IsBlob mimeType' size ↔
      (Value.object fields).IsBlob mimeType size := by
  rw [← blobOf?_eq_some, blobOf?_insert_mimeType hlookup hempty, Option.map_eq_some_iff]
  simp only [Prod.exists, Prod.mk.injEq, true_and, exists_eq_right, blobOf?_eq_some]
  constructor
  · -- The media type that the blob had before is the one in its entries.
    rintro ⟨given, hvalue⟩
    have hgiven := hvalue.lookup_mimeType
    rw [hlookup, Option.some.injEq, Value.string.injEq] at hgiven
    rwa [hgiven]
  · exact fun hvalue => ⟨mimeType, hvalue⟩

/-! ### The validator -/

/-- **The check of references to blobs is exact.**  A value is passed iff it is a reference whose
    MIME type and size are accepted.  A value of another shape is no reference, a reference that is
    too large is told so whatever its MIME type, and the MIME type comes last.  The case of the MIME
    type and of the patterns does not count, and with more patterns no reference is lost. -/
theorem blob_check_is_exact (registry : Registry) (base : String) (description : Option String)
    (path : Path) (hops : Nat) :
    let check (rules : BlobRules) (value : Value) : Verdict :=
      registry.checkValue base (.blob description rules) value path hops
    (∀ rules value, check rules value = .ok () ↔
      ∃ mimeType size, value.IsBlob mimeType size ∧ rules.Accepts mimeType size) ∧
    (∀ rules value, (∀ mimeType size, ¬ value.IsBlob mimeType size) →
      check rules value = violates path .notBlob) ∧
    (∀ rules value mimeType size max, value.IsBlob mimeType size → rules.maxSize = some max →
      max.toNat < size → check rules value = violates path (.blobTooLarge max.toNat)) ∧
    (∀ rules value mimeType size patterns, value.IsBlob mimeType size →
      (∀ max ∈ rules.maxSize, size ≤ max.toNat) → rules.accept = some patterns →
      (∀ pattern ∈ patterns, ¬ Covers pattern mimeType) →
      check rules value = violates path (.mimeTypeNotAccepted patterns)) ∧
    (∀ rules accept fields mimeType mimeType',
      Option.Rel (List.Forall₂ SameButCase) rules.accept accept →
      fields.lookup "mimeType" = some (.string mimeType) → SameButCase mimeType mimeType' →
      (check { rules with accept := accept }
        (.object (Assoc.insert fields "mimeType" (.string mimeType'))) = .ok () ↔
        check rules (.object fields) = .ok ())) ∧
    ∀ rules value patterns more, rules.accept = some patterns → patterns ⊆ more →
      check rules value = .ok () → check { rules with accept := some more } value = .ok () := by
  intro check
  refine ⟨fun _ _ => checkBlob_eq_ok_iff, fun _ _ => checkBlob_eq_notBlob,
    fun _ _ _ _ _ hvalue => checkBlob_eq_tooLarge hvalue,
    fun _ _ _ _ _ hvalue hsize => checkBlob_eq_notAccepted hvalue hsize, ?_, ?_⟩
  · -- With another spelling of its media type, a blob is a blob of the same size.
    intro rules accept fields mimeType mimeType' haccept hlookup hcase
    have hvalue (size : Nat) :
        (Value.object (Assoc.insert fields "mimeType" (.string mimeType'))).IsBlob mimeType' size ↔
          (Value.object fields).IsBlob mimeType size :=
      Value.isBlob_insert_mimeType_iff hlookup hcase.eq_empty_iff
    rw [checkBlob_eq_ok_iff, checkBlob_eq_ok_iff]
    constructor
    · rintro ⟨text, size, hblob, haccepts⟩
      have htext := hblob.lookup_mimeType
      rw [Assoc.lookup_insert_self, Option.some.injEq, Value.string.injEq] at htext
      subst htext
      exact ⟨mimeType, size, (hvalue size).1 hblob,
        (BlobRules.accepts_congr haccept hcase).2 haccepts⟩
    · rintro ⟨text, size, hblob, haccepts⟩
      have htext := hblob.lookup_mimeType
      rw [hlookup, Option.some.injEq, Value.string.injEq] at htext
      subst htext
      exact ⟨mimeType', size, (hvalue size).2 hblob,
        (BlobRules.accepts_congr haccept hcase).1 haccepts⟩
  · intro rules value patterns more haccept hsub hok
    obtain ⟨mimeType, size, hvalue, haccepts⟩ := checkBlob_eq_ok_iff.1 hok
    exact checkBlob_eq_ok_iff.2 ⟨mimeType, size, hvalue, haccepts.of_subset haccept hsub⟩

/-- A photo that is as large as it may be, with its keys in an unusual order. -/
theorem blob_check_is_exact_photo :
    let photo (mimeType : String) (size : Value) : List (String × Value) :=
      [("size", size), ("$type", .string "blob"), ("mimeType", .string mimeType),
        ("ref", .link "bafkreib")]
    let rules : BlobRules := { accept := some ["image/*"], maxSize := some 100 }
    let check (rules : BlobRules) (fields : List (String × Value)) : Verdict :=
      Registry.checkValue {} "" (.blob none rules) (.object fields) "Photo" 0
    check rules (photo "Image/png" (.integer 100)) = .ok () ∧
      check rules (photo "image/png" (.float ⟨0x4059000000000000⟩)) = violates "Photo" .notBlob ∧
      check rules (photo "video/mp4" (.integer 101)) = violates "Photo" (.blobTooLarge 100) ∧
      check rules (photo "video/mp4" (.integer 100)) =
        violates "Photo" (.mimeTypeNotAccepted ["image/*"]) ∧
      check { rules with accept := some ["IMAGE/*"] } (photo "image/PNG" (.integer 100)) = .ok () ∧
      check { rules with accept := some ["video/*", "image/*"] }
        (photo "Image/png" (.integer 100)) = .ok () := by
  intro photo rules check
  obtain ⟨hok, hshape, hsize, htype, hcase, hmore⟩ :=
    blob_check_is_exact {} "" none "Photo" 0
  have hphoto : (Value.object (photo "Image/png" (.integer 100))).IsBlob "Image/png" 100 :=
    blobOf?_eq_some.1 (by decide)
  have hlarge : (Value.object (photo "video/mp4" (.integer 101))).IsBlob "video/mp4" 101 :=
    blobOf?_eq_some.1 (by decide)
  have hvideo : (Value.object (photo "video/mp4" (.integer 100))).IsBlob "video/mp4" 100 :=
    blobOf?_eq_some.1 (by decide)
  have hnone : blobOf? (.object (photo "image/png" (.float ⟨0x4059000000000000⟩))) = none := by
    decide
  have hmax : ∀ max ∈ rules.maxSize, 100 ≤ max.toNat := by
    rintro _ ⟨⟩
    decide
  have haccepted : check rules (photo "Image/png" (.integer 100)) = .ok () := by
    refine (hok _ _).2 ⟨_, _, hphoto, hmax, ?_⟩
    rintro _ ⟨⟩
    exact ⟨"image/*", List.mem_cons_self, mimeMatches_iff.1 (by decide)⟩
  have hpatterns : Option.Rel (List.Forall₂ SameButCase) rules.accept (some ["IMAGE/*"]) :=
    .some (.cons (sameButCase_iff.2 (by decide)) .nil)
  refine ⟨haccepted, hshape _ _ ?_, hsize _ _ _ _ 100 hlarge rfl (by decide),
    htype _ _ _ _ _ hvideo hmax rfl ?_, ?_, ?_⟩
  · intro mimeType size hblob
    rw [blobOf?_eq_some.2 hblob] at hnone
    cases hnone
  · intro pattern hpattern
    rw [List.mem_singleton.1 hpattern, ← mimeMatches_iff]
    decide
  · exact (hcase rules _ (photo "Image/png" (.integer 100)) _ "image/PNG" hpatterns rfl
      (sameButCase_iff.2 (by decide))).2 haccepted
  · exact hmore rules _ _ _ rfl (by decide) haccepted

end Lexicon
