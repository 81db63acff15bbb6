import Lexicon.Identifier.RecordKey
import Lexicon.Proofs.Identifier.Account
import Lexicon.Proofs.Identifier.Nsid
import Lexicon.Proofs.Text.Sequence

namespace Lexicon.Nsid

open Lexicon.Text
open scoped Computability

/-!
# Namespaced identifiers

All labels of a namespaced identifier look the same, but the last one may be twice as long as the
others.  Which of the labels is the last is settled by the dots alone.

* `IsNsid`, `isValid_iff` — three or more labels between dots;
* `pattern`, `mem_pattern` — the same as a pattern, with the dots in front of the labels;
* `isValid_recordKey`, `isValid_handle` — where else an identifier may stand;
* `namespaced_identifiers_are_recognised` — all this of any text.
-/

/-- A namespaced identifier: at most 382 bytes, and at least three labels between dots that start
    with letters, of at most 63 characters each but for the last, which may have 128. -/
structure IsNsid (s : String) : Prop where
  size_le : s.utf8ByteSize ≤ 382
  three_le : 3 ≤ (s.toList.splitOn '.').length
  domain : ∀ label ∈ (s.toList.splitOn '.').dropLast, Label.IsLabel 63 label
  name : ∀ label ∈ (s.toList.splitOn '.').getLast?, Label.IsLabel 128 label
  letters : ∀ label ∈ s.toList.splitOn '.', ∀ c ∈ label.head?, c.isAlpha = true

/-- The pattern of namespaced identifiers: a label, one or more labels behind dots, and behind
    another dot a label that may be longer. -/
def pattern : Language Char :=
  Label.pattern Char.isAlpha 61 * atLeastOnce ({['.']} * Label.pattern Char.isAlpha 61) *
    ({['.']} * Label.pattern Char.isAlpha 126)

variable {s : String} {cs label name : List Char} {labels : List (List Char)} {max : Nat}

/-! ### Labels -/

/-- Labels of namespaced identifiers start with letters. -/
theorem isLabel_iff : isLabel max label = true ↔
    Label.IsLabel max label ∧ ∀ c ∈ label.head?, c.isAlpha = true := by
  rw [isLabel, Label.startsWithLetter, Bool.and_eq_true, Label.isValid_iff, Label.any_eq_true_iff]
  refine and_congr_right fun hlabel => and_iff_right ?_
  exact mt List.head?_eq_none_iff.1 (List.length_pos_iff.1 hlabel.length_pos)

/-- Labels of the pattern are those that start with a letter. -/
theorem mem_labelPattern {inner : Nat} :
    label ∈ Label.pattern Char.isAlpha inner ↔ isLabel (inner + 2) label = true := by
  rw [isLabel_iff]
  exact Label.mem_pattern fun c hc => by rw [Char.isAlphanum, hc, Bool.true_or]

/-- The labels of an identifier, with the name set apart. -/
theorem areLabels_concat : areLabels (labels ++ [name]) = true ↔
    2 ≤ labels.length ∧ (∀ label ∈ labels, isLabel 63 label = true) ∧ isLabel 128 name = true := by
  have hlength : 3 ≤ (labels ++ [name]).length ↔ 2 ≤ labels.length := by
    rw [List.length_append, List.length_singleton, Nat.succ_le_succ_iff]
  rw [areLabels, maxLabel, maxName, List.dropLast_concat, List.getLast?_concat, Option.any_some,
    Bool.and_eq_true, Bool.and_eq_true, decide_eq_true_eq, List.all_eq_true, and_assoc, hlength]

/-- A text has a last label. -/
theorem exists_splitOn_eq_concat (cs : List Char) :
    ∃ labels name, cs.splitOn '.' = labels ++ [name] := by
  obtain hnil | ⟨labels, name, hsplit⟩ := List.eq_nil_or_concat (cs.splitOn '.')
  · exact absurd hnil (List.splitOn_ne_nil _ _)
  · exact ⟨labels, name, by rw [hsplit, List.concat_eq_append]⟩

/-- A text is an identifier by its size and by its labels. -/
theorem isValid_iff_areLabels :
    isValid s = true ↔ s.utf8ByteSize ≤ 382 ∧ areLabels (s.toList.splitOn '.') = true := by
  rw [isValid, maxBytes, maxName, splitOn_eq_splitOn, Bool.and_eq_true, decide_eq_true_eq]

/-- Namespaced identifiers are texts of three labels or more, the last of which is a name. -/
theorem isValid_iff : isValid s = true ↔ IsNsid s := by
  -- All labels but the last are judged alike; the last one may be longer.
  obtain ⟨labels, name, hsplit⟩ := exists_splitOn_eq_concat s.toList
  have hlength : (labels ++ [name]).length = labels.length + 1 := by simp
  rw [isValid_iff_areLabels, hsplit, areLabels_concat]
  simp only [isLabel_iff]
  constructor
  · rintro ⟨hsize, htwo, hlabels, hname, hletter⟩
    refine ⟨hsize, ?_, ?_, ?_, ?_⟩ <;> rw [hsplit]
    · omega
    · rw [List.dropLast_concat]
      exact fun label hlabel => (hlabels label hlabel).1
    · rw [List.getLast?_concat]
      simpa using hname
    · exact List.forall_mem_append.2 ⟨fun label hlabel => (hlabels label hlabel).2, by simpa⟩
  · rintro ⟨hsize, hthree, hdomain, hname, hletters⟩
    rw [hsplit] at hthree hdomain hname hletters
    rw [List.dropLast_concat] at hdomain
    rw [List.forall_mem_append] at hletters
    refine ⟨hsize, by omega, fun label hlabel => ?_, ?_, ?_⟩
    · exact ⟨hdomain label hlabel, hletters.1 label hlabel⟩
    · exact hname name List.getLast?_concat
    · exact hletters.2 name List.mem_cons_self

/-! ### The pattern -/

/-- No label that starts with a letter has a dot in it. -/
theorem dot_not_mem (h : isLabel max label = true) : '.' ∉ label :=
  (isLabel_iff.1 h).1.not_mem (by decide) (by decide)

/-- The texts of the pattern are a first label, and at least two more behind dots. -/
theorem mem_pattern_iff_exists : cs ∈ pattern ↔
    ∃ first middle name, cs = first ++ behind '.' (middle ++ [name]) ∧ middle ≠ [] ∧
      (∀ label ∈ first :: middle, isLabel 63 label = true) ∧ isLabel 128 name = true := by
  unfold pattern
  constructor
  · rintro ⟨front, ⟨first, hfirst, more, hmore, rfl⟩, rest, hrest, rfl⟩
    obtain ⟨middle, hne, hmiddle, rfl⟩ := mem_atLeastOnce_behind.1 hmore
    obtain ⟨name, hname, rfl⟩ := mem_behind.1 hrest
    refine ⟨first, middle, name, ?_, hne, ?_, mem_labelPattern.1 hname⟩
    · rw [behind_append, ← List.append_assoc]
    · rw [List.forall_mem_cons]
      exact ⟨mem_labelPattern.1 hfirst,
        fun label hlabel => mem_labelPattern.1 (hmiddle label hlabel)⟩
  · rintro ⟨first, middle, name, rfl, hne, hlabels, hname⟩
    obtain ⟨hfirst, hmiddle⟩ := List.forall_mem_cons.1 hlabels
    rw [behind_append, ← List.append_assoc]
    refine Language.append_mem_mul (Language.append_mem_mul (mem_labelPattern.2 hfirst) ?_) ?_
    · exact mem_atLeastOnce_behind.2
        ⟨middle, hne, fun label hlabel => mem_labelPattern.2 (hmiddle label hlabel), rfl⟩
    · exact mem_behind.2 ⟨name, mem_labelPattern.2 hname, rfl⟩

/-- The identifiers, their size apart, are the texts of the pattern. -/
theorem mem_pattern : cs ∈ pattern ↔ areLabels (cs.splitOn '.') = true := by
  rw [mem_pattern_iff_exists]
  constructor
  · rintro ⟨first, middle, name, hcs, hne, hlabels, hname⟩
    have hdots : ∀ label ∈ first :: (middle ++ [name]), '.' ∉ label := by
      rw [← List.cons_append, List.forall_mem_append, List.forall_mem_singleton]
      exact ⟨fun label hlabel => dot_not_mem (hlabels label hlabel), dot_not_mem hname⟩
    -- The dots of the pattern are all the dots of the text.
    rw [(splitOn_eq_cons_iff hdots).2 hcs, ← List.cons_append, areLabels_concat]
    have hpos := List.length_pos_iff.2 hne
    exact ⟨by rw [List.length_cons]; omega, hlabels, hname⟩
  · intro h
    obtain ⟨labels, name, hsplit⟩ := exists_splitOn_eq_concat cs
    rw [hsplit, areLabels_concat] at h
    obtain ⟨htwo, hlabels, hname⟩ := h
    cases labels with
    | nil => cases htwo
    | cons first middle =>
      rw [List.length_cons] at htwo
      refine ⟨first, middle, name, ?_, List.length_pos_iff.1 (by omega), hlabels, hname⟩
      rw [← intercalate_cons, ← List.cons_append, ← hsplit, List.intercalate_splitOn]

/-! ### Where identifiers may stand -/

/-- A text has no more characters than bytes. -/
theorem length_toList_le (s : String) : s.toList.length ≤ s.utf8ByteSize := by
  refine String.push_induction s (fun s => s.toList.length ≤ s.utf8ByteSize) le_rfl ?_
  intro front c hfront
  have hsize := c.utf8Size_pos
  rw [String.toList_push, List.length_append, List.length_singleton, String.utf8ByteSize_push]
  omega

/-- Records may be stored under identifiers. -/
theorem isValid_recordKey (h : isValid s = true) : RecordKey.isValid s = true := by
  -- The two names that no record may have are too short for three labels.
  have hone : s ≠ "." := by
    rintro rfl
    revert h
    decide
  have htwo : s ≠ ".." := by
    rintro rfl
    revert h
    decide
  have hne : s.toList ≠ [] := mt String.toList_eq_nil_iff.1 (isReferencePart h).1
  have hlength : s.toList.length ≤ 512 := by
    have hsize := (isValid_iff.1 h).size_le
    have hbytes := length_toList_le s
    omega
  -- Letters, digits, hyphens and dots may stand in a key.
  have hchars : ∀ c ∈ s.toList, RecordKey.isKeyChar c = true := by
    intro c hc
    unfold RecordKey.isKeyChar
    rcases eq_dot_or_isLabelChar h hc with rfl | hlabel
    · decide
    · rcases Label.isLabelChar_iff.1 hlabel with halphanum | rfl
      · simp [halphanum]
      · decide
  unfold RecordKey.isValid RecordKey.maxLength
  simp only [Bool.and_eq_true, bne_iff_ne, Bool.not_eq_true', List.isEmpty_eq_false_iff,
    decide_eq_true_eq, List.all_eq_true]
  exact ⟨⟨⟨⟨hone, htwo⟩, hne⟩, hlength⟩, hchars⟩

/-- An identifier is a handle if it is short enough, and so is its name: the last label of a handle
    has to start with a letter, which all labels of an identifier do. -/
theorem isValid_handle (h : isValid s = true) (hsize : s.utf8ByteSize ≤ 253)
    (hname : ∀ label ∈ (s.toList.splitOn '.').getLast?, label.length ≤ 63) :
    Handle.isValid s = true := by
  obtain ⟨-, hthree, hdomain, hlong, hletters⟩ := isValid_iff.1 h
  rw [Handle.isValid_iff]
  refine ⟨hsize, by omega, ?_, fun label hlabel => hletters label (List.mem_of_getLast? hlabel)⟩
  obtain ⟨labels, name, hsplit⟩ := exists_splitOn_eq_concat s.toList
  rw [hsplit] at hdomain hlong hname ⊢
  rw [List.dropLast_concat] at hdomain
  have hshort : Label.IsLabel 63 name :=
    { hlong name List.getLast?_concat with length_le := hname name List.getLast?_concat }
  exact List.forall_mem_append.2 ⟨hdomain, List.forall_mem_singleton.2 hshort⟩

/-- **Namespaced identifiers are recognised exactly.**  A text is recognised iff it has the labels
    of an identifier, and also iff it is short enough and fits the pattern.  Every identifier is the
    key of a record, and a handle as well unless it is too long or its name is. -/
theorem namespaced_identifiers_are_recognised (s : String) :
    (isValid s = true ↔ IsNsid s) ∧
    (isValid s = true ↔ s.utf8ByteSize ≤ 382 ∧ s.toList ∈ pattern) ∧
    (isValid s = true → RecordKey.isValid s = true) ∧
    (isValid s = true → s.utf8ByteSize ≤ 253 →
      (∀ label ∈ (s.toList.splitOn '.').getLast?, label.length ≤ 63) → Handle.isValid s = true) := by
  refine ⟨isValid_iff, ?_, isValid_recordKey, isValid_handle⟩
  rw [isValid_iff_areLabels, mem_pattern]

/-- A name of 63 characters, which is as long as a handle allows. -/
theorem namespaced_identifiers_are_recognised_long :
    let s := "com.example." ++ String.ofList (List.replicate 63 'a')
    isValid s = true ∧ RecordKey.isValid s = true ∧ s.utf8ByteSize ≤ 253 ∧
      (∀ label ∈ (s.toList.splitOn '.').getLast?, label.length ≤ 63) ∧ Handle.isValid s = true := by
  intro s
  obtain ⟨-, -, hkey, hhandle⟩ := namespaced_identifiers_are_recognised s
  have hvalid : isValid s = true := by decide
  have hsize : s.utf8ByteSize ≤ 253 := by decide
  have hname : ∀ label ∈ (s.toList.splitOn '.').getLast?, label.length ≤ 63 := by decide
  exact ⟨hvalid, hkey hvalid, hsize, hname, hhandle hvalid hsize hname⟩

end Lexicon.Nsid
