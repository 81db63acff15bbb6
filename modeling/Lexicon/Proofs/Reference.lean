import Lexicon.Proofs.Text.Split
import Lexicon.Reference

namespace Lexicon

open Lexicon.Text

/-!
# References and their canonical form

* `IsReferencePart` — a text that can stand on one side of the `#` of a reference;
* `Address.Spells`, `Address.spells_of_parse`, `Address.parse_of_spells` — the three spellings of an
  address, and that a reference is read as what it spells;
* `Address.IsProper`, `Address.isProper_of_parse` — what references are read as has such parts;
* `Address.parse_render` — a canonical reference is read as the address it was written for, wherever
  it stands;
* `canonicalReference`, `parse_canonicalReference` — a reference may be replaced by the canonical
  one without change of meaning, failures included.
-/

/-- A text that can stand on one side of the `#` of a reference. -/
def IsReferencePart (s : String) : Prop :=
  s ≠ "" ∧ '#' ∉ s.toList

/-- Characters without a hash among them are part of a reference, if there are any. -/
theorem isReferencePart_ofList {cs : List Char} (hne : cs ≠ []) (hhash : '#' ∉ cs) :
    IsReferencePart (.ofList cs) := by
  refine ⟨fun h => hne ?_, ?_⟩
  · have := congrArg String.toList h
    simpa using this
  · rwa [String.toList_ofList]

/-- No part of a reference is empty. -/
theorem IsReferencePart.isEmpty_toList {s : String} (h : IsReferencePart s) :
    s.toList.isEmpty = false := by
  rw [List.isEmpty_eq_false_iff]
  exact mt String.toList_eq_nil_iff.1 h.1

/-- The characters of a document and a name with a `#` between them. -/
theorem toList_parts (document name : String) :
    (document ++ "#" ++ name).toList = document.toList ++ '#' :: name.toList := by
  rw [String.toList_append, String.toList_append, List.append_assoc]
  rfl

namespace Address

/-- An address that a reference can stand for. -/
structure IsProper (address : Address) : Prop where
  document : IsReferencePart address.document
  name : IsReferencePart address.name

theorem isReferencePart_mainName : IsReferencePart mainName := by
  unfold IsReferencePart mainName
  decide

/-! ### The mark of references -/

/-- The mark of references is taken off once. -/
theorem dropReferenceMark_append (s : String) : dropReferenceMark ("lex:" ++ s) = s.toList := by
  have hmark : ("lex:" ++ s).toList = referenceMark ++ s.toList := String.toList_append
  rw [dropReferenceMark, hmark, dropStart?_append, Option.getD_some]

/-- A text that does not start with the mark is left as it is. -/
theorem dropReferenceMark_of_not_prefix {s : String} (h : ¬ referenceMark <+: s.toList) :
    dropReferenceMark s = s.toList := by
  unfold dropReferenceMark
  cases hdrop : dropStart? referenceMark s.toList with
  | none => rfl
  | some rest => exact absurd ⟨rest, (eq_append_of_dropStart? hdrop).symm⟩ h

/-- The mark has a colon in it. -/
theorem colon_mem_referenceMark : ':' ∈ referenceMark := by
  decide

/-- A text without a colon does not start with the mark. -/
theorem dropReferenceMark_of_colon_not_mem {s : String} (h : ':' ∉ s.toList) :
    dropReferenceMark s = s.toList :=
  dropReferenceMark_of_not_prefix fun hmark => h (hmark.mem colon_mem_referenceMark)

/-- Nor does a text whose first part is such, whatever comes behind the `#`. -/
theorem dropReferenceMark_of_parts {s : String} {before after : List Char}
    (hparts : s.toList = before ++ '#' :: after) (h : ':' ∉ before) :
    dropReferenceMark s = s.toList := by
  refine dropReferenceMark_of_not_prefix fun hmark => ?_
  have hbefore : before ++ ['#'] <+: s.toList := ⟨after, by rw [hparts]; simp⟩
  rcases List.prefix_or_prefix_of_prefix hmark hbefore with hprefix | hprefix
  · have hcolon : ':' ∈ before ++ ['#'] := hprefix.mem colon_mem_referenceMark
    simp [h] at hcolon
  · have hhash : '#' ∈ referenceMark := hprefix.mem (by simp)
    revert hhash
    decide

/-- A text without a hash has none behind the mark either. -/
theorem hash_not_mem_dropReferenceMark {s : String} (h : '#' ∉ s.toList) :
    '#' ∉ dropReferenceMark s := by
  unfold dropReferenceMark
  cases hdrop : dropStart? referenceMark s.toList with
  | none => exact h
  | some rest =>
    rw [eq_append_of_dropStart? hdrop] at h
    exact fun hmem => h (List.mem_append_right _ hmem)

/-! ### What references are read as -/

/-- How an address is spelled, the mark apart: as its document, as its document and its name, or, in
    the document that it belongs to, as its name alone. -/
inductive Spells (base : Option String) : List Char → Address → Prop where
  | main {document} : IsReferencePart document →
      Spells base document.toList ⟨document, mainName⟩
  | definition {document name} : IsReferencePart document → IsReferencePart name →
      Spells base (document.toList ++ '#' :: name.toList) ⟨document, name⟩
  | here {document name} : base = some document → IsReferencePart name →
      Spells base ('#' :: name.toList) ⟨document, name⟩

variable {reference : String} {base : Option String} {address : Address}

/-- What a reference is read as is what it spells. -/
theorem spells_of_parse (h : parse reference base = .ok address) :
    Spells base (dropReferenceMark reference) address := by
  unfold parse at h
  generalize dropReferenceMark reference = cs at h ⊢
  have hpieces (piece : List Char) (hmem : piece ∈ splitOn '#' cs) : '#' ∉ piece :=
    not_mem_of_mem_splitOn hmem
  have hjoined : ['#'].intercalate (splitOn '#' cs) = cs := intercalate_splitOn
  split at h
  · -- Nothing but a document: the name is that of the main definition.
    rename_i document hsplit
    rw [hsplit] at hpieces hjoined
    rw [← hjoined, List.intercalate_singleton]
    split at h
    · cases h
    · rename_i hdocument
      cases h
      rw [List.isEmpty_iff] at hdocument
      have hpart : IsReferencePart (.ofList document) :=
        isReferencePart_ofList hdocument (hpieces _ List.mem_cons_self)
      have hspells : Spells base (String.ofList document).toList _ := .main hpart
      rwa [String.toList_ofList] at hspells
  · rename_i document name hsplit
    rw [hsplit] at hpieces hjoined
    split at h
    · cases h
    · rename_i found hfound
      split at h
      · cases h
      · rename_i hname
        cases h
        rw [List.isEmpty_iff] at hname
        have hnamePart : IsReferencePart (.ofList name) :=
          isReferencePart_ofList hname (hpieces _ (by simp))
        rw [List.intercalate_cons_cons, List.intercalate_singleton, List.append_assoc,
          List.singleton_append] at hjoined
        rw [← hjoined]
        -- The document is named, or it is the one that the reference stands in.
        by_cases hdocument : document.isEmpty
        · rw [if_pos hdocument] at hfound
          rw [List.isEmpty_iff] at hdocument
          have hspells : Spells base ('#' :: (String.ofList name).toList) _ :=
            .here hfound hnamePart
          rwa [String.toList_ofList, ← List.nil_append ('#' :: name), ← hdocument] at hspells
        · rw [if_neg hdocument, Option.some.injEq] at hfound
          rw [List.isEmpty_iff] at hdocument
          have hdocumentPart : IsReferencePart (.ofList document) :=
            isReferencePart_ofList hdocument (hpieces _ List.mem_cons_self)
          have hspells : Spells base
              ((String.ofList document).toList ++ '#' :: (String.ofList name).toList) _ :=
            .definition hdocumentPart hnamePart
          rwa [String.toList_ofList, String.toList_ofList, hfound] at hspells
  · cases h

/-- A reference is read as what it spells. -/
theorem parse_of_spells (h : Spells base (dropReferenceMark reference) address) :
    parse reference base = .ok address := by
  unfold parse
  -- Nothing but the characters behind the mark matters.
  generalize dropReferenceMark reference = cs at h ⊢
  cases h with
  | main hdocument =>
    rw [splitOn_of_not_mem hdocument.2]
    simp only [hdocument.isEmpty_toList, Bool.false_eq_true, if_false, String.ofList_toList]
  | definition hdocument hname =>
    rw [splitOn_append_cons hdocument.2, splitOn_of_not_mem hname.2]
    simp only [hdocument.isEmpty_toList, hname.isEmpty_toList, Bool.false_eq_true, if_false,
      String.ofList_toList]
  | here hbase hname =>
    rw [← List.nil_append ('#' :: _), splitOn_append_cons List.not_mem_nil,
      splitOn_of_not_mem hname.2]
    simp only [List.isEmpty_nil, hname.isEmpty_toList, Bool.false_eq_true, if_false, if_true,
      hbase, String.ofList_toList]

/-- What a reference is read as is proper, if the document that it stands in is. -/
theorem isProper_of_parse (hbase : ∀ b ∈ base, IsReferencePart b)
    (h : parse reference base = .ok address) : address.IsProper := by
  replace h := spells_of_parse h
  generalize dropReferenceMark reference = cs at h
  cases h with
  | main hdocument => exact ⟨hdocument, isReferencePart_mainName⟩
  | definition hdocument hname => exact ⟨hdocument, hname⟩
  | here hdocument hname => exact ⟨hbase _ hdocument, hname⟩

/-- Wherever a reference stands, it leads to no name that could not stand behind a `#`. -/
theorem isReferencePart_name_of_parse (h : parse reference base = .ok address) :
    IsReferencePart address.name := by
  replace h := spells_of_parse h
  generalize dropReferenceMark reference = cs at h
  cases h with
  | main _ => exact isReferencePart_mainName
  | definition _ hname | here _ hname => exact hname

/-- A reference without a `#` stands for the main definition of a document, if it names any. -/
theorem parse_of_hash_not_mem (h : '#' ∉ reference.toList) :
    parse reference base =
      if (dropReferenceMark reference).isEmpty then .error (.noDocument reference)
      else .ok ⟨.ofList (dropReferenceMark reference), mainName⟩ := by
  unfold parse
  rw [splitOn_of_not_mem (hash_not_mem_dropReferenceMark h)]

/-! ### Canonical references -/

/-- A canonical reference is read as the address it was written for, wherever it stands. -/
theorem parse_render (h : address.IsProper) (base : Option String) :
    parse address.render base = .ok address := by
  obtain ⟨document, name⟩ := address
  obtain ⟨hdocument, hname⟩ := h
  apply parse_of_spells
  unfold render isMain
  by_cases hmain : name = mainName
  · -- The main definition goes by its document alone.
    rw [if_pos (beq_iff_eq.2 hmain), dropReferenceMark_append, hmain]
    exact .main hdocument
  · have htext : "lex:" ++ document ++ "#" ++ name = "lex:" ++ (document ++ "#" ++ name) := by
      simp only [String.append_assoc]
    rw [if_neg (mt beq_iff_eq.1 hmain), htext, dropReferenceMark_append, toList_parts]
    exact .definition hdocument hname

/-- Different addresses have different canonical references. -/
theorem render_injective {first second : Address} (hfirst : first.IsProper)
    (hsecond : second.IsProper) (h : first.render = second.render) : first = second := by
  have hparse := parse_render hfirst none
  rw [h, parse_render hsecond none] at hparse
  exact (Except.ok.inj hparse).symm

end Address

/-- The canonical form of a reference that stands in the document `base`; one that stands for
    nothing is left as it is. -/
def canonicalReference (base reference : String) : String :=
  match Address.parse reference (some base) with
  | .ok address => address.render
  | .error _ => reference

/-- A reference and its canonical form mean the same, failures included. -/
theorem parse_canonicalReference {base : String} (hbase : IsReferencePart base)
    (reference : String) :
    Address.parse (canonicalReference base reference) (some base) =
      Address.parse reference (some base) := by
  unfold canonicalReference
  cases hparse : Address.parse reference (some base) with
  | error error => exact hparse
  | ok address =>
    have hproper : address.IsProper := by
      refine Address.isProper_of_parse (fun b hb => ?_) hparse
      rw [Option.mem_def, Option.some.injEq] at hb
      exact hb ▸ hbase
    exact Address.parse_render hproper (some base)

end Lexicon
