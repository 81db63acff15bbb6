import Mathlib.Data.List.TakeWhile
import Lexicon.Proofs.Reference

namespace Lexicon.Address

open Lexicon.Text

/-!
# Which references stand for an address

* `Unmarked`, `unmarked_iff` — the characters of a reference behind the one mark that it may have in
  front;
* `IsReadable` — what is asked of these characters, without any cutting into parts;
* `exists_spells_iff`, `exists_parse_iff` — they spell an address, and so the reference is read,
  exactly when they are readable;
* `reading_and_rendering_are_inverse` — readable references, and canonical ones among them, as a
  whole.
-/

/-- The characters of a reference behind the one mark that it may have in front. -/
inductive Unmarked : String → List Char → Prop where
  | marked {reference rest} : reference.toList = "lex:".toList ++ rest → Unmarked reference rest
  | plain {reference} : ¬ "lex:".toList <+: reference.toList → Unmarked reference reference.toList

/-- The characters of a reference that stands for an address: at most one `#`, a name behind it, and
    a document in front, which only the place of the reference can be instead of. -/
structure IsReadable (base : Option String) (rest : List Char) : Prop where
  hashes : rest.count '#' ≤ 1
  name : ∀ before after, rest = before ++ '#' :: after → after ≠ []
  document : rest.takeWhile (· ≠ '#') ≠ [] ∨ base.isSome ∧ '#' ∈ rest

variable {reference : String} {base : Option String} {rest : List Char}

/-- What is left behind the mark is what the parser goes on with. -/
theorem unmarked_iff : Unmarked reference rest ↔ rest = dropReferenceMark reference := by
  have hmark : "lex:".toList = referenceMark := by decide
  constructor
  · intro h
    cases h with
    | marked htext =>
      have hreference : reference = "lex:" ++ String.ofList rest := by
        rw [← String.toList_inj, String.toList_append, String.toList_ofList (l := rest), htext]
      rw [hreference, dropReferenceMark_append, String.toList_ofList]
    | plain hplain =>
      have hdrop := dropReferenceMark_of_not_prefix (hmark ▸ hplain)
      exact hdrop.symm
  · rintro rfl
    -- A second mark stays: what is behind the first one is not looked at.
    by_cases hprefix : referenceMark <+: reference.toList
    · obtain ⟨rest, hrest⟩ := hprefix
      refine .marked ?_
      rw [hmark, dropReferenceMark, ← hrest, dropStart?_append, Option.getD_some]
    · have hdrop := dropReferenceMark_of_not_prefix hprefix
      rw [hdrop]
      exact .plain (hmark ▸ hprefix)

/-! ### Readable characters spell an address -/

/-- In front of the first `#` stands the part without one. -/
theorem takeWhile_part {before : List Char} (h : '#' ∉ before) (after : List Char) :
    (before ++ '#' :: after).takeWhile (· ≠ '#') = before := by
  have hbefore : ∀ c ∈ before, decide (c ≠ '#') = true := fun c hc =>
    decide_eq_true (ne_of_mem_of_not_mem hc h)
  rw [List.takeWhile_append_of_pos hbefore, List.takeWhile_cons_of_neg (by decide),
    List.append_nil]

theorem takeWhile_of_hash_not_mem (h : '#' ∉ rest) : rest.takeWhile (· ≠ '#') = rest :=
  List.takeWhile_eq_self_iff.2 fun _ hc => decide_eq_true (ne_of_mem_of_not_mem hc h)

/-- Characters without a `#` are readable as a document. -/
theorem isReadable_of_hash_not_mem (h : '#' ∉ rest) : IsReadable base rest ↔ rest ≠ [] := by
  constructor
  · intro hreadable
    rcases hreadable.document with hdocument | ⟨-, hhash⟩
    · rwa [takeWhile_of_hash_not_mem h] at hdocument
    · exact absurd hhash h
  · intro hne
    refine ⟨?_, ?_, .inl ?_⟩
    · rw [List.count_eq_zero_of_not_mem h]
      exact Nat.zero_le 1
    · rintro before after rfl
      exact absurd (List.mem_append_right _ List.mem_cons_self) h
    · rwa [takeWhile_of_hash_not_mem h]

/-- Characters with a `#` are readable as a document, which may be that of their place, and a
    name. -/
theorem isReadable_parts {before after : List Char} (h : '#' ∉ before) :
    IsReadable base (before ++ '#' :: after) ↔
      (before ≠ [] ∨ base.isSome) ∧ after ≠ [] ∧ '#' ∉ after := by
  have hmem : '#' ∈ before ++ '#' :: after := List.mem_append_right _ List.mem_cons_self
  have hcount : (before ++ '#' :: after).count '#' = after.count '#' + 1 := by
    rw [List.count_append, List.count_eq_zero_of_not_mem h, List.count_cons_self, Nat.zero_add]
  constructor
  · rintro ⟨hhashes, hname, hdocument⟩
    rw [takeWhile_part h] at hdocument
    refine ⟨hdocument.imp_right And.left, hname before after rfl, ?_⟩
    -- The one `#` that may be there is the one in front of the name.
    rw [hcount] at hhashes
    exact List.count_eq_zero.1 (by omega)
  · rintro ⟨hdocument, hname, hafter⟩
    refine ⟨?_, ?_, ?_⟩
    · rw [hcount, List.count_eq_zero_of_not_mem hafter]
    · -- There is but one `#` to cut at.
      intro before' after' hcut
      have hone : '#' ∉ before' := by
        have hcount' := congrArg (List.count '#') hcut
        rw [hcount, List.count_append, List.count_cons_self,
          List.count_eq_zero_of_not_mem hafter] at hcount'
        exact List.count_eq_zero.1 (by omega)
      have hsame : before = before' := by
        rw [← takeWhile_part h after, hcut, takeWhile_part hone]
      rw [hsame, List.append_cancel_left_eq, List.cons.injEq] at hcut
      exact hcut.2 ▸ hname
    · rw [takeWhile_part h]
      exact hdocument.imp_right fun hbase => ⟨hbase, hmem⟩

/-- The characters that spell an address are the readable ones. -/
theorem exists_spells_iff : (∃ address, Spells base rest address) ↔ IsReadable base rest := by
  have hpart {part : String} (h : IsReferencePart part) : part.toList ≠ [] :=
    mt String.toList_eq_nil_iff.1 h.1
  constructor
  · rintro ⟨address, hspells⟩
    cases hspells with
    | main hdocument => exact (isReadable_of_hash_not_mem hdocument.2).2 (hpart hdocument)
    | definition hdocument hname =>
      exact (isReadable_parts hdocument.2).2 ⟨.inl (hpart hdocument), hpart hname, hname.2⟩
    | here hbase hname =>
      have hsome : base.isSome := by rw [hbase, Option.isSome_some]
      exact (isReadable_parts List.not_mem_nil).2 ⟨.inr hsome, hpart hname, hname.2⟩
  · intro hreadable
    -- What stands in front of the first `#` is the document, and the rest is the name.
    by_cases hhash : '#' ∈ rest
    · obtain ⟨before, after, rfl, hbefore⟩ := List.eq_append_cons_of_mem hhash
      obtain ⟨hdocument, hname, hafter⟩ := (isReadable_parts hbefore).1 hreadable
      have hnamePart := isReferencePart_ofList hname hafter
      by_cases hempty : before = []
      · -- The document is the one that the reference stands in.
        have hsome : base.isSome := hdocument.resolve_left (not_not_intro hempty)
        obtain ⟨document, hbase⟩ := Option.isSome_iff_exists.1 hsome
        have hspells := Spells.here hbase hnamePart
        rw [String.toList_ofList] at hspells
        rw [hempty]
        exact ⟨_, hspells⟩
      · have hspells : Spells base _ _ :=
          .definition (isReferencePart_ofList hempty hbefore) hnamePart
        rw [String.toList_ofList, String.toList_ofList] at hspells
        exact ⟨_, hspells⟩
    · -- Without a `#` there is a document only, and its main definition is meant.
      have hne := (isReadable_of_hash_not_mem hhash).1 hreadable
      have hspells : Spells base _ _ := .main (isReferencePart_ofList hne hhash)
      rw [String.toList_ofList] at hspells
      exact ⟨_, hspells⟩

/-- A reference stands for an address exactly when its characters behind the mark are readable. -/
theorem exists_parse_iff :
    (∃ address, parse reference base = .ok address) ↔
      IsReadable base (dropReferenceMark reference) := by
  rw [← exists_spells_iff]
  exact exists_congr fun _ => ⟨spells_of_parse, parse_of_spells⟩

/-! ### Reading and rendering -/

/-- Reading undoes rendering and rendering is injective on what is read.  A reference, standing
    alone or in a document whose id has no `#`, is read exactly when it is readable.  The address
    that it is read as is proper; its canonical reference is read as the same address wherever it
    stands, so that it is its own canonical form; and two references stand for one address exactly
    when they have one canonical form. -/
theorem reading_and_rendering_are_inverse (hbase : ∀ b ∈ base, IsReferencePart b)
    (reference : String) :
    ((∃ address, parse reference base = .ok address) ↔
      ∃ rest, Unmarked reference rest ∧ IsReadable base rest) ∧
    (∀ address, parse reference base = .ok address →
      address.IsProper ∧ ∀ base', parse address.render base' = .ok address) ∧
    (∀ canonical, (parse reference base).map render = .ok canonical →
      ∀ base', (parse canonical base').map render = .ok canonical) ∧
    (∀ other base', (∀ b ∈ base', IsReferencePart b) → ∀ first second,
      parse reference base = .ok first → parse other base' = .ok second →
      (first = second ↔ first.render = second.render)) := by
  have hproper {address : Address} (h : parse reference base = .ok address) : address.IsProper :=
    isProper_of_parse hbase h
  refine ⟨?_, fun address h => ⟨hproper h, parse_render (hproper h)⟩, ?_, ?_⟩
  · rw [exists_parse_iff]
    constructor
    · intro hreadable
      exact ⟨_, unmarked_iff.2 rfl, hreadable⟩
    · rintro ⟨rest, hrest, hreadable⟩
      rwa [← unmarked_iff.1 hrest]
  · intro canonical hcanonical base'
    cases hparse : parse reference base with
    | error error =>
      rw [hparse] at hcanonical
      cases hcanonical
    | ok address =>
      rw [hparse] at hcanonical
      cases hcanonical
      -- What is rendered is proper, so it does not matter where it stands.
      rw [parse_render (hproper hparse)]
      rfl
  · intro other base' hbase' first second hfirst hsecond
    refine ⟨congrArg render, fun hrender => ?_⟩
    exact render_injective (hproper hfirst) (isProper_of_parse hbase' hsecond) hrender

/-- Written in full, the reference to a main definition is read, and the short form that it is
    rendered to is read as the same address also in a third document; `#main` in another document
    is rendered to another form. -/
theorem reading_and_rendering_of_main_definition :
    (∃ rest, Unmarked "lex:com.example.post#main" rest ∧ IsReadable none rest) ∧
    parse (render ⟨"com.example.post", "main"⟩) (some "com.example.feed") =
      .ok ⟨"com.example.post", "main"⟩ ∧
    render ⟨"com.example.post", "main"⟩ ≠ render ⟨"com.example.like", "main"⟩ := by
  have hnone : ∀ b ∈ (none : Option String), IsReferencePart b := nofun
  have hlike : ∀ b ∈ some "com.example.like", IsReferencePart b := by
    simp only [Option.mem_def, Option.some.injEq, forall_eq', IsReferencePart]
    decide
  have hfull : parse "lex:com.example.post#main" none = .ok ⟨"com.example.post", "main"⟩ := rfl
  have hlocal : parse "#main" (some "com.example.like") = .ok ⟨"com.example.like", "main"⟩ := rfl
  obtain ⟨hiff, hrender, -, hsame⟩ :=
    reading_and_rendering_are_inverse hnone "lex:com.example.post#main"
  refine ⟨hiff.1 ⟨_, hfull⟩, (hrender _ hfull).2 (some "com.example.feed"), ?_⟩
  have hdifferent : (⟨"com.example.post", "main"⟩ : Address) ≠ ⟨"com.example.like", "main"⟩ := by
    decide
  exact mt (hsame "#main" _ hlike _ _ hfull hlocal).2 hdifferent

end Lexicon.Address
