import Mathlib.Algebra.Ring.Parity
import Mathlib.Data.Nat.Count
import Lexicon.Unicode.Cluster

namespace Lexicon.Unicode

/-!
# The rules of grapheme clusters

Clusters are counted in one pass, with a memory of four parts for all that stood before.  The rules
of UAX 29 know nothing of such a memory: each tells two characters that stay together by what
stands in front of the second.  This file writes the rules down as they are, and proves that the
pass goes by them.

* `Joins before next` — some rule keeps a character of the class `next` in the cluster of what
  stands before it;
* `ClusterState.ofClasses` — the memory of a text, and `oddRegional_iff`, `emoji_eq_joined_iff`,
  `conjunct_eq_linked_iff`: what its parts tell of the text;
* `breaksBefore_eq_false_iff` — a cluster goes on iff some rule joins;
* `StartsCluster`, `clusterCount_eq_count` — there are as many clusters as places where none does.
-/

/-! ### The rules -/

/-- No cluster ends between a text and a character of the class `next`.  The text is given by the
    classes of its characters, the last one first. -/
inductive Joins : (before : List ClusterClass) → (next : ClusterClass) → Prop where
  /-- GB3: a line end of two characters.  Other controls join nothing (GB4, GB5). -/
  | lineEnd {before} : Joins (.cr :: before) .lf
  /-- GB6: a leading consonant, and what a syllable goes on with. -/
  | leading {before next} : next ∈ [.hangulL, .hangulV, .hangulLV, .hangulLVT] →
      Joins (.hangulL :: before) next
  /-- GB7: a vowel, or a syllable that ends in one. -/
  | vowel {before last next} : last ∈ [.hangulLV, .hangulV] → next ∈ [.hangulV, .hangulT] →
      Joins (last :: before) next
  /-- GB8: a trailing consonant, or a syllable that ends in one. -/
  | trailing {before last} : last ∈ [.hangulLVT, .hangulT] → Joins (last :: before) .hangulT
  /-- GB9 and GB9a: what extends the cluster before it. -/
  | extended {before last next} : last.isControl = false →
      next.isExtender = true ∨ next = .joiner ∨ next = .spacingMark → Joins (last :: before) next
  /-- GB9b: what stands in front of any cluster. -/
  | prepended {before next} : next.isControl = false → Joins (.prepend :: before) next
  /-- GB9c: two consonants with a linker between them. -/
  | conjunct {before marks} : (∀ mark ∈ marks, mark ∈ [.extend, .linker, .joiner]) →
      .linker ∈ marks → Joins (marks ++ .consonant :: before) .consonant
  /-- GB11: two pictographs with a joiner between them. -/
  | emoji {before marks} : (∀ mark ∈ marks, mark.isExtender = true) →
      Joins (.joiner :: (marks ++ .pictograph :: before)) .pictograph
  /-- GB12 and GB13: the second half of a flag, with an odd number of regional indicators in front
      of it. -/
  | flag {before} : Odd (before.takeWhile (· = .regional)).length → Joins before .regional

variable {before : List ClusterClass} {last next base : ClusterClass}

/-! ### Marks behind a base -/

/-- Nothing but marks of a class stands behind some character of the class `base`. -/
def EndsWith (isMark : ClusterClass → Prop) (base : ClusterClass) (before : List ClusterClass) :
    Prop :=
  ∃ marks rest, before = marks ++ base :: rest ∧ ∀ mark ∈ marks, isMark mark

/-- The marks of a conjunct. -/
def IsConjunctMark (cls : ClusterClass) : Prop :=
  cls ∈ [.extend, .linker, .joiner]

/-- The text ends with a consonant and marks of a conjunct, a linker among them. -/
def EndsLinked (before : List ClusterClass) : Prop :=
  ∃ marks rest, before = marks ++ .consonant :: rest ∧ (∀ mark ∈ marks, IsConjunctMark mark) ∧
    .linker ∈ marks

section Marks

variable {isMark : ClusterClass → Prop}

theorem not_endsWith_nil : ¬ EndsWith isMark base [] := by
  rintro ⟨marks, rest, h, -⟩
  exact List.append_ne_nil_of_right_ne_nil marks (List.cons_ne_nil base rest) h.symm

/-- One more character is the base, or a mark behind it. -/
theorem endsWith_cons : EndsWith isMark base (last :: before) ↔
    last = base ∨ isMark last ∧ EndsWith isMark base before := by
  constructor
  · rintro ⟨marks, rest, h, hmarks⟩
    cases marks with
    | nil => exact .inl (List.cons.inj h).1
    | cons mark marks =>
      obtain ⟨rfl, rfl⟩ := List.cons.inj h
      obtain ⟨hmark, hothers⟩ := List.forall_mem_cons.1 hmarks
      exact .inr ⟨hmark, marks, rest, rfl, hothers⟩
  · rintro (rfl | ⟨hlast, marks, rest, rfl, hmarks⟩)
    · exact ⟨[], before, rfl, by simp⟩
    · exact ⟨last :: marks, rest, rfl, List.forall_mem_cons.2 ⟨hlast, hmarks⟩⟩

theorem not_endsLinked_nil : ¬ EndsLinked [] := by
  rintro ⟨marks, rest, h, -⟩
  exact List.append_ne_nil_of_right_ne_nil marks (List.cons_ne_nil _ rest) h.symm

/-- One more character is a mark behind a linker, or the first linker. -/
theorem endsLinked_cons : EndsLinked (last :: before) ↔
    IsConjunctMark last ∧ EndsLinked before ∨
      last = .linker ∧ EndsWith IsConjunctMark .consonant before := by
  constructor
  · rintro ⟨marks, rest, h, hmarks, hlinker⟩
    -- The last class is one of the marks, and so is the linker, which may be that one.
    cases marks with
    | nil => cases hlinker
    | cons mark marks =>
      obtain ⟨rfl, rfl⟩ := List.cons.inj h
      obtain ⟨hmark, hothers⟩ := List.forall_mem_cons.1 hmarks
      rcases List.mem_cons.1 hlinker with rfl | hlinker
      · exact .inr ⟨rfl, marks, rest, rfl, hothers⟩
      · exact .inl ⟨hmark, marks, rest, rfl, hothers, hlinker⟩
  · rintro (⟨hlast, marks, rest, rfl, hmarks, hlinker⟩ | ⟨rfl, marks, rest, rfl, hmarks⟩)
    · exact ⟨last :: marks, rest, rfl, List.forall_mem_cons.2 ⟨hlast, hmarks⟩,
        List.mem_cons_of_mem last hlinker⟩
    · exact ⟨.linker :: marks, rest, rfl, List.forall_mem_cons.2 ⟨by simp [IsConjunctMark], hmarks⟩,
        List.mem_cons_self⟩

end Marks

/-! ### What the memory tells -/

section Steps

variable {run : EmojiRun} {conjunct : Conjunct} {cls : ClusterClass}

theorem EmojiRun.next_eq_pictograph_iff : run.next cls = .pictograph ↔
    cls = .pictograph ∨ cls.isExtender = true ∧ run = .pictograph := by
  cases run <;> cases cls <;> decide

theorem EmojiRun.next_eq_joined_iff :
    run.next cls = .joined ↔ cls = .joiner ∧ run = .pictograph := by
  cases run <;> cases cls <;> decide

/-- A conjunct begins with a consonant and goes on over marks. -/
theorem Conjunct.next_ne_none_iff : conjunct.next cls ≠ .none ↔
    cls = .consonant ∨ IsConjunctMark cls ∧ conjunct ≠ .none := by
  unfold IsConjunctMark
  cases conjunct <;> cases cls <;> decide

/-- A linker links the conjunct that it stands in, and marks leave it linked. -/
theorem Conjunct.next_eq_linked_iff : conjunct.next cls = .linked ↔
    IsConjunctMark cls ∧ conjunct = .linked ∨ cls = .linker ∧ conjunct ≠ .none := by
  unfold IsConjunctMark
  cases conjunct <;> cases cls <;> decide

end Steps

namespace ClusterState

/-- The memory of a text, given by the classes of its characters, the last one first.  The first
    cluster starts as if a control stood in front of the text. -/
def ofClasses : List ClusterClass → ClusterState
  | [] => ⟨.control, false, .none, .none⟩
  | cls :: before => (ofClasses before).next cls

theorem start_eq (cls : ClusterClass) : start cls = ofClasses [cls] := by
  simp [start, ofClasses, next]

/-- The text ends with an odd number of regional indicators. -/
theorem oddRegional_iff :
    (ofClasses before).oddRegional = true ↔ Odd (before.takeWhile (· = .regional)).length := by
  induction before with
  | nil => simp [ofClasses]
  | cons cls before ih =>
    by_cases hcls : cls = .regional
    · have hodd : (ofClasses (cls :: before)).oddRegional = !(ofClasses before).oddRegional := by
        simp [ofClasses, next, hcls]
      have hrun : ((cls :: before).takeWhile (· = .regional)).length =
          (before.takeWhile (· = .regional)).length + 1 := by
        simp [hcls]
      rw [hodd, hrun, Nat.odd_add_one, ← ih, Bool.not_eq_true', Bool.not_eq_true]
    · simp [ofClasses, next, hcls]

/-- The text ends with a pictograph and what extends it. -/
theorem emoji_eq_pictograph_iff :
    (ofClasses before).emoji = .pictograph ↔ EndsWith (·.isExtender) .pictograph before := by
  induction before with
  | nil => simp [ofClasses, not_endsWith_nil]
  | cons cls before ih => rw [endsWith_cons, ← ih, ← EmojiRun.next_eq_pictograph_iff]; rfl

/-- The text ends with a pictograph, what extends it, and a joiner. -/
theorem emoji_eq_joined_iff : (ofClasses before).emoji = .joined ↔
    ∃ rest, before = .joiner :: rest ∧ EndsWith (·.isExtender) .pictograph rest := by
  cases before with
  | nil => simp [ofClasses]
  | cons cls before =>
    show (ofClasses before).emoji.next cls = .joined ↔ _
    simp [EmojiRun.next_eq_joined_iff, emoji_eq_pictograph_iff]

/-- The text ends with a consonant and marks of a conjunct. -/
theorem conjunct_ne_none_iff :
    (ofClasses before).conjunct ≠ .none ↔ EndsWith IsConjunctMark .consonant before := by
  induction before with
  | nil => simp [ofClasses, not_endsWith_nil]
  | cons cls before ih => rw [endsWith_cons, ← ih, ← Conjunct.next_ne_none_iff]; rfl

/-- The text ends with a consonant and marks of a conjunct, a linker among them. -/
theorem conjunct_eq_linked_iff : (ofClasses before).conjunct = .linked ↔ EndsLinked before := by
  induction before with
  | nil => simp [ofClasses, not_endsLinked_nil]
  | cons cls before ih =>
    rw [endsLinked_cons, ← ih, ← conjunct_ne_none_iff, ← Conjunct.next_eq_linked_iff]
    rfl

/-! ### Where clusters go on -/

@[simp] theorem last_ofClasses_cons : (ofClasses (last :: before)).last = last := rfl

/-- The syllables of Hangul: leading consonants before vowels, vowels before trailing consonants. -/
theorem hangulJoins_iff : hangulJoins last next = true ↔
    last = .hangulL ∧ next ∈ [.hangulL, .hangulV, .hangulLV, .hangulLVT] ∨
      last ∈ [.hangulLV, .hangulV] ∧ next ∈ [.hangulV, .hangulT] ∨
      last ∈ [.hangulLVT, .hangulT] ∧ next = .hangulT := by
  cases last <;> cases next <;> decide

/-- The rules in the order in which they are tried. -/
theorem breaksBefore_eq_false {s : ClusterState} : s.breaksBefore next = false ↔
    s.last = .cr ∧ next = .lf ∨
      s.last.isControl = false ∧ next.isControl = false ∧
        (hangulJoins s.last next = true ∨
          (next.isExtender = true ∨ next = .joiner ∨ next = .spacingMark) ∨
          s.last = .prepend ∨ s.conjunct = .linked ∧ next = .consonant ∨
          s.emoji = .joined ∧ next = .pictograph ∨ s.oddRegional = true ∧ next = .regional) := by
  unfold breaksBefore
  by_cases hline : s.last = .cr ∧ next = .lf
  · simp [hline]
  rw [if_neg hline, or_iff_right hline]
  by_cases hcontrol : s.last.isControl = true ∨ next.isControl = true
  · rw [if_pos hcontrol]
    rcases hcontrol with hlast | hnext
    · simp [hlast]
    · simp [hnext]
  · rw [if_neg hcontrol]
    rw [not_or, Bool.not_eq_true, Bool.not_eq_true] at hcontrol
    rw [and_iff_right hcontrol.1, and_iff_right hcontrol.2]
    split_ifs <;> simp_all

/-- What ends with an odd number of regional indicators ends with one. -/
theorem exists_regional_of_odd (h : Odd (before.takeWhile (· = .regional)).length) :
    ∃ rest, before = .regional :: rest := by
  cases before with
  | nil => simp at h
  | cons last rest =>
    by_cases hlast : last = .regional
    · exact ⟨rest, by rw [hlast]⟩
    · simp [hlast] at h

/-- What the pass keeps in a cluster is joined to it by a rule. -/
theorem joins_of_breaksBefore (h : (ofClasses before).breaksBefore next = false) :
    Joins before next := by
  rw [breaksBefore_eq_false, hangulJoins_iff, conjunct_eq_linked_iff, emoji_eq_joined_iff,
    oddRegional_iff] at h
  cases before with
  | nil => simp [ofClasses, ClusterClass.isControl] at h
  | cons last before =>
    rcases h with ⟨rfl, rfl⟩ | ⟨hlast, hnext, h⟩
    · exact .lineEnd
    -- Beyond controls there is one alternative for each of the other rules, GB6 to GB8 first.
    rcases h with (⟨rfl, hleading⟩ | ⟨hvowel, hbehind⟩ | ⟨htrailing, rfl⟩) | hextends | rfl |
      ⟨⟨marks, rest, hbefore, hmarks, hlinker⟩, rfl⟩ |
      ⟨⟨_, hbefore, marks, rest, rfl, hmarks⟩, rfl⟩ | ⟨hodd, rfl⟩
    · exact .leading hleading
    · exact .vowel hvowel hbehind
    · exact .trailing htrailing
    · exact .extended hlast hextends
    · exact .prepended hnext
    · exact hbefore ▸ .conjunct hmarks hlinker
    · exact hbefore ▸ .emoji hmarks
    · exact .flag hodd

/-- No cluster ends where a rule joins. -/
theorem breaksBefore_of_joins (h : Joins before next) :
    (ofClasses before).breaksBefore next = false := by
  rw [breaksBefore_eq_false, hangulJoins_iff, conjunct_eq_linked_iff, emoji_eq_joined_iff,
    oddRegional_iff]
  -- The pass tries GB4 and GB5 before the rules that join, so with each of these goes that neither
  -- of the two characters is a control.
  have hplain {cls : ClusterClass} {classes : List ClusterClass} (hmem : cls ∈ classes)
      (hclasses : ∀ cls ∈ classes, cls.isControl = false) : cls.isControl = false :=
    hclasses cls hmem
  cases h with
  | lineEnd => exact .inl ⟨rfl, rfl⟩
  | leading hnext => exact .inr ⟨rfl, hplain hnext (by decide), .inl (.inl ⟨rfl, hnext⟩)⟩
  | vowel hlast hnext =>
    exact .inr ⟨hplain hlast (by decide), hplain hnext (by decide),
      .inl (.inr (.inl ⟨hlast, hnext⟩))⟩
  | trailing hlast =>
    exact .inr ⟨hplain hlast (by decide), rfl, .inl (.inr (.inr ⟨hlast, rfl⟩))⟩
  | extended hlast hnext =>
    have hcontrol : next.isControl = false := by
      rcases hnext with hnext | rfl | rfl
      · revert hnext
        cases next <;> decide
      · rfl
      · rfl
    exact .inr ⟨hlast, hcontrol, .inr (.inl hnext)⟩
  | prepended hnext => exact .inr ⟨rfl, hnext, .inr (.inr (.inl rfl))⟩
  | @conjunct rest marks hmarks hlinker =>
    -- The last character is a mark, since there is a linker among the marks.
    cases marks with
    | nil => cases hlinker
    | cons mark marks =>
      have hmark : mark.isControl = false := hplain (hmarks mark List.mem_cons_self) (by decide)
      exact .inr ⟨hmark, rfl, .inr (.inr (.inr (.inl ⟨⟨_, _, rfl, hmarks, hlinker⟩, rfl⟩)))⟩
  | emoji hmarks =>
    exact .inr ⟨rfl, rfl, .inr (.inr (.inr (.inr (.inl ⟨⟨_, rfl, _, _, rfl, hmarks⟩, rfl⟩))))⟩
  | flag hodd =>
    obtain ⟨rest, rfl⟩ := exists_regional_of_odd hodd
    exact .inr ⟨rfl, rfl, .inr (.inr (.inr (.inr (.inr ⟨hodd, rfl⟩))))⟩

/-- **A cluster goes on iff some rule joins.** -/
theorem breaksBefore_eq_false_iff :
    (ofClasses before).breaksBefore next = false ↔ Joins before next :=
  ⟨joins_of_breaksBefore, breaksBefore_of_joins⟩

end ClusterState

instance : Decidable (Joins before next) :=
  decidable_of_iff _ ClusterState.breaksBefore_eq_false_iff

/-- A third regional indicator starts a flag of its own. -/
example : Joins [.regional, .other] .regional ∧ ¬ Joins [.regional, .regional, .other] .regional := by
  decide

/-! ### Counting clusters -/

/-- A cluster starts at a place of a text: no rule joins the character there to what stands in
    front of it.  In front of the whole text stands one with the classes `before`. -/
def StartsCluster (before : List ClusterClass) (cs : List Char) (i : Nat) : Prop :=
  ∀ c ∈ cs[i]?, ¬ Joins (((cs.take i).map .ofChar).reverse ++ before) (.ofChar c)

instance (cs : List Char) : DecidablePred (StartsCluster before cs) :=
  fun i => Option.decidableForallMem cs[i]?

section Places

variable {c : Char} {rest : List Char} {i : Nat}

theorem startsCluster_zero :
    StartsCluster before (c :: rest) 0 ↔ ¬ Joins before (.ofChar c) := by
  simp [StartsCluster]

theorem startsCluster_succ : StartsCluster before (c :: rest) (i + 1) ↔
    StartsCluster (.ofChar c :: before) rest i := by
  simp [StartsCluster]

end Places

/-- A character starts a cluster unless the rules join it to what is in front of it. -/
theorem clusterBreaks_cons (c : Char) (rest : List Char) :
    clusterBreaks (.ofClasses before) (c :: rest) =
      (if Joins before (.ofChar c) then 0 else 1) +
        clusterBreaks (.ofClasses (.ofChar c :: before)) rest := by
  simp only [← ClusterState.breaksBefore_eq_false_iff, ← Bool.not_eq_true, ite_not]
  rfl

/-- The pass over a text counts the places at which a cluster starts. -/
theorem clusterBreaks_eq_count (before : List ClusterClass) (cs : List Char) :
    clusterBreaks (.ofClasses before) cs = Nat.count (StartsCluster before cs) cs.length := by
  induction cs generalizing before with
  | nil => rfl
  | cons c rest ih =>
    rw [clusterBreaks_cons, ih, List.length_cons, Nat.count_succ', Nat.add_comm]
    simp only [startsCluster_zero, startsCluster_succ, ite_not]

/-- Counting from the start is counting with nothing in front. -/
theorem clusterCount_eq_clusterBreaks (cs : List Char) :
    clusterCount cs = clusterBreaks (.ofClasses []) cs := by
  cases cs with
  | nil => rfl
  | cons c rest =>
    rw [clusterCount, ClusterState.start_eq]
    rfl

/-- **Clusters are counted by the rules.** -/
theorem clusterCount_eq_count (cs : List Char) :
    clusterCount cs = Nat.count (StartsCluster [] cs) cs.length := by
  rw [clusterCount_eq_clusterBreaks, clusterBreaks_eq_count]

/-! ### ASCII -/

/-- The classes of ASCII characters. -/
def asciiClasses : List ClusterClass :=
  [.other, .cr, .lf, .control]

section Ascii

variable {c d : Char}

theorem ofChar_mem_asciiClasses (h : c.toNat < 128) : ClusterClass.ofChar c ∈ asciiClasses := by
  rw [ClusterClass.ofChar, if_pos h, ClusterClass.ofAscii]
  split_ifs <;> decide

theorem ofChar_eq_cr_iff (h : c.toNat < 128) : ClusterClass.ofChar c = .cr ↔ c = '\r' := by
  rw [ClusterClass.ofChar, if_pos h, ClusterClass.ofAscii]
  split_ifs <;> simp_all

theorem ofChar_eq_lf_iff (h : c.toNat < 128) : ClusterClass.ofChar c = .lf ↔ c = '\n' := by
  rw [ClusterClass.ofChar, if_pos h, ClusterClass.ofAscii]
  split_ifs <;> simp_all

/-- Among the classes of ASCII characters nothing is joined but a line end. -/
theorem joins_iff_of_mem_asciiClasses (hlast : last ∈ asciiClasses) (hnext : next ∈ asciiClasses) :
    Joins (last :: before) next ↔ last = .cr ∧ next = .lf := by
  constructor
  · intro h
    -- Rules such as GB9c look further back than the last character.  The pass does not, and so the
    -- cases are those of two classes.
    rcases ClusterState.breaksBefore_eq_false.1 (ClusterState.breaksBefore_of_joins h) with
      hline | ⟨-, -, h⟩
    · exact hline
    · exfalso
      revert h
      simp only [asciiClasses, List.mem_cons, List.not_mem_nil, or_false] at hlast hnext
      rcases hlast with rfl | rfl | rfl | rfl <;> rcases hnext with rfl | rfl | rfl | rfl <;>
        simp [ClusterState.hangulJoins, ClusterClass.isExtender]
  · rintro ⟨rfl, rfl⟩
    exact .lineEnd

/-- Among ASCII characters nothing is joined but a line end. -/
theorem joins_iff_of_ascii (hc : c.toNat < 128) (hd : d.toNat < 128) :
    Joins (.ofChar c :: before) (.ofChar d) ↔ c = '\r' ∧ d = '\n' := by
  rw [joins_iff_of_mem_asciiClasses (ofChar_mem_asciiClasses hc) (ofChar_mem_asciiClasses hd),
    ofChar_eq_cr_iff hc, ofChar_eq_lf_iff hd]

end Ascii

end Lexicon.Unicode
