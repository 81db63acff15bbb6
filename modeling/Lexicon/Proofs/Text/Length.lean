import Lexicon.Proofs.Rules.Admits
import Lexicon.Proofs.Unicode.Cluster

namespace Lexicon.Text

open Lexicon.Unicode

/-!
# The two lengths of a string

A string has at most as many grapheme clusters as characters, and at least as many UTF-16 code units.
In ASCII all three agree, but for line ends of two characters.

* `utf16Length_eq`, `length_le_utf16Length` — code units and characters;
* `graphemeLength_le_length`, `graphemeLength_eq_zero_iff` — clusters and characters;
* `IsAscii`, `lineEnds`, `graphemeLength_add_lineEnds` — ASCII;
* `lengths_are_ordered` — what this makes of rules that bound one length or the other.
-/

variable {s : String} {cs : List Char} {c d : Char}

/-! ### Code units -/

/-- A character beyond the first plane has a second unit. -/
theorem utf16Length_eq :
    utf16Length s = s.length + s.toList.countP (fun c => 0x10000 ≤ c.toNat) := by
  rw [← String.length_toList, utf16Length]
  induction s.toList with
  | nil => rfl
  | cons c rest ih =>
    rw [List.foldr_cons, ih, List.length_cons, List.countP_cons, utf16Units]
    -- Characters beyond the first plane take two units.
    by_cases hc : c.toNat < 0x10000
    · have hplane : ¬ 0x10000 ≤ c.toNat := by omega
      simp only [if_pos hc, decide_eq_true_eq, if_neg hplane]
      omega
    · have hplane : 0x10000 ≤ c.toNat := by omega
      simp only [if_neg hc, decide_eq_true_eq, if_pos hplane]
      omega

/-- Every character is one unit of UTF-16 at least. -/
theorem length_le_utf16Length : s.length ≤ utf16Length s := by
  rw [utf16Length_eq]
  exact Nat.le_add_right _ _

/-! ### Clusters -/

/-- The places where a cluster starts are among all places. -/
theorem graphemeLength_le_length : graphemeLength s ≤ s.length := by
  rw [graphemeLength, clusterCount_eq_count, String.length_toList]
  exact Nat.count_le _

/-- Only the empty text has no clusters. -/
theorem graphemeLength_eq_zero_iff : graphemeLength s = 0 ↔ s = "" := by
  rw [← String.toList_eq_nil_iff, graphemeLength]
  cases s.toList with
  | nil => simp [clusterCount]
  | cons c rest => simp [clusterCount]

/-! ### ASCII -/

/-- All characters of the string are in ASCII. -/
def IsAscii (s : String) : Prop :=
  ∀ c ∈ s.toList, c.toNat < 128

instance : Decidable (IsAscii s) :=
  List.decidableBAll _ _

/-- The number of line feeds that follow a carriage return. -/
def lineEnds (cs : List Char) : Nat :=
  (cs.zip cs.tail).count ('\r', '\n')

/-- A line end is counted where a carriage return has a line feed next to it. -/
theorem lineEnds_cons_cons (c d : Char) (rest : List Char) :
    lineEnds (c :: d :: rest) = lineEnds (d :: rest) + if c = '\r' ∧ d = '\n' then 1 else 0 := by
  simp [lineEnds, List.count_cons]

/-- An ASCII character is one unit of UTF-16. -/
theorem utf16Length_of_isAscii (h : IsAscii s) : utf16Length s = s.length := by
  have hnone : s.toList.countP (fun c => 0x10000 ≤ c.toNat) = 0 := by
    rw [List.countP_eq_zero]
    intro c hc
    have hascii := h c hc
    simp only [decide_eq_true_eq]
    omega
  rw [utf16Length_eq, hnone, Nat.add_zero]

/-- Behind an ASCII character every ASCII character starts a cluster, but for the second half of a
    line end. -/
theorem clusterBreaks_add_lineEnds {before : List ClusterClass} (hc : c.toNat < 128)
    (h : ∀ d ∈ cs, d.toNat < 128) :
    clusterBreaks (.ofClasses (.ofChar c :: before)) cs + lineEnds (c :: cs) = cs.length := by
  induction cs generalizing c before with
  | nil => rfl
  | cons d rest ih =>
    obtain ⟨hd, hrest⟩ := List.forall_mem_cons.1 h
    have hbehind : clusterBreaks (.ofClasses (.ofChar d :: .ofChar c :: before)) rest +
        lineEnds (d :: rest) = rest.length := ih hd hrest
    rw [clusterBreaks_cons, lineEnds_cons_cons, List.length_cons]
    simp only [joins_iff_of_ascii hc hd]
    split <;> omega

/-- In ASCII, only line ends make clusters of more than one character. -/
theorem graphemeLength_add_lineEnds (h : IsAscii s) :
    graphemeLength s + lineEnds s.toList = s.length := by
  unfold IsAscii at h
  rw [← String.length_toList, graphemeLength]
  cases hs : s.toList with
  | nil => rfl
  | cons c rest =>
    rw [hs] at h
    obtain ⟨hc, hrest⟩ := List.forall_mem_cons.1 h
    rw [clusterCount, ClusterState.start_eq, Nat.add_assoc, clusterBreaks_add_lineEnds hc hrest,
      List.length_cons, Nat.add_comm]

/-! ### Rules with a single bound -/

section Bounds

variable {n : UInt64}

theorem check_maxLength_eq_ok :
    StringRules.check { maxLength := some n } s = .ok () ↔ utf16Length s ≤ n.toNat := by
  simp [StringRules.check_eq_ok, StringRules.Admits, WithinBounds, Allowed]

theorem check_minLength_eq_ok :
    StringRules.check { minLength := some n } s = .ok () ↔ n.toNat ≤ utf16Length s := by
  simp [StringRules.check_eq_ok, StringRules.Admits, WithinBounds, Allowed]

theorem check_maxGraphemes_eq_ok :
    StringRules.check { maxGraphemes := some n } s = .ok () ↔ graphemeLength s ≤ n.toNat := by
  simp [StringRules.check_eq_ok, StringRules.Admits, WithinBounds, Allowed]

theorem check_minGraphemes_eq_ok :
    StringRules.check { minGraphemes := some n } s = .ok () ↔ n.toNat ≤ graphemeLength s := by
  simp [StringRules.check_eq_ok, StringRules.Admits, WithinBounds, Allowed]

end Bounds

/-- **Lengths are ordered, and agree on plain text.**  The grapheme length counts the places where a
    cluster starts by the rules.  It is at most the number of characters, which is at most the UTF-16
    length, and it is zero for the empty string only.  In ASCII the UTF-16 length is the number of
    characters, from which the grapheme length is the number of line ends of two characters away.
    So an upper bound on the UTF-16 length is stricter than the same on the grapheme length, a lower
    bound is laxer, and in ASCII without such line ends there is no difference. -/
theorem lengths_are_ordered (s : String) (n : UInt64) :
    graphemeLength s = Nat.count (StartsCluster [] s.toList) s.length ∧
    graphemeLength s ≤ s.length ∧ s.length ≤ utf16Length s ∧
    (graphemeLength s = 0 ↔ s = "") ∧
    (IsAscii s →
      utf16Length s = s.length ∧ graphemeLength s + lineEnds s.toList = s.length) ∧
    (StringRules.check { maxLength := some n } s = .ok () →
      StringRules.check { maxGraphemes := some n } s = .ok ()) ∧
    (StringRules.check { minGraphemes := some n } s = .ok () →
      StringRules.check { minLength := some n } s = .ok ()) ∧
    (IsAscii s → lineEnds s.toList = 0 →
      (StringRules.check { maxLength := some n } s = .ok () ↔
        StringRules.check { maxGraphemes := some n } s = .ok ()) ∧
      (StringRules.check { minLength := some n } s = .ok () ↔
        StringRules.check { minGraphemes := some n } s = .ok ())) := by
  have hgraphemes : graphemeLength s ≤ s.length := graphemeLength_le_length
  have hunits : s.length ≤ utf16Length s := length_le_utf16Length
  rw [check_maxLength_eq_ok, check_minLength_eq_ok, check_maxGraphemes_eq_ok,
    check_minGraphemes_eq_ok]
  refine ⟨?_, hgraphemes, hunits, graphemeLength_eq_zero_iff, fun hascii => ?_, ?_, ?_, ?_⟩
  · rw [graphemeLength, clusterCount_eq_count, String.length_toList]
  · exact ⟨utf16Length_of_isAscii hascii, graphemeLength_add_lineEnds hascii⟩
  · exact fun hmax => (hgraphemes.trans hunits).trans hmax
  · exact fun hmin => hmin.trans (hgraphemes.trans hunits)
  · intro hascii hnone
    -- Without line ends of two characters, both lengths are the number of characters.
    have hadd := graphemeLength_add_lineEnds hascii
    have hequal : graphemeLength s = utf16Length s := by
      rw [utf16Length_of_isAscii hascii, ← hadd, hnone, Nat.add_zero]
    rw [hequal]
    exact ⟨Iff.rfl, Iff.rfl⟩

/-- A line end of two characters, and the same two the other way round. -/
theorem lengths_are_ordered_line_end :
    let line := "a\r\nb"
    let other := "a\n\rb"
    IsAscii line ∧ lineEnds line.toList = 1 ∧ utf16Length line = 4 ∧ graphemeLength line = 3 ∧
      IsAscii other ∧ lineEnds other.toList = 0 ∧
      StringRules.check { maxGraphemes := some 4 } line = .ok () ∧
      StringRules.check { minLength := some 3 } line = .ok () ∧
      StringRules.check { minGraphemes := some 4 } other = .ok () := by
  intro line other
  have hascii : IsAscii line := by decide +kernel
  have hends : lineEnds line.toList = 1 := by decide
  have hfour : line.length = 4 := by decide
  have hascii' : IsAscii other := by decide +kernel
  have hends' : lineEnds other.toList = 0 := by decide
  obtain ⟨-, -, -, -, hlengths, hmax, -, -⟩ := lengths_are_ordered line 4
  obtain ⟨-, -, -, -, -, -, hmin, -⟩ := lengths_are_ordered line 3
  obtain ⟨-, -, -, -, -, -, -, hagree⟩ := lengths_are_ordered other 4
  obtain ⟨hunits, hgraphemes⟩ := hlengths hascii
  refine ⟨hascii, hends, by omega, by omega, hascii', hends', hmax (by decide), hmin (by decide), ?_⟩
  exact (hagree hascii' hends').2.1 (by decide)

end Lexicon.Text
