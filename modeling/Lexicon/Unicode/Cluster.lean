import Lexicon.Unicode.ClusterTable

namespace Lexicon.Unicode

/-!
# Extended grapheme clusters

What a reader takes for one character may be several code points.  The rules of UAX 29 say between
which neighbours a cluster ends, and most look at the two neighbours alone; flags, joined emoji and
conjuncts need a memory of what stood before.

* `ClusterClass.ofChar` — the class of a character;
* `ClusterState` — what the rules remember of the text so far;
* `ClusterState.breaksBefore` — whether a cluster ends before a character;
* `clusterCount` — the number of clusters of a text.
-/

namespace ClusterClass

/-- The class of an ASCII character: all but the controls are `other`. -/
def ofAscii (c : Char) : ClusterClass :=
  if c = '\r' then .cr
  else if c = '\n' then .lf
  else if c.toNat < 0x20 ∨ c.toNat = 0x7F then .control
  else .other

/-- The class of a character. -/
def ofChar (c : Char) : ClusterClass :=
  if c.toNat < 0x80 then ofAscii c
  else if 0xAC00 ≤ c.toNat ∧ c.toNat ≤ 0xD7A3 then
    if (c.toNat - 0xAC00) % 28 = 0 then .hangulLV else .hangulLVT
  else (clusterTable.get? c).getD .other

/-- Controls and line ends stand alone. -/
def isControl : ClusterClass → Bool
  | .cr | .lf | .control => true
  | _ => false

/-- The classes that extend any cluster before them. -/
def isExtender : ClusterClass → Bool
  | .extend | .linker | .nonJoiner => true
  | _ => false

end ClusterClass

/-- How far a conjunct has come: whether the text ends with a consonant and its extenders, and
whether a linker is among them. -/
inductive Conjunct where
  | none
  | consonant
  | linked
deriving DecidableEq, Repr, Inhabited

/-- How far an emoji sequence has come: whether the text ends with a pictograph and its extenders,
and whether a joiner follows them. -/
inductive EmojiRun where
  | none
  | pictograph
  | joined
deriving DecidableEq, Repr, Inhabited

/-- What the rules remember of the text before a character. -/
structure ClusterState where
  /-- The class of the last character. -/
  last : ClusterClass
  /-- Whether the text ends with an odd number of regional indicators. -/
  oddRegional : Bool
  emoji : EmojiRun
  conjunct : Conjunct
deriving DecidableEq, Repr

/-- The emoji run after one more character. -/
def EmojiRun.next (run : EmojiRun) (cls : ClusterClass) : EmojiRun :=
  if cls = .pictograph then .pictograph
  else if run = .pictograph ∧ cls.isExtender then .pictograph
  else if run = .pictograph ∧ cls = .joiner then .joined
  else .none

/-- The conjunct after one more character. -/
def Conjunct.next (conjunct : Conjunct) : ClusterClass → Conjunct
  | .consonant => .consonant
  | .linker => if conjunct = .none then .none else .linked
  | .extend | .joiner => conjunct
  | _ => .none

namespace ClusterState

/-- The memory of a text of one character. -/
def start (cls : ClusterClass) : ClusterState where
  last := cls
  oddRegional := cls = .regional
  emoji := EmojiRun.none.next cls
  conjunct := Conjunct.none.next cls

/-- The memory after one more character. -/
def next (s : ClusterState) (cls : ClusterClass) : ClusterState where
  last := cls
  oddRegional := cls = .regional && !s.oddRegional
  emoji := s.emoji.next cls
  conjunct := s.conjunct.next cls

/-- Whether the parts of one Hangul syllable meet. -/
def hangulJoins : ClusterClass → ClusterClass → Bool
  | .hangulL, .hangulL | .hangulL, .hangulV | .hangulL, .hangulLV | .hangulL, .hangulLVT => true
  | .hangulLV, .hangulV | .hangulLV, .hangulT | .hangulV, .hangulV | .hangulV, .hangulT => true
  | .hangulLVT, .hangulT | .hangulT, .hangulT => true
  | _, _ => false

/-- Whether a cluster ends before a character of class `cls`. -/
def breaksBefore (s : ClusterState) (cls : ClusterClass) : Bool :=
  if s.last = .cr ∧ cls = .lf then false
  else if s.last.isControl ∨ cls.isControl then true
  else if hangulJoins s.last cls then false
  else if cls.isExtender ∨ cls = .joiner ∨ cls = .spacingMark then false
  else if s.last = .prepend then false
  else if s.conjunct = .linked ∧ cls = .consonant then false
  else if s.emoji = .joined ∧ cls = .pictograph then false
  else if s.oddRegional ∧ cls = .regional then false
  else true

end ClusterState

/-- The number of cluster ends inside the rest of a text. -/
def clusterBreaks (s : ClusterState) : List Char → Nat
  | [] => 0
  | c :: rest =>
    let cls := ClusterClass.ofChar c
    (if s.breaksBefore cls then 1 else 0) + clusterBreaks (s.next cls) rest

/-- The number of extended grapheme clusters of a text. -/
def clusterCount : List Char → Nat
  | [] => 0
  | c :: rest => 1 + clusterBreaks (.start (.ofChar c)) rest

end Lexicon.Unicode
