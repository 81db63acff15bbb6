import Lexicon.Unicode.NormalTable

namespace Lexicon.Unicode

/-!
# The composed normal form

Texts that Unicode holds to be the same have one composed form: characters are taken apart, marks
are brought into the order of their classes, and what belongs together is put together again.

* `combiningClass` — how a mark is placed; marks of different classes do not depend on their order;
* `Hangul.parts?`, `Hangul.join?` — syllables and their letters;
* `decompose` — a character taken apart;
* `insertMark` — a mark brought into order among those before it;
* `Composer` — putting together a starter and the marks after it;
* `composedForm` — the composed normal form of a text.
-/

/-- The combining class of a character; starters have class 0. -/
def combiningClass (c : Char) : Nat :=
  if c.toNat < 0x80 then 0 else (combiningTable.get? c).getD 0

/-! ### Hangul syllables -/

namespace Hangul

/-- The first syllable. -/
def syllable : Nat := 0xAC00

/-- The first leading consonant; there are 19. -/
def lead : Nat := 0x1100

/-- The first vowel; there are 21. -/
def vowel : Nat := 0x1161

/-- One before the first of 27 final consonants: a syllable may have none. -/
def final : Nat := 0x11A7

/-- The letters of a syllable. -/
def parts? (c : Char) : Option (List Char) :=
  let index := c.toNat - syllable
  if syllable ≤ c.toNat ∧ index < 19 * 21 * 28 then
    let start := [Char.ofNat (lead + index / (21 * 28)), Char.ofNat (vowel + index / 28 % 21)]
    some (if index % 28 = 0 then start else start ++ [Char.ofNat (final + index % 28)])
  else none

/-- The syllable of a consonant and a vowel, or of a syllable without a final consonant and one. -/
def join? (first second : Char) : Option Char :=
  let a := first.toNat
  let b := second.toNat
  if lead ≤ a ∧ a < lead + 19 ∧ vowel ≤ b ∧ b < vowel + 21 then
    some (.ofNat (syllable + ((a - lead) * 21 + (b - vowel)) * 28))
  else if syllable ≤ a ∧ a < syllable + 19 * 21 * 28 ∧ (a - syllable) % 28 = 0 ∧
      final < b ∧ b < final + 28 then
    some (.ofNat (a + (b - final)))
  else none

end Hangul

/-! ### Taking apart -/

/-- A composite takes at most this many steps to come apart. -/
def maxSteps : Nat := 3

/-- The first part of a composite taken apart in at most `steps` steps, and the second part. -/
def decomposeWithin : (steps : Nat) → Char → List Char
  | 0, c => [c]
  | steps + 1, c =>
    match compositeTable.get? c with
    | some (first, second) => decomposeWithin steps (.ofNat first) ++ [.ofNat second]
    | none => [c]

/-- A character taken apart. -/
def decompose (c : Char) : List Char :=
  if c.toNat < 0x80 then [c]
  else (Hangul.parts? c).getD (decomposeWithin maxSteps c)

/-! ### Order of marks -/

/-- A character added to a text with its last character first: a mark moves in front of the marks of
higher classes that it follows. -/
def insertMark (c : Char) : (reversed : List Char) → List Char
  | [] => [c]
  | last :: rest =>
    if combiningClass c ≠ 0 ∧ combiningClass c < combiningClass last then last :: insertMark c rest
    else c :: last :: rest

/-! ### Putting together -/

/-- The composite of two characters; none has an ASCII character in second place. -/
def join? (first second : Char) : Option Char :=
  if second.toNat < 0x80 then none
  else
    match Hangul.join? first second with
    | some c => some c
    | none =>
      (compositeTable.find? fun row => row.value == (first.toNat, second.toNat)).map
        fun row => .ofNat row.first

/-- A text being put together: what is complete, last character first; the last starter; and the
marks after it that have not become part of it, last first. -/
structure Composer where
  done : List Char
  starter : Option Char
  marks : List Char

namespace Composer

/-- Whether a character stands next to the starter but for marks of lower classes. -/
def reaches (composer : Composer) (c : Char) : Bool :=
  match composer.marks with
  | [] => true
  | mark :: _ => combiningClass mark < combiningClass c

/-- All characters, last first. -/
def flush (composer : Composer) : List Char :=
  composer.marks ++ composer.starter.toList ++ composer.done

/-- The text with one more character. -/
def push (composer : Composer) (c : Char) : Composer :=
  match composer.starter.bind fun s => if composer.reaches c then join? s c else none with
  | some composite => { composer with starter := some composite }
  | none =>
    if combiningClass c = 0 then ⟨composer.flush, some c, []⟩
    else { composer with marks := c :: composer.marks }

end Composer

/-- The composed normal form of a text. -/
def composedForm (cs : List Char) : List Char :=
  let ordered := ((cs.flatMap decompose).foldl (fun reversed c => insertMark c reversed) []).reverse
  (ordered.foldl Composer.push ⟨[], none, []⟩).flush.reverse

end Lexicon.Unicode
