namespace Lexicon.Domain

/-!
# Punycode

A label with characters beyond ASCII is written in ASCII: first its ASCII characters, then, after a
hyphen, where the others go.  The others come in increasing order, each as the distance from the one
before, counted over all places where it could go and written in digits whose weights adapt.

* `digit?` — the value of a digit;
* `place?` — the place that the distance at the start of a text leads to, and the text after it;
* `adapt` — the bias of the next distance;
* `insertions?` — the label after all insertions;
* `punycode?` — the label that a text denotes.
-/

/-- The value of a digit: the letters, then the decimal digits. -/
def digit? (c : Char) : Option Nat :=
  if c.isLower then some (c.toNat - 'a'.toNat)
  else if c.isUpper then some (c.toNat - 'A'.toNat)
  else if c.isDigit then some (c.toNat - '0'.toNat + 26)
  else none

/-- A digit below this is the last one of its distance; `index` grows by 36 from digit to digit. -/
def threshold (index bias : Nat) : Nat :=
  min 26 (max 1 (index - bias))

/-- Places are numbers of 32 bits. -/
def limit : Nat := UInt32.size

/-- The place that the digits at the start of a text lead to, and the text after them: `value` is
the place so far, and `weight` what the next digit counts for. -/
def place? (bias : Nat) : (index value weight : Nat) → List Char → Option (Nat × List Char)
  | _, _, _, [] => none
  | index, value, weight, c :: cs => do
    let digit ← digit? c
    let value := value + digit * weight
    if limit ≤ value then none
    -- A digit below the threshold is the last one of the place.
    else if digit < threshold index bias then some (value, cs)
    else
      let weight := weight * (36 - threshold index bias)
      if limit ≤ weight then none else place? bias (index + 36) value weight cs

/-- Reading a place uses up at least one digit. -/
theorem length_lt_of_place? {bias index value weight n : Nat} {cs rest : List Char}
    (h : place? bias index value weight cs = some (n, rest)) : rest.length < cs.length := by
  induction cs generalizing index value weight with
  | nil => simp [place?] at h
  | cons c cs ih =>
    simp only [place?] at h
    cases hd : digit? c with
    | none => simp [hd] at h
    | some digit =>
      simp only [hd, Option.bind_eq_bind, Option.bind_some] at h
      split at h
      · simp at h
      · split at h
        · simp only [Option.some.injEq, Prod.mk.injEq] at h
          simp [← h.2]
        · split at h
          · simp at h
          · exact Nat.lt_succ_of_lt (ih h)

/-- A distance scaled down until it is at most 455, and the bias gained on the way. -/
def scaleDown (distance bias : Nat) : Nat × Nat :=
  if 455 < distance then scaleDown (distance / 35) (bias + 36) else (distance, bias)
termination_by distance
decreasing_by exact Nat.div_lt_self (by omega) (by omega)

/-- The bias after a distance, for a label of `count` characters. -/
def adapt (distance count : Nat) (first : Bool) : Nat :=
  let distance := if first then distance / 700 else distance / 2
  let (distance, bias) := scaleDown (distance + distance / count) 0
  bias + 36 * distance / (distance + 38)

/-- The code points that characters have. -/
def isScalar (n : Nat) : Bool :=
  n < 0xD800 || (0xDFFF < n && n < 0x110000)

/-- The label after the insertions that a text describes: `code` and `index` are where the last one
left off. -/
def insertions? (label : List Char) (code index bias : Nat) (first : Bool) (cs : List Char) :
    Option (List Char) :=
  if cs.isEmpty then some label
  else
    match _h : place? bias 36 index 1 cs with
    | none => none
    | some (place, rest) =>
      -- A round through the places of the label leads to the next code point.
      let count := label.length + 1
      let code := code + place / count
      let next := place % count
      if isScalar code then
        insertions? (label.take next ++ Char.ofNat code :: label.drop next) code (next + 1)
          (adapt (place - index) count first) false rest
      else none
termination_by cs.length
decreasing_by exact length_lt_of_place? (by assumption)

/-- The ASCII characters in front of the last hyphen, and what follows it.  A hyphen in front of
everything marks nothing. -/
def cutBasic (cs : List Char) : List Char × List Char :=
  match cs.reverse.span (· != '-') with
  | (after, _ :: before) => if before.isEmpty then ([], cs) else (before.reverse, after.reverse)
  | (_, []) => ([], cs)

/-- Longer texts are not read. -/
def maxPunycode : Nat := 2000

/-- The label that a text denotes; one without insertions would need no such text. -/
def punycode? (cs : List Char) : Option (List Char) :=
  let (basic, insertions) := cutBasic cs
  if cs.length ≤ maxPunycode ∧ cs.all (fun c => c.toNat < 0x80) ∧ !insertions.isEmpty then
    insertions? basic 128 0 72 true insertions
  else none

end Lexicon.Domain
