import Lexicon.Json.Parse
import Lexicon.Proofs.Number.Word
import Lexicon.Proofs.Text.Split
import Mathlib.Data.List.Basic
import Mathlib.Data.List.TakeDrop
import Mathlib.Data.List.TakeWhile
import Mathlib.Data.Nat.Init

namespace Lexicon

open Lexicon.Text

/-!
# Reading integer literals

The text of an integer that 64 bits hold, with or without a sign, is a JSON text that stands for that
integer.

* `Numeral.ofNat`, `ofDigits_toDigits` — the literal that the decimal digits of a number make;
* `Numeral.unsigned?_toDigits` — digits are cut as such a literal;
* `Lexer.foldlM_step_numeral` — a literal is one token;
* `Json.parse?_toString` — the text of an integer is read as that integer;
* `Json.parse?_negativeZero` — the one literal whose sign an integer cannot keep.
-/

/-! ### Digits -/

/-- Digits have no zero in front, except for zero itself. -/
theorem head?_toDigits_ne_zero {n : Nat} (hn : 0 < n) :
    (Nat.toDigits 10 n).head? ≠ some '0' := by
  induction n using Nat.strong_induction_on with
  | _ n ih =>
    rw [Nat.toDigits_eq_if (by decide)]
    split
    · simp only [List.head?_cons, ne_eq, Option.some.injEq, Nat.digitChar_eq_zero]
      omega
    · rw [List.head?_append_of_ne_nil _ Nat.toDigits_ne_nil]
      exact ih (n / 10) (by omega) (by omega)

theorem isDigit_of_mem_toDigits {n : Nat} {c : Char} (h : c ∈ Nat.toDigits 10 n) :
    c.isDigit = true :=
  Nat.isDigit_of_mem_toDigits (by decide) (by decide) h

/-- No digit is a character of another sort. -/
theorem not_mem_toDigits {n : Nat} {c : Char} (h : c.isDigit = false) : c ∉ Nat.toDigits 10 n := by
  intro hmem
  rw [isDigit_of_mem_toDigits hmem] at h
  cases h

/-- The value of a digit. -/
def digitValue (c : Char) : Nat :=
  c.toNat - '0'.toNat

/-- The only digit worth nothing is zero. -/
theorem eq_zero_of_digitValue {c : Char} (hc : c.isDigit = true) (h : digitValue c = 0) :
    c = '0' := by
  obtain ⟨hlow, -⟩ := Char.isDigit_iff_toNat.1 hc
  apply Char.toNat_inj.1
  unfold digitValue at h
  have hzero : '0'.toNat = 48 := by decide
  omega

namespace Numeral

/-! ### Literals -/

/-- The literal of a natural number and a sign. -/
def ofNat (negative : Bool) (n : Nat) : Numeral :=
  ⟨negative, (Nat.toDigits 10 n).map digitValue, none, none⟩

/-- The digits of a number write the number. -/
theorem ofDigits_toDigits (n : Nat) : ofDigits ((Nat.toDigits 10 n).map digitValue) = n := by
  rw [ofDigits, List.foldl_map]
  exact Nat.ofDigitChars_ten_toDigits

/-- The digits of a number are read as their values. -/
theorem digits?_toDigits (n : Nat) :
    digits? (Nat.toDigits 10 n) = some ((Nat.toDigits 10 n).map digitValue) := by
  have hempty : (Nat.toDigits 10 n).isEmpty = false :=
    List.isEmpty_eq_false_iff.2 Nat.toDigits_ne_nil
  have hdigits {cs : List Char} (h : ∀ c ∈ cs, c.isDigit = true) :
      (cs.mapM fun c => if c.isDigit then some (c.toNat - '0'.toNat) else none) =
        some (cs.map digitValue) := by
    induction cs with
    | nil => rfl
    | cons c rest ih =>
      obtain ⟨hc, hrest⟩ := List.forall_mem_cons.1 h
      rw [List.mapM_cons, ih hrest, if_pos hc]
      rfl
  unfold digits?
  rw [hempty]
  exact hdigits fun c => isDigit_of_mem_toDigits

/-- A number of more than one digit does not start with the digit zero. -/
theorem whole?_toDigits (n : Nat) :
    whole? (Nat.toDigits 10 n) = some ((Nat.toDigits 10 n).map digitValue) := by
  unfold whole?
  rw [digits?_toDigits]
  split
  · -- A zero with more digits behind it, which no number is written with.
    rename_i second rest hzero
    rw [Option.some.injEq, List.map_eq_cons_iff] at hzero
    obtain ⟨c, others, hdigits, hc, hothers⟩ := hzero
    have hn : 0 < n := by
      rw [Nat.pos_iff_ne_zero]
      rintro rfl
      rw [Nat.toDigits_zero, List.cons.injEq] at hdigits
      rw [← hdigits.2] at hothers
      cases hothers
    have hzero : c = '0' := eq_zero_of_digitValue
      (isDigit_of_mem_toDigits (hdigits ▸ List.mem_cons_self)) hc
    have hhead := head?_toDigits_ne_zero hn
    rw [hdigits, List.head?_cons, hzero] at hhead
    exact absurd rfl hhead
  · rfl

/-- Digits alone have no exponent. -/
theorem cutExponent_toDigits (n : Nat) :
    cutExponent (Nat.toDigits 10 n) = (Nat.toDigits 10 n, none) := by
  have hspan {cs : List Char} (h : ∀ c ∈ cs, (c != 'e' && c != 'E') = true) :
      cs.span (fun c => c != 'e' && c != 'E') = (cs, []) := by
    rw [List.span_eq_takeWhile_dropWhile, List.takeWhile_eq_self_iff.2 h,
      List.dropWhile_eq_nil_iff.2 h]
  unfold cutExponent
  rw [hspan]
  intro c hc
  rw [Bool.and_eq_true, bne_iff_ne, bne_iff_ne]
  exact ⟨ne_of_mem_of_not_mem hc (not_mem_toDigits (by decide)),
    ne_of_mem_of_not_mem hc (not_mem_toDigits (by decide))⟩

/-- The digits of a number are read as that number. -/
theorem unsigned?_toDigits (negative : Bool) (n : Nat) :
    unsigned? negative (Nat.toDigits 10 n) = some (ofNat negative n) := by
  have hpoint : cutAt? '.' (Nat.toDigits 10 n) = none :=
    cutAt?_of_not_mem (not_mem_toDigits (by decide))
  unfold unsigned?
  rw [cutExponent_toDigits]
  dsimp only
  rw [hpoint]
  dsimp only
  rw [whole?_toDigits]
  rfl

/-- What comes before the digits of a literal. -/
def sign (negative : Bool) : List Char :=
  if negative then ['-'] else []

/-- A number written in decimal, with or without a sign, is read back. -/
theorem ofText?_toDigits (negative : Bool) (n : Nat) :
    ofText? (sign negative ++ Nat.toDigits 10 n) = some (ofNat negative n) := by
  rw [← unsigned?_toDigits]
  cases negative with
  | true => rfl
  | false =>
    -- Digits do not start with a sign, so they are not read as what follows one.
    show ofText? (Nat.toDigits 10 n) = _
    unfold ofText?
    split
    · rename_i rest hdigits
      have hsign : '-' ∈ Nat.toDigits 10 n := hdigits ▸ List.mem_cons_self
      exact absurd hsign (not_mem_toDigits (by decide))
    · rfl

/-- A literal without a sign is the number that it spells, if that has 64 bits. -/
theorem value?_ofNat {n : Nat} (hn : n < UInt64.size) :
    (ofNat false n).value? = some (.integer n) := by
  have hinteger : (ofNat false n).integer? = some (n : Int) := by
    simp [integer?, ofNat, ofDigits_toDigits, hn]
  rw [value?, hinteger]

/-- A literal with a sign is the opposite of the number that it spells, unless that is zero. -/
theorem value?_ofNat_negative {n : Nat} (hn : 0 < n) (hfits : fitsInt64 (-n) = true) :
    (ofNat true n).value? = some (.integer (-n)) := by
  have hinteger : (ofNat true n).integer? = some (-(n : Int)) := by
    simp [integer?, ofNat, ofDigits_toDigits, hn, hfits]
  rw [value?, hinteger]

end Numeral

/-! ### Tokens -/

namespace Lexer

variable {c : Char} {cs : List Char}

/-- A literal starts with a digit or a sign, and is one token. -/
theorem begin?_numeral (tokens : List Token) (h : c.isDigit = true ∨ c = '-') :
    begin? tokens c = some ⟨tokens, .numeral [c]⟩ := by
  have hother {other : Char} (hdigit : other.isDigit = false) (hsign : other ≠ '-') : c ≠ other := by
    rintro rfl
    rcases h with h | rfl
    · rw [hdigit] at h
      cases h
    · exact hsign rfl
  have hblank : isBlank c = false := by
    simp only [isBlank, Bool.or_eq_false_iff, beq_eq_false_iff_ne]
    exact ⟨⟨⟨hother (by decide) (by decide), hother (by decide) (by decide)⟩,
      hother (by decide) (by decide)⟩, hother (by decide) (by decide)⟩
  have hquote : c ≠ '"' := hother (by decide) (by decide)
  unfold begin?
  rw [if_neg (by simp [hblank]), if_neg hquote, if_pos h]

/-- Within a literal its characters are gathered. -/
theorem foldlM_step_numeral (tokens : List Token) (text : List Char)
    (h : ∀ c ∈ cs, isNumeralChar c = true) :
    cs.foldlM step ⟨tokens, .numeral text⟩ = some ⟨tokens, .numeral (cs.reverse ++ text)⟩ := by
  induction cs generalizing text with
  | nil => rfl
  | cons c rest ih =>
    obtain ⟨hc, hrest⟩ := List.forall_mem_cons.1 h
    have hstep : step ⟨tokens, .numeral text⟩ c = some ⟨tokens, .numeral (c :: text)⟩ := by
      simp [step, hc]
    rw [List.foldlM_cons, hstep, List.reverse_cons, List.append_assoc]
    exact ih _ hrest

end Lexer

/-- A text of one literal is one token. -/
theorem Token.ofText?_numeral {cs : List Char} {numeral : Numeral} {number : Number}
    (hchars : ∀ c ∈ cs, c.isDigit = true ∨ c = '-') (hne : cs ≠ [])
    (hnumeral : Numeral.ofText? cs = some numeral) (hvalue : numeral.value? = some number) :
    Token.ofText? cs = some [.number number] := by
  obtain ⟨c, rest, rfl⟩ := List.exists_cons_of_ne_nil hne
  have hbegin : Lexer.step ⟨[], .between⟩ c = some ⟨[], .numeral [c]⟩ :=
    Lexer.begin?_numeral [] (hchars c List.mem_cons_self)
  have hrest : ∀ d ∈ rest, Lexer.isNumeralChar d = true := by
    intro d hd
    rcases hchars d (List.mem_cons_of_mem _ hd) with hdigit | rfl
    · simp [Lexer.isNumeralChar, hdigit]
    · decide
  -- The lexer keeps the characters of a numeral in reverse.
  have hreverse : (rest.reverse ++ [c]).reverse = c :: rest := by simp
  have hfinish : Lexer.finish? ⟨[], .numeral (rest.reverse ++ [c])⟩ = some [.number number] := by
    simp only [Lexer.finish?, hreverse, Token.ofNumeral?, hnumeral, Option.bind_eq_bind,
      Option.bind_some, hvalue]
    rfl
  unfold Token.ofText?
  rw [List.foldlM_cons, hbegin]
  simp only [Option.bind_eq_bind, Option.bind_some, Lexer.foldlM_step_numeral [] [c] hrest,
    hfinish]
  rfl

namespace Json

/-- A text of one literal stands for the number of the literal. -/
theorem parse?_numeral {negative : Bool} {n : Nat} {number : Number} {text : String}
    (htext : text.toList = Numeral.sign negative ++ Nat.toDigits 10 n)
    (hvalue : (Numeral.ofNat negative n).value? = some number) :
    Json.parse? text = some (.number number) := by
  -- All characters are those of one numeral, so there is one token.
  have htokens : Token.ofText? text.toList = some [.number number] := by
    rw [htext]
    refine Token.ofText?_numeral ?_ ?_ (Numeral.ofText?_toDigits negative n) hvalue
    · intro c hc
      rcases List.mem_append.1 hc with hsign | hdigit
      · cases negative with
        | true => exact .inr (List.mem_singleton.1 hsign)
        | false => cases hsign
      · exact .inl (isDigit_of_mem_toDigits hdigit)
    · exact fun hnil => Nat.toDigits_ne_nil (List.append_eq_nil_iff.1 hnil).2
  unfold Json.parse?
  rw [htokens]
  rfl

/-- **The text of an integer is read as that integer**, if 64 bits hold it, with or without a
    sign. -/
theorem parse?_toString {n : Int} (hmin : Int64.minValue.toInt ≤ n) (hmax : n < UInt64.size) :
    Json.parse? (toString n) = some (.number (.integer n)) := by
  cases n with
  | ofNat m =>
    have htext : (toString (Int.ofNat m)).toList = Numeral.sign false ++ Nat.toDigits 10 m :=
      Nat.toList_repr
    exact parse?_numeral htext (Numeral.value?_ofNat (Int.ofNat_lt.1 hmax))
  -- A negative number is its sign and the digits of its magnitude.
  | negSucc m =>
    have htext : (toString (Int.negSucc m)).toList =
        Numeral.sign true ++ Nat.toDigits 10 (m + 1) := by
      have hparts : toString (Int.negSucc m) = "-" ++ (m + 1).repr := rfl
      rw [hparts, String.toList_append, Nat.toList_repr]
      rfl
    have hfits : fitsInt64 (-((m + 1 : Nat) : Int)) = true := by
      rw [fitsInt64_iff]
      refine ⟨hmin, ?_⟩
      have hzero : 0 ≤ Int64.maxValue.toInt := by decide
      omega
    exact parse?_numeral htext (Numeral.value?_ofNat_negative (by omega) hfits)

/-- Zero with a sign is read as the number that keeps the sign. -/
theorem parse?_negativeZero :
    Json.parse? "-0" = some (.number (.real ⟨0x8000000000000000⟩)) := by
  -- The literal is no integer, so its digits are scaled, by the power of ten that is 1.
  have hscale : scaleByTen? (.ofNat 0) 0 = some ⟨0⟩ := by
    rw [scaleByTen?]
    rfl
  have hcoefficient : Coefficient.ofNumeral (Numeral.ofNat true 0) = ⟨0, 0, false⟩ := rfl
  have hreal : (Numeral.ofNat true 0).real? = some ⟨0x8000000000000000⟩ := by
    unfold Numeral.real?
    rw [hcoefficient]
    exact congrArg (Option.map Binary64.negated) hscale
  have hvalue : (Numeral.ofNat true 0).value? = some (.real ⟨0x8000000000000000⟩) :=
    congrArg (Option.map Number.real) hreal
  exact parse?_numeral (by decide) hvalue

end Json

end Lexicon
