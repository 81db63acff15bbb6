import Lexicon.Proofs.Datetime.Written

namespace Lexicon.Datetime

open Lexicon.Text

/-!
# Instants

The pattern of date-times looks at single digits only and lets through minutes up to 69 and days up
to 39; the calendar has the last word on what fits the pattern.

* `pattern`, `mem_pattern` — the pattern, and the numbers that it lets through;
* `TellsInstants` — a calendar that is right about the texts of the pattern, whatever it may say of
  others;
* `lenient`, `tellsInstants_lenient` — a calendar that takes small letters as well;
* `instants_are_recognised` — a text is recognised iff it is a real date-time in the fixed form, and
  iff the pattern and such a calendar both let it through.
-/

/-- The pattern of the offset. -/
def zonePattern : Language Char :=
  {['Z']} + one (fun c => c = '+' || c = '-') * twoDigits 2 * {[':']} * twoDigits 5

/-- The pattern of date-times. -/
def pattern : Language Char :=
  one Char.isDigit ^ 4 * {['-']} * twoDigits 1 * {['-']} * twoDigits 3 * {['T']} *
    twoDigits 2 * {[':']} * twoDigits 6 * {[':']} * twoDigits 6 *
    maybe ({['.']} * between 1 20 (one Char.isDigit)) * zonePattern

/-- The numbers are no larger than the first digits that the pattern allows make them. -/
structure Written.IsLoose (t : Written) : Prop where
  month : t.month < 20
  day : t.day < 40
  hour : t.hour < 30
  minute : t.minute < 70
  second : t.second < 70
  hours : t.zone.hours < 30
  minutes : t.zone.minutes < 60

variable {t : Written} {cs : List Char}

/-! ### What the pattern lets through -/

/-- What the pattern bounds fits in the fixed form, but for the year and the fraction. -/
theorem Written.IsLoose.fits (h : t.IsLoose) (hyear : t.year ≤ 9999)
    (hfraction : FractionFits t.fraction) : t.Fits := by
  obtain ⟨hmonth, hday, hhour, hminute, hsecond, hhours, hminutes⟩ := h
  exact ⟨hyear, by omega, by omega, by omega, by omega, by omega, hfraction, by omega, by omega⟩

/-- A text of two languages with a character between them is split at such a character. -/
theorem mem_mul_stop {front rest : Language Char} {c : Char} :
    cs ∈ front * ({[c]} * rest) ↔ ∃ a ∈ front, ∃ b ∈ rest, cs = a ++ c :: b := by
  constructor
  · rintro ⟨a, ha, _, ⟨_, rfl, b, hb, rfl⟩, rfl⟩
    exact ⟨a, ha, b, hb, rfl⟩
  · rintro ⟨a, ha, b, hb, rfl⟩
    exact ⟨a, ha, c :: b, ⟨[c], rfl, b, hb, rfl⟩, rfl⟩

/-- The fraction of the pattern is one that fits. -/
theorem mem_fractionPattern : cs ∈ maybe ({['.']} * between 1 20 (one Char.isDigit)) ↔
    ∃ fraction, Written.FractionFits fraction ∧ cs = behind '.' fraction.toList := by
  rw [mem_maybe_behind]
  simp only [mem_between_one (Nat.le_add_left 1 19), Written.FractionFits]

/-- The zones of the pattern have less than thirty hours and less than sixty minutes. -/
theorem mem_zonePattern :
    cs ∈ zonePattern ↔ ∃ zone : Zone, cs = zone.text ∧ zone.hours < 30 ∧ zone.minutes < 60 := by
  unfold zonePattern
  rw [Language.mem_add, mul_assoc, mem_mul_stop]
  constructor
  · rintro (rfl | ⟨_, ⟨_, ⟨sign, hsign, rfl⟩, _, hhours, rfl⟩, _, hminutes, rfl⟩)
    · exact ⟨.universal, rfl, by decide, by decide⟩
    · -- The sign tells whether the zone is ahead.
      obtain ⟨hour, hhour, rfl⟩ := (mem_twoDigits (by decide)).1 hhours
      obtain ⟨minute, hminute, rfl⟩ := (mem_twoDigits (by decide)).1 hminutes
      refine ⟨.offset (sign = '+') hour minute, ?_, hhour, hminute⟩
      rw [Bool.or_eq_true, decide_eq_true_eq, decide_eq_true_eq] at hsign
      rcases hsign with rfl | rfl <;> rfl
  · rintro ⟨_ | ⟨ahead, hour, minute⟩, rfl, hhour, hminute⟩
    · exact .inl rfl
    · have hsign : [if ahead then '+' else '-'] ∈ one (fun c => c = '+' || c = '-') := by
        rw [mem_one_singleton]
        cases ahead <;> rfl
      have hhours : digits 2 hour ∈ twoDigits 2 :=
        (mem_twoDigits (by decide)).2 ⟨hour, hhour, rfl⟩
      have hminutes : digits 2 minute ∈ twoDigits 5 :=
        (mem_twoDigits (by decide)).2 ⟨minute, hminute, rfl⟩
      exact .inr ⟨_, Language.append_mem_mul hsign hhours, _, hminutes, rfl⟩

/-- **The pattern lets through** what is written in the fixed form with numbers up to its digits. -/
theorem mem_pattern : cs ∈ pattern ↔ ∃ t : Written, cs = t.text ∧ t.Fits ∧ t.IsLoose := by
  unfold pattern
  simp (disch := decide) only [mul_assoc, mem_mul_stop, mem_pow_isDigit, mem_twoDigits]
  constructor
  · rintro ⟨_, ⟨year, hyear, rfl⟩, _, ⟨_, ⟨month, hmonth, rfl⟩, _, ⟨_, ⟨day, hday, rfl⟩, _, ⟨_,
      ⟨hour, hhour, rfl⟩, _, ⟨_, ⟨minute, hminute, rfl⟩, _, ⟨_, inSecond, _, ⟨_, inFraction, _,
      inZone, rfl⟩, rfl⟩, rfl⟩, rfl⟩, rfl⟩, rfl⟩, rfl⟩
    obtain ⟨second, hsecond, rfl⟩ := (mem_twoDigits (by decide)).1 inSecond
    obtain ⟨fraction, hfraction, rfl⟩ := mem_fractionPattern.1 inFraction
    obtain ⟨zone, rfl, hhours, hminutes⟩ := mem_zonePattern.1 inZone
    -- What the pattern cuts out, piece by piece, is a written date-time.
    let t : Written := ⟨year, month, day, hour, minute, second, fraction, zone⟩
    have hloose : t.IsLoose := ⟨hmonth, hday, hhour, hminute, hsecond, hhours, hminutes⟩
    exact ⟨t, rfl, hloose.fits (Nat.le_of_lt_succ hyear) hfraction, hloose⟩
  · rintro ⟨t, rfl, hfits, hloose⟩
    have hsecond : digits 2 t.second ∈ twoDigits 6 :=
      (mem_twoDigits (by decide)).2 ⟨_, hloose.second, rfl⟩
    have hfraction := mem_fractionPattern.2 ⟨t.fraction, hfits.fraction, rfl⟩
    have hzone := mem_zonePattern.2 ⟨t.zone, rfl, hloose.hours, hloose.minutes⟩
    exact ⟨_, ⟨_, Nat.lt_succ_of_le hfits.year, rfl⟩, _, ⟨_, ⟨_, hloose.month, rfl⟩, _,
      ⟨_, ⟨_, hloose.day, rfl⟩, _, ⟨_, ⟨_, hloose.hour, rfl⟩, _, ⟨_, ⟨_, hloose.minute, rfl⟩, _,
      Language.append_mem_mul hsecond (Language.append_mem_mul hfraction hzone), rfl⟩, rfl⟩, rfl⟩,
      rfl⟩, rfl⟩

/-! ### The calendar -/

/-- No month is longer than 31 days. -/
theorem HasDay.le {year month day : Nat} (h : HasDay year month day) : day ≤ 31 := by
  have hlengths : ∀ length ∈ monthLengths, length ≤ 31 := by decide
  rcases h.2 with hday | ⟨-, rfl, -⟩
  · refine hday.trans ?_
    rw [List.getD_eq_getElem?_getD]
    cases hlength : monthLengths[month - 1]? with
    | none => exact Nat.zero_le 31
    | some length => exact hlengths length (List.mem_of_getElem? hlength)
  · decide

/-- What a calendar and a clock know is within the bounds of the pattern. -/
theorem Written.IsReal.isLoose (h : t.IsReal) : t.IsLoose := by
  obtain ⟨hmonth, hday, hhour, hminute, hsecond, hhours, hminutes⟩ := h
  have hdays := hday.le
  exact ⟨by omega, by omega, by omega, by omega, by omega, by omega, by omega⟩

/-- A calendar tells the real date-times from the others that fit the pattern. -/
def TellsInstants (calendar : String → Bool) : Prop :=
  ∀ s : String, s.toList ∈ pattern → ∀ t : Written, s.toList = t.text → t.Fits →
    (calendar s = true ↔ t.IsReal)

/-! ### A calendar that takes small letters as well -/

/-- Digits have no case. -/
theorem toUpper_of_isDigit {c : Char} (h : c.isDigit = true) : c.toUpper = c := by
  have hle : c.val ≤ '9'.val := of_decide_eq_true (Bool.and_eq_true_iff.1 h).2
  refine dif_neg fun hsmall => ?_
  have hletter : 'a'.val ≤ '9'.val := UInt32.le_trans hsmall.1 hle
  exact absurd hletter (by decide)

/-- Nothing that is written has small letters in it. -/
theorem Written.map_toUpper_text (h : FractionFits t.fraction) :
    t.text.map Char.toUpper = t.text := by
  have hdigits {text : List Char} (htext : ∀ c ∈ text, c.isDigit = true) :
      text.map Char.toUpper = text := by
    conv_rhs => rw [← List.map_id' text]
    exact List.map_congr_left fun c hc => toUpper_of_isDigit (htext c hc)
  have hnumber (count n : Nat) : (digits count n).map Char.toUpper = digits count n :=
    hdigits fun _ => isDigit_of_mem_digits
  have hfraction : (behind '.' t.fraction.toList).map Char.toUpper =
      behind '.' t.fraction.toList := by
    cases hsome : t.fraction with
    | none => rfl
    | some text =>
      have htext := hdigits (h text hsome).2.2
      simp [htext]
  -- The only letter of the zone is a large one.
  have hzone : t.zone.text.map Char.toUpper = t.zone.text := by
    cases t.zone with
    | universal => rfl
    | offset ahead => cases ahead <;> simp [Zone.text, hnumber]
  simp [text, hnumber, hfraction, hzone]

/-- The calendar of a reader that takes small letters for large ones. -/
def lenient (s : String) : Bool :=
  (ofText? (s.toList.map Char.toUpper)).any isReal

example : lenient "1985-04-12t23:20:50z" = true ∧ isValid "1985-04-12t23:20:50z" = false := by
  decide

/-- The pattern has no small letters for the lenient calendar to change. -/
theorem tellsInstants_lenient : TellsInstants lenient := by
  intro s _ t hs hfits
  have hread : ofText? t.text = some t.numbers := ofText?_eq_some.2 ⟨t, rfl, hfits, rfl⟩
  rw [lenient, hs, Written.map_toUpper_text hfits.fraction, hread, Option.any_some, isReal_iff]

/-- **Date-times are recognised exactly.**  A text is recognised iff it is a real date-time in the
    fixed form, and also iff it fits the pattern and a calendar that is right about such texts takes
    it for real. -/
theorem instants_are_recognised (s : String) :
    (isValid s = true ↔ ∃ t : Written, s.toList = t.text ∧ t.Fits ∧ t.IsReal) ∧
    ∀ calendar : String → Bool, TellsInstants calendar →
      (isValid s = true ↔ s.toList ∈ pattern ∧ calendar s = true) := by
  refine ⟨isValid_iff, fun calendar hcalendar => ?_⟩
  rw [isValid_iff]
  constructor
  · rintro ⟨t, hs, hfits, hreal⟩
    -- what is real fits the pattern, so that the calendar is right about it
    have hpattern : s.toList ∈ pattern := mem_pattern.2 ⟨t, hs, hfits, hreal.isLoose⟩
    exact ⟨hpattern, (hcalendar s hpattern t hs hfits).2 hreal⟩
  · rintro ⟨hpattern, hdecided⟩
    obtain ⟨t, hs, hfits, -⟩ := mem_pattern.1 hpattern
    exact ⟨t, hs, hfits, (hcalendar s hpattern t hs hfits).1 hdecided⟩

/-- A leap second on a leap day of the year 0, with as long a fraction as there may be. -/
theorem instants_are_recognised_leap_second :
    let s := "0000-02-29T23:59:60.12345678901234567890-23:59"
    isValid s = true ∧ s.toList ∈ pattern ∧ lenient s = true := by
  intro s
  have hvalid : isValid s = true := by decide
  exact ⟨hvalid, ((instants_are_recognised s).2 lenient tellsInstants_lenient).1 hvalid⟩

end Lexicon.Datetime
