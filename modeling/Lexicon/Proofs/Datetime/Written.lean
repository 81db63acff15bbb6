import Lexicon.Proofs.Datetime.Digits
import Mathlib.Data.List.TakeWhile

namespace Lexicon.Datetime

open Lexicon.Text

/-!
# Date-times as they are written

* `Zone`, `Written`, `Written.text` — the numbers of a date-time, and the text that they make;
* `Written.Fits` — each number has its digits, and the fraction neither too few nor too many;
* `Written.IsReal` — the calendar has the day, and the clock the time;
* `ofText?_eq_some` — the reader finds the numbers of the texts that are written so;
* `isReal_iff` — what is checked of the numbers;
* `isValid_iff` — a text is a date-time iff it is written so, and real.
-/

/-- The offset of the clock from universal time, which may be ahead of it. -/
inductive Zone where
  | universal
  | offset (ahead : Bool) (hour minute : Nat)

/-- The numbers of a date-time, and the digits of a fraction of a second. -/
structure Written where
  year : Nat
  month : Nat
  day : Nat
  hour : Nat
  minute : Nat
  second : Nat
  fraction : Option (List Char)
  zone : Zone

namespace Zone

/-- The end of a date-time. -/
def text : Zone → List Char
  | universal => ['Z']
  | offset ahead hour minute =>
    (if ahead then '+' else '-') :: (digits 2 hour ++ ':' :: digits 2 minute)

/-- The hours of the offset. -/
def hours : Zone → Nat
  | universal => 0
  | offset _ hour _ => hour

/-- The minutes of the offset. -/
def minutes : Zone → Nat
  | universal => 0
  | offset _ _ minute => minute

end Zone

namespace Written

/-- The date-time in the fixed form. -/
def text (t : Written) : List Char :=
  digits 4 t.year ++ '-' :: (digits 2 t.month ++ '-' :: (digits 2 t.day ++ 'T' ::
    (digits 2 t.hour ++ ':' :: (digits 2 t.minute ++ ':' :: (digits 2 t.second ++
      (behind '.' t.fraction.toList ++ t.zone.text))))))

/-- A fraction of a second has 1 to 20 digits. -/
def FractionFits (fraction : Option (List Char)) : Prop :=
  ∀ text ∈ fraction, 1 ≤ text.length ∧ text.length ≤ 20 ∧ ∀ c ∈ text, c.isDigit = true

/-- There is room for all digits, and the fraction has some, but not too many. -/
structure Fits (t : Written) : Prop where
  year : t.year ≤ 9999
  month : t.month ≤ 99
  day : t.day ≤ 99
  hour : t.hour ≤ 99
  minute : t.minute ≤ 99
  second : t.second ≤ 99
  fraction : FractionFits t.fraction
  hours : t.zone.hours ≤ 99
  minutes : t.zone.minutes ≤ 99

end Written

/-- Every fourth year is a leap year, but of the full centuries only every fourth. -/
def IsLeap (year : Nat) : Prop :=
  4 ∣ year ∧ (100 ∣ year → 400 ∣ year)

/-- The lengths of the months of a common year. -/
def monthLengths : List Nat :=
  [31, 28, 31, 30, 31, 30, 31, 31, 30, 31, 30, 31]

/-- A month of a year has a day. -/
def HasDay (year month day : Nat) : Prop :=
  1 ≤ day ∧ (day ≤ monthLengths.getD (month - 1) 0 ∨ month = 2 ∧ day = 29 ∧ IsLeap year)

/-- The calendar has the day, and the clock the time; a minute may have a leap second. -/
structure Written.IsReal (t : Written) : Prop where
  month : 1 ≤ t.month ∧ t.month ≤ 12
  day : HasDay t.year t.month t.day
  hour : t.hour ≤ 23
  minute : t.minute ≤ 59
  second : t.second ≤ 60
  hours : t.zone.hours ≤ 23
  minutes : t.zone.minutes ≤ 59

/-- What is kept of a date-time when it is read. -/
def Written.numbers (t : Written) : Datetime where
  year := t.year
  month := t.month
  day := t.day
  hour := t.hour
  minute := t.minute
  second := t.second
  offsetHour := t.zone.hours
  offsetMinute := t.zone.minutes

variable {t : Written} {cs rest : List Char}

/-! ### Reading -/

theorem after?_eq_some {c : Char} : after? c cs = some rest ↔ cs = c :: rest := by
  rw [after?, dropStart?_eq_some, List.singleton_append]

/-- The fraction is read up to its last digit, if it is there at all. -/
theorem afterFraction?_behind {fraction : Option (List Char)}
    (hfraction : Written.FractionFits fraction)
    (hrest : ∀ c ∈ rest.head?, c ≠ '.' ∧ c.isDigit = false) :
    afterFraction? (behind '.' fraction.toList ++ rest) = some rest := by
  cases fraction with
  | none =>
    cases rest with
    | nil => rfl
    | cons c rest =>
      have hpoint := (hrest c rfl).1
      unfold afterFraction?
      split
      · rename_i heq
        exact absurd (List.cons.inj heq).1 hpoint
      · rfl
  | some text =>
    obtain ⟨hpos, hle, hchars⟩ := hfraction text rfl
    -- The digits of the fraction end where the rest starts.
    have hstop : ∀ c ∈ rest.head?, c.isDigit = false := fun c hc => (hrest c hc).2
    have htake := takeWhile_append_stop hchars hstop
    have hdrop := dropWhile_append_stop hchars hstop
    simp [behind, afterFraction?, htake, hdrop, hpos, hle, maxFraction]

/-- What comes after a fraction, if one is written, is found behind one that fits. -/
theorem exists_of_afterFraction? (h : afterFraction? cs = some rest) :
    ∃ fraction, Written.FractionFits fraction ∧ cs = behind '.' fraction.toList ++ rest := by
  unfold afterFraction? at h
  split at h
  · rename_i text
    dsimp only at h
    split at h
    · rename_i hlength
      rw [Option.some.injEq] at h
      refine ⟨some (text.takeWhile Char.isDigit), ?_, ?_⟩
      · rintro _ ⟨⟩
        exact ⟨hlength.1, hlength.2, fun c hc => List.mem_takeWhile_imp hc⟩
      · rw [← h]
        simp [behind]
    · cases h
  · rw [Option.some.injEq] at h
    exact ⟨none, by rintro _ ⟨⟩, h⟩

/-- The offset ends the text. -/
theorem offset?_eq_some {hours minutes : Nat} : offset? cs = some (hours, minutes) ↔
    ∃ zone : Zone, cs = zone.text ∧ zone.hours = hours ∧ zone.minutes = minutes ∧
      hours ≤ 99 ∧ minutes ≤ 99 := by
  unfold offset?
  constructor
  · intro h
    split at h
    · cases h
      exact ⟨.universal, rfl, rfl, rfl, by decide, by decide⟩
    · rename_i sign rest _
      split at h
      · rename_i hsign
        simp only [Option.bind_eq_bind, Option.bind_eq_some_iff, Prod.exists, number?_eq_some,
          after?_eq_some] at h
        obtain ⟨hour, _, ⟨hhour, rfl⟩, _, rfl, minute, tail, ⟨hminute, rfl⟩, hend⟩ := h
        split at hend
        · rename_i hempty
          cases hend
          -- Nothing is left behind the minutes, so the text is that of the zone.
          rw [List.isEmpty_iff.1 hempty, List.append_nil]
          refine ⟨.offset (sign = '+') hours minutes, ?_, rfl, rfl, by omega, by omega⟩
          rcases hsign with rfl | rfl <;> rfl
        · cases hend
      · cases h
    · cases h
  · rintro ⟨zone, rfl, rfl, rfl, hhours, hminutes⟩
    cases zone with
    | universal => rfl
    | offset ahead hour minute =>
      have hhour : number? 2 (digits 2 hour ++ ':' :: digits 2 minute) =
          some (hour, ':' :: digits 2 minute) :=
        number?_eq_some.2 ⟨Nat.lt_succ_of_le hhours, rfl⟩
      have hcolon : after? ':' (':' :: digits 2 minute) = some (digits 2 minute) :=
        after?_eq_some.2 rfl
      have hminute : number? 2 (digits 2 minute) = some (minute, []) :=
        number?_eq_some.2 ⟨Nat.lt_succ_of_le hminutes, (List.append_nil _).symm⟩
      cases ahead <;> simp [Zone.text, hhour, hcolon, hminute, Zone.hours, Zone.minutes]

/-- An offset starts with neither a point nor a digit. -/
theorem Zone.head?_text (zone : Zone) : ∀ c ∈ zone.text.head?, c ≠ '.' ∧ c.isDigit = false := by
  cases zone with
  | universal =>
    rintro _ ⟨⟩
    decide
  | offset ahead => cases ahead <;> simp [text]

/-- **The reader finds the numbers that are written**, and nothing but such texts can be read. -/
theorem ofText?_eq_some {numbers : Datetime} :
    ofText? cs = some numbers ↔ ∃ t : Written, cs = t.text ∧ t.Fits ∧ t.numbers = numbers := by
  unfold ofText?
  simp only [Option.bind_eq_bind, Option.bind_eq_some_iff, Prod.exists, number?_eq_some,
    after?_eq_some]
  constructor
  · rintro ⟨year, _, ⟨hyear, rfl⟩, _, rfl, month, _, ⟨hmonth, rfl⟩, _, rfl, day, _, ⟨hday, rfl⟩, _,
      rfl, hour, _, ⟨hhour, rfl⟩, _, rfl, minute, _, ⟨hminute, rfl⟩, _, rfl, second, tail,
      ⟨hsecond, rfl⟩, rest, hfraction, hours, minutes, hzone, hnumbers⟩
    obtain ⟨fraction, hfits, rfl⟩ := exists_of_afterFraction? hfraction
    obtain ⟨zone, rfl, rfl, rfl, hhours, hminutes⟩ := offset?_eq_some.1 hzone
    refine ⟨⟨year, month, day, hour, minute, second, fraction, zone⟩, rfl, ?_,
      Option.some.inj hnumbers⟩
    exact ⟨Nat.le_of_lt_succ hyear, Nat.le_of_lt_succ hmonth, Nat.le_of_lt_succ hday,
      Nat.le_of_lt_succ hhour, Nat.le_of_lt_succ hminute, Nat.le_of_lt_succ hsecond, hfits, hhours,
      hminutes⟩
  · -- The zone behind the fraction starts with no digit, so that the fraction ends where it should.
    rintro ⟨t, rfl, hfits, rfl⟩
    have hfraction := afterFraction?_behind hfits.fraction t.zone.head?_text
    have hzone := offset?_eq_some.2 ⟨t.zone, rfl, rfl, rfl, hfits.hours, hfits.minutes⟩
    exact ⟨t.year, _, ⟨Nat.lt_succ_of_le hfits.year, rfl⟩, _, rfl,
      t.month, _, ⟨Nat.lt_succ_of_le hfits.month, rfl⟩, _, rfl,
      t.day, _, ⟨Nat.lt_succ_of_le hfits.day, rfl⟩, _, rfl,
      t.hour, _, ⟨Nat.lt_succ_of_le hfits.hour, rfl⟩, _, rfl,
      t.minute, _, ⟨Nat.lt_succ_of_le hfits.minute, rfl⟩, _, rfl,
      t.second, _, ⟨Nat.lt_succ_of_le hfits.second, rfl⟩, _, hfraction, _, _, hzone, rfl⟩

/-! ### Calendar and clock -/

/-- The test of years is the rule of the calendar. -/
theorem isLeapYear_iff {year : Nat} : isLeapYear year = true ↔ IsLeap year := by
  simp only [isLeapYear, IsLeap, Bool.and_eq_true, Bool.or_eq_true, beq_iff_eq, bne_iff_ne]
  omega

/-- A year has the days of its months. -/
theorem hasDay_iff {year month day : Nat} :
    (1 ≤ month ∧ month ≤ 12) ∧ HasDay year month day ↔
      1 ≤ day ∧ day ≤ daysInMonth year month := by
  by_cases hmonth : 1 ≤ month ∧ month ≤ 12
  · rw [and_iff_right hmonth, HasDay]
    refine and_congr_right fun _ => ?_
    -- only in February does the length depend on the year
    by_cases hfebruary : month = 2
    · subst hfebruary
      have hlength : daysInMonth year 2 = if isLeapYear year then 29 else 28 := rfl
      have hcommon : monthLengths.getD (2 - 1) 0 = 28 := rfl
      rw [hlength, hcommon, ← isLeapYear_iff]
      by_cases hleap : isLeapYear year = true
      · rw [if_pos hleap]
        simp only [hleap, true_and, and_true]
        omega
      · rw [if_neg hleap]
        simp only [hleap, and_false, or_false, Bool.false_eq_true]
    · have hlength : daysInMonth year month = monthLengths.getD (month - 1) 0 := by
        match month, hmonth, hfebruary with
        | 1, _, _ | 3, _, _ | 4, _, _ | 5, _, _ | 6, _, _ | 7, _, _ => rfl
        | 8, _, _ | 9, _, _ | 10, _, _ | 11, _, _ | 12, _, _ => rfl
      simp [hlength, hfebruary]
  · have hnone : daysInMonth year month = 0 := by
      match month, hmonth with
      | 0, _ => rfl
      | _ + 13, _ => rfl
    rw [hnone]
    omega

/-- The numbers of a date-time are checked for what makes it a real one. -/
theorem isReal_iff : t.numbers.isReal = true ↔ t.IsReal := by
  have hchecks : t.numbers.isReal = true ↔
      (1 ≤ t.day ∧ t.day ≤ daysInMonth t.year t.month) ∧ t.hour ≤ 23 ∧ t.minute ≤ 59 ∧
        t.second ≤ 60 ∧ t.zone.hours ≤ 23 ∧ t.zone.minutes ≤ 59 := by
    simp only [isReal, Bool.and_eq_true, decide_eq_true_eq, and_assoc]
    rfl
  rw [hchecks, ← hasDay_iff]
  constructor
  · rintro ⟨⟨hmonth, hday⟩, hhour, hminute, hsecond, hhours, hminutes⟩
    exact ⟨hmonth, hday, hhour, hminute, hsecond, hhours, hminutes⟩
  · rintro ⟨hmonth, hday, hhour, hminute, hsecond, hhours, hminutes⟩
    exact ⟨⟨hmonth, hday⟩, hhour, hminute, hsecond, hhours, hminutes⟩

/-- **Date-times are those that are written in the fixed form and real.** -/
theorem isValid_iff {s : String} :
    isValid s = true ↔ ∃ t : Written, s.toList = t.text ∧ t.Fits ∧ t.IsReal := by
  rw [isValid, Option.any_eq_true]
  constructor
  · rintro ⟨numbers, hnumbers, hreal⟩
    obtain ⟨t, hs, hfits, rfl⟩ := ofText?_eq_some.1 hnumbers
    exact ⟨t, hs, hfits, isReal_iff.1 hreal⟩
  · rintro ⟨t, hs, hfits, hreal⟩
    exact ⟨t.numbers, ofText?_eq_some.2 ⟨t, hs, hfits, rfl⟩, isReal_iff.2 hreal⟩

end Lexicon.Datetime
