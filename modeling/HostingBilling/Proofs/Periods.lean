import HostingBilling.Order
import HostingBilling.Proofs.Calendar

/-!
# Billing periods

A period ends in the month of its cycle, at the same time of day, and on the same day or on the last one that
the month has. Several days can share that last one, so the ends of periods are in the order of their days, but
not always in the order of their starts: a period that starts on a later day at an earlier hour can end before
another one, on the same day. That is the only exception, and `endOfPeriod_lt_iff` says just when.
-/

namespace HostingBilling

namespace Instant

/-- One instant has an earlier time of day than another, on whatever day. -/
def EarlierInDay (a b : Instant) : Prop :=
  a.secondOfDay < b.secondOfDay ∨ a.secondOfDay = b.secondOfDay ∧ a.fraction < b.fraction

theorem lt_iff_inDay (a b : Instant) :
    a < b ↔ a.dayNumber < b.dayNumber ∨ a.dayNumber = b.dayNumber ∧ a.EarlierInDay b := by
  have bounds := a.secondOfDay_bounds
  have bounds' := b.secondOfDay_bounds
  rw [lt_def, a.seconds_eq, b.seconds_eq, EarlierInDay]
  omega

theorem isRepresentable_iff (t : Instant) :
    t.isRepresentable = true ↔ leastSecond ≤ t.seconds ∧ t.seconds ≤ greatestSecond := by
  simp [isRepresentable]

theorem isSome_addMonths? (t : Instant) (months : Nat) : (t.addMonths? months).isSome =
    (ofDate (t.date.addMonths months) t.secondOfDay t.fraction).isRepresentable := by
  simp only [addMonths?]
  split
  · next reached => rw [reached, Option.isSome_some]
  · next past => rw [Option.isSome_none, eq_false_of_ne_true past]

/-- Seven days are in reach wherever a whole month is. -/
theorem addDays?_week {t : Instant} {months : Nat} (some_ : 1 ≤ months) (here : t.isRepresentable = true)
    (fits : (t.addMonths? months).isSome = true) : t.addDays? 7 = some (t.addDays 7) := by
  have later := t.civil_date.toDays_addMonths months some_
  have seconds := t.seconds_eq
  have week : (t.addDays 7).seconds = t.seconds + 604800 := rfl
  rw [isSome_addMonths?, isRepresentable_iff] at fits
  rw [isRepresentable_iff] at here
  rw [t.toDays_date] at later
  simp only [ofDate, secondsPerDay] at fits
  have reached : (t.addDays 7).isRepresentable = true := by
    rw [isRepresentable_iff]
    omega
  have notLast : (t.addDays 7).seconds ≠ greatestSecond := by omega
  simp [addDays?, reached, notLast]

end Instant

namespace Cycle

open Instant (EarlierInDay)

variable {c : Cycle} {a b start : Instant}

theorem months_pos (c : Cycle) : 1 ≤ c.months := by
  cases c <;> decide

theorem ofName_name (c : Cycle) : ofName c.name = .ok c := by
  cases c <;> rfl

theorem ofName_unknown {s : String} (unknown : ∀ c : Cycle, s ≠ c.name) :
    ofName s = .error (.validation ("unknown billing cycle: " ++ s)) := by
  have none_ : all.find? (fun c => c.name == s) = none := by
    rw [List.find?_eq_none]
    intro c _ is
    exact unknown c (by simpa using Eq.symm (eq_of_beq is))
  rw [ofName, none_]

section fits

variable (fits : (start.addMonths? c.months).isSome = true)

include fits

theorem endOfPeriod_eq : c.endOfPeriod start =
    Instant.ofDate (start.date.addMonths c.months) start.secondOfDay start.fraction := by
  rw [Instant.isSome_addMonths?] at fits
  simp only [endOfPeriod, Instant.addMonths?, fits, if_true, Option.getD_some]

theorem date_endOfPeriod : (c.endOfPeriod start).date = start.date.addMonths c.months := by
  have bounds := start.secondOfDay_bounds
  rw [endOfPeriod_eq fits, Instant.date_ofDate bounds.1 bounds.2 (start.civil_date.addMonths _)]

theorem secondOfDay_endOfPeriod : (c.endOfPeriod start).secondOfDay = start.secondOfDay := by
  have bounds := start.secondOfDay_bounds
  rw [endOfPeriod_eq fits, Instant.secondOfDay_ofDate bounds.1 bounds.2]

theorem fraction_endOfPeriod : (c.endOfPeriod start).fraction = start.fraction := by
  rw [endOfPeriod_eq fits, Instant.ofDate]

theorem monthNumber_endOfPeriod :
    (c.endOfPeriod start).date.monthNumber = start.date.monthNumber + c.months := by
  rw [date_endOfPeriod fits, Date.monthNumber_addMonths]

theorem day_endOfPeriod : (c.endOfPeriod start).date.day = min start.date.day
    (Date.daysInMonth (c.endOfPeriod start).date.year (c.endOfPeriod start).date.month) := by
  rw [date_endOfPeriod fits]
  rfl

theorem dayNumber_endOfPeriod : start.dayNumber + 28 ≤ (c.endOfPeriod start).dayNumber := by
  rw [← Instant.toDays_date, ← Instant.toDays_date, date_endOfPeriod fits]
  exact start.civil_date.toDays_addMonths c.months c.months_pos

theorem lt_endOfPeriod : start < c.endOfPeriod start := by
  have later := dayNumber_endOfPeriod fits
  rw [Instant.lt_iff_inDay]
  exact .inl (by omega)

end fits

section ordered

variable (fits : (a.addMonths? c.months).isSome = true) (fits' : (b.addMonths? c.months).isSome = true)
  (le : a ≤ b)

include fits fits' le

/-- The days of the ends are in the order of the starts, and two of them are one day just when both days of the
start are clamped to it. -/
theorem dayNumber_endOfPeriod_mono :
    (c.endOfPeriod a).dayNumber ≤ (c.endOfPeriod b).dayNumber ∧
    ((c.endOfPeriod a).dayNumber = (c.endOfPeriod b).dayNumber ↔
      a.date.monthNumber = b.date.monthNumber ∧
        (a.date.day = b.date.day ∨ Date.lengthOfMonth (a.date.monthNumber + c.months) ≤ a.date.day)) := by
  have civil := a.civil_date.addMonths c.months
  have civil' := b.civil_date.addMonths c.months
  -- the months and days of the starts are in order
  have days : a.date.toDays ≤ b.date.toDays := by
    rw [Instant.toDays_date, Instant.toDays_date]
    have := mt (Instant.lt_iff_inDay b a).mpr (not_lt.mpr le)
    omega
  have starts := b.civil_date.toDays_lt_iff a.civil_date
  -- and so are those of the ends, as far as the clamped days allow
  have ends := civil.toDays_lt_iff civil'
  have ends' := civil'.toDays_lt_iff civil
  have clamped := day_endOfPeriod fits
  have clamped' := day_endOfPeriod fits'
  have length := civil.lengthOfMonth
  have length' := civil'.lengthOfMonth
  rw [← Instant.toDays_date, ← Instant.toDays_date, date_endOfPeriod fits, date_endOfPeriod fits']
  rw [date_endOfPeriod fits] at clamped
  rw [date_endOfPeriod fits'] at clamped'
  rw [← length] at clamped
  rw [← length'] at clamped'
  rw [Date.monthNumber_addMonths] at ends ends' clamped clamped'
  rw [Date.monthNumber_addMonths] at ends ends'
  by_cases same : a.date.monthNumber = b.date.monthNumber
  · rw [← same] at clamped'
    omega
  · omega

/-- A period ends before one that starts no later only if both end on one day to which both of their days are
clamped, and the later one starts earlier in its day. -/
theorem endOfPeriod_lt_iff : c.endOfPeriod b < c.endOfPeriod a ↔
    a.date.monthNumber = b.date.monthNumber ∧
      Date.lengthOfMonth (a.date.monthNumber + c.months) ≤ a.date.day ∧ a.date.day < b.date.day ∧
      b.EarlierInDay a := by
  obtain ⟨days, sameDay⟩ := dayNumber_endOfPeriod_mono fits fits' le
  have inDay : (c.endOfPeriod b).EarlierInDay (c.endOfPeriod a) ↔ b.EarlierInDay a := by
    simp only [EarlierInDay, secondOfDay_endOfPeriod fits, secondOfDay_endOfPeriod fits',
      fraction_endOfPeriod fits, fraction_endOfPeriod fits']
  have starts := b.civil_date.toDays_lt_iff a.civil_date
  rw [Instant.toDays_date, Instant.toDays_date] at starts
  have ordered := mt (Instant.lt_iff_inDay b a).mpr (not_lt.mpr le)
  rw [Instant.lt_iff_inDay, inDay]
  constructor
  · rintro (before | ⟨same, earlier⟩)
    · omega
    · obtain ⟨months, one⟩ := sameDay.mp same.symm
      -- on the same day the later start would not be earlier in it
      have apart : a.dayNumber ≠ b.dayNumber := fun onDay => ordered (.inr ⟨onDay.symm, earlier⟩)
      have other : a.date.day ≠ b.date.day := by
        intro days
        apply apart
        rw [← Instant.toDays_date, ← Instant.toDays_date, a.civil_date.ext b.civil_date months days]
      exact ⟨months, one.resolve_left other, by omega, earlier⟩
  · rintro ⟨months, clamped, -, earlier⟩
    exact .inr ⟨(sameDay.mpr ⟨months, .inr clamped⟩).symm, earlier⟩

end ordered

/-- **Where billing periods end.** A period ends after it starts, in the month that lies the months of its cycle
later, at the same time of day, and on the same day of the month or the last one that it has. Of two periods the
one that starts later ends on no earlier day. It ends no earlier either, unless both start in one month on days
that are clamped to the same last day and the later one starts earlier in its day; then it does end earlier.
A new service and a renewal follow the cycle of the given name; with any other name the service is paid for one
month, and the renewal is due in seven days. -/
theorem periods (c : Cycle) {a b : Instant} (here : a.isRepresentable = true) (le : a ≤ b)
    (fits : (a.addMonths? c.months).isSome = true) (fits' : (b.addMonths? c.months).isSome = true) :
    (a < c.endOfPeriod a ∧
      (c.endOfPeriod a).secondOfDay = a.secondOfDay ∧ (c.endOfPeriod a).fraction = a.fraction ∧
      (c.endOfPeriod a).date.monthNumber = a.date.monthNumber + c.months ∧
      (c.endOfPeriod a).date.day = min a.date.day
        (Date.daysInMonth (c.endOfPeriod a).date.year (c.endOfPeriod a).date.month)) ∧
    ((c.endOfPeriod a).dayNumber ≤ (c.endOfPeriod b).dayNumber ∧
      (c.endOfPeriod b < c.endOfPeriod a ↔
        a.date.monthNumber = b.date.monthNumber ∧
        Date.lengthOfMonth (a.date.monthNumber + c.months) ≤ a.date.day ∧ a.date.day < b.date.day ∧
        b.EarlierInDay a)) ∧
    (firstExpiry c.name a = c.endOfPeriod a ∧ renewalDue c.name a = c.endOfPeriod a) ∧
    ∀ s : String, (∀ c : Cycle, s ≠ c.name) →
      firstExpiry s a = monthly.endOfPeriod a ∧ renewalDue s a = a.addDays 7 := by
  refine ⟨⟨lt_endOfPeriod fits, secondOfDay_endOfPeriod fits, fraction_endOfPeriod fits,
    monthNumber_endOfPeriod fits, day_endOfPeriod fits⟩,
    ⟨(dayNumber_endOfPeriod_mono fits fits' le).1, endOfPeriod_lt_iff fits fits' le⟩, ?_, ?_⟩
  · simp only [firstExpiry, renewalDue, ofName_name, and_self]
  · intro s unknown
    simp only [firstExpiry, renewalDue, ofName_unknown unknown, Instant.addDays?_week c.months_pos here fits,
      Option.getD_some, and_self]

/-- Noon of 30 January and eleven on 31 January: the later month ends an hour before the earlier one. -/
theorem periods_januaryEnd :
    (⟨1769774400, 0⟩ : Instant) ≤ ⟨1769857200, 0⟩ ∧
      monthly.endOfPeriod ⟨1769857200, 0⟩ < monthly.endOfPeriod ⟨1769774400, 0⟩ := by
  have le : (⟨1769774400, 0⟩ : Instant) ≤ ⟨1769857200, 0⟩ := by decide
  obtain ⟨-, ⟨-, before⟩, -, -⟩ := periods monthly (by decide) le (by decide) (by decide)
  exact ⟨le, before.mpr ⟨by decide, by decide, by decide, .inl (by decide)⟩⟩

/-- Of two periods of one cycle the one that starts later can end earlier. -/
theorem endOfPeriod_not_monotone : ¬ ∀ (c : Cycle) (a b : Instant),
    a.isRepresentable = true → b.isRepresentable = true → a ≤ b →
      (a.addMonths? c.months).isSome = true → (b.addMonths? c.months).isSome = true →
      c.endOfPeriod a ≤ c.endOfPeriod b := by
  intro claimed
  have ends := claimed monthly ⟨1769774400, 0⟩ ⟨1769857200, 0⟩ (by decide) (by decide) (by decide)
    (by decide) (by decide)
  revert ends
  decide

end Cycle

end HostingBilling
