import HostingBilling.Proofs.InstantOrder
import Mathlib.Order.Monotone.Basic
import Mathlib.Tactic.IntervalCases

/-!
# Dates and day numbers

The days from 1970-01-01 number the dates of the calendar, without a gap and in their order, and so do the
months from the first one of the year 0. Both are read off the same place: the day number of a date is that of
the first day of its month and the days of the month after it.

A cycle of 400 years is taken apart into centuries, four years and years. The last day of every fourth year and
of the last century is one more than the division accounts for; `exists_cycleDay` is where that is settled.
-/

namespace HostingBilling

namespace Date

/-- The date is one of the calendar. -/
structure Civil (d : Date) : Prop where
  month_pos : 1 ≤ d.month
  month_le : d.month ≤ 12
  day_pos : 1 ≤ d.day
  day_le : d.day ≤ daysInMonth d.year d.month

/-- Months since the first one of the year 0. -/
def monthNumber (d : Date) : Int := d.year * 12 + (d.month - 1)

/-- The days of a month, the months counted from the first one of the year 0. -/
def lengthOfMonth (k : Int) : Nat := daysInMonth (k / 12) ((k % 12).toNat + 1)

/-- The day number of the first day of a month. -/
def firstDay (k : Int) : Int := toDays ⟨k / 12, (k % 12).toNat + 1, 1⟩

/-! ## The lengths of months -/

theorem isLeap_iff (year : Int) :
    isLeap year = true ↔ year % 4 = 0 ∧ (year % 100 = 0 → year % 400 = 0) := by
  simp only [isLeap, Bool.and_eq_true, Bool.or_eq_true, beq_iff_eq, bne_iff_ne]
  omega

theorem isLeap_add_cycles (year c : Int) : isLeap (year + 400 * c) = isLeap year := by
  rw [Bool.eq_iff_iff, isLeap_iff, isLeap_iff]
  omega

theorem le_daysInMonth (year : Int) (month : Nat) : 28 ≤ daysInMonth year month := by
  unfold daysInMonth
  split
  · split <;> omega
  all_goals omega

/-- The leap days up to a year are one more than up to the year before just when it is a leap year. -/
theorem isLeap_iff_leapDays (year : Int) : isLeap year = true ↔
    year / 4 - year / 100 + year / 400 = (year - 1) / 4 - (year - 1) / 100 + (year - 1) / 400 + 1 := by
  rw [isLeap_iff]
  omega

theorem firstDay_succ (k : Int) : firstDay (k + 1) = firstDay k + lengthOfMonth k := by
  obtain ⟨year, m, rfl, low, high⟩ : ∃ year m : Int, k = 12 * year + m ∧ 0 ≤ m ∧ m < 12 :=
    ⟨k / 12, k % 12, by omega, by omega, by omega⟩
  have ofYear : (12 * year + m) / 12 = year := by omega
  have ofMonth : (12 * year + m) % 12 = m := by omega
  simp only [firstDay, lengthOfMonth, ofYear, ofMonth]
  by_cases december : m = 11
  · subst december
    have nextYear : (12 * year + 11 + 1) / 12 = year + 1 := by omega
    have nextMonth : (12 * year + 11 + 1) % 12 = 0 := by omega
    simp [toDays, daysInMonth, nextYear, nextMonth]
    omega
  · have sameYear : (12 * year + m + 1) / 12 = year := by omega
    have nextMonth : (12 * year + m + 1) % 12 = m + 1 := by omega
    simp only [sameYear, nextMonth]
    by_cases february : m = 1
    · subst february
      have leap := isLeap_iff_leapDays year
      simp [toDays, daysInMonth]
      split <;> rename_i is <;> simp [is] at leap <;> omega
    · interval_cases m <;> simp_all [toDays, daysInMonth] <;> omega

theorem firstDay_mono {j k : Int} (le : j ≤ k) : firstDay j ≤ firstDay k := by
  have step (k : Int) : firstDay k ≤ firstDay (k + 1) := by
    have days := le_daysInMonth (k / 12) ((k % 12).toNat + 1)
    rw [firstDay_succ, lengthOfMonth]
    omega
  exact monotone_int_of_le_succ step le

/-! ## Dates in order -/

section civil

variable {d a b : Date}

theorem Civil.monthNumber_div (civil : d.Civil) : d.monthNumber / 12 = d.year := by
  have := civil.month_pos
  have := civil.month_le
  simp only [monthNumber]
  omega

theorem Civil.monthNumber_mod (civil : d.Civil) : (d.monthNumber % 12).toNat + 1 = d.month := by
  have := civil.month_pos
  have := civil.month_le
  simp only [monthNumber]
  omega

theorem Civil.lengthOfMonth (civil : d.Civil) :
    lengthOfMonth d.monthNumber = daysInMonth d.year d.month := by
  rw [Date.lengthOfMonth, civil.monthNumber_div, civil.monthNumber_mod]

theorem Civil.toDays (civil : d.Civil) : d.toDays = firstDay d.monthNumber + (d.day - 1) := by
  rw [firstDay, civil.monthNumber_div, civil.monthNumber_mod]
  simp only [Date.toDays]
  omega

/-- Dates with the same month and the same day of it are the same. -/
theorem Civil.ext (civil : a.Civil) (civil' : b.Civil) (months : a.monthNumber = b.monthNumber)
    (days : a.day = b.day) : a = b := by
  have years := civil.monthNumber_div.symm.trans (months ▸ civil'.monthNumber_div)
  have ofYear := civil.monthNumber_mod.symm.trans (months ▸ civil'.monthNumber_mod)
  cases a
  cases b
  simp_all

theorem Civil.toDays_lt (civil : a.Civil) (civil' : b.Civil) (earlier : a.monthNumber < b.monthNumber) :
    a.toDays < b.toDays := by
  have first : firstDay (a.monthNumber + 1) ≤ firstDay b.monthNumber := firstDay_mono earlier
  have := civil.day_le
  have := civil'.day_pos
  rw [firstDay_succ, civil.lengthOfMonth] at first
  rw [civil.toDays, civil'.toDays]
  omega

/-- Day numbers go up with the months, and with the days of a month. -/
theorem Civil.toDays_lt_iff (civil : a.Civil) (civil' : b.Civil) : a.toDays < b.toDays ↔
    a.monthNumber < b.monthNumber ∨ a.monthNumber = b.monthNumber ∧ a.day < b.day := by
  rcases lt_trichotomy a.monthNumber b.monthNumber with earlier | same | later
  · simp [earlier, civil.toDays_lt civil' earlier]
  · have := civil.day_pos
    have := civil'.day_pos
    rw [civil.toDays, civil'.toDays, same]
    omega
  · have := civil'.toDays_lt civil later
    omega

theorem Civil.toDays_inj (civil : a.Civil) (civil' : b.Civil) (same : a.toDays = b.toDays) : a = b := by
  have before := civil.toDays_lt_iff civil'
  have after := civil'.toDays_lt_iff civil
  exact civil.ext civil' (by omega) (by omega)

end civil

/-! ## The date of a day number -/

/-- A day of a cycle of 400 years, by its century, its four years, its year of the four and its day of the
year. -/
theorem exists_cycleDay {n : Int} (nonneg : 0 ≤ n) (lt : n < 146097) :
    ∃ c q t j : Int, n = 36524 * c + 1461 * q + 365 * t + j ∧ 0 ≤ c ∧ c ≤ 3 ∧ 0 ≤ q ∧ q ≤ 24 ∧
      0 ≤ t ∧ t ≤ 3 ∧ 0 ≤ j ∧ j ≤ 365 ∧ (j = 365 → t = 3 ∧ (q = 24 → c = 3)) := by
  by_cases last : n = 146096
  · exact ⟨3, 24, 3, 365, by omega⟩
  · by_cases leap : n % 36524 % 1461 = 1460
    · exact ⟨n / 36524, n % 36524 / 1461, 3, 365, by omega⟩
    · exact ⟨n / 36524, n % 36524 / 1461, n % 36524 % 1461 / 365, n % 36524 % 1461 % 365, by omega⟩

/-- A day of a cycle of 400 years, by its year, counted from March, and its day of the year. -/
theorem exists_yearDay {n : Int} (nonneg : 0 ≤ n) (lt : n < 146097) :
    ∃ year j : Int, (n - n / 1460 + n / 36524 - n / 146096) / 365 = year ∧
      n = 365 * year + year / 4 - year / 100 + j ∧ 0 ≤ year ∧ year < 400 ∧ 0 ≤ j ∧ j ≤ 365 ∧
      (j = 365 → isLeap (year + 1) = true) := by
  obtain ⟨c, q, t, j, is, c₀, c₁, q₀, q₁, t₀, t₁, j₀, j₁, last⟩ := exists_cycleDay nonneg lt
  have within : 1461 * q + 365 * t + j < 36524 ∨ c = 3 ∧ 1461 * q + 365 * t + j = 36524 := by
    by_cases leap : j = 365 <;> omega
  have centuries : n / 36524 - n / 146096 = c := by
    rcases within with within | ⟨rfl, within⟩
    · have century : n / 36524 = c ∧ n % 36524 = 1461 * q + 365 * t + j :=
        (Int.ediv_emod_unique (by decide)).mpr ⟨by omega, by omega, within⟩
      omega
    · omega
  have leaps : n / 1460 = 25 * c + q ∧ j ≤ 364 ∨ n / 1460 = 25 * c + q + 1 ∧ 1 ≤ j := by omega
  have fours : (100 * c + 4 * q + t) / 4 = 25 * c + q := by omega
  have hundreds : (100 * c + 4 * q + t) / 100 = c := by omega
  refine ⟨100 * c + 4 * q + t, j, ?_, ?_, ?_, ?_, j₀, j₁, ?_⟩
  · omega
  · omega
  · omega
  · omega
  · rw [isLeap_iff]
    omega

/-- The date of a day of a month, the months of a year counted from March. -/
def ofMarch (year m day : Int) : Date :=
  let month := if m < 10 then m + 3 else m - 9
  ⟨year + (if month ≤ 2 then 1 else 0), month.toNat, day.toNat⟩

section march

variable {year m day : Int} (m₀ : 0 ≤ m) (m₁ : m ≤ 11) (day₀ : 1 ≤ day)

include m₀ m₁ day₀

theorem toDays_ofMarch : (ofMarch year m day).toDays =
    365 * year + year / 4 - year / 100 + year / 400 + (153 * m + 2) / 5 + day - 1 - epoch := by
  simp only [toDays, ofMarch]
  interval_cases m <;> simp <;> omega

theorem civil_ofMarch (within : (153 * m + 2) / 5 + day ≤ (153 * (m + 1) + 2) / 5)
    (february : m = 11 → day ≤ 28 ∨ day = 29 ∧ isLeap (year + 1) = true) :
    (ofMarch year m day).Civil := by
  simp only [ofMarch]
  constructor
  · interval_cases m <;> simp
  · interval_cases m <;> simp
  · dsimp only
    omega
  · by_cases last : m = 11
    · subst last
      rcases february rfl with short | ⟨long, leap⟩
      · refine Nat.le_trans ?_ (le_daysInMonth _ _)
        dsimp only
        omega
      · simp [daysInMonth, long, leap]
    · interval_cases m <;> simp [daysInMonth] <;> omega

end march

theorem ofDays_eq_ofMarch (n : Int) : ∃ year j c : Int,
    ofDays n = ofMarch (year + 400 * c) ((5 * j + 2) / 153) (j - (153 * ((5 * j + 2) / 153) + 2) / 5 + 1) ∧
      n + epoch = 146097 * c + 365 * year + year / 4 - year / 100 + year / 400 + j ∧ 0 ≤ j ∧ j ≤ 365 ∧
      (j = 365 → isLeap (year + 1) = true) := by
  obtain ⟨year, j, ofYear, is, y₀, y₁, j₀, j₁, leap⟩ :=
    exists_yearDay (n := (n + epoch) % 146097) (by omega) (by omega)
  refine ⟨year, j, (n + epoch) / 146097, ?_, by omega, j₀, j₁, leap⟩
  have ofDay : (n + epoch) % 146097 - (365 * year + year / 4 - year / 100) = j := by omega
  simp only [ofDays, ofMarch, ofYear, ofDay]
  congr 2
  omega

/-- The date of a day number is one of the calendar, and has that number. -/
theorem ofDays_spec (n : Int) : (ofDays n).Civil ∧ (ofDays n).toDays = n := by
  obtain ⟨year, j, c, read, is, j₀, j₁, leap⟩ := ofDays_eq_ofMarch n
  have m₀ : 0 ≤ (5 * j + 2) / 153 := by omega
  have m₁ : (5 * j + 2) / 153 ≤ 11 := by omega
  have day₀ : 1 ≤ j - (153 * ((5 * j + 2) / 153) + 2) / 5 + 1 := by omega
  rw [read]
  constructor
  · apply civil_ofMarch m₀ m₁ day₀
    · omega
    · intro last
      by_cases latest : j = 365
      · refine .inr ⟨by omega, ?_⟩
        rw [show year + 400 * c + 1 = year + 1 + 400 * c by omega, isLeap_add_cycles]
        exact leap latest
      · exact .inl (by omega)
  · have cycles : (year + 400 * c) / 4 - (year + 400 * c) / 100 + (year + 400 * c) / 400 =
        year / 4 - year / 100 + year / 400 + 97 * c := by omega
    rw [toDays_ofMarch m₀ m₁ day₀]
    omega

theorem civil_ofDays (n : Int) : (ofDays n).Civil := (ofDays_spec n).1

theorem toDays_ofDays (n : Int) : (ofDays n).toDays = n := (ofDays_spec n).2

theorem Civil.ofDays_toDays {d : Date} (civil : d.Civil) : ofDays d.toDays = d :=
  (civil_ofDays _).toDays_inj civil (toDays_ofDays _)

/-! ## Some months later -/

section later

variable {d : Date} (months : Nat)

theorem Civil.addMonths (civil : d.Civil) : (d.addMonths months).Civil where
  month_pos := Nat.le_add_left _ _
  month_le := by
    simp only [Date.addMonths]
    omega
  day_pos := Nat.le_min.mpr ⟨civil.day_pos, Nat.le_trans (by decide) (le_daysInMonth _ _)⟩
  day_le := Nat.min_le_right _ _

theorem monthNumber_addMonths (d : Date) :
    (d.addMonths months).monthNumber = d.monthNumber + months := by
  simp only [monthNumber, Date.addMonths]
  omega

/-- A later month begins at least the days of this one later, and the day is the same or the last one. -/
theorem Civil.toDays_addMonths (civil : d.Civil) (some_ : 1 ≤ months) :
    d.toDays + 28 ≤ (d.addMonths months).toDays := by
  have later := civil.addMonths months
  have first : firstDay (d.monthNumber + 1) ≤ firstDay (d.addMonths months).monthNumber := by
    rw [monthNumber_addMonths]
    exact firstDay_mono (by omega)
  have day : (d.addMonths months).day =
    min d.day (daysInMonth (d.addMonths months).year (d.addMonths months).month) := rfl
  have := le_daysInMonth d.year d.month
  have := le_daysInMonth (d.addMonths months).year (d.addMonths months).month
  have := civil.day_le
  rw [firstDay_succ, civil.lengthOfMonth] at first
  rw [civil.toDays, later.toDays, day]
  omega

end later

end Date

/-! ## Instants by date and time of day -/

namespace Instant

variable {d : Date} {s : Int} {f : Nat}

theorem secondOfDay_bounds (t : Instant) : 0 ≤ t.secondOfDay ∧ t.secondOfDay < 86400 := by
  simp only [secondOfDay, secondsPerDay]
  omega

theorem civil_date (t : Instant) : t.date.Civil := Date.civil_ofDays _

theorem toDays_date (t : Instant) : t.date.toDays = t.dayNumber := Date.toDays_ofDays _

theorem seconds_eq (t : Instant) : t.seconds = t.dayNumber * 86400 + t.secondOfDay := by
  simp only [dayNumber, secondOfDay, secondsPerDay]
  omega

section ofDate

variable (low : 0 ≤ s) (high : s < 86400)

include low high

theorem secondOfDay_ofDate (d : Date) (f : Nat) : (ofDate d s f).secondOfDay = s := by
  simp only [secondOfDay, ofDate, secondsPerDay]
  omega

theorem dayNumber_ofDate (d : Date) (f : Nat) : (ofDate d s f).dayNumber = d.toDays := by
  simp only [dayNumber, ofDate, secondsPerDay]
  omega

theorem date_ofDate (civil : d.Civil) (f : Nat) : (ofDate d s f).date = d := by
  rw [date, dayNumber_ofDate low high, civil.ofDays_toDays]

end ofDate

end Instant

end HostingBilling
