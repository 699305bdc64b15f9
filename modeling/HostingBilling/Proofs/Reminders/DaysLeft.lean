import HostingBilling.Proofs.InstantOrder
import HostingBilling.Renewal
import Mathlib.Order.Bounds.Basic

/-!
# The days that are left

How many days are left of a service is counted in whole seconds: what is left below a second is dropped before
the days are rounded up. The count is therefore one day short just when what is left exceeds a number of whole
days by less than a second, and exact otherwise.

Inside a leap second the order of instants does not tell how far they lie apart: a clock measures a shorter way
from there to a later day than from the second that follows. The general statement is therefore about what lies
between two instants, and the ones about their order leave leap seconds out.
-/

namespace HostingBilling

namespace Instant

theorem fraction_lt_of_not_leap {t : Instant} (plain : t.isLeap = false) : t.fraction < 1000000000 := by
  exact Nat.lt_of_not_le (of_decide_eq_false plain)

/-- Outside of leap seconds what lies between two instants is the difference of their readings. -/
theorem nanosSince_of_not_leap {late early : Instant} (plain : late.isLeap = false) (plain' : early.isLeap = false) :
    late.nanosSince early =
      (late.seconds - early.seconds) * 1000000000 + (late.fraction - early.fraction) := by
  simp [nanosSince, leapBetween, plain, plain', nanosPerSecond]

section plain

variable {a b : Instant} (plain : a.isLeap = false) (plain' : b.isLeap = false)

include plain plain'

theorem nanosSince_lt_iff (n : Int) : a.nanosSince b < n * 1000000000 ↔ a < b.addSeconds n := by
  have small := fraction_lt_of_not_leap plain
  have small' := fraction_lt_of_not_leap plain'
  rw [nanosSince_of_not_leap plain plain', lt_def]
  simp only [addSeconds]
  omega

end plain

/-- What is left below a second is not counted. -/
theorem secondsSince_le_iff (late early : Instant) {n : Int} (nonneg : 0 ≤ n) :
    late.secondsSince early ≤ n ↔ late.nanosSince early < (n + 1) * 1000000000 := by
  rw [secondsSince, show ((nanosPerSecond : Nat) : Int) = 1000000000 from rfl]
  by_cases passed : late.nanosSince early < 0
  · have negated := Int.neg_tdiv (-late.nanosSince early) 1000000000
    have counted := Int.tdiv_nonneg (a := -late.nanosSince early) (b := 1000000000) (by omega) (by omega)
    rw [Int.neg_neg] at negated
    omega
  · rw [Int.tdiv_eq_ediv_of_nonneg (by omega)]
    omega

end Instant

namespace Renewal

open Instant (secondsPerDay)

variable {e n : Instant}

theorem wholeDaysLeft_nonneg (e n : Instant) : 0 ≤ wholeDaysLeft e n := by
  simp only [wholeDaysLeft]
  split <;> omega

/-- The count is at most so many days just when what is left falls short of them and one second more. -/
theorem wholeDaysLeft_le_iff (e n : Instant) {d : Int} (nonneg : 0 ≤ d) :
    wholeDaysLeft e n ≤ d ↔ e.nanosSince n < (d * secondsPerDay + 1) * 1000000000 := by
  have days : (0 : Int) ≤ d * secondsPerDay := Int.mul_nonneg nonneg (by decide)
  rw [← Instant.secondsSince_le_iff e n days]
  simp only [wholeDaysLeft, secondsPerDay]
  split <;> omega

/-- Less time left is not more days. -/
theorem wholeDaysLeft_mono {n' : Instant} (less : e.nanosSince n' ≤ e.nanosSince n) :
    wholeDaysLeft e n' ≤ wholeDaysLeft e n := by
  rw [wholeDaysLeft_le_iff e n' (wholeDaysLeft_nonneg e n)]
  exact Int.lt_of_le_of_lt less ((wholeDaysLeft_le_iff e n (wholeDaysLeft_nonneg e n)).mp (Int.le_refl _))

/-- The least number of days that has a property, when the property is that the count is at most so many. -/
theorem wholeDaysLeft_isLeast {p : Int → Prop} (counts : ∀ d, 0 ≤ d → (p d ↔ wholeDaysLeft e n ≤ d)) :
    IsLeast {d : Int | 0 ≤ d ∧ p d} (wholeDaysLeft e n) := by
  have nonneg := wholeDaysLeft_nonneg e n
  refine ⟨⟨nonneg, (counts _ nonneg).mpr (Int.le_refl _)⟩, ?_⟩
  rintro d ⟨nonneg, holds⟩
  exact (counts d nonneg).mp holds

section plain

variable (plain : e.isLeap = false) (plain' : n.isLeap = false)

include plain plain'

theorem wholeDaysLeft_le_iff_of_not_leap {d : Int} (nonneg : 0 ≤ d) :
    wholeDaysLeft e n ≤ d ↔ e < (n.addDays d).addSeconds 1 := by
  have shifted : (n.addDays d).addSeconds 1 = n.addSeconds (d * secondsPerDay + 1) := by
    simp [Instant.addDays, Instant.addSeconds, Int.add_assoc]
  rw [wholeDaysLeft_le_iff e n nonneg, shifted, Instant.nanosSince_lt_iff plain plain']

/-- The count is the exact one, unless the expiry falls into the second after a whole number of days. -/
theorem wholeDaysLeft_exact_iff : IsLeast {d : Int | 0 ≤ d ∧ e ≤ n.addDays d} (wholeDaysLeft e n) ↔
    ∀ d, 0 ≤ d → e ≤ n.addDays d ∨ (n.addDays d).addSeconds 1 ≤ e := by
  constructor
  · rintro ⟨⟨-, reached⟩, -⟩ d nonneg
    rw [or_iff_not_imp_right, not_le, ← wholeDaysLeft_le_iff_of_not_leap plain plain' nonneg]
    intro counted
    apply le_trans reached
    simp only [Instant.le_def, Instant.addDays, Instant.addSeconds, secondsPerDay]
    omega
  · intro apart
    apply wholeDaysLeft_isLeast
    intro d nonneg
    rw [wholeDaysLeft_le_iff_of_not_leap plain plain' nonneg]
    constructor
    · intro reached
      apply lt_of_le_of_lt reached
      simp only [Instant.lt_def, Instant.addSeconds]
      omega
    · intro within
      exact (apart d nonneg).resolve_right (not_le.mpr within)

end plain

/-- **Days are counted without the last fraction of a second.** The count of days left is the least number of
days that, with less than a second more, make up for what is left; so it does not grow while that shrinks.
Outside of leap seconds it is the least number of days after which the expiry is less than a second away or
past, it is zero just when less than a second is left, and it never grows with time. It is the number that the
expiry is not later than, exactly, unless the expiry falls into the second after a whole number of days. -/
theorem days_left (e n : Instant) :
    IsLeast {d : Int | 0 ≤ d ∧ e.nanosSince n < (d * secondsPerDay + 1) * 1000000000} (wholeDaysLeft e n) ∧
    (∀ n' : Instant, e.nanosSince n' ≤ e.nanosSince n → wholeDaysLeft e n' ≤ wholeDaysLeft e n) ∧
    (e.isLeap = false → n.isLeap = false →
      IsLeast {d : Int | 0 ≤ d ∧ e < (n.addDays d).addSeconds 1} (wholeDaysLeft e n) ∧
      (wholeDaysLeft e n = 0 ↔ e < n.addSeconds 1) ∧
      (∀ n' : Instant, n'.isLeap = false → n ≤ n' → wholeDaysLeft e n' ≤ wholeDaysLeft e n) ∧
      (IsLeast {d : Int | 0 ≤ d ∧ e ≤ n.addDays d} (wholeDaysLeft e n) ↔
        ∀ d, 0 ≤ d → e ≤ n.addDays d ∨ (n.addDays d).addSeconds 1 ≤ e)) := by
  refine ⟨?_, fun n' less => wholeDaysLeft_mono less, fun plain plain' => ⟨?_, ?_, ?_, ?_⟩⟩
  · exact wholeDaysLeft_isLeast fun d nonneg => (wholeDaysLeft_le_iff e n nonneg).symm
  · exact wholeDaysLeft_isLeast fun d nonneg => (wholeDaysLeft_le_iff_of_not_leap plain plain' nonneg).symm
  · have nonneg := wholeDaysLeft_nonneg e n
    have least := wholeDaysLeft_le_iff_of_not_leap plain plain' (Int.le_refl 0)
    rw [show n.addDays 0 = n by simp [Instant.addDays, Instant.addSeconds]] at least
    rw [← least]
    omega
  · intro n' plain'' later
    apply wholeDaysLeft_mono
    have small := Instant.fraction_lt_of_not_leap plain'
    have small' := Instant.fraction_lt_of_not_leap plain''
    rw [Instant.nanosSince_of_not_leap plain plain', Instant.nanosSince_of_not_leap plain plain'']
    rw [Instant.le_def] at later
    omega
  · exact wholeDaysLeft_exact_iff plain plain'

/-- Half a second more than a day is counted as one day, and is not over in one. -/
theorem days_left_dayAndHalfSecond :
    IsLeast {d : Int | 0 ≤ d ∧ (⟨86400, 500000000⟩ : Instant) < (Instant.addDays ⟨0, 0⟩ d).addSeconds 1} 1 ∧
      ¬ IsLeast {d : Int | 0 ≤ d ∧ (⟨86400, 500000000⟩ : Instant) ≤ Instant.addDays ⟨0, 0⟩ d} 1 := by
  obtain ⟨least, -, -, exact_⟩ := (days_left ⟨86400, 500000000⟩ ⟨0, 0⟩).2.2 rfl rfl
  have counted : wholeDaysLeft ⟨86400, 500000000⟩ ⟨0, 0⟩ = 1 := by decide
  rw [counted] at least exact_
  refine ⟨least, fun same => ?_⟩
  rcases exact_.mp same 1 (by decide) with reached | past
  · revert reached
    decide
  · revert past
    decide

/-- Half a second before a service expires no day is left, although it has not expired. -/
theorem days_not_rounded_up : ¬ ∀ e n : Instant, e.isRepresentable = true → n.isRepresentable = true →
    e.isLeap = false → n.isLeap = false → IsLeast {d : Int | 0 ≤ d ∧ e ≤ n.addDays d} (wholeDaysLeft e n) := by
  intro claimed
  have reached := (claimed ⟨1772366400, 500000000⟩ ⟨1772366400, 0⟩ rfl rfl rfl rfl).1.2
  revert reached
  decide

/-- Behind a leap second there can be a day more than in it. -/
example : wholeDaysLeft ⟨172801, 0⟩ ⟨86399, 1500000000⟩ = 1 ∧ wholeDaysLeft ⟨172801, 0⟩ ⟨86400, 0⟩ = 2 := by
  decide

end Renewal

end HostingBilling
