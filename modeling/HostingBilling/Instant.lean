import HostingBilling.Calendar

/-!
# Instants

Whole seconds since 1970 in UTC and the nanoseconds after them. A leap second has no number of its own:
inside it the nanoseconds of the second before it run on. A computed instant is representable from the
first day of the year -262143 to the last day of 262142; what would lie outside is refused.
-/

namespace HostingBilling

structure Instant where
  seconds : Int
  /-- Nanoseconds since the whole second, a second or more of them inside a leap second. -/
  fraction : Nat
  deriving DecidableEq, Repr, Inhabited

namespace Instant

def nanosPerSecond : Nat := 1000000000

def secondsPerDay : Int := 86400

def leastSecond : Int := -8334601228800

def greatestSecond : Int := 8210266876799

def isRepresentable (t : Instant) : Bool := leastSecond ≤ t.seconds && t.seconds ≤ greatestSecond

/-- The instant at whole seconds since 1970, if it is representable. -/
def ofSeconds? (s : Int) : Option Instant :=
  let t : Instant := ⟨s, 0⟩
  if t.isRepresentable then some t else none

/-- Days since 1970, rounded down. -/
def dayNumber (t : Instant) : Int := t.seconds / secondsPerDay

def secondOfDay (t : Instant) : Int := t.seconds % secondsPerDay

def date (t : Instant) : Date := Date.ofDays t.dayNumber

def ofDate (d : Date) (secondOfDay : Int) (fraction : Nat) : Instant :=
  ⟨d.toDays * secondsPerDay + secondOfDay, fraction⟩

def isLeap (t : Instant) : Bool := nanosPerSecond ≤ t.fraction

/-- The second of the minute as a clock shows it, sixty in a leap second. -/
def clockSecond (t : Instant) : Int := t.seconds % 60 + if t.isLeap then 1 else 0

/-- Nanoseconds since the second that a clock shows. -/
def clockFraction (t : Instant) : Nat := t.fraction % nanosPerSecond

def addSeconds (t : Instant) (s : Int) : Instant := { t with seconds := t.seconds + s }

def addDays (t : Instant) (days : Int) : Instant := t.addSeconds (days * secondsPerDay)

/-- The same time of day some days later. A leap second after the last second is out of reach. -/
def addDays? (t : Instant) (days : Int) : Option Instant :=
  let r := t.addDays days
  if r.isRepresentable && !(r.seconds == greatestSecond && r.isLeap) then some r else none

/-- The same time of day some months later. -/
def addMonths? (t : Instant) (months : Nat) : Option Instant :=
  let r := ofDate (t.date.addMonths months) t.secondOfDay t.fraction
  if r.isRepresentable then some r else none

/-- Seconds to count for a leap second between the times of day of two instants. -/
def leapBetween (late early : Instant) : Int :=
  if early.secondOfDay < late.secondOfDay && early.isLeap then 1
  else if late.secondOfDay < early.secondOfDay && late.isLeap then -1
  else 0

/-- Nanoseconds from one instant to a later one; below zero if it is earlier. -/
def nanosSince (late early : Instant) : Int :=
  (late.seconds - early.seconds + leapBetween late early) * nanosPerSecond +
    (late.fraction - early.fraction)

/-- Whole seconds from one instant to a later one, what is left below a second not counted. -/
def secondsSince (late early : Instant) : Int := Int.tdiv (late.nanosSince early) nanosPerSecond

instance : LT Instant :=
  ⟨fun a b => a.seconds < b.seconds ∨ (a.seconds = b.seconds ∧ a.fraction < b.fraction)⟩

instance : LE Instant :=
  ⟨fun a b => a.seconds < b.seconds ∨ (a.seconds = b.seconds ∧ a.fraction ≤ b.fraction)⟩

instance (a b : Instant) : Decidable (a < b) :=
  inferInstanceAs
    (Decidable (a.seconds < b.seconds ∨ (a.seconds = b.seconds ∧ a.fraction < b.fraction)))

instance (a b : Instant) : Decidable (a ≤ b) :=
  inferInstanceAs
    (Decidable (a.seconds < b.seconds ∨ (a.seconds = b.seconds ∧ a.fraction ≤ b.fraction)))

end Instant

end HostingBilling
