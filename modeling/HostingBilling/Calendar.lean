/-!
# Civil dates

Days counted from 1970-01-01 and the dates of the Gregorian calendar, carried back before its start.
A year is counted from March here, so that a leap day is its last day.
-/

namespace HostingBilling

structure Date where
  year : Int
  month : Nat
  day : Nat
  deriving DecidableEq, Repr

namespace Date

def isLeap (year : Int) : Bool := year % 4 == 0 && (year % 100 != 0 || year % 400 == 0)

def daysInMonth (year : Int) (month : Nat) : Nat :=
  match month with
  | 2 => if isLeap year then 29 else 28
  | 4 => 30
  | 6 => 30
  | 9 => 30
  | 11 => 30
  | _ => 31

/-- Days from 0000-03-01 to 1970-01-01. -/
def epoch : Int := 719468

/-- Days from 1970-01-01 to the date. -/
def toDays (d : Date) : Int :=
  let y : Int := if d.month ≤ 2 then d.year - 1 else d.year
  let m : Int := (d.month + 9) % 12
  365 * y + y / 4 - y / 100 + y / 400 + (153 * m + 2) / 5 + d.day - 1 - epoch

/-- The date that lies so many days after 1970-01-01. -/
def ofDays (days : Int) : Date :=
  let z := days + epoch
  let cycle := z / 146097
  let n := z % 146097
  let y := (n - n / 1460 + n / 36524 - n / 146096) / 365
  let n := n - (365 * y + y / 4 - y / 100)
  let m := (5 * n + 2) / 153
  let day := n - (153 * m + 2) / 5 + 1
  let month := if m < 10 then m + 3 else m - 9
  ⟨y + cycle * 400 + (if month ≤ 2 then 1 else 0), month.toNat, day.toNat⟩

/-- The date some months later, on the last day of that month where it is too short. -/
def addMonths (d : Date) (months : Nat) : Date :=
  let n : Int := d.year * 12 + (d.month - 1) + months
  let year := n / 12
  let month := (n % 12).toNat + 1
  ⟨year, month, min d.day (daysInMonth year month)⟩

end Date

end HostingBilling
