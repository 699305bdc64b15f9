import HostingBilling.Instant
import HostingBilling.Text.Blank

/-!
# Instants as text

`2026-03-01T12:00:00Z` and its variants: the zone as `Z` or as an offset, the fraction in groups of
three digits or without its trailing zeros.
-/

namespace HostingBilling.Instant

/-- A number with at least `width` digits. -/
def padded (width : Nat) (n : Nat) : String :=
  let s := toString n
  String.ofList (List.replicate (width - s.length) '0') ++ s

/-- Four digits, or a sign and at least four digits. -/
def yearText (year : Int) : String :=
  if 0 ≤ year ∧ year ≤ 9999 then padded 4 year.toNat
  else (if year < 0 then "-" else "+") ++ padded 4 year.natAbs

/-- Date and time to the second. -/
def toSecondText (t : Instant) : String :=
  let d := t.date
  let s := t.secondOfDay.toNat
  yearText d.year ++ "-" ++ padded 2 d.month ++ "-" ++ padded 2 d.day ++ "T" ++
    padded 2 (s / 3600) ++ ":" ++ padded 2 (s / 60 % 60) ++ ":" ++ padded 2 t.clockSecond.toNat

/-- The fraction with no digits, or as few of 3, 6 and 9 as hold it. -/
def groupedFraction (t : Instant) : String :=
  let n := t.clockFraction
  if n = 0 then ""
  else if n % 1000000 = 0 then "." ++ padded 3 (n / 1000000)
  else if n % 1000 = 0 then "." ++ padded 6 (n / 1000)
  else "." ++ padded 9 n

/-- The fraction to the microsecond, trailing zeros left out. -/
def trimmedFraction (t : Instant) : String :=
  let n := t.clockFraction / 1000
  if n = 0 then ""
  else "." ++ String.ofList ((padded 6 n).toList.reverse.dropWhile (· == '0')).reverse

def toZuluText (t : Instant) : String := t.toSecondText ++ t.groupedFraction ++ "Z"

def toOffsetText (t : Instant) : String := t.toSecondText ++ t.groupedFraction ++ "+00:00"

/-- How an instant stands inside a stored document. -/
def toStoredText (t : Instant) : String := t.toSecondText ++ t.trimmedFraction ++ "+00:00"

/-- Year, month and day without separators. -/
def toDayText (t : Instant) : String :=
  let d := t.date
  yearText d.year ++ padded 2 d.month ++ padded 2 d.day

/-- The number of exactly `count` leading digits, and the rest. -/
def takeDigits? (count : Nat) (cs : List Char) : Option (Nat × List Char) :=
  if cs.length < count then none
  else (Text.digits? (cs.take count)).map (·, cs.drop count)

def takeChar? (c : Char) : List Char → Option (List Char)
  | d :: cs => if c == d then some cs else none
  | [] => none

/-- The nanoseconds of a fraction, digits past the ninth left out, and the rest. -/
def takeFraction (cs : List Char) : Nat × List Char :=
  match cs with
  | '.' :: rest =>
    let ds := rest.takeWhile Char.isDigit
    let nine := (ds ++ List.replicate 9 '0').take 9
    ((Text.digits? nine).getD 0, rest.drop ds.length)
  | rest => (0, rest)

/-- Seconds east of UTC. -/
def takeZone? : List Char → Option Int
  | ['Z'] => some 0
  | ['z'] => some 0
  | sign :: rest => do
    let (h, rest) ← takeDigits? 2 rest
    let rest ← takeChar? ':' rest
    let (m, rest) ← takeDigits? 2 rest
    if !rest.isEmpty then none
    else if sign == '+' then return ((h * 3600 + m * 60 : Nat) : Int)
    else if sign == '-' then return -((h * 3600 + m * 60 : Nat) : Int)
    else none
  | [] => none

/-- The instant that a text writes, in any zone. A sign may stand before a longer year. -/
def parse? (s : String) : Option Instant := do
  let cs := s.toList
  let (negative, signed, cs) := match cs with
    | '+' :: r => (false, true, r)
    | '-' :: r => (true, true, r)
    | r => (false, false, r)
  let count := if signed then (cs.takeWhile Char.isDigit).length else 4
  let (y, cs) ← takeDigits? count cs
  let cs ← takeChar? '-' cs
  let (mo, cs) ← takeDigits? 2 cs
  let cs ← takeChar? '-' cs
  let (d, cs) ← takeDigits? 2 cs
  let cs ← (takeChar? 'T' cs) <|> (takeChar? 't' cs) <|> (takeChar? ' ' cs)
  let (h, cs) ← takeDigits? 2 cs
  let cs ← takeChar? ':' cs
  let (mi, cs) ← takeDigits? 2 cs
  let cs ← takeChar? ':' cs
  let (se, cs) ← takeDigits? 2 cs
  let (frac, cs) := takeFraction cs
  let zone ← takeZone? cs
  let year : Int := if negative then -(y : Int) else y
  if mo = 0 ∨ 12 < mo ∨ d = 0 ∨ Date.daysInMonth year mo < d ∨ 23 < h ∨ 59 < mi ∨ 60 < se then none
  else
    return (ofDate ⟨year, mo, d⟩ (h * 3600 + mi * 60 + se : Nat) frac).addSeconds (-zone)

end HostingBilling.Instant
