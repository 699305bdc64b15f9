import HostingBilling.Text.Blank
import HostingBilling.Text.Hex

/-!
# Dotted numbers

A number of 32 bits in up to four parts with full stops between them. All parts but the last fill a byte
each, and the last one fills the rest. A part may be decimal, octal or hexadecimal.
-/

namespace HostingBilling.Text

def octal? (cs : List Char) : Option Nat :=
  cs.foldlM (fun n c => ((digit? c).filter (· < 8)).map (n * 8 + ·)) 0

/-- A part of a dotted number: hexadecimal behind `0x`, octal behind a zero, else decimal. -/
def dottedPart? : List Char → Option Nat
  | '0' :: 'x' :: ds => hexValues? ds
  | '0' :: 'X' :: ds => hexValues? ds
  | '0' :: ds => octal? ds
  | ds => digits? ds

/-- The number of some parts, below `room`. -/
def joinParts? : Nat → List Nat → Option Nat
  | _, [] => none
  | room, [last] => if last < room then some last else none
  | room, n :: rest =>
    if n < 256 then (joinParts? (room / 256) rest).map (n * (room / 256) + ·) else none

/-- The number of 32 bits that some parts write. -/
def dotted? (parts : List (List Char)) : Option Nat := do
  if 4 < parts.length then none
  joinParts? 0x100000000 (← parts.mapM dottedPart?)

end HostingBilling.Text
