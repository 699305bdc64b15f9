import HostingBilling.Text.Pieces

/-!
# White space and numerals at the edge of the program

Texts from the environment and from the settings table are trimmed of all Unicode white space before
they are read as numbers.
-/

namespace HostingBilling.Text

/-- The characters with the property `White_Space`. -/
def isBlank (c : Char) : Bool :=
  let n := c.toNat
  (9 ≤ n && n ≤ 13) || n == 0x20 || n == 0x85 || n == 0xa0 || n == 0x1680 ||
    (0x2000 ≤ n && n ≤ 0x200a) || n == 0x2028 || n == 0x2029 || n == 0x202f || n == 0x205f ||
    n == 0x3000

/-- Without the white space at either end. -/
def trim (s : String) : String := String.ofList (strip isBlank s.toList)

/-- White space in ASCII. -/
def isSpace (c : Char) : Bool := c == ' ' || (9 ≤ c.toNat && c.toNat ≤ 13)

/-- The value of a decimal digit. Only ASCII digits count. -/
def digit? (c : Char) : Option Nat :=
  if '0' ≤ c ∧ c ≤ '9' then some (c.toNat - 48) else none

/-- The number written by one or more decimal digits. -/
def digits? : List Char → Option Nat
  | [] => none
  | cs => cs.foldlM (fun n c => (digit? c).map (n * 10 + ·)) 0

/-- An unsigned number of 64 bits. A plus sign may stand in front. -/
def word? (s : String) : Option Nat :=
  let digits := match s.toList with
    | '+' :: cs => cs
    | cs => cs
  (digits? digits).filter (· < 0x10000000000000000)

/-- A signed number of 64 bits. A sign may stand in front. -/
def signed? (s : String) : Option Int :=
  let value : Option Int := match s.toList with
    | '-' :: cs => (digits? cs).map fun n => -(n : Int)
    | '+' :: cs => (digits? cs).map fun n => (n : Int)
    | cs => (digits? cs).map fun n => (n : Int)
  value.filter fun n => -0x8000000000000000 ≤ n && n < 0x8000000000000000

/-- A signed number of 64 bits with white space around it. -/
def spacedInteger? (s : String) : Option Int := signed? (String.ofList (strip isSpace s.toList))

end HostingBilling.Text
