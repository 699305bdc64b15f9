import HostingBilling.Text.Pieces

/-!
# Fields of a message

A message begins with lines, the last of them empty. A field is a line with a name, a colon and a value.
-/

namespace HostingBilling.Http.Field

def lineFeed : UInt8 := 10

def carriageReturn : UInt8 := 13

def isBlank (b : UInt8) : Bool := b == 9 || b == 32

/-- Names and methods are made of letters, digits and some marks. -/
def isToken (b : UInt8) : Bool :=
  let c := Char.ofNat b.toNat
  c.isAlpha || c.isDigit ||
    ['!', '#', '$', '%', '&', '\x27', '*', '+', '-', '.', '^', '_', '\x60', '|', '~'].contains c

/-- A value holds no controls but tabs. -/
def isValueByte (b : UInt8) : Bool := b == 9 || (32 ≤ b && b != 127)

/-- One character for each byte. Only the bytes of ASCII keep their meaning. -/
def textOf (bytes : List UInt8) : String := String.ofList (bytes.map fun b => Char.ofNat b.toNat)

/-- The lines up to the first empty one, and what follows it. A line feed ends a line, with or without a
carriage return before it. `line` is what has been read of the first line, reversed. -/
def linesFrom? (line : List UInt8) : List UInt8 → Option (List (List UInt8) × List UInt8)
  | [] => none
  | b :: bytes =>
    if b = lineFeed then
      let line := if line.head? = some carriageReturn then line.tail else line
      if line.isEmpty then some ([], bytes)
      else (linesFrom? [] bytes).map fun (lines, rest) => (line.reverse :: lines, rest)
    else linesFrom? (b :: line) bytes

def lines? (bytes : List UInt8) : Option (List (List UInt8) × List UInt8) := linesFrom? [] bytes

/-- The name and the value of a line. The colon directly follows the name, and blanks around the value
do not belong to it. -/
def read? (line : List UInt8) : Option (String × String) :=
  let name := line.takeWhile isToken
  match line.drop name.length with
  | [] => none
  | mark :: value =>
    if name.isEmpty || Char.ofNat mark.toNat != ':' || !value.all isValueByte then none
    else some (textOf name, textOf (Text.strip isBlank value))

end HostingBilling.Http.Field
