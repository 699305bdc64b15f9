import HostingBilling.Http.Field
import HostingBilling.Text.Hex

/-!
# Bodies in chunks

A chunk is a line with its size in hexadecimal, as many bytes, and a line break. A chunk of no bytes is
the last one, and only fields follow it.
-/

namespace HostingBilling.Http

/-- As much of a body as arrived. -/
structure Arrived where
  bytes : List UInt8
  /-- Whether it broke off or was malformed after that. -/
  broken : Bool
  deriving DecidableEq, Repr

namespace Chunks

def isHexDigit (b : UInt8) : Bool := (Text.hexValue? (Char.ofNat b.toNat)).isSome

/-- The size that a line gives. Blanks may follow it, and behind a semicolon anything. -/
def size? (line : List UInt8) : Option Nat :=
  let digits := line.takeWhile isHexDigit
  let rest := (line.drop digits.length).dropWhile Field.isBlank
  let extended := rest.head?.any fun b => Char.ofNat b.toNat == ';'
  if digits.isEmpty || !(rest.isEmpty || extended) || line.contains Field.lineFeed then none
  else (Text.hexValues? (digits.map fun b => Char.ofNat b.toNat)).filter (· < 0x10000000000000000)

/-- Whether the fields after the last chunk are whole. -/
def endsWell (bytes : List UInt8) : Bool :=
  (Field.lines? bytes).any fun (lines, _) => lines.all fun line => (Field.read? line).isSome

/-- What follows a line break, if one stands in front. -/
def afterBreak? : List UInt8 → Option (List UInt8)
  | a :: b :: rest => if a = Field.carriageReturn ∧ b = Field.lineFeed then some rest else none
  | _ => none

/-- Reads no more than a number of chunks. -/
def readUpTo : Nat → List UInt8 → Arrived
  | 0, _ => ⟨[], true⟩
  | count + 1, bytes =>
    let line := bytes.takeWhile (· != Field.carriageReturn)
    match size? line, afterBreak? (bytes.drop line.length) with
    | some 0, some rest => ⟨[], !endsWell rest⟩
    | some size, some rest =>
      match afterBreak? (rest.drop size) with
      | none => ⟨rest.take size, true⟩
      | some next =>
        let more := readUpTo count next
        ⟨rest.take size ++ more.bytes, more.broken⟩
    | _, _ => ⟨[], true⟩

/-- The body that some chunks make. No chunk is empty but the last, so there are fewer than bytes. -/
def read (bytes : List UInt8) : Arrived := readUpTo bytes.length bytes

end Chunks

end HostingBilling.Http
