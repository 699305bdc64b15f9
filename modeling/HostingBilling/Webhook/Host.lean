import HostingBilling.Http.ListenAddress
import HostingBilling.Text.Percent
import HostingBilling.Webhook.Plain

/-!
# Hosts

A host is a number of 32 bits, written in up to four parts in decimal, octal or hexadecimal; an address
in brackets; or a name. What ends in a number has to be a number as a whole.
-/

namespace HostingBilling.Webhook

/-- The parts of a host. A full stop at the end adds none. -/
def partsOf (host : List Char) : List (List Char) :=
  let parts := Text.split '.' host
  if parts.length ≠ 1 ∧ parts.getLast? = some [] then parts.dropLast else parts

def endsInNumber (host : List Char) : Bool :=
  (partsOf host).getLast?.any fun part =>
    (!part.isEmpty && part.all Char.isDigit) || (Text.dottedPart? part).isSome

/-- Four decimal numbers. -/
def addressText (n : Nat) : String :=
  ".".intercalate ([n / 16777216, n / 65536 % 256, n / 256 % 256, n % 256].map toString)

/-- Whether a character may stand in a name. -/
def nameChar (c : Char) : Bool :=
  32 < c.toNat && c.toNat != 127 &&
    !(['#', '%', '/', ':', '<', '>', '?', '@', '[', '\\', ']', '^', '|'].contains c)

/-- The host that an address names, in its usual spelling; nothing if it can be none. -/
def hostOf? (cs : List Char) : Option String := do
  match cs with
  | '[' :: rest =>
    if rest.getLast? = some ']' ∧ Http.ListenAddress.isSix rest.dropLast then some (String.ofList cs)
    else none
  | cs =>
    let name := (← Text.unescaped? cs).toList.flatMap plain
    if name.isEmpty ∨ !name.all nameChar then none
    if endsInNumber name then return addressText (← Text.dotted? (partsOf name))
    return String.ofList name

end HostingBilling.Webhook
