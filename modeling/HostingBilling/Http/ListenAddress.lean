import HostingBilling.Text.Dotted
import HostingBilling.Text.Pieces

/-!
# Listen addresses

A numeric address and a port: four decimal numbers, or groups of hexadecimal digits in brackets, and
behind a colon the port. An address may also be a dotted number of any kind, or groups without brackets;
one name, that of the machine itself, is known.
-/

namespace HostingBilling.Http.ListenAddress

/-- A decimal number below 256 with no leading zero. -/
def isOctet (cs : List Char) : Bool :=
  cs.length ≤ 3 && (cs.length == 1 || cs.head? != some '0') && (Text.digits? cs).any (· < 256)

def isFour (cs : List Char) : Bool :=
  let parts := Text.split '.' cs
  parts.length == 4 && parts.all isOctet

def isPort (cs : List Char) : Bool := (Text.digits? cs).any (· < 65536)

/-- One to four hexadecimal digits. -/
def isGroup (cs : List Char) : Bool :=
  !cs.isEmpty && cs.length ≤ 4 && cs.all fun c => (Text.hexValue? c).isSome

/-- How many groups a row of parts stands for. Four decimal numbers may stand at the end for two. -/
def groupCount? (mayEndInFour : Bool) : List (List Char) → Option Nat
  | [] => some 0
  | [last] =>
    if isGroup last then some 1
    else if mayEndInFour && isFour last then some 2
    else none
  | part :: rest => if isGroup part then (groupCount? mayEndInFour rest).map (· + 1) else none

/-- Cuts at the first double colon. -/
def splitGap : List Char → Option (List Char × List Char)
  | ':' :: ':' :: rest => some ([], rest)
  | c :: rest => (splitGap rest).map fun (a, b) => (c :: a, b)
  | [] => none

def parts (cs : List Char) : List (List Char) := if cs.isEmpty then [] else Text.split ':' cs

/-- Eight groups, or fewer around one double colon. -/
def isSix (cs : List Char) : Bool :=
  match splitGap cs with
  | none => groupCount? true (parts cs) == some 8
  | some (head, tail) =>
    match groupCount? false (parts head), groupCount? true (parts tail) with
    | some a, some b => a + b ≤ 7
    | _, _ => false

/-- A zone behind a percent sign. -/
def isScope (cs : List Char) : Bool := (Text.digits? cs).any (· < 0x100000000)

/-- Groups, and a zone if there is one. -/
def isScoped (cs : List Char) : Bool :=
  let address := cs.takeWhile (· != '%')
  let scope := cs.drop address.length
  isSix address && (scope.isEmpty || isScope (scope.drop 1))

/-- Whether a text is an address in the usual spelling and a port. -/
def isNumeric : List Char → Bool
  | '[' :: rest =>
    let inside := rest.takeWhile (· != ']')
    match rest.drop inside.length with
    | ']' :: ':' :: port => isScoped inside && isPort port
    | _ => false
  | cs =>
    let host := cs.takeWhile (· != ':')
    match cs.drop host.length with
    | ':' :: port => isFour host && isPort port
    | _ => false

/-- A dotted number each part of which ends in a digit. -/
def isDotted (cs : List Char) : Bool :=
  let parts := Text.split '.' cs
  (Text.dotted? parts).isSome && parts.all fun part => (part.getLast?.bind Text.hexValue?).isSome

/-- Whether a host is the machine itself. -/
def isLocal (cs : List Char) : Bool := cs.map Char.toLower == "localhost".toList

/-- A port with an optional sign. -/
def isSignedPort : List Char → Bool
  | '+' :: cs => isPort cs
  | cs => isPort cs

/-- Whether what comes before the last colon is a host, and what comes after it a port. -/
def isNamed (cs : List Char) : Bool :=
  (Text.splitLast? ':' cs).any fun (host, port) =>
    isSignedPort port && (isDotted host || isScoped host || isLocal host)

/-- Whether the program can listen there. -/
def isValid (s : String) : Bool := isNumeric s.toList || isNamed s.toList

end HostingBilling.Http.ListenAddress
