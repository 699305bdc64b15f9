import HostingBilling.Text.Base64
import HostingBilling.Text.Blank
import HostingBilling.Webhook.Host

/-!
# Addresses of the webhook

An address for a plain connection: credentials, a host, a port, and the target of a request, whose path
has its dots followed and its characters escaped.
-/

namespace HostingBilling.Webhook

/-- The name and the password that an address carries in front of its host. -/
structure Credentials where
  name : String
  password : String
  deriving DecidableEq, Repr

structure Address where
  credentials : Option Credentials
  host : String
  /-- The path and the query. -/
  target : String
  deriving DecidableEq, Repr

/-- What a request presents for some credentials. -/
def Credentials.toText (c : Credentials) : String :=
  "Basic " ++ String.ofList (Text.base64 (Text.bytes (c.name ++ ":" ++ c.password)))

/-- The credentials before a host. A name that is no text hides the password too, and a password that is
no text is left out. -/
def Credentials.parse? (cs : List Char) : Option Credentials := do
  let name := cs.takeWhile (· != ':')
  let given := cs.drop (name.length + 1)
  let name ← Text.unescaped? name
  let password := if given.isEmpty then none else Text.unescaped? given
  if name = "" ∧ password.isNone then none
  return ⟨name, password.getD ""⟩

def pathChar (c : Char) : Bool :=
  !(['\x22', '#', '<', '>', '?', '\x60', '\x7b', '\x7d'].contains c)

def queryChar (c : Char) : Bool := !(['\x22', '#', '<', '>', '\x27'].contains c)

def isSlash (c : Char) : Bool := c == '/' || c == '\\'

def isDot (s : List Char) : Bool :=
  [".", "%2e", "%2E"].contains (String.ofList s)

def isDotDot (s : List Char) : Bool :=
  ["..", ".%2e", ".%2E", "%2e.", "%2E.", "%2e%2e", "%2e%2E", "%2E%2e", "%2E%2E"].contains
    (String.ofList s)

/-- A letter and a colon or a bar, as drives are named. -/
def isDrive : List Char → Bool
  | [letter, mark] => letter.isAlpha && (mark == ':' || mark == '|')
  | _ => false

/-- Leaves the last level, unless it is a drive. -/
def leave : List (List Char) → List (List Char)
  | [] => []
  | s :: rest => if isDrive s then s :: rest else rest

/-- Follows the steps to the same and to the upper level. `done` is reversed. -/
def follow (done : List (List Char)) : List (List Char) → List (List Char)
  | [] => done.reverse
  | [s] =>
    if isDotDot s then ([] :: leave done).reverse
    else if isDot s then ([] :: done).reverse
    else (s :: done).reverse
  | s :: rest =>
    if isDotDot s then follow (leave done) rest
    else if isDot s then follow done rest
    else follow (s :: done) rest

/-- The path of a request, with a leading slash. -/
def requestPath (cs : List Char) : List Char :=
  let rest := match cs with
    | '/' :: r => r
    | '\\' :: r => r
    | r => r
  (follow [] (Text.splitWhere isSlash rest)).flatMap fun s => '/' :: Text.escape pathChar s

/-- A port is a number of 16 bits, or is left out. -/
def isPort (cs : List Char) : Bool := cs.isEmpty || (Text.digits? cs).any (· < 65536)

/-- Cuts a host from what follows its colon. Colons in brackets belong to the host. -/
def splitPort (inside : Bool) : List Char → List Char × List Char
  | [] => ([], [])
  | c :: cs =>
    if c = ':' ∧ !inside then ([], cs)
    else
      let (host, port) := splitPort (if c = '[' then true else if c = ']' then false else inside) cs
      (c :: host, port)

/-- The address that a text gives, if it gives one. Breaks and tabs are passed over, and backslashes
count as slashes. -/
def Address.parse? (url : String) : Option Address := do
  let cs := url.toList.filter fun c => c != '\t' && c != '\n' && c != '\r'
  let cs := Text.strip (·.toNat ≤ 32) cs
  if (cs.take 5).map Char.toLower ≠ "http:".toList then none
  let cs := (cs.drop 5).dropWhile isSlash
  let authority := cs.takeWhile fun c => !(isSlash c || c == '?' || c == '#')
  let rest := (cs.drop authority.length).takeWhile (· != '#')
  let path := rest.takeWhile (· != '?')
  let query := (rest.drop path.length).drop 1
  let (user, place) := (Text.splitLast? '@' authority).getD ([], authority)
  let (host, port) := splitPort false place
  if !isPort port then none
  let search := if rest.length = path.length then [] else '?' :: Text.escape queryChar query
  return {
    credentials := Credentials.parse? user
    host := ← hostOf? host
    target := String.ofList (requestPath path ++ search) }

end HostingBilling.Webhook
