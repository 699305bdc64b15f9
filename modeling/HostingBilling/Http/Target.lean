import HostingBilling.Text.Pieces

/-!
# Targets of requests

A request asks for a path with a query, for the address of a whole resource, or for an authority alone,
which has no path.
-/

namespace HostingBilling.Http.Target

/-- The longest target, in bytes. -/
def limit : Nat := 65534

def letterOrDigit (c : Char) : Bool := c.isAlpha || c.isDigit

/-- Whether a character may stand in a query. -/
def queryChar (c : Char) : Bool :=
  32 < c.toNat && !(['\x22', '#', '<', '>'].contains c)

/-- Whether a character may stand in a path. -/
def pathChar (c : Char) : Bool :=
  32 < c.toNat && !(['#', '<', '>', '?', '\x60'].contains c)

/-- The path in front of a query and a fragment. -/
def pathOf? (cs : List Char) : Option (List Char) :=
  let path := cs.takeWhile fun c => c != '?' && c != '#'
  let query := match cs.drop path.length with
    | '?' :: rest => rest.takeWhile (· != '#')
    | _ => []
  if path.all pathChar ∧ query.all queryChar then some path else none

/-- What has been seen of an authority: colons since the last part that may hold some, whether a bracket
was opened or closed, and whether an escape came where none may stay. -/
structure Seen where
  colons : Nat
  opened : Bool
  closed : Bool
  escaped : Bool
  deriving DecidableEq, Repr

/-- The most colons in a row of parts. -/
def colonLimit : Nat := 8

def authorityChar (c : Char) : Bool :=
  letterOrDigit c ||
    ['!', '$', '&', '\x27', '(', ')', '*', '+', ',', '-', '.', ';', '=', '_', '~'].contains c

def Seen.next? (s : Seen) : Char → Option Seen
  | ':' => if s.colons < colonLimit then some { s with colons := s.colons + 1 } else none
  | '[' => if s.escaped || s.opened then none else some { s with opened := true }
  | ']' =>
    if !s.opened || s.closed then none
    else some { s with colons := 0, closed := true, escaped := false }
  | '@' => some { s with colons := 0, escaped := false }
  | '%' => some { s with escaped := true }
  | c => if authorityChar c then some s else none

/-- Whether a text names a host, with a port and with what stands before an at sign. -/
def isAuthority (cs : List Char) : Bool :=
  (cs.foldlM Seen.next? ⟨0, false, false, false⟩).any fun s =>
    s.opened == s.closed && s.colons ≤ 1 && !s.escaped && cs.getLast? != some '@'

/-- The longest scheme other than those of the web. -/
def schemeLimit : Nat := 64

/-- What follows the scheme and its two slashes, if there is a scheme. A scheme that is too long is
none, and no authority either. -/
def afterScheme? (cs : List Char) : Option (List Char) :=
  let scheme := cs.takeWhile fun c => letterOrDigit c || ['+', '-', '.', '~'].contains c
  match cs.drop scheme.length with
  | ':' :: '/' :: '/' :: rest => if scheme.length ≤ schemeLimit then some rest else none
  | _ => none

/-- The path that a target asks for, if it is a target. -/
def path? (target : String) : Option (List Char) :=
  let cs := target.toList
  if limit < target.utf8ByteSize then none
  else if cs.head? = some '/' then pathOf? cs
  else match afterScheme? cs with
    | none => if !cs.isEmpty && isAuthority cs then some [] else none
    | some rest =>
      let authority := rest.takeWhile fun c => !(['/', '?', '#'].contains c)
      if authority.isEmpty || !isAuthority authority then none
      else (pathOf? (rest.drop authority.length)).map fun path =>
        if path.isEmpty then ['/'] else path

end HostingBilling.Http.Target
