import HostingBilling.Json
import HostingBilling.Text.Blank
import HostingBilling.Text.Hex

/-!
# Reading a document from text

`Json.read?` accepts one document with white space around it and refuses everything else: raw control
characters in strings, lone surrogates, numbers beyond the greatest double, and more than 127 levels of
nested arrays and objects. Every reader takes the characters that are left and gives back the rest.
-/

namespace HostingBilling.Json

/-- The deepest nesting of arrays and objects that is read. -/
def maxDepth : Nat := 127

def isSpace (c : Char) : Bool := c == ' ' || c == '\n' || c == '\t' || c == '\r'

def skipSpace (cs : List Char) : List Char := cs.dropWhile isSpace

/-- Digits gathered into a significand of 64 bits. -/
structure Significand where
  value : Nat
  /-- Digits that went into the value. -/
  used : Nat
  /-- Digits behind the one at which 64 bits were full, that one included. -/
  dropped : Nat

/-- Takes digits while 64 bits hold them. A digit that does not fit, and every digit after it,
is dropped. -/
def Significand.gather (s : Significand) : List Nat → Significand
  | [] => s
  | d :: ds =>
    if s.value * 10 + d < 0x10000000000000000 then
      Significand.gather { s with value := s.value * 10 + d, used := s.used + 1 } ds
    else { s with dropped := s.dropped + ds.length + 1 }

/-- The leading digits and what follows them. -/
def spanDigits : List Char → List Nat × List Char
  | [] => ([], [])
  | c :: cs => match Text.digit? c with
    | some d => let (ds, rest) := spanDigits cs; (d :: ds, rest)
    | none => ([], c :: cs)

/-- The exponent of a number: its sign, its digits and the rest of the text. -/
def readExponent? : List Char → Option (Bool × List Nat × List Char)
  | cs =>
    let (negative, cs) := match cs with
      | '+' :: r => (false, r)
      | '-' :: r => (true, r)
      | r => (false, r)
    match spanDigits cs with
    | ([], _) => none
    | (ds, rest) => some (negative, ds, rest)

/-- The largest exponent that is counted. -/
def exponentLimit : Nat := 0x80000000 - 1

/-- A double from its significand, the exponent its digits already have, and a written exponent.
A written exponent past the limit makes zero if it is negative or the significand is zero. -/
def scaled? (significand : Nat) (base : Int) (written : Option (Bool × List Nat)) : Option Double :=
  match written with
  | none => Double.ofDecimal significand base
  | some (negative, ds) =>
    let e := ds.foldl (fun n d => n * 10 + d) 0
    if exponentLimit < e then
      if significand ≠ 0 ∧ ¬ negative then none else some Double.zero
    else
      let low : Int := -0x80000000
      let high : Int := exponentLimit
      Double.ofDecimal significand
        (if negative then max low (base - e) else min high (base + e))

/-- A number, its sign already taken. -/
def readNumber? (negative : Bool) (cs : List Char) : Option (Json × List Char) := do
  let (whole, rest) := spanDigits cs
  match whole with
  | [] => none
  | 0 :: _ :: _ => none
  | _ =>
    let s := Significand.gather ⟨0, 0, 0⟩ whole
    let signed (d : Double) : Json := double (if negative then d.negate else d)
    match rest with
    | '.' :: r =>
      let (fraction, rest) := spanDigits r
      if fraction.isEmpty then none
      else
        let t := Significand.gather ⟨s.value, 0, 0⟩ fraction
        let base : Int := (s.dropped : Int) - t.used
        let (written, rest) ← exponentPart rest
        return (signed (← scaled? t.value base written), rest)
    | _ =>
      let (written, rest) ← exponentPart rest
      if written.isNone && s.dropped == 0 && integral negative s.value then
        return (int (if negative then -(s.value : Int) else s.value), rest)
      else return (signed (← scaled? s.value s.dropped written), rest)
where
  /-- Whether the number stays an integer: below zero it has 63 bits, and minus zero is a double. -/
  integral (negative : Bool) (n : Nat) : Bool := !negative || (0 < n && n ≤ 0x8000000000000000)
  exponentPart : List Char → Option (Option (Bool × List Nat) × List Char)
    | 'e' :: r => (readExponent? r).map fun (s, ds, rest) => (some (s, ds), rest)
    | 'E' :: r => (readExponent? r).map fun (s, ds, rest) => (some (s, ds), rest)
    | r => some (none, r)

/-- Four hexadecimal digits. -/
def readUnit? : List Char → Option (Nat × List Char)
  | a :: b :: c :: d :: rest => do
    return (← Text.hexValues? [a, b, c, d], rest)
  | _ => none

/-- A character given by its UTF-16 units. A high surrogate needs its low one behind it. -/
def readEscapedUnit? (cs : List Char) : Option (Char × List Char) := do
  let (n, rest) ← readUnit? cs
  if 0xdc00 ≤ n ∧ n ≤ 0xdfff then none
  else if 0xd800 ≤ n ∧ n ≤ 0xdbff then
    match rest with
    | '\\' :: 'u' :: more =>
      let (m, rest) ← readUnit? more
      if 0xdc00 ≤ m ∧ m ≤ 0xdfff then
        return (Char.ofNat (0x10000 + (n - 0xd800) * 0x400 + (m - 0xdc00)), rest)
      else none
    | _ => none
  else return (Char.ofNat n, rest)

/-- The character of a one-letter escape. -/
def escaped? : Char → Option Char
  | '"' => some '"'
  | '\\' => some '\\'
  | '/' => some '/'
  | 'b' => some '\x08'
  | 'f' => some '\x0c'
  | 'n' => some '\n'
  | 'r' => some '\r'
  | 't' => some '\t'
  | _ => none

/-- The characters of a string up to its closing quote, in reverse. Each round takes at least one
character, so the length of the text is fuel enough. -/
def readChars? : Nat → List Char → List Char → Option (List Char × List Char)
  | 0, _, _ => none
  | fuel + 1, acc, cs =>
    match cs with
    | [] => none
    | '"' :: rest => some (acc, rest)
    | '\\' :: 'u' :: rest => do
      let (c, rest) ← readEscapedUnit? rest
      readChars? fuel (c :: acc) rest
    | '\\' :: c :: rest => do readChars? fuel ((← escaped? c) :: acc) rest
    | c :: rest => if c.toNat < 32 || c == '\\' then none else readChars? fuel (c :: acc) rest

/-- A string, its opening quote already taken. -/
def readText? (cs : List Char) : Option (String × List Char) :=
  (readChars? (cs.length + 1) [] cs).map fun (acc, rest) => (String.ofList acc.reverse, rest)

/-- A fixed word and the value it stands for. -/
def readWord? (word : String) (value : Json) (cs : List Char) : Option (Json × List Char) :=
  if word.toList.isPrefixOf cs then some (value, cs.drop word.length) else none

mutual

/-- One value. `depth` is the nesting still allowed, `fuel` bounds the number of values. -/
def readValue? (depth : Nat) : Nat → List Char → Option (Json × List Char)
  | 0, _ => none
  | fuel + 1, cs =>
    match skipSpace cs with
    | [] => none
    | 'n' :: rest => readWord? "null" null ('n' :: rest)
    | 't' :: rest => readWord? "true" (bool true) ('t' :: rest)
    | 'f' :: rest => readWord? "false" (bool false) ('f' :: rest)
    | '"' :: rest => (readText? rest).map fun (s, rest) => (text s, rest)
    | '-' :: rest => readNumber? true rest
    | '[' :: rest =>
      if depth = 0 then none
      else match skipSpace rest with
        | ']' :: rest => some (array [], rest)
        | rest => readItems? (depth - 1) fuel [] rest
    | '{' :: rest =>
      if depth = 0 then none
      else match skipSpace rest with
        | '}' :: rest => some (object [], rest)
        | rest => readMembers? (depth - 1) fuel [] rest
    | rest => readNumber? false rest

/-- The items of an array that is not empty, gathered in reverse. -/
def readItems? (depth : Nat) : Nat → List Json → List Char → Option (Json × List Char)
  | 0, _, _ => none
  | fuel + 1, acc, cs => do
    let (v, rest) ← readValue? depth fuel cs
    match skipSpace rest with
    | ',' :: rest => readItems? depth fuel (v :: acc) rest
    | ']' :: rest => return (array (v :: acc).reverse, rest)
    | _ => none

/-- The members of an object that is not empty. -/
def readMembers? (depth : Nat) : Nat → List (String × Json) → List Char → Option (Json × List Char)
  | 0, _, _ => none
  | fuel + 1, acc, cs =>
    match skipSpace cs with
    | '"' :: rest => do
      let (key, rest) ← readText? rest
      match skipSpace rest with
      | ':' :: rest =>
        let (v, rest) ← readValue? depth fuel rest
        match skipSpace rest with
        | ',' :: rest => readMembers? depth fuel (insert key v acc) rest
        | '}' :: rest => return (object (insert key v acc), rest)
        | _ => none
      | _ => none
    | _ => none

end

/-- The document that a text holds, with nothing but white space around it. -/
def read? (s : String) : Option Json :=
  let cs := s.toList
  match readValue? maxDepth (2 * cs.length + 2) cs with
  | some (v, rest) => if (skipSpace rest).isEmpty then some v else none
  | none => none

end HostingBilling.Json
