import HostingBilling.Json.Shape

/-!
# Identifiers

A 128-bit identifier. It is written with hyphens and in lower case, and read in four spellings: 32
digits, hyphenated, hyphenated in braces, and hyphenated behind `urn:uuid:`; the letters in any case.
-/

namespace HostingBilling

structure Uuid where
  val : Nat
  isLt : val < 0x100000000000000000000000000000000
  deriving DecidableEq

namespace Uuid

/-- The identifier with this value, taken modulo `2 ^ 128`. -/
def ofNat (n : Nat) : Uuid :=
  ⟨n % 0x100000000000000000000000000000000, Nat.mod_lt _ (by decide)⟩

def nil : Uuid := ofNat 0

instance : Inhabited Uuid := ⟨nil⟩

/-- The 32 digits, most significant first. -/
def digits (u : Uuid) : List Char := Text.hexDigits 32 u.val

/-- Groups of 8, 4, 4, 4 and 12 digits. -/
def hyphenate (ds : List Char) : List Char :=
  ds.take 8 ++ '-' :: (ds.drop 8).take 4 ++ '-' :: (ds.drop 12).take 4 ++
    '-' :: (ds.drop 16).take 4 ++ '-' :: ds.drop 20

def toText (u : Uuid) : String := String.ofList (hyphenate u.digits)

instance : ToString Uuid := ⟨toText⟩

/-- The identifier of exactly 32 digits. -/
def ofDigits? (cs : List Char) : Option Uuid :=
  if cs.length = 32 then (Text.hexValues? cs).map ofNat else none

/-- Removes the four hyphens of a text of 36 characters. -/
def unhyphenate? (cs : List Char) : Option (List Char) :=
  if cs.length = 36 ∧ cs[8]? = some '-' ∧ cs[13]? = some '-' ∧ cs[18]? = some '-' ∧
      cs[23]? = some '-' then
    some (cs.take 8 ++ (cs.drop 9).take 4 ++ (cs.drop 14).take 4 ++ (cs.drop 19).take 4 ++
      cs.drop 24)
  else none

def ofHyphenated? (cs : List Char) : Option Uuid := (unhyphenate? cs).bind ofDigits?

def ofChars? (cs : List Char) : Option Uuid :=
  if cs.length = 32 then ofDigits? cs
  else if cs.length = 36 then ofHyphenated? cs
  else if cs.length = 38 then
    if cs.head? = some '\x7b' ∧ cs.getLast? = some '\x7d' then ofHyphenated? ((cs.drop 1).take 36)
    else none
  else if cs.length = 45 ∧ (cs.take 9).map Char.toLower = "urn:uuid:".toList then ofHyphenated? (cs.drop 9)
  else none

def parse? (s : String) : Option Uuid := ofChars? s.toList

/-- The complaint about a text that is no identifier; what follows the colon is left out. -/
def parseFailure : String := "UUID parsing failed:"

def decode : Json.Decoder Uuid
  | .text s => match parse? s with
    | some u => .ok u
    | none => .error parseFailure
  | v => .error (Json.mismatch v "a formatted UUID string")

def encode (u : Uuid) : Json := .text u.toText

instance : LT Uuid := ⟨fun a b => a.val < b.val⟩

instance (a b : Uuid) : Decidable (a < b) := inferInstanceAs (Decidable (a.val < b.val))

/-- The byte at a position from the left. -/
def byte (u : Uuid) (i : Nat) : Nat := u.val / Nat.pow 2 (8 * (15 - i)) % 256

end Uuid

end HostingBilling
