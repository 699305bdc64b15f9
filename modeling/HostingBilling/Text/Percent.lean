import HostingBilling.Text.Hex
import HostingBilling.Text.Pieces

/-!
# Percent escapes

A byte may be written as a percent sign and two hexadecimal digits.
-/

namespace HostingBilling.Text

/-- The bytes of a text, its escapes undone. What is no escape stands for itself. -/
def unescape : List Char → List UInt8
  | [] => []
  | c :: cs =>
    match c, cs with
    | '%', a :: b :: rest =>
      match hexValues? [a, b] with
      | some n => UInt8.ofNat n :: unescape rest
      | none => bytes "%" ++ unescape (a :: b :: rest)
    | c, cs => bytes (String.singleton c) ++ unescape cs
termination_by cs => cs.length

/-- The text that is left when the escapes are undone, if its bytes are one. -/
def unescaped? (cs : List Char) : Option String := String.fromUTF8? ⟨(unescape cs).toArray⟩

def escapeByte (b : UInt8) : List Char := '%' :: (hexDigits 2 b.toNat).map Char.toUpper

/-- Escapes controls, white space, what is not ASCII, and the characters that may not stand. -/
def escape (mayStand : Char → Bool) (cs : List Char) : List Char :=
  cs.flatMap fun c =>
    if 32 < c.toNat && c.toNat < 127 && mayStand c then [c]
    else (bytes (String.singleton c)).flatMap escapeByte

end HostingBilling.Text
