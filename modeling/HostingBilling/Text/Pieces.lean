/-!
# Pieces of a text

Cutting a text at separators, taking characters off its ends, and its bytes.
-/

namespace HostingBilling.Text

/-- Cuts at every separator. There is one piece more than there are separators. -/
def splitWhere (separates : Char → Bool) : List Char → List (List Char)
  | [] => [[]]
  | c :: cs =>
    if separates c then [] :: splitWhere separates cs
    else match splitWhere separates cs with
      | piece :: rest => (c :: piece) :: rest
      | [] => [[c]]

def split (separator : Char) : List Char → List (List Char) := splitWhere (· == separator)

/-- Without the items of a kind at either end. -/
def strip {α : Type} (taken : α → Bool) (cs : List α) : List α :=
  ((cs.dropWhile taken).reverse.dropWhile taken).reverse

/-- What follows the last separator, and what comes before it; nothing if there is none. -/
def splitLast? (separator : Char) (cs : List Char) : Option (List Char × List Char) :=
  let last := (cs.reverse.takeWhile (· != separator)).reverse
  if last.length = cs.length then none
  else some (cs.take (cs.length - last.length - 1), last)

def bytes (s : String) : List UInt8 := s.toUTF8.toList

end HostingBilling.Text
