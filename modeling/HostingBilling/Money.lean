import HostingBilling.Failure

/-!
# Money

Amounts in cents, never negative and never beyond a signed word of 64 bits. Sums and products are
checked: one that does not fit is no amount.
-/

namespace HostingBilling

structure Money where
  cents : Nat
  fits : cents < 0x8000000000000000
  deriving DecidableEq

namespace Money

def zero : Money := ⟨0, by decide⟩

instance : Inhabited Money := ⟨zero⟩

/-- The amount of so many cents, if that many fit. -/
def ofNat? (n : Nat) : Option Money := if h : n < 0x8000000000000000 then some ⟨n, h⟩ else none

/-- The amount of a signed number of cents. -/
def ofCents (n : Int) : Except Failure Money :=
  if n < 0 then .error (.validation ("amount cannot be negative, got: " ++ toString n))
  else match ofNat? n.toNat with
    | some m => .ok m
    | none => .error (.validation ("amount is too large, got: " ++ toString n))

def add? (a b : Money) : Option Money := ofNat? (a.cents + b.cents)

/-- The total of so many units. -/
def mul? (a : Money) (quantity : Int) : Option Money :=
  if quantity < 0 then none else ofNat? (a.cents * quantity.toNat)

/-- Minus one, zero or one, as the first amount is less, equal or greater. -/
def compare (a b : Money) : Int :=
  if a.cents < b.cents then -1 else if a.cents = b.cents then 0 else 1

end Money

end HostingBilling
