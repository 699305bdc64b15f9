/-!
# Binary doubles

A finite binary64 number as an exact dyadic value. `ofRatio` rounds a quotient to the nearest
double, ties to the even neighbour, and product and quotient are the exact ones rounded once.
-/

namespace HostingBilling

/-- A sign and a magnitude `mantissa * 2 ^ exponent`. A mantissa has at most 53 bits, and fewer
than 53 only at the least exponent, -1074. -/
structure Double where
  negative : Bool
  mantissa : Nat
  exponent : Int
  deriving DecidableEq, Repr

namespace Double

def leastExponent : Int := -1074

def greatestExponent : Int := 971

def zero : Double := ⟨false, 0, leastExponent⟩

def isZero (d : Double) : Bool := d.mantissa == 0

def negate (d : Double) : Double := { d with negative := !d.negative }

/-- `num / den / 2 ^ e` as a numerator and a denominator. -/
def shifted (num den : Nat) (e : Int) : Nat × Nat :=
  (num * Nat.pow 2 (-e).toNat, den * Nat.pow 2 e.toNat)

/-- The whole part of a quotient, moved to the nearer whole number; a half goes to the even one. -/
def roundDiv (num den : Nat) : Nat :=
  let q := num / den
  let twice := 2 * (num % den)
  if twice < den then q
  else if den < twice then q + 1
  else if q % 2 = 0 then q else q + 1

/-- The exponent at which the quotient has a mantissa of 53 bits, or the least one. -/
def scaleOf (num den : Nat) : Int :=
  let guess : Int := (num.log2 : Int) - den.log2 - 52
  let (n, d) := shifted num den guess
  let e := if n / d < 0x10000000000000 then guess - 1 else guess
  max e leastExponent

/-- The double nearest to `num / den`, or nothing when that lies beyond the greatest double. -/
def ofRatio (num den : Nat) : Option Double :=
  if num = 0 then some zero
  else
    let e := scaleOf num den
    let (n, d) := shifted num den e
    let m := roundDiv n d
    let (m, e) := if m = 0x20000000000000 then (0x10000000000000, e + 1) else (m, e)
    if e > greatestExponent then none else some ⟨false, m, e⟩

/-- The magnitude as an exact numerator and denominator. -/
def magnitude (d : Double) : Nat × Nat :=
  (d.mantissa * Nat.pow 2 d.exponent.toNat, Nat.pow 2 (-d.exponent).toNat)

def ofNat (n : Nat) : Option Double := ofRatio n 1

/-- The product of two magnitudes, rounded once. -/
def mul (a b : Double) : Option Double :=
  let (an, ad) := a.magnitude
  let (bn, bd) := b.magnitude
  ofRatio (an * bn) (ad * bd)

/-- The quotient of two magnitudes, rounded once. The divisor is not zero. -/
def div (a b : Double) : Option Double :=
  let (an, ad) := a.magnitude
  let (bn, bd) := b.magnitude
  ofRatio (an * bd) (ad * bn)

/-- The double nearest to a power of ten. -/
def powerOfTen (k : Nat) : Option Double := ofNat (Nat.pow 10 k)

/-- The greatest power of ten below the greatest double. -/
def greatestTen : Nat := 308

/-- `significand * 10 ^ exponent` as a reader computes it: the significand is rounded first, then
multiplied or divided once by a rounded power of ten; a divisor beyond `1e308` is taken in steps of
that size. Nothing when the value lies beyond the greatest double. -/
def ofDecimal (significand : Nat) (exponent : Int) : Option Double := do
  let f ← ofNat significand
  if 0 ≤ exponent then
    if f.isZero then return f
    if exponent.toNat > greatestTen then none
    else mul f (← powerOfTen exponent.toNat)
  else
    let k := (-exponent).toNat
    descend f k (k / greatestTen)
where
  descend (f : Double) (k : Nat) : Nat → Option Double
    | 0 => do div f (← powerOfTen k)
    | steps + 1 => do
      if k ≤ greatestTen then div f (← powerOfTen k)
      else if f.isZero then return f
      else descend (← div f (← powerOfTen greatestTen)) (k - greatestTen) steps

end Double

end HostingBilling
