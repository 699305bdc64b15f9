import HostingBilling.Double

/-!
# The shortest decimal text of a double

The fewest digits that read back to the same double; of two candidates on that grid the nearer one.
-/

namespace HostingBilling

namespace Double

/-- Whether `digits * 10 ^ scale` rounds to the magnitude of `d`. -/
def readsBack (d : Double) (digits : Nat) (scale : Int) : Bool :=
  let r := ofRatio (digits * Nat.pow 10 scale.toNat) (Nat.pow 10 (-scale).toNat)
  r.any fun x => x.mantissa == d.mantissa && x.exponent == d.exponent

/-- The decimal exponent `p` with `10 ^ p ≤ num / den < 10 ^ (p + 1)`, started from an estimate
by binary lengths that is at most one too high or two too low. -/
def decimalExponent (num den : Nat) : Int :=
  let bits : Int := (num.log2 : Int) - den.log2
  let guess : Int := bits * 30103 / 100000 - 1
  let reaches (p : Int) : Bool := den * Nat.pow 10 p.toNat ≤ num * Nat.pow 10 (-p).toNat
  if reaches (guess + 2) then guess + 2
  else if reaches (guess + 1) then guess + 1
  else if reaches guess then guess else guess - 1

/-- The candidate with `count` digits that reads back, if there is one: the value's two neighbours on
the grid of that many digits, the nearer one first. -/
def candidate (d : Double) (count : Nat) : Option (Nat × Int) :=
  let (num, den) := d.magnitude
  let scale := decimalExponent num den - (count : Int) + 1
  let n := num * Nat.pow 10 (-scale).toNat
  let m := den * Nat.pow 10 scale.toNat
  let low := n / m
  let nearFirst := if 2 * (n % m) ≤ m then [low, low + 1] else [low + 1, low]
  (nearFirst.find? fun c => d.readsBack c scale).map fun c => (c, scale)

/-- The digits and the power of ten of the last digit. Seventeen digits always read back. -/
def shortest (d : Double) : Nat × Int :=
  if d.isZero then (0, 0)
  else ((List.range 17).findSome? fun k => d.candidate (k + 1)).getD (0, 0)

/-- How a document writes a double: positional from `1e-5` up to below `1e16`, with at least one
digit after the point, and else with an exponent whose sign is always written. -/
def render (d : Double) : String :=
  let (digits, scale) := d.shortest
  let (digits, scale) := strip digits scale 17
  let sign := if d.negative then "-" else ""
  sign ++ place (toString digits) scale
where
  /-- Trailing zeros move into the scale. -/
  strip (digits : Nat) (scale : Int) : Nat → Nat × Int
    | 0 => (digits, scale)
    | fuel + 1 =>
      if digits ≠ 0 ∧ digits % 10 = 0 then strip (digits / 10) (scale + 1) fuel
      else (digits, scale)
  zeros (n : Nat) : String := String.ofList (List.replicate n '0')
  place (text : String) (scale : Int) : String :=
    let length : Int := text.length
    let point := length + scale
    let cs := text.toList
    if 0 ≤ scale ∧ point ≤ 16 then text ++ zeros scale.toNat ++ ".0"
    else if 0 < point ∧ point ≤ 16 then
      String.ofList (cs.take point.toNat) ++ "." ++ String.ofList (cs.drop point.toNat)
    else if -5 < point ∧ point ≤ 0 then "0." ++ zeros (-point).toNat ++ text
    else
      let rest := cs.drop 1
      let lead := String.ofList (cs.take 1) ++ (if rest.isEmpty then "" else "." ++ String.ofList rest)
      let e := point - 1
      lead ++ (if e < 0 then "e-" else "e+") ++ toString e.natAbs

end Double

end HostingBilling
