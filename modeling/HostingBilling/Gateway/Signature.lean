import HostingBilling.Digest.Keyed
import HostingBilling.Gateway.Event
import HostingBilling.Text.Pieces

/-!
# Signed bodies

The gateway signs the time and the body of a delivery with a shared secret. A signature counts for
five minutes around its time.
-/

namespace HostingBilling.Gateway

/-- The header that carries the signature. -/
def signatureHeader : String := "Stripe-Signature"

/-- How many seconds a signature may be away from now. -/
def tolerance : Int := 300

inductive SignatureFailure where
  | mismatch
  | badTimestamp
  | stale
  deriving DecidableEq, Repr

def SignatureFailure.message : SignatureFailure → String
  | .mismatch => "error comparing signatures"
  | .badTimestamp => "error parsing timestamp"
  | .stale => "error comparing timestamps - over tolerance"

/-- The named parts of a header, in order. A part with no equals sign is left out, and of a part with
several only the text between the first two counts. -/
def headerParts (header : String) : List (List Char × List Char) :=
  (Text.split ',' header.toList).filterMap fun part =>
    match Text.split '=' part with
    | key :: value :: _ => some (key, value)
    | _ => none

/-- The value of a part. Of several with one name the last counts. -/
def headerPart? (header : String) (name : String) : Option String :=
  ((headerParts header).reverse.lookup name.toList).map String.ofList

/-- The bytes written in hexadecimal. -/
def hexBytes? : List Char → Option (List UInt8)
  | [] => some []
  | a :: b :: rest => do
    let n ← Text.hexValues? [a, b]
    return UInt8.ofNat n :: (← hexBytes? rest)
  | [_] => none

/-- The digest that a body must carry when it is signed at a time. -/
def signatureOf (secret : String) (time : Int) (body : String) : List UInt8 :=
  Digest.keyed (Text.bytes secret) (Text.bytes (toString time ++ "." ++ body))

/-- Checks a header against a body at a time in seconds. -/
def checkSignature (now : Int) (body header secret : String) : Except SignatureFailure Unit := do
  let some t := headerPart? header "t" | .error .mismatch
  let some v1 := headerPart? header "v1" | .error .mismatch
  let some time := Text.signed? t | .error .badTimestamp
  let some given := hexBytes? v1.toList | .error .mismatch
  if given ≠ signatureOf secret time body then .error .mismatch
  if (now - time).natAbs > tolerance then .error .stale

/-- The event of a body whose signature counts. -/
def verify (now : Int) (body header secret : String) : Except Failure GatewayEvent :=
  match checkSignature now body header secret with
  | .error e => .error (.webhookSignature e.message)
  | .ok () => GatewayEvent.ofText body

end HostingBilling.Gateway
