import HostingBilling.Instant
import HostingBilling.Json.Reader
import HostingBilling.Payment
import HostingBilling.Uuid

/-!
# Gateway events

An event is an envelope with an identifier and a type around one object. Only the fields the pipeline
reads are looked at; a reference to a payment intent may be its identifier or the expanded object.
-/

namespace HostingBilling

open Json (Shape need needOr optional asText asInteger asList asTexts asOptional field defaultedField)

/-- An event's identifier at the gateway. -/
structure EventId where
  text : String
  deriving DecidableEq, Repr, Inhabited

def EventId.ofText (s : String) : Except Failure EventId :=
  if "evt_".toList.isPrefixOf s.toList then .ok ⟨s⟩
  else .error (.malformedPayload ("EventId must start with evt_, got: " ++ s))

/-- A payment intent's identifier at the gateway. Refunds and disputes name their payment by it. -/
structure IntentId where
  text : String
  deriving DecidableEq, Repr, Inhabited

def IntentId.ofText (s : String) : Except Failure IntentId :=
  if "pi_".toList.isPrefixOf s.toList then .ok ⟨s⟩
  else .error (.malformedPayload ("PaymentIntentId must start with pi_, got: " ++ s))

/-- An event whose envelope has been read. -/
structure GatewayEvent where
  id : EventId
  kind : String
  payload : Json

structure Checkout where
  sessionId : String
  intent : Option IntentId
  orderRef : Option String
  amountTotal : Option Int
  currency : Option String
  deriving DecidableEq

/-- The order that a checkout pays for. -/
def Checkout.orderId (c : Checkout) : Except Failure Uuid :=
  match c.orderRef with
  | none => .error .missingOrderReference
  | some ref => match Uuid.parse? ref with
    | some id => .ok id
    | none => .error (.validation ("order reference is not a uuid: " ++ ref))

structure Refund where
  id : String
  amount : Int
  reason : Option String
  status : RefundStatus
  deriving DecidableEq

structure RefundReport where
  intent : Option IntentId
  refunds : List Refund
  /-- The whole charge was reported refunded, not just one refund updated. -/
  wholeCharge : Bool
  deriving DecidableEq

def RefundReport.marksRefunded (r : RefundReport) : Bool :=
  r.wholeCharge || r.refunds.any fun x => x.status == .succeeded

structure Dispute where
  intent : Option IntentId
  id : String
  amount : Int
  reason : Option String
  status : DisputeStatus
  evidenceDue : Option Instant
  deriving DecidableEq

/-- What an event tells. -/
inductive Notification where
  | checkout (c : Checkout)
  | paymentFailed (intent : IntentId)
  | refund (r : RefundReport)
  | dispute (d : Dispute)
  | unhandled
  deriving DecidableEq

namespace Gateway

def envelope : Shape := ⟨"Envelope", [field "id" asText, field "type" asText]⟩

/-- A reference given as an identifier or as an object that holds one. -/
def asReference : Json.Decoder String
  | .text s => .ok s
  | .object members => match members.lookup "id" with
    | some (.text s) => .ok s
    | _ => .error noReference
  | _ => .error noReference
where
  noReference : String := "data did not match any variant of untagged enum Expandable"

structure SessionObject where
  id : String
  intent : Option String
  clientReference : Option String
  metadata : Option (List (String × String))
  amountTotal : Option Int
  currency : Option String

namespace SessionObject

def shape : Shape := ⟨"CheckoutSessionObject", [
  field "id" asText,
  field "payment_intent" (asOptional asReference),
  field "client_reference_id" (asOptional asText),
  field "metadata" (asOptional asTexts),
  field "amount_total" (asOptional asInteger),
  field "currency" (asOptional asText)]⟩

def decode : Json.Decoder SessionObject := fun v => do
  let m ← shape.read v
  return {
    id := ← need m "id" asText
    intent := ← optional m "payment_intent" asReference
    clientReference := ← optional m "client_reference_id" asText
    metadata := ← optional m "metadata" asTexts
    amountTotal := ← optional m "amount_total" asInteger
    currency := ← optional m "currency" asText }

end SessionObject

structure IntentObject where
  id : String

namespace IntentObject

def shape : Shape := ⟨"PaymentIntentObject", [field "id" asText]⟩

def decode : Json.Decoder IntentObject := fun v => do
  let m ← shape.read v
  return { id := ← need m "id" asText }

end IntentObject

structure RefundObject where
  id : String
  amount : Int
  reason : Option String
  status : Option String
  intent : Option String

namespace RefundObject

def shape : Shape := ⟨"RefundObject", [
  field "id" asText,
  field "amount" asInteger,
  field "reason" (asOptional asText),
  field "status" (asOptional asText),
  field "payment_intent" (asOptional asReference)]⟩

def decode : Json.Decoder RefundObject := fun v => do
  let m ← shape.read v
  return {
    id := ← need m "id" asText
    amount := ← need m "amount" asInteger
    reason := ← optional m "reason" asText
    status := ← optional m "status" asText
    intent := ← optional m "payment_intent" asReference }

end RefundObject

/-- The refunds of a charge, which stand in a list object. -/
def refundList : Shape := ⟨"RefundList", [defaultedField "data" (asList RefundObject.decode)]⟩

def asRefunds : Json.Decoder (List RefundObject) := fun v => do
  let m ← refundList.read v
  needOr m "data" (asList RefundObject.decode) []

structure ChargeObject where
  intent : Option String
  refunds : Option (List RefundObject)

namespace ChargeObject

def shape : Shape := ⟨"ChargeObject", [
  field "payment_intent" (asOptional asReference),
  field "refunds" (asOptional asRefunds)]⟩

def decode : Json.Decoder ChargeObject := fun v => do
  let m ← shape.read v
  return {
    intent := ← optional m "payment_intent" asReference
    refunds := ← optional m "refunds" asRefunds }

end ChargeObject

/-- When the evidence of a dispute is due, in seconds. -/
def evidence : Shape := ⟨"EvidenceDetails", [field "due_by" (asOptional asInteger)]⟩

def asEvidence : Json.Decoder (Option Int) := fun v => do
  let m ← evidence.read v
  optional m "due_by" asInteger

structure DisputeObject where
  id : String
  amount : Int
  reason : Option String
  status : String
  intent : Option String
  evidence : Option (Option Int)

namespace DisputeObject

def shape : Shape := ⟨"DisputeObject", [
  field "id" asText,
  field "amount" asInteger,
  field "reason" (asOptional asText),
  field "status" asText,
  field "payment_intent" (asOptional asReference),
  field "evidence_details" (asOptional asEvidence)]⟩

def decode : Json.Decoder DisputeObject := fun v => do
  let m ← shape.read v
  return {
    id := ← need m "id" asText
    amount := ← need m "amount" asInteger
    reason := ← optional m "reason" asText
    status := ← need m "status" asText
    intent := ← optional m "payment_intent" asReference
    evidence := ← optional m "evidence_details" asEvidence }

end DisputeObject

/-- The text, unless it is empty. -/
def nonEmpty (s : Option String) : Option String := s.filter (· != "")

/-- The intent of a reference. An empty reference names none. -/
def intentOf (reference : Option String) : Except Failure (Option IntentId) :=
  match nonEmpty reference with
  | none => .ok none
  | some s => (IntentId.ofText s).map some

def RefundObject.toRefund (r : RefundObject) : Refund where
  id := r.id
  amount := r.amount
  reason := nonEmpty r.reason
  status := .ofGateway r.status

/-- The order reference of the metadata, else the client's own reference. -/
def SessionObject.orderRef (s : SessionObject) : Option String :=
  nonEmpty (s.metadata.bind (·.lookup "order_id")) <|> nonEmpty s.clientReference

def SessionObject.toCheckout (s : SessionObject) : Except Failure Checkout := do
  return {
    sessionId := s.id
    intent := ← intentOf s.intent
    orderRef := s.orderRef
    amountTotal := s.amountTotal
    currency := s.currency }

def ChargeObject.toReport (c : ChargeObject) : Except Failure RefundReport := do
  return {
    intent := ← intentOf c.intent
    refunds := (c.refunds.getD []).map RefundObject.toRefund
    wholeCharge := true }

def RefundObject.toReport (r : RefundObject) : Except Failure RefundReport := do
  return {
    intent := ← intentOf r.intent
    refunds := [r.toRefund]
    wholeCharge := false }

def DisputeObject.toDispute (d : DisputeObject) : Except Failure Dispute := do
  return {
    intent := ← intentOf d.intent
    id := d.id
    amount := d.amount
    reason := nonEmpty d.reason
    status := .ofGateway d.status
    evidenceDue := (d.evidence.bind fun due => due.filter (0 < ·)).bind Instant.ofSeconds? }

end Gateway

namespace GatewayEvent

/-- Reads the envelope of a document. -/
def ofJson (payload : Json) : Except Failure GatewayEvent :=
  let parts : Except String (String × String) := do
    let m ← Gateway.envelope.read payload
    return (← need m "id" asText, ← need m "type" asText)
  match parts with
  | .error e => .error (.malformedPayload ("event envelope: " ++ e))
  | .ok (id, kind) => do return ⟨← EventId.ofText id, kind, payload⟩

/-- Reads a body. What is wrong with a body that is no document is not told. -/
def ofText (body : String) : Except Failure GatewayEvent :=
  match Json.read? body with
  | some payload => ofJson payload
  | none => .error (.malformedPayload "event body:")

/-- The object of an event, read as one of the known shapes. -/
def object (e : GatewayEvent) (decode : Json.Decoder α) : Except Failure α :=
  match Json.at? ["data", "object"] e.payload with
  | none => .error (.malformedPayload "missing data.object")
  | some v => match decode v with
    | .ok a => .ok a
    | .error text => .error (.malformedPayload (e.kind ++ " object: " ++ text))

/-- What the event tells. An event of another type is not looked into. -/
def parse (e : GatewayEvent) : Except Failure Notification := do
  match e.kind with
  | "checkout.session.completed" =>
    return .checkout (← (← e.object Gateway.SessionObject.decode).toCheckout)
  | "payment_intent.payment_failed" =>
    return .paymentFailed (← IntentId.ofText (← e.object Gateway.IntentObject.decode).id)
  | "charge.refunded" => return .refund (← (← e.object Gateway.ChargeObject.decode).toReport)
  | "charge.refund.updated" => return .refund (← (← e.object Gateway.RefundObject.decode).toReport)
  | "charge.dispute.created" => dispute
  | "charge.dispute.updated" => dispute
  | "charge.dispute.closed" => dispute
  | _ => return .unhandled
where
  dispute : Except Failure Notification := do
    return .dispute (← (← e.object Gateway.DisputeObject.decode).toDispute)

end GatewayEvent

/-- What became of one delivery, as the gateway is told. -/
inductive DeliveryOutcome where
  | processed
  | duplicate
  | ignored
  deriving DecidableEq, Repr, Inhabited

def DeliveryOutcome.name : DeliveryOutcome → String
  | .processed => "processed"
  | .duplicate => "duplicate"
  | .ignored => "ignored"

end HostingBilling
