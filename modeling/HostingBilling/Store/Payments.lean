import HostingBilling.Gateway.Event
import HostingBilling.World

/-!
# Payments in the store

No two payments share an intent or a checkout session. A settled checkout finds its payment by the
intent first and by the session second; a refunded payment is left alone.
-/

namespace HostingBilling

/-- What a settled checkout says about its payment. -/
structure SettledPayment where
  userId : Uuid
  orderId : Uuid
  invoiceId : Uuid
  intent : Option IntentId
  session : String
  amountCents : Int
  currency : String

inductive PaymentOutcome where
  | created (id : Uuid)
  | updated (id : Uuid)
  /-- The payment was refunded; the checkout left it as it was. -/
  | kept (id : Uuid)
  deriving DecidableEq

namespace Store

def paymentByIntent (s : Store) (intent : String) : Option PaymentRow :=
  s.payments.find? fun r => r.intent == some intent

def paymentBySession (s : Store) (session : String) : Option PaymentRow :=
  s.payments.find? fun r => r.session == some session

/-- Whether a payment other than `id` has this intent. -/
def intentTaken (s : Store) (id : Uuid) (intent : Option String) : Bool :=
  intent.isSome && s.payments.any fun r => r.id != id && r.intent == intent

def sessionTaken (s : Store) (id : Uuid) (session : String) : Bool :=
  s.payments.any fun r => r.id != id && r.session == some session

/-- Refuses an intent or a session that another payment has. -/
def checkPaymentKeys (s : Store) (id : Uuid) (intent : Option String) (session : String) :
    Except DatabaseFailure Unit :=
  if s.intentTaken id intent then .error (.duplicateKey "payments_stripe_payment_intent_id_key")
  else if s.sessionTaken id session then
    .error (.duplicateKey "payments_stripe_checkout_session_id_key")
  else .ok ()

def insertPayment (now : Instant) (id : Uuid) (p : SettledPayment) (s : Store) :
    Except DatabaseFailure (Unit × Store) := do
  let intent := p.intent.map (·.text)
  s.checkPaymentKeys id intent p.session
  return ((), { s with payments := s.payments ++ [{
    id
    userId := p.userId
    orderId := some p.orderId
    invoiceId := some p.invoiceId
    intent
    session := some p.session
    amountCents := p.amountCents
    currency := p.currency
    status := .succeeded
    method := "card"
    createdAt := now
    updatedAt := now }] })

/-- What a settled checkout makes of a payment. An intent is never erased. -/
def settled (now : Instant) (p : SettledPayment) (r : PaymentRow) : PaymentRow :=
  { r with
    userId := p.userId
    orderId := some p.orderId
    invoiceId := some p.invoiceId
    intent := (p.intent.map (·.text)) <|> r.intent
    session := some p.session
    amountCents := p.amountCents
    currency := p.currency
    status := .succeeded
    method := "card"
    updatedAt := now }

def updatePayment (now : Instant) (r : PaymentRow) (p : SettledPayment) (s : Store) :
    Except DatabaseFailure (Unit × Store) := do
  s.checkPaymentKeys r.id ((p.intent.map (·.text)) <|> r.intent) p.session
  return ((), { s with payments := changeRows (fun x => x.id == r.id) (settled now p) s.payments })

def setPaymentStatus (now : Instant) (id : Uuid) (status : PaymentStatus) (s : Store) : Store :=
  { s with
    payments := changeRows (fun r => r.id == id)
      (fun r => { r with status := status, updatedAt := now }) s.payments }

/-- Adds a refund, or brings the one of that gateway identifier up to date. -/
def recordRefund (now : Instant) (id paymentId : Uuid) (x : Refund) (s : Store) : Store :=
  if s.refunds.any fun r => r.refundId == x.id then
    { s with
      refunds := changeRows (fun r => r.refundId == x.id) (fun r => { r with
        amountCents := x.amount
        reason := x.reason
        status := x.status
        updatedAt := now }) s.refunds }
  else
    { s with refunds := s.refunds ++ [{
        id
        paymentId
        refundId := x.id
        amountCents := x.amount
        reason := x.reason
        status := x.status
        createdAt := now
        updatedAt := now }] }

/-- Adds a dispute, or brings the one of that gateway identifier up to date. -/
def recordDispute (now : Instant) (id paymentId : Uuid) (x : Dispute) (s : Store) : Store :=
  if s.disputes.any fun r => r.disputeId == x.id then
    { s with
      disputes := changeRows (fun r => r.disputeId == x.id) (fun r => { r with
        amountCents := x.amount
        reason := x.reason
        status := x.status
        evidenceDue := x.evidenceDue
        updatedAt := now }) s.disputes }
  else
    { s with disputes := s.disputes ++ [{
        id
        paymentId
        disputeId := x.id
        amountCents := x.amount
        reason := x.reason
        status := x.status
        evidenceDue := x.evidenceDue
        createdAt := now
        updatedAt := now }] }

end Store

namespace Payments

/-- The payment of an intent, for the rest of a transaction. -/
def byIntent (intent : IntentId) : Action (Option PaymentRow) :=
  ask .paymentByIntent fun _ s => s.paymentByIntent intent.text

def bySession (session : String) : Action (Option PaymentRow) :=
  ask .paymentBySession fun _ s => s.paymentBySession session

/-- The payment that a checkout is about. -/
def ofCheckout (p : SettledPayment) : Action (Option PaymentRow) := do
  let found ← match p.intent with
    | some intent => byIntent intent
    | none => pure none
  match found with
  | some r => return some r
  | none => bySession p.session

/-- Records the payment of a settled checkout. -/
def record (p : SettledPayment) : Action PaymentOutcome := do
  match ← ofCheckout p with
  | none =>
    let id ← Action.freshId
    execute .insertPayment fun now s => s.insertPayment now id p
    return .created id
  | some r =>
    if r.status = .refunded then return .kept r.id
    execute .updatePayment fun now s => s.updatePayment now r p
    return .updated r.id

def setStatus (id : Uuid) (status : PaymentStatus) : Action Unit :=
  change .setPaymentStatus fun now s => ((), s.setPaymentStatus now id status)

def recordRefund (paymentId : Uuid) (x : Refund) : Action Unit := do
  let id ← Action.freshId
  change .recordRefund fun now s => ((), s.recordRefund now id paymentId x)

def recordDispute (paymentId : Uuid) (x : Dispute) : Action Unit := do
  let id ← Action.freshId
  change .recordDispute fun now s => ((), s.recordDispute now id paymentId x)

end Payments

end HostingBilling
