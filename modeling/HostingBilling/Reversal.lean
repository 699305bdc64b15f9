import HostingBilling.Store.Orders
import HostingBilling.Store.Payments

/-!
# Failed payments, refunds and disputes

What the gateway reports about a payment later on. A report without an intent, or about a payment that
was never recorded, changes nothing.
-/

namespace HostingBilling

namespace Reversal

/-- Only a pending payment can fail. -/
def failPayment (intent : IntentId) : Action Unit := transaction do
  let some payment ← Payments.byIntent intent | return ()
  if payment.status.canBecome .failed then Payments.setStatus payment.id .failed

def recordRefunds (paymentId : Uuid) : List Refund → Action Unit
  | [] => return ()
  | r :: rest => do
    Payments.recordRefund paymentId r
    recordRefunds paymentId rest

/-- Marks the order of a refunded payment, if it is still only paid. -/
def refundOrder (orderId : Uuid) : Action Unit := do
  if (← Orders.status orderId) = some .paid then
    let _ ← Orders.move orderId .paid .refunded

/-- Records the refunds of a charge and marks the payment refunded, whatever it was before. -/
def refund (r : RefundReport) : Action Unit := do
  let some intent := r.intent | return ()
  transaction do
    let some payment ← Payments.byIntent intent | return ()
    recordRefunds payment.id r.refunds
    if r.marksRefunded && payment.status != .refunded then
      Payments.setStatus payment.id .refunded
      match payment.orderId with
      | some orderId => refundOrder orderId
      | none => return ()

def dispute (d : Dispute) : Action Unit := do
  let some intent := d.intent | return ()
  transaction do
    let some payment ← Payments.byIntent intent | return ()
    Payments.recordDispute payment.id d

end Reversal

end HostingBilling
