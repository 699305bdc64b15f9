import HostingBilling.Checkout
import HostingBilling.Ledger
import HostingBilling.Reversal
import HostingBilling.Submission

/-!
# Delivering an event

A delivery claims its event in the ledger, does what the event asks for, and records how that went. A
body that makes no sense is refused before the ledger is touched; a failure is recorded and reported, so
that the gateway delivers again and the next delivery takes the event over.
-/

namespace HostingBilling

namespace Delivery

/-- Does what an event asks for. -/
def handle (o : Outside) : Notification → Action DeliveryOutcome
  | .checkout c => do
    let tasks ← c.carryOut
    let _ ← CommittedJob.submitAll o tasks
    return .processed
  | .paymentFailed intent => do
    Reversal.failPayment intent
    return .processed
  | .refund r => do
    Reversal.refund r
    return .processed
  | .dispute d => do
    Reversal.dispute d
    return .processed
  | .unhandled => return .ignored

/-- Records the end of a claimed delivery. A failure that cannot be recorded is reported all the same. -/
def conclude (e : GatewayEvent) (row : Uuid) :
    Except Failure DeliveryOutcome → Action DeliveryOutcome
  | .ok outcome => do
    Ledger.finish row
    return outcome
  | .error failure => do
    let _ ← (Ledger.recordError row failure.message).attempt
    throw (.eventFailed e.id.text failure.message)

/-- Runs one event through the ledger and its handler. -/
def process (o : Outside) (e : GatewayEvent) : Action DeliveryOutcome := do
  let notification ← Action.ofExcept e.parse
  match ← Ledger.claim e with
  | none => return .duplicate
  | some row => conclude e row (← (handle o notification).attempt)

end Delivery

end HostingBilling
