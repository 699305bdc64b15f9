import HostingBilling.Failure

/-!
# Payments, refunds and disputes

Their statuses, and how the gateway's words for them are read.
-/

namespace HostingBilling

inductive PaymentStatus where
  | pending
  | succeeded
  | failed
  | refunded
  deriving DecidableEq, Repr, Inhabited

namespace PaymentStatus

def all : List PaymentStatus := [pending, succeeded, failed, refunded]

def name : PaymentStatus → String
  | pending => "pending"
  | succeeded => "succeeded"
  | failed => "failed"
  | refunded => "refunded"

def ofName (s : String) : Except Failure PaymentStatus :=
  match all.find? fun x => x.name == s with
  | some x => .ok x
  | none => .error (.validation ("unknown payment status: " ++ s))

/-- A failed card can still be paid by a later checkout; a refund is final. -/
def canBecome : PaymentStatus → PaymentStatus → Bool
  | pending, succeeded => true
  | pending, failed => true
  | failed, succeeded => true
  | succeeded, refunded => true
  | _, _ => false

end PaymentStatus

inductive RefundStatus where
  | pending
  | succeeded
  | failed
  deriving DecidableEq, Repr, Inhabited

namespace RefundStatus

def all : List RefundStatus := [pending, succeeded, failed]

def name : RefundStatus → String
  | pending => "pending"
  | succeeded => "succeeded"
  | failed => "failed"

/-- A refund whose state is not told, or not known, is pending. -/
def ofGateway : Option String → RefundStatus
  | some "succeeded" => succeeded
  | some "failed" => failed
  | some "canceled" => failed
  | _ => pending

end RefundStatus

inductive DisputeStatus where
  | needsResponse
  | underReview
  | won
  | lost
  deriving DecidableEq, Repr, Inhabited

namespace DisputeStatus

def all : List DisputeStatus := [needsResponse, underReview, won, lost]

def name : DisputeStatus → String
  | needsResponse => "needs_response"
  | underReview => "under_review"
  | won => "won"
  | lost => "lost"

/-- Every state that is not recognised still needs a response. -/
def ofGateway : String → DisputeStatus
  | "won" => won
  | "lost" => lost
  | "warning_under_review" => underReview
  | "under_review" => underReview
  | _ => needsResponse

end DisputeStatus

end HostingBilling
