import HostingBilling.Store.Services
import HostingBilling.Task.Payload
import HostingBilling.TaskQueue

/-!
# Suspension, termination and expiry

A terminated service stays terminated. An expiry sweep checks each service again in its own statement;
one that fails is counted and the sweep goes on.
-/

namespace HostingBilling

structure ExpiryReport where
  checked : Nat
  suspended : Nat
  failed : Nat
  /-- Another sweep was running; nothing was checked. -/
  skipped : Bool
  deriving DecidableEq, Repr, Inhabited

/-- Counts one more service that was checked. -/
def ExpiryReport.count (r : ExpiryReport) : Except Failure Bool → ExpiryReport
  | .ok true => { r with checked := r.checked + 1, suspended := r.suspended + 1 }
  | .ok false => { r with checked := r.checked + 1 }
  | .error _ => { r with checked := r.checked + 1, failed := r.failed + 1 }

namespace Lifecycle

def suspend (p : SuspendPayload) : Action Unit := do
  if ← Services.suspend p.serviceId p.reason then return ()
  let _ ← Services.require p.serviceId

def terminate (p : TerminatePayload) : Action Unit := do
  if ← Services.terminate p.serviceId then return ()
  throw (serviceNotFound p.serviceId)

def expireOne (id : Uuid) : Action ExpiryReport := do
  let _ ← Services.require id
  let suspended ← Services.expire id
  return ⟨1, if suspended then 1 else 0, 0, false⟩

def expireEach (report : ExpiryReport) : List Uuid → Action ExpiryReport
  | [] => return report
  | id :: rest => do expireEach (report.count (← (Services.expire id).attempt)) rest

def expireAll : Action ExpiryReport :=
  TaskQueue.withLease TaskKind.expireService.name ⟨0, 0, 0, true⟩ do
    expireEach ⟨0, 0, 0, false⟩ (← Services.expired)

def expire (p : ExpirePayload) : Action ExpiryReport :=
  match p.serviceId with
  | some id => expireOne id
  | none => expireAll

end Lifecycle

end HostingBilling
