import HostingBilling.Checkout
import HostingBilling.Submission

/-!
# Reprovisioning

An operator asks for a fresh job for a service that is neither active nor terminated and has no live
job.
-/

namespace HostingBilling

namespace Reprovision

/-- Whether a service in this status may be built anew. -/
def permit (id : Uuid) : ServiceStatus → Except Failure Unit
  | .active => .error (.conflict ("service " ++ id.toText ++ " is already active"))
  | .terminated =>
    .error
      (.illegalTransition .service ServiceStatus.terminated.name ServiceStatus.provisioning.name)
  | _ => .ok ()

/-- Creates the job, inside a transaction. -/
def prepare (detail : ServiceView) : Action CommittedJob := do
  let some order ← Orders.lock detail.orderId | throw (Checkout.orderNotFound detail.orderId)
  let some status ← Services.lockStatus detail.id | throw (serviceNotFound detail.id)
  Action.ofExcept (permit detail.id status)
  let some jobId ← Jobs.create detail.id .provisionVps |
    throw (.conflict ("service " ++ detail.id.toText ++ " already has a live job"))
  Services.start detail.id
  if order.status = .paid then
    let _ ← Orders.move order.id .paid .provisioning
  return ⟨jobId, detail.id, order.id, detail.planId, detail.userId⟩

/-- Creates and submits a job for a service, and gives its identifier. -/
def service (o : Outside) (id : Uuid) : Action Uuid := do
  let detail ← Services.require id
  let task ← transaction (prepare detail)
  let _ ← CommittedJob.submitAll o [task]
  return task.jobId

end Reprovision

end HostingBilling
