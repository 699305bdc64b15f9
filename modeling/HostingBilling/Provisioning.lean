import HostingBilling.Store.Jobs
import HostingBilling.Store.Orders
import HostingBilling.Store.Services
import HostingBilling.Task.Payload

/-!
# Building the machine of a service

The latest job of the service is driven to its end. A failure of the backend fails the job and leaves
the service and the order as they are; success activates the service, completes the job and moves the
order to active together.
-/

namespace HostingBilling

inductive ProvisionOutcome where
  | activated (machine : Machine)
  /-- The service is active and its last job completed. -/
  | alreadyActive
  deriving DecidableEq

namespace Provisioning

def isDone (service : ServiceView) (job : Option JobRow) : Bool :=
  service.status == .active && job.any fun j => j.status == .completed

/-- What success changes, inside a transaction. -/
def finish (service : ServiceView) (job : JobRow) (machine : Machine) : Action Unit := do
  Services.activate service.id machine
  Jobs.complete job.id
  if (← Orders.status service.orderId) = some .provisioning then
    let _ ← Orders.move service.orderId .provisioning .active

/-- One attempt on a job. -/
def attempt (o : Outside) (service : ServiceView) (job : JobRow) : Action Machine := do
  Jobs.start job.id
  match o.provision ⟨service.id, service.planId, service.userId⟩ with
  | .error e =>
    Jobs.fail job.id e.message
    throw e
  | .ok machine =>
    transaction (finish service job machine)
    return machine

def provision (o : Outside) (p : ProvisionPayload) : Action ProvisionOutcome := do
  let service ← Services.require p.serviceId
  let job ← Jobs.latest service.id .provisionVps
  if isDone service job then return .alreadyActive
  if service.status.isTerminal then
    throw (.validation ("service " ++ service.id.toText ++ " is terminated"))
  let some job := job |
    throw (.notFound ("provisioning job for service " ++ service.id.toText))
  return .activated (← attempt o service job)

end Provisioning

end HostingBilling
