import HostingBilling.Store.Jobs
import HostingBilling.Store.Orders
import HostingBilling.Store.Services
import HostingBilling.Task.Payload
import HostingBilling.TaskQueue

/-!
# Submitting provisioning work

Each committed job goes to the queue as one task. A job whose submission is refused is taken back in
three steps, each guarded by the state it expects, and the others still go out.
-/

namespace HostingBilling

namespace CommittedJob

def payload (t : CommittedJob) : ProvisionPayload := ⟨t.serviceId, t.orderId, t.planId, t.userId⟩

/-- What went wrong in a step of the compensation, as a text; nothing if it went through. -/
def stepError (label : String) (id : Uuid) (step : Action Bool) : Action (List String) := do
  match ← step.attempt with
  | .ok _ => return []
  | .error e => return ["compensate " ++ label ++ " " ++ id.toText ++ ": " ++ e.message]

def failJobStep (t : CommittedJob) (reason : String) : Action (List String) :=
  stepError "job" t.jobId (Jobs.abandon t.jobId ("enqueue failed: " ++ reason))

def revertServiceStep (t : CommittedJob) : Action (List String) :=
  stepError "service" t.serviceId (Services.takeBack t.serviceId)

def revertOrderStep (t : CommittedJob) : Action (List String) :=
  stepError "order" t.orderId (Orders.takeBack t.orderId)

/-- Undoes what a refused submission left behind. A step that fails is reported, never raised. -/
def retract (t : CommittedJob) (reason : String) : Action (List String) := do
  let first ← t.failJobStep reason
  let second ← t.revertServiceStep
  let third ← t.revertOrderStep
  return first ++ second ++ third

/-- Submits one job, and gives the errors of a refusal. -/
def submit (o : Outside) (t : CommittedJob) : Action (List String) := do
  match ← (TaskQueue.submit o (TaskDraft.provision t.payload)).attempt with
  | .ok _ => return []
  | .error e => return ("job " ++ t.jobId.toText ++ ": " ++ e.message) :: (← t.retract e.message)

/-- Submits every job: how many went out, and the errors of the others. -/
def submitEach (o : Outside) : List CommittedJob → Action (Nat × List String)
  | [] => return (0, [])
  | t :: rest => do
    let errors ← t.submit o
    let (accepted, more) ← submitEach o rest
    return (if errors.isEmpty then accepted + 1 else accepted, errors ++ more)

/-- Submits every job and gives their number, or all the errors together. -/
def submitAll (o : Outside) (tasks : List CommittedJob) : Action Nat := do
  let (accepted, errors) ← submitEach o tasks
  if errors.isEmpty then return accepted
  throw (.several errors)

end CommittedJob

end HostingBilling
