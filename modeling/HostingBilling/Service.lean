import HostingBilling.Failure

/-!
# Services and the jobs that build them
-/

namespace HostingBilling

/-- The life of a hosted machine. -/
inductive ServiceStatus where
  | pending
  | provisioning
  | active
  | suspended
  | terminated
  deriving DecidableEq, Repr, Inhabited

namespace ServiceStatus

def all : List ServiceStatus := [pending, provisioning, active, suspended, terminated]

def name : ServiceStatus → String
  | pending => "pending"
  | provisioning => "provisioning"
  | active => "active"
  | suspended => "suspended"
  | terminated => "terminated"

def ofName (s : String) : Except Failure ServiceStatus :=
  match all.find? fun x => x.name == s with
  | some x => .ok x
  | none => .error (.validation ("unknown service status: " ++ s))

def isTerminal (s : ServiceStatus) : Bool := s == terminated

end ServiceStatus

inductive JobStatus where
  | pending
  | running
  | completed
  | failed
  deriving DecidableEq, Repr, Inhabited

namespace JobStatus

def all : List JobStatus := [pending, running, completed, failed]

def name : JobStatus → String
  | pending => "pending"
  | running => "running"
  | completed => "completed"
  | failed => "failed"

def ofName (s : String) : Except Failure JobStatus :=
  match all.find? fun x => x.name == s with
  | some x => .ok x
  | none => .error (.validation ("unknown job status: " ++ s))

/-- A service has at most one live job of a kind. -/
def isLive : JobStatus → Bool
  | pending => true
  | running => true
  | _ => false

end JobStatus

/-- What a job builds. -/
inductive JobKind where
  | provisionVps
  deriving DecidableEq, Repr, Inhabited

namespace JobKind

def all : List JobKind := [provisionVps]

def name : JobKind → String
  | provisionVps => "provision_vps"

end JobKind

end HostingBilling
