import HostingBilling.Failure
import HostingBilling.Uuid

/-!
# Background tasks

The kinds of work, the three queues and their shares of the polls, and the order in which a poll looks
at the queues.
-/

namespace HostingBilling

inductive TaskKind where
  | provisionVps
  | suspendVps
  | terminateVps
  | renewalReminder
  | generateInvoice
  | expireService
  deriving DecidableEq, Repr, Inhabited

namespace TaskKind

def all : List TaskKind :=
  [provisionVps, suspendVps, terminateVps, renewalReminder, generateInvoice, expireService]

def name : TaskKind → String
  | provisionVps => "vps:provision"
  | suspendVps => "vps:suspend"
  | terminateVps => "vps:terminate"
  | renewalReminder => "billing:renewal_reminder"
  | generateInvoice => "billing:generate_invoice"
  | expireService => "service:expire"

def ofName (s : String) : Except Failure TaskKind :=
  match all.find? fun x => x.name == s with
  | some x => .ok x
  | none => .error (.validation ("unknown task type: " ++ s))

end TaskKind

inductive QueueName where
  | critical
  | default
  | low
  deriving DecidableEq, Repr

namespace QueueName

instance : Inhabited QueueName := ⟨.default⟩

/-- In order of priority. -/
def all : List QueueName := [critical, default, low]

def name : QueueName → String
  | critical => "critical"
  | default => "default"
  | low => "low"

def ofName (s : String) : Except Failure QueueName :=
  match all.find? fun x => x.name == s with
  | some x => .ok x
  | none => .error (.validation ("unknown queue: " ++ s))

/-- The share of the polls that prefer the queue. -/
def share : QueueName → Nat
  | critical => 6
  | default => 3
  | low => 1

def totalShare : Nat := all.foldl (fun n q => n + q.share) 0

/-- The queue into whose share a slot falls. -/
def ofSlot (slot : Nat) : List QueueName → QueueName
  | [] => critical
  | q :: rest => if slot < q.share then q else ofSlot (slot - q.share) rest

/-- The queue that a tick prefers. -/
def preferred (tick : Nat) : QueueName := ofSlot (tick % totalShare) all

/-- The queues in the order a poll looks at them: the preferred one, then the others by priority, so
that an idle queue never holds up another. -/
def visits (tick : Nat) : List QueueName :=
  preferred tick :: all.filter (· != preferred tick)

/-- The tick after this one. Ticks are counted in a word of 64 bits. -/
def nextTick (tick : Nat) : Nat := (tick + 1) % 0x10000000000000000

end QueueName

/-- A task ready to be submitted. -/
structure TaskDraft where
  kind : TaskKind
  queue : QueueName
  payload : Json
  maxAttempts : Int

namespace TaskDraft

/-- A task that sweeps over all services. -/
def scan (kind : TaskKind) : TaskDraft := ⟨kind, .default, .object [], 3⟩

end TaskDraft

end HostingBilling
