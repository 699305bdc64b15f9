import HostingBilling.Lifecycle
import HostingBilling.Provisioning
import HostingBilling.Renewal

/-!
# Workers

A poll claims at most one due task, runs its handler and records how that went. A worker polls again at
once while there is work, each poll one tick on.
-/

namespace HostingBilling

namespace Worker

/-- Runs the handler of a task. -/
def handle (o : Outside) (kind : TaskKind) (payload : Json) : Action Unit := do
  match ← Action.ofExcept (Payload.decode kind payload) with
  | .provision p => let _ ← Provisioning.provision o p
  | .suspend p => Lifecycle.suspend p
  | .terminate p => Lifecycle.terminate p
  | .expire p => let _ ← Lifecycle.expire p
  | .reminder p => let _ ← Renewal.remind o p
  | .invoice p => let _ ← Renewal.invoice p

/-- Records on its row how a task went. -/
def record (id : Uuid) : Except Failure Unit → Action Unit
  | .ok () => TaskQueue.complete id
  | .error e =>
    if e.isPermanent then TaskQueue.discard id e.message else TaskQueue.fail id e.message

/-- Runs a claimed task. -/
def run (o : Outside) (t : TaskRow) : Action Unit := do
  let result ← (do handle o (← Action.ofExcept (TaskKind.ofName t.kind)) t.payload).attempt
  record t.id result

/-- Looks at the queues in turn and runs the first task that can be claimed. -/
def pollQueues (o : Outside) : List QueueName → Action Bool
  | [] => return false
  | q :: rest => do
    match ← transaction (TaskQueue.claim q) with
    | some t =>
      run o t
      return true
    | none => pollQueues o rest

/-- Runs at most one task, and tells whether it did. -/
def poll (o : Outside) (tick : Nat) : Action Bool := pollQueues o (QueueName.visits tick)

def dueTasks (w : World) : List TaskRow :=
  w.store.tasks.filter fun r => r.status == .pending && r.scheduledAt ≤ w.now

/-- The most polls that the due tasks take: one each, and one more for every attempt that is still
below zero, since its retry does not wait. -/
def pollsDue (w : World) : Nat := (dueTasks w).foldl (fun n r => n + 1 + (-r.attempts).toNat) 0

/-- One poll by the first worker in the row, who then goes to its end. A poll that fails is only
logged. -/
def turn (o : Outside) (ticks : List Nat) (w : World) : List Nat × World :=
  match ticks with
  | [] => ([], w)
  | tick :: rest => (rest ++ [QueueName.nextTick tick], ((poll o tick).run w).2)

/-- Workers take turns until no task is due. -/
def takeTurns (o : Outside) : Nat → List Nat → World → World
  | 0, _, w => w
  | fuel + 1, ticks, w =>
    if (dueTasks w).isEmpty then w
    else
      let (ticks, w) := turn o ticks w
      takeTurns o fuel ticks w

/-- The ticks at which the workers of a pool start. There is at least one worker. -/
def firstTicks (concurrency : Nat) : List Nat := List.range (max concurrency 1)

/-- A pool works until no task is due. Every poll either claims a due task or is one that a fault cuts
short, so their number is bounded. -/
def drain (o : Outside) (concurrency : Nat) (w : World) : World :=
  takeTurns o (pollsDue w + w.faults.length) (firstTicks concurrency) w

/-- The reaper: an error is only logged. -/
def reap (w : World) : World := (TaskQueue.reap.run w).2

/-- Seconds between two runs of the reaper. -/
def reapSeconds : Nat := 60

end Worker

end HostingBilling
