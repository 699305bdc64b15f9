import HostingBilling.Settings
import HostingBilling.Store
import HostingBilling.Uuid

/-!
# The world of an operation

An operation runs statements on the store and talks to a broker, a webhook and a machine backend. All
it can see or change is a `World`; what the outside answers is given as data in `Outside`.

A statement happens whole or not at all. `transaction` undoes the statements of a body that fails, and
outside a transaction what a failing operation has done so far stays done.
-/

namespace HostingBilling

/-- The statements that operations run on the store. -/
inductive Statement where
  | claimEvent
  | countDelivery
  | finishEvent
  | failEvent
  | lockOrder
  | orderItems
  | moveOrder
  | orderStatus
  | revertOrder
  | insertInvoice
  | initialInvoice
  | insertInvoiceLine
  | insertRenewal
  | paymentByIntent
  | paymentBySession
  | insertPayment
  | updatePayment
  | setPaymentStatus
  | recordRefund
  | recordDispute
  | insertService
  | serviceOfItem
  | startService
  | serviceDetail
  | lockService
  | activateService
  | suspendService
  | terminateService
  | expireService
  | expiredServices
  | expiringServices
  | revertService
  | createJob
  | latestJob
  | startJob
  | failJob
  | abandonJob
  | completeJob
  | insertAudit
  | reminderSent
  | loadSettings
  | announceSettings
  | enqueueTask
  | claimTask
  | completeTask
  | failTask
  | discardTask
  | reapTasks
  | takeLease
  deriving DecidableEq, Repr

/-- A failure waiting for a statement: it strikes after that many more executions have gone through. -/
structure Fault where
  statement : Statement
  after : Nat
  deriving DecidableEq, Repr

/-- A reminder addressed to the webhook of the current settings. -/
structure ReminderTarget where
  url : String
  token : Option String
  timeoutSeconds : Nat
  deriving DecidableEq, Repr

structure Reminder where
  serviceId : Uuid
  userId : Uuid
  daysLeft : Int
  sentAt : Instant
  deriving DecidableEq

/-- What the machine backend is asked to build. -/
structure BuildRequest where
  serviceId : Uuid
  planId : Uuid
  userId : Uuid
  deriving DecidableEq

structure Machine where
  hostname : String
  address : String
  deriving DecidableEq, Repr

structure World where
  store : Store
  /-- The clock, for the program and the database alike. -/
  now : Instant
  /-- Generated identifiers count up from here. -/
  nextId : Nat
  faults : List Fault
  /-- The scans that someone else is running. -/
  leases : List String
  defaults : SettingsFallback
  /-- The snapshot that operations read. -/
  settings : Settings
  /-- The tasks offered to the queue so far. -/
  offered : List TaskDraft
  /-- The reminders handed to the webhook so far. -/
  notices : List (ReminderTarget × Reminder)

/-- A world at its start: the settings are the defaults, and new rows are numbered from `nextId` on. -/
def World.start (store : Store) (now : Instant) (nextId : Nat) (defaults : SettingsFallback) :
    World where
  store
  now
  nextId
  faults := []
  leases := []
  defaults
  settings := Settings.choose [] defaults
  offered := []
  notices := []

/-- The answers of what lies outside. Submissions and reminders are counted from zero. -/
structure Outside where
  /-- Whether accepted tasks become rows of the task table. -/
  durable : Bool
  refuses : Nat → Bool
  /-- What a submission that is refused fails with. Where nothing else is said the broker cannot be reached. -/
  refusal : Nat → TaskDraft → Failure := fun _ t => .queue (t.kind.name ++ ": broker unreachable")
  deliver : Nat → ReminderTarget → Reminder → Except Failure Unit
  provision : BuildRequest → Except Failure Machine

/-- What the queue answers to a submission; nothing if it accepts the task. -/
def Outside.refusal? (o : Outside) (n : Nat) (t : TaskDraft) : Option Failure :=
  if o.refuses n then some (o.refusal n t) else none

/-- A computation on the world. When it fails, the world it leaves is the one it got to. -/
abbrev Action := ExceptT Failure (StateM World)

namespace Action

def run (a : Action α) (w : World) : Except Failure α × World := a w

/-- Passes a failure on as a value. -/
def attempt (a : Action α) : Action (Except Failure α) := fun w =>
  let (r, w) := a.run w
  (.ok r, w)

/-- Gives the failure, or what was computed, to the operation. -/
def ofExcept : Except Failure α → Action α
  | .ok a => pure a
  | .error e => throw e

def now : Action Instant := do return (← get).now

/-- An identifier larger than every one generated before it. -/
def freshId : Action Uuid := do
  let w ← get
  set { w with nextId := w.nextId + 1 }
  return Uuid.ofNat w.nextId

end Action

/-- Counts one execution of a statement against the faults, and tells whether it fails. -/
def strike (s : Statement) : List Fault → Bool × List Fault
  | [] => (false, [])
  | f :: rest =>
    if f.statement = s then
      match f.after with
      | 0 => (true, rest)
      | n + 1 => let (hit, rest) := strike s rest; (hit, ⟨s, n⟩ :: rest)
    else let (hit, rest) := strike s rest; (hit, f :: rest)

/-- Runs one statement, which answers and changes the store or is refused. -/
def execute (s : Statement) (f : Instant → Store → Except DatabaseFailure (α × Store)) : Action α :=
  fun w =>
    let (hit, faults) := strike s w.faults
    let w := { w with faults := faults }
    if hit then (.error (.database .injected), w)
    else match f w.now w.store with
      | .ok (a, store) => (.ok a, { w with store := store })
      | .error e => (.error (.database e), w)

/-- A statement that only reads. -/
def ask (s : Statement) (f : Instant → Store → α) : Action α :=
  execute s fun now store => .ok (f now store, store)

/-- A statement that is never refused. -/
def change (s : Statement) (f : Instant → Store → α × Store) : Action α :=
  execute s fun now store => .ok (f now store)

/-- Runs a body whose statements count only if all of it goes through. -/
def transaction (body : Action α) : Action α := fun w =>
  match body.run w with
  | (.ok a, w') => (.ok a, w')
  | (.error e, w') => (.error e, { w' with store := w.store })

end HostingBilling
