import HostingBilling.World

/-!
# The task queue

Tasks wait in the task table until they are due. A poll claims the task that is due first; how it went
decides whether the task is done, tried again later, or given up. A task that has been in processing
for more than five minutes is handed out again.
-/

namespace HostingBilling

namespace TaskQueue

/-- Seconds in processing after which a task is taken back. -/
def staleSeconds : Int := 300

def newRow (now : Instant) (id : Uuid) (t : TaskDraft) : TaskRow where
  id
  kind := t.kind.name
  queue := t.queue
  payload := t.payload
  status := .pending
  attempts := 0
  maxAttempts := t.maxAttempts
  lastError := none
  scheduledAt := now
  createdAt := now
  updatedAt := now

def isDue (now : Instant) (queue : QueueName) (r : TaskRow) : Bool :=
  r.status == .pending && r.queue == queue && r.scheduledAt ≤ now

/-- The due task of a queue that was scheduled first, ties by order of insertion. -/
def nextDue (now : Instant) (queue : QueueName) (rows : List TaskRow) : Option TaskRow :=
  (rows.filter (isDue now queue)).foldl
    (fun best r => match best with
      | none => some r
      | some b => if r.scheduledAt < b.scheduledAt then some r else some b) none

/-- Claims the next due task of a queue. The task is given as it was before the claim. -/
def claimRow (now : Instant) (queue : QueueName) (rows : List TaskRow) :
    Option TaskRow × List TaskRow :=
  match nextDue now queue rows with
  | none => (none, rows)
  | some t =>
    (some t, changeRows (fun r => r.id == t.id)
      (fun r => { r with status := .processing, updatedAt := now }) rows)

def completeRow (now : Instant) (id : Uuid) (rows : List TaskRow) : List TaskRow :=
  changeRows (fun r => r.id == id) (fun r => { r with status := .completed, updatedAt := now }) rows

/-- Whether a failure now is the last one that is allowed. -/
def isSpent (r : TaskRow) : Bool := r.maxAttempts ≤ r.attempts + 1

/-- Seconds until the next attempt: two, four, eight and so on; none while the count is below zero. -/
def backoff (attempts : Int) : Nat := if attempts + 1 < 0 then 0 else Nat.pow 2 (attempts + 1).toNat

/-- The failure of an attempt: a retry later, or the end when the attempts are spent. -/
def failedRow (now : Instant) (error : String) (r : TaskRow) : TaskRow :=
  { r with
    attempts := r.attempts + 1
    lastError := some error
    status := if isSpent r then .failed else .pending
    scheduledAt := if isSpent r then r.scheduledAt else now.addSeconds (backoff r.attempts)
    updatedAt := now }

/-- A wait has to fit a signed word of 32 bits. -/
def waitFits (r : TaskRow) : Bool := isSpent r || backoff r.attempts < 0x80000000

def failRow (now : Instant) (id : Uuid) (error : String) (rows : List TaskRow) :
    Except DatabaseFailure (List TaskRow) :=
  if rows.all fun r => r.id != id || waitFits r then
    .ok (changeRows (fun r => r.id == id) (failedRow now error) rows)
  else .error .integerOutOfRange

/-- Gives a task up that can never succeed. -/
def discardRow (now : Instant) (id : Uuid) (error : String) (rows : List TaskRow) : List TaskRow :=
  changeRows (fun r => r.id == id) (fun r => { r with
    attempts := r.attempts + 1
    lastError := some error
    status := .failed
    updatedAt := now }) rows

def isStale (now : Instant) (r : TaskRow) : Bool :=
  r.status == .processing && r.updatedAt < now.addSeconds (-staleSeconds)

/-- Takes stale tasks back, and counts them. -/
def reapRows (now : Instant) (rows : List TaskRow) : Nat × List TaskRow :=
  (rows.countP (isStale now),
    changeRows (isStale now) (fun r => { r with status := .pending, updatedAt := now }) rows)

def onTasks (f : List TaskRow → α × List TaskRow) (s : Store) : α × Store :=
  let (a, rows) := f s.tasks
  (a, { s with tasks := rows })

/-- Adds a task. -/
def insert (t : TaskDraft) : Action Uuid := do
  let id ← Action.freshId
  change .enqueueTask fun now => onTasks fun rows => (id, rows ++ [newRow now id t])

def queueFailure (t : TaskDraft) (text : String) : Failure := .queue (t.kind.name ++ ": " ++ text)

/-- Submits a task to the task table. -/
def enqueue (t : TaskDraft) : Action Uuid := do
  match ← (insert t).attempt with
  | .ok id => return id
  | .error e => throw (queueFailure t e.message)

/-- What becomes of a task once the queue has answered. -/
def receive (durable : Bool) (refusal : Option Failure) (t : TaskDraft) : Action Uuid :=
  match refusal with
  | some e => throw e
  | none => if durable then enqueue t else Action.freshId

/-- Submits a task to the queue of the operation, which may refuse it. -/
def submit (o : Outside) (t : TaskDraft) : Action Uuid := do
  let w ← get
  set { w with offered := w.offered ++ [t] }
  receive o.durable (o.refusal? w.offered.length t) t

theorem submit_run (o : Outside) (t : TaskDraft) (w : World) : (submit o t).run w =
    (receive o.durable (o.refusal? w.offered.length t) t).run { w with offered := w.offered ++ [t] } := rfl

def claim (queue : QueueName) : Action (Option TaskRow) :=
  change .claimTask fun now => onTasks (claimRow now queue)

def complete (id : Uuid) : Action Unit :=
  change .completeTask fun now => onTasks fun rows => ((), completeRow now id rows)

def fail (id : Uuid) (error : String) : Action Unit :=
  execute .failTask fun now s => do
    return ((), { s with tasks := ← failRow now id error s.tasks })

def discard (id : Uuid) (error : String) : Action Unit :=
  change .discardTask fun now => onTasks fun rows => ((), discardRow now id error rows)

def reap : Action Nat := change .reapTasks fun now => onTasks (reapRows now)

/-- Runs a sweep only if no other sweep of that name is running. -/
def withLease (name : String) (skipped : α) (sweep : Action α) : Action α := do
  ask .takeLease fun _ _ => ()
  if (← get).leases.contains name then return skipped
  sweep

end TaskQueue

end HostingBilling
