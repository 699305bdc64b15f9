import HostingBilling.World

/-!
# Jobs in the store

At most one job of a kind is live for a service. Creating one beside a live job does nothing; starting
an old job again beside a live one is refused.
-/

namespace HostingBilling

/-- A job that was created in a committed transaction and is still to be submitted. -/
structure CommittedJob where
  jobId : Uuid
  serviceId : Uuid
  orderId : Uuid
  planId : Uuid
  userId : Uuid
  deriving DecidableEq

namespace Store

def job? (s : Store) (id : Uuid) : Option JobRow := s.jobs.find? fun r => r.id == id

/-- Whether a job is a live one of a service. -/
def isLiveJob (serviceId : Uuid) (kind : String) (r : JobRow) : Bool :=
  r.serviceId == serviceId && r.kind == kind && r.status.isLive

/-- Adds a pending job to a service that has no live one of the kind. -/
def createJob (now : Instant) (id serviceId : Uuid) (kind : JobKind) (s : Store) :
    Option Uuid × Store :=
  if s.jobs.any (isLiveJob serviceId kind.name) then (none, s)
  else
    (some id, { s with jobs := s.jobs ++ [{
      id
      serviceId
      kind := kind.name
      status := .pending
      attempts := 0
      maxAttempts := 5
      lastError := none
      startedAt := none
      completedAt := none
      createdAt := now
      updatedAt := now }] })

/-- Whether a job was created after another one, ties by identifier. -/
def isLater (a b : JobRow) : Bool :=
  b.createdAt < a.createdAt || (a.createdAt == b.createdAt && b.id < a.id)

/-- The job of a service created last. -/
def latestJob (s : Store) (serviceId : Uuid) (kind : JobKind) : Option JobRow :=
  (s.jobs.filter fun r => r.serviceId == serviceId && r.kind == kind.name).foldl
    (fun best r => match best with
      | none => some r
      | some b => if isLater r b then some r else some b) none

def changeJobs (selects : JobRow → Bool) (f : JobRow → JobRow) (s : Store) : Bool × Store :=
  (s.jobs.any selects, { s with jobs := changeRows selects f s.jobs })

/-- Whether a service has a live job of the kind of this one, beside it. -/
def hasOtherLive (s : Store) (r : JobRow) : Bool :=
  s.jobs.any fun o => o.id != r.id && isLiveJob r.serviceId r.kind o

/-- Starts an attempt. -/
def startJob (now : Instant) (id : Uuid) (s : Store) : Except DatabaseFailure (Unit × Store) :=
  if (s.job? id).any s.hasOtherLive then .error (.duplicateKey "uq_provisioning_jobs_live")
  else .ok ((), (s.changeJobs (fun r => r.id == id) fun r => { r with
    status := .running
    attempts := r.attempts + 1
    startedAt := some now
    lastError := none
    updatedAt := now }).2)

def failed (now : Instant) (error : String) (r : JobRow) : JobRow :=
  { r with status := .failed, lastError := some error, completedAt := some now, updatedAt := now }

def failJob (now : Instant) (id : Uuid) (error : String) (s : Store) : Bool × Store :=
  s.changeJobs (fun r => r.id == id) (failed now error)

/-- Fails a job only if it is still live. -/
def abandonJob (now : Instant) (id : Uuid) (error : String) (s : Store) : Bool × Store :=
  s.changeJobs (fun r => r.id == id && r.status.isLive) (failed now error)

def completeJob (now : Instant) (id : Uuid) (s : Store) : Bool × Store :=
  s.changeJobs (fun r => r.id == id) fun r => { r with
    status := .completed
    lastError := none
    completedAt := some now
    updatedAt := now }

end Store

namespace Jobs

/-- Creates a pending job, or nothing beside a live one. -/
def create (serviceId : Uuid) (kind : JobKind) : Action (Option Uuid) := do
  let id ← Action.freshId
  change .createJob fun now s => s.createJob now id serviceId kind

def latest (serviceId : Uuid) (kind : JobKind) : Action (Option JobRow) :=
  ask .latestJob fun _ s => s.latestJob serviceId kind

def start (id : Uuid) : Action Unit := execute .startJob fun now s => s.startJob now id

def fail (id : Uuid) (error : String) : Action Unit :=
  change .failJob fun now s => ((), (s.failJob now id error).2)

def abandon (id : Uuid) (error : String) : Action Bool :=
  change .abandonJob fun now s => s.abandonJob now id error

def complete (id : Uuid) : Action Unit :=
  change .completeJob fun now s => ((), (s.completeJob now id).2)

end Jobs

end HostingBilling
