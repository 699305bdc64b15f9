import HostingBilling.Proofs.Constraints
import HostingBilling.Proofs.Footprints
import HostingBilling.Proofs.Tasks.Polls
import Mathlib.Algebra.Group.Nat.Defs

/-!
# Retries

The handler of a task runs, and its outcome is counted on the row. After a failure that a retry may mend the
task waits, each time twice as long as before, until its attempts are spent.

What happens to a task is told by the runs of its handler alone: polls for other tasks, sweeps of the reaper,
new tasks, the clock and statements that fail in between leave its row as it is. Main statement: the handler
runs no more often than the task allows, the last run decides where the task stands, and nothing happens to a
task that is completed or failed.
-/

namespace HostingBilling

/-- A submission is refused by a fault, or adds a row. -/
theorem TaskQueue.enqueue_cases (t : TaskDraft) (w : World) : (enqueue t).run w =
    if (strike .enqueueTask w.faults).1 then
      (.error (queueFailure t (Failure.database .injected).message),
        { w with nextId := w.nextId + 1, faults := (strike .enqueueTask w.faults).2 })
    else (.ok (.ofNat w.nextId), { w with
      nextId := w.nextId + 1
      faults := (strike .enqueueTask w.faults).2
      store := { w.store with tasks := w.store.tasks ++ [newRow w.now (.ofNat w.nextId) t] } }) := by
  simp only [enqueue, insert, Action.run_bind, Action.run_attempt, Action.run_freshId, change]
  cases struck : (strike .enqueueTask w.faults).1 with
  | true =>
    rw [Action.run_execute_struck (by exact struck)]
    rfl
  | false =>
    rw [Action.run_execute_unstruck (by exact struck)]
    rfl

namespace Worker

/-! ## The course of events -/

/-- What may happen at the task queue. -/
inductive Event where
  | poll (o : Outside) (tick : Nat)
  | reap
  | enqueue (t : TaskDraft)
  | wait (now : Instant)
  /-- Faults that wait for statements from now on. -/
  | outage (faults : List Fault)

/-- One run of a handler. -/
structure HandlerRun where
  now : Instant
  result : Except Failure Unit

namespace Event

def run : Event → World → World
  | poll o tick, w => ((Worker.poll o tick).run w).2
  | reap, w => Worker.reap w
  | enqueue t, w => ((TaskQueue.enqueue t).run w).2
  | wait now, w => { w with now := now }
  | outage faults, w => { w with faults := faults }

/-- The outcome of a handler can always be recorded. -/
def Allowed : Event → Prop
  | outage faults => ∀ s ∈ verdicts, ∀ f ∈ faults, f.statement ≠ s
  | _ => True

/-- The run of the handler of a task, if the event is a poll that claims it. -/
def handlerRun (id : Uuid) (w : World) : Event → Option HandlerRun
  | poll o tick => match (claimFirst (QueueName.visits tick)).run w with
    | (.ok (some t), w') => if t.id = id then some ⟨w.now, ((work o t).run w').1⟩ else none
    | _ => none
  | _ => none

end Event

def runEvents (events : List Event) (w : World) : World := events.foldl (fun w e => e.run w) w

/-- The runs of the handler of a task, in order. -/
def handlerRuns (id : Uuid) : List Event → World → List HandlerRun
  | [], _ => []
  | e :: rest, w => (e.handlerRun id w).toList ++ handlerRuns id rest (e.run w)

variable {w w' : World} {r inserted : TaskRow} {runs : List HandlerRun} {m : Nat}

/-- Identifiers are only used up. -/
theorem Event.nextId_le (e : Event) (w : World) : w.nextId ≤ (e.run w).nextId := by
  cases e with
  | poll o tick => exact (pollQueues_serves Store.Serves.all o _ w).nextId
  | reap => exact (Chain.all.change .reapTasks (fun _ _ => trivial) w).nextId
  | enqueue t => exact (TaskQueue.enqueue_keeps Chain.all (fun _ _ => trivial) t w).nextId
  | wait _ | outage _ => exact Nat.le_refl _

theorem runEvents_nextId (events : List Event) (w : World) : w.nextId ≤ (runEvents events w).nextId := by
  induction events generalizing w with
  | nil => exact Nat.le_refl _
  | cons e rest ih => exact Nat.le_trans (e.nextId_le w) (ih _)

/-- A handler leaves the task table as it is. -/
theorem work_keeps (o : Outside) (t : TaskRow) : (work o t).Keeps fun a b => b.tasks = a.tasks :=
  Store.sameTasks.bind (Store.sameTasks.ofExcept _) fun kind => handle_keeps Store.sameTasks o kind t.payload

/-! ## The row of a task -/

/-- The row is the only one of its task, new tasks get other identifiers, and outcomes can be recorded. -/
structure Holds (w : World) (r : TaskRow) : Prop where
  row : r ∈ w.store.tasks
  only : ∀ x ∈ w.store.tasks, x.id = r.id → x = r
  below : r.id.val < w.nextId
  records : Records w

namespace Holds

/-- A change of rows makes of the row what it makes of it. -/
theorem changed (h : Holds w r) {selects : TaskRow → Bool} (change : TaskRow → TaskRow)
    (same : ∀ x, (change x).id = x.id) (tasks : w'.store.tasks = changeRows selects change w.store.tasks)
    (more : w.nextId ≤ w'.nextId) (records : Records w') :
    Holds w' (if selects r then change r else r) := by
  have keeps (x : TaskRow) : (if selects x then change x else x).id = x.id := by
    split
    · exact same x
    · rfl
  constructor
  · rw [tasks]
    exact mem_changeRows.mpr ⟨r, h.row, rfl⟩
  · rw [tasks]
    intro x hx is
    obtain ⟨y, hy, rfl⟩ := mem_changeRows.mp hx
    rw [keeps, keeps] at is
    rw [h.only y hy is]
  · rw [keeps]
    exact Nat.lt_of_lt_of_le h.below more
  · exact records

theorem same (h : Holds w r) (tasks : w'.store.tasks = w.store.tasks) (more : w.nextId ≤ w'.nextId)
    (records : Records w') : Holds w' r :=
  ⟨tasks ▸ h.row, tasks ▸ h.only, Nat.lt_of_lt_of_le h.below more, records⟩

theorem reap (h : Holds w r) (idle : r.status ≠ .processing) : Holds (Worker.reap w) r := by
  have counts : Follows (fun _ _ => True) w (Worker.reap w) :=
    Chain.all.change .reapTasks (fun _ _ => trivial) w
  have records : Records (Worker.reap w) := fun s hs => counts.spares s (h.records s hs)
  rcases Action.store_change .reapTasks (fun now => TaskQueue.onTasks (TaskQueue.reapRows now)) w with
    struck | swept
  · exact h.same (congrArg Store.tasks struck) counts.nextId records
  · have fresh : TaskQueue.isStale w.now r = false := by simp [TaskQueue.isStale, idle]
    have reaped := h.changed (fun r => { r with status := .pending, updatedAt := w.now }) (fun _ => rfl)
      (congrArg Store.tasks swept) counts.nextId records
    rwa [if_neg (by simp [fresh])] at reaped

theorem enqueue (h : Holds w r) (room : w.nextId < Uuid.limit) (t : TaskDraft) :
    Holds ((TaskQueue.enqueue t).run w).2 r := by
  rw [TaskQueue.enqueue_cases]
  have records (s : Statement) (hs : s ∈ verdicts) :
      ∀ f ∈ (strike .enqueueTask w.faults).2, f.statement ≠ s := strike_spares _ (h.records s hs)
  split
  · exact h.same rfl (Nat.le_succ _) records
  · constructor
    · exact List.mem_append_left _ h.row
    · intro x hx is
      rcases List.mem_append.mp hx with old | new
      · exact h.only x old is
      · obtain rfl := List.mem_singleton.mp new
        exact absurd is.symm (Uuid.ne_ofNat h.below room)
    · exact Nat.lt_succ_of_lt h.below
    · exact records

/-- A task that has been claimed is worked on, and the outcome is put on its row and on no other. -/
theorem ran (h : Holds w r) (o : Outside) {t : TaskRow} (ht : t ∈ w.store.tasks) :
    if t.id = r.id then t = r ∧ (TaskQueue.waitFits r = true → Holds ((run o t).run (claimed w t)).2
        (judged w.now ((work o t).run (claimed w t)).1 r))
      else Holds ((run o t).run (claimed w t)).2 r := by
  have worked := work_keeps o t (claimed w t)
  have claiming : (claimed w t).store.tasks =
      changeRows (·.id == t.id) (TaskQueue.inProcessing w.now) w.store.tasks := rfl
  have claims := h.changed (TaskQueue.inProcessing w.now) (fun _ => rfl) claiming (Nat.le_refl _) h.records
  have leaves := claims.same worked.store worked.nextId fun s hs => worked.spares s (h.records s hs)
  obtain ⟨change, same, recorded, as⟩ := record_run leaves.records t.id ((work o t).run (claimed w t)).1
  have ends := leaves.changed change (fun x => (same x).1) (congrArg (fun w : World => w.store.tasks) recorded)
    (Nat.le_of_eq (congrArg World.nextId recorded).symm)
    (fun s hs => by rw [recorded]; exact leaves.records s hs)
  rw [← run_run] at ends
  by_cases is : t.id = r.id
  · obtain rfl := h.only t ht is
    rw [if_pos rfl]
    refine ⟨rfl, fun fits => ?_⟩
    have clock : ((work o t).run (claimed w t)).2.now = w.now := worked.now
    -- the claim and the handler leave the attempts alone, so the wait is still in range
    have all : ∀ x ∈ ((work o t).run (claimed w t)).2.store.tasks, x.id = t.id →
        TaskQueue.waitFits x = true := by
      intro x hx same
      rw [leaves.only x hx (by simpa using same), if_pos (beq_self_eq_true _)]
      exact fits
    rw [as all, clock] at ends
    simpa [judged_inProcessing] using ends
  · have other : (r.id == t.id) = false := by simpa using fun same => is same.symm
    rw [if_neg is]
    simpa [other] using ends

/-- A poll claims the task only when it is due, and then runs its handler. -/
theorem poll (h : Holds w r) (o : Outside) (tick : Nat) : match (Event.poll o tick).handlerRun r.id w with
    | none => Holds ((Event.poll o tick).run w) r
    | some a => r.status = .pending ∧ r.scheduledAt ≤ w.now ∧ a.now = w.now ∧
      (TaskQueue.waitFits r = true → Holds ((Event.poll o tick).run w) (judged a.now a.result r)) := by
  have polled : (Event.poll o tick).run w = _ := pollQueues_claims o (QueueName.visits tick) w
  have struck (faults : List Fault)
      (spares : ∀ s, w.Spares s → ({ w with faults := faults } : World).Spares s) :
      Holds { w with faults := faults } r :=
    h.same rfl (Nat.le_refl _) fun s hs => spares s (h.records s hs)
  obtain ⟨faults, spares, ⟨t, ht, pending, due, claims⟩ | ⟨none, left⟩⟩ :=
    claimFirst_run (QueueName.visits tick) w
  · have ran := (struck faults spares).ran o ht
    rw [polled]
    simp only [Event.handlerRun, claims]
    by_cases is : t.id = r.id
    · rw [if_pos is] at ran ⊢
      obtain ⟨rfl, holds⟩ := ran
      exact ⟨pending, due, rfl, holds⟩
    · rw [if_neg is] at ran ⊢
      exact ran
  · rw [polled]
    -- a fault and an empty queue leave the same world
    rcases claims : (claimFirst (QueueName.visits tick)).run w with ⟨e | none | t, w'⟩ <;>
      rw [claims] at none left <;> obtain rfl : w' = _ := left
    · simpa only [Event.handlerRun, claims] using struck faults spares
    · simpa only [Event.handlerRun, claims] using struck faults spares
    · exact absurd rfl (none t)

/-- One event leaves the row alone, or is a poll that runs the handler of its task and puts the outcome on
it. -/
theorem step (h : Holds w r) (room : w.nextId < Uuid.limit) (idle : r.status ≠ .processing) {e : Event}
    (allowed : e.Allowed) : match e.handlerRun r.id w with
    | none => Holds (e.run w) r
    | some a => r.status = .pending ∧ r.scheduledAt ≤ w.now ∧ a.now = w.now ∧
      (TaskQueue.waitFits r = true → Holds (e.run w) (judged a.now a.result r)) := by
  cases e with
  | poll o tick => exact h.poll o tick
  | reap => exact h.reap idle
  | enqueue t => exact h.enqueue room t
  | wait now => exact h.same rfl (Nat.le_refl _) h.records
  | outage faults => exact h.same rfl (Nat.le_refl _) allowed

end Holds

/-! ## What the runs make of a row -/

/-- The runs of a handler, each of them while the task is pending and due, and the row that they make of
the one that was inserted. -/
inductive Course (inserted : TaskRow) : List HandlerRun → TaskRow → Prop
  | begin : Course inserted [] inserted
  | next {runs : List HandlerRun} {r : TaskRow} {a : HandlerRun} (course : Course inserted runs r)
      (pending : r.status = .pending) (due : r.scheduledAt ≤ a.now) :
      Course inserted (runs ++ [a]) (judged a.now a.result r)

theorem judged_kept (now : Instant) (result : Except Failure Unit) (r : TaskRow) :
    (judged now result r).id = r.id ∧ (judged now result r).maxAttempts = r.maxAttempts := by
  cases result with
  | ok _ => exact ⟨rfl, rfl⟩
  | error e => cases permanent : e.isPermanent <;> simp [judged, permanent, TaskQueue.failedRow]

/-- Where the last of `k` runs leaves a task that allows `m` of them. -/
def Outcome (m k : Nat) (a : HandlerRun) (r : TaskRow) : Prop :=
  match a.result with
  | .ok () => r.status = .completed
  | .error e =>
    if e.isPermanent = true ∨ k = m then r.status = .failed
    else r.status = .pending ∧ r.attempts = k ∧ r.scheduledAt = a.now.addSeconds (2 ^ k : Nat)

/-- A task that has been inserted: it is pending, and none of its attempts is used. -/
structure IsNew (m : Nat) (r : TaskRow) : Prop where
  pending : r.status = .pending
  unused : r.attempts = 0
  allows : r.maxAttempts = m
  least : 1 ≤ m

theorem isSpent_iff {k : Nat} (allows : r.maxAttempts = m) (used : r.attempts = k) :
    TaskQueue.isSpent r = true ↔ m ≤ k + 1 := by
  simp only [TaskQueue.isSpent, allows, used, decide_eq_true_eq]
  omega

theorem backoff_natCast (k : Nat) : TaskQueue.backoff k = 2 ^ (k + 1) := by
  have count : ((k : Int) + 1).toNat = k + 1 := by omega
  rw [TaskQueue.backoff, if_neg (by omega), count]
  rfl

/-- The wait for a retry is in range while fewer than 31 attempts are used. -/
theorem waitFits_of_used {k : Nat} (allows : r.maxAttempts = m) (used : r.attempts = k) (most : m ≤ 31) :
    TaskQueue.waitFits r = true := by
  rw [TaskQueue.waitFits, Bool.or_eq_true, isSpent_iff allows used, used, backoff_natCast]
  by_cases spent : m ≤ k + 1
  · exact .inl spent
  · have : 2 ^ (k + 1) ≤ 2 ^ 30 := Nat.pow_le_pow_right (by omega) (by omega)
    exact .inr (decide_eq_true (by omega))

namespace Outcome

variable {k : Nat} {a : HandlerRun}

theorem of_judged (allows : r.maxAttempts = m) (used : r.attempts = k) (more : k < m) (a : HandlerRun) :
    Outcome m (k + 1) a (judged a.now a.result r) := by
  obtain ⟨now, _ | _⟩ := a
  · next e =>
    cases permanent : e.isPermanent with
    | true => simp [Outcome, judged, permanent]
    | false =>
      simp only [Outcome, judged_retry permanent, TaskQueue.failedRow, permanent, Bool.false_eq_true,
        false_or, isSpent_iff allows used, used, backoff_natCast]
      by_cases last : k + 1 = m
      · rw [if_pos last, if_pos (by omega)]
      · rw [if_neg last, if_neg (by omega), if_neg (by omega)]
        exact ⟨rfl, by omega, rfl⟩
  · rfl

theorem settled (h : Outcome m k a r) : r.status ≠ .processing := by
  unfold Outcome at h
  split at h
  · simp [h]
  · split at h
    · simp [h]
    · simp [h.1]

/-- A task that is still pending has attempts left. -/
theorem attemptsLeft (h : Outcome m k a r) (pending : r.status = .pending) : r.attempts = k ∧ k ≠ m := by
  unfold Outcome at h
  split at h
  · simp [h] at pending
  · split at h
    · simp [h] at pending
    · next going => exact ⟨h.2.1, fun same => going (.inr same)⟩

end Outcome

namespace Course

/-- A task that is pending has used one attempt for each run of its handler, and has another one left. -/
theorem budget (course : Course inserted runs r) (new : IsNew m inserted) :
    r.maxAttempts = m ∧ runs.length ≤ m ∧
      (r.status = .pending → r.attempts = runs.length ∧ runs.length < m) := by
  induction course with
  | begin => exact ⟨new.allows, Nat.zero_le _, fun _ => ⟨new.unused, new.least⟩⟩
  | @next runs r a _ pending _ ih =>
    obtain ⟨allows, -, left⟩ := ih
    obtain ⟨used, more⟩ := left pending
    rw [List.length_append, List.length_singleton]
    refine ⟨(judged_kept _ _ r).2.trans allows, more, fun again => ?_⟩
    obtain ⟨counted, other⟩ := (Outcome.of_judged allows used more a).attemptsLeft again
    exact ⟨counted, by omega⟩

/-- The last run decides where the task stands. -/
theorem outcome (course : Course inserted runs r) (new : IsNew m inserted) {a : HandlerRun}
    (last : runs.getLast? = some a) : Outcome m runs.length a r := by
  cases course with
  | begin => cases last
  | @next runs r b course pending _ =>
    obtain ⟨allows, -, left⟩ := course.budget new
    obtain ⟨used, more⟩ := left pending
    rw [List.getLast?_concat] at last
    obtain rfl : b = a := Option.some.inj last
    rw [List.length_append, List.length_singleton]
    exact .of_judged allows used more b

theorem settled (course : Course inserted runs r) (new : IsNew m inserted) : r.status ≠ .processing := by
  cases course with
  | begin => simp [new.pending]
  | next course pending due =>
    exact ((course.next pending due).outcome new (List.getLast?_concat ..)).settled

theorem id (course : Course inserted runs r) : r.id = inserted.id := by
  induction course with
  | begin => rfl
  | next _ _ _ ih => exact (judged_kept _ _ _).1.trans ih

/-- The runs determine the row. -/
theorem unique {r' : TaskRow} (course : Course inserted runs r) (other : Course inserted runs r') : r' = r := by
  induction course generalizing r' with
  | begin =>
    -- the runs are an index of `other`, so they are named before it is taken apart
    generalize is : ([] : List HandlerRun) = none at other
    cases other with
    | begin => rfl
    | next => simp at is
  | @next runs _ a _ _ _ ih =>
    generalize is : runs ++ [a] = all at other
    cases other with
    | begin => simp at is
    | next before _ _ =>
      obtain ⟨rfl, rfl⟩ := List.append_singleton_inj.mp is
      rw [ih before]

/-- Before each run the task was pending. -/
theorem pending_before {a : HandlerRun} {later : List HandlerRun}
    (course : Course inserted (runs ++ a :: later) r) : ∃ r', Course inserted runs r' ∧ r'.status = .pending := by
  generalize is : runs ++ a :: later = all at course
  induction course generalizing later with
  | begin => simp at is
  | @next before r' _ course pending _ ih =>
    rcases List.eq_nil_or_concat' later with rfl | ⟨later, b, rfl⟩
    · obtain ⟨rfl, -⟩ := List.append_singleton_inj.mp is
      exact ⟨r', course, pending⟩
    · rw [← List.cons_append, ← List.append_assoc] at is
      exact ih (List.append_singleton_inj.mp is).1

/-- Nothing runs after a task has been finished. -/
theorem finished {later : List HandlerRun} {r' : TaskRow} (course : Course inserted runs r)
    (finished : r.status.isFinished = true) (more : Course inserted (runs ++ later) r') :
    later = [] ∧ r' = r := by
  cases later with
  | nil => exact ⟨rfl, course.unique (by simpa using more)⟩
  | cons a rest =>
    obtain ⟨x, before, pending⟩ := more.pending_before
    rw [course.unique before] at pending
    simp [pending, TaskStatus.isFinished] at finished

end Course

/-! ## Runs of events -/

/-- What the events make of the row of a task is what the runs of its handler make of it. -/
theorem Course.run {events : List Event} (course : Course inserted runs r) (new : IsNew m inserted)
    (most : m ≤ 31) (h : Holds w r) (allowed : ∀ e ∈ events, e.Allowed)
    (room : (runEvents events w).nextId < Uuid.limit) :
    ∃ r', Course inserted (runs ++ handlerRuns r.id events w) r' ∧ Holds (runEvents events w) r' := by
  induction events generalizing w r runs with
  | nil => exact ⟨r, by simpa [handlerRuns] using course, h⟩
  | cons e rest ih =>
    obtain ⟨here, later⟩ := List.forall_mem_cons.mp allowed
    obtain ⟨allows, -, left⟩ := course.budget new
    have step := h.step (Nat.lt_of_le_of_lt (runEvents_nextId _ _) room) (course.settled new) here
    rw [handlerRuns]
    cases ran : e.handlerRun r.id w with
    | none =>
      rw [ran] at step
      exact ih course step later room
    | some a =>
      rw [ran] at step
      obtain ⟨pending, due, now, holds⟩ := step
      have fits := waitFits_of_used allows (left pending).1 most
      have next := course.next pending (now ▸ due)
      obtain ⟨r', course', holds'⟩ := ih next (holds fits) later room
      rw [(judged_kept _ _ _).1, List.append_assoc] at course'
      exact ⟨r', course', holds'⟩

/-- A new task is held. -/
theorem holds_inserted {w₀ : World} {t : TaskDraft} {id : Uuid} (records : Records w)
    (numbered : ∀ r ∈ w.store.tasks, r.id.val < w.nextId)
    (accepted : (TaskQueue.enqueue t).run w = (.ok id, w₀)) (room : w₀.nextId < Uuid.limit) :
    Holds w₀ (TaskQueue.newRow w.now id t) := by
  rw [TaskQueue.enqueue_cases] at accepted
  split at accepted
  · cases accepted
  · cases accepted
    have below : w.nextId < Uuid.limit := Nat.lt_of_succ_lt room
    constructor
    · exact List.mem_append_right _ (List.mem_singleton_self _)
    · intro x hx is
      rcases List.mem_append.mp hx with old | new
      · exact absurd is (Uuid.ne_ofNat (numbered x old) below)
      · exact List.mem_singleton.mp new
    · exact (Uuid.val_ofNat below).symm ▸ Nat.lt_succ_self _
    · exact fun s hs => strike_spares _ (records s hs)

/-- **The retry budget.** Let a task that allows between 1 and 31 attempts be inserted, and then anything
happen at the queue. Its handler has run no more often than that. The row is as it was inserted until the first
run, and then as the last run left it: completed after a success, failed after a permanent failure or the last
attempt that is allowed, and else pending, with the number of runs as its attempts and a wait of two to the
number of runs in seconds. A claim takes it only while it is pending and only after that wait. Once it is
completed or failed, nothing changes it and its handler never runs again. -/
theorem retry_budget {w₀ : World} {t : TaskDraft} {id : Uuid} (allows : t.maxAttempts = m) (least : 1 ≤ m)
    (most : m ≤ 31) (numbered : ∀ r ∈ w.store.tasks, r.id.val < w.nextId) (records : Records w)
    (accepted : (TaskQueue.enqueue t).run w = (.ok id, w₀)) (events : List Event)
    (allowed : ∀ e ∈ events, e.Allowed) (room : (runEvents events w₀).nextId < Uuid.limit) :
    let runs := handlerRuns id events w₀
    let now := runEvents events w₀
    runs.length ≤ m ∧ ∃ r ∈ now.store.tasks, r.id = id ∧ (∀ x ∈ now.store.tasks, x.id = id → x = r) ∧
      (runs = [] → r = TaskQueue.newRow w.now id t) ∧
      (∀ last, runs.getLast? = some last → Outcome m runs.length last r) ∧
      (∀ tick x, ((claimFirst (QueueName.visits tick)).run now).1 = .ok (some x) → x.id = id →
        x = r ∧ r.status = .pending ∧ r.scheduledAt ≤ now.now) ∧
      (r.status.isFinished = true → ∀ later, (∀ e ∈ later, e.Allowed) →
        (runEvents later now).nextId < Uuid.limit →
        r ∈ (runEvents later now).store.tasks ∧ handlerRuns id later now = []) := by
  intro runs now
  have held := holds_inserted records numbered accepted (Nat.lt_of_le_of_lt (runEvents_nextId _ _) room)
  have new : IsNew m (TaskQueue.newRow w.now id t) := ⟨rfl, rfl, allows, least⟩
  obtain ⟨r, course, holds⟩ := Course.begin.run new most held allowed room
  have is : r.id = id := course.id
  refine ⟨(course.budget new).2.1, r, holds.row, is, fun x hx same => holds.only x hx (same.trans is.symm),
    fun none => ?_, fun last => course.outcome new, fun tick x claimed same => ?_, ?_⟩
  · exact Course.begin.unique (none ▸ course)
  · obtain ⟨faults, -, ⟨y, hy, pending, due, ran⟩ | ⟨none, -⟩⟩ := claimFirst_run (QueueName.visits tick) now
    · rw [ran] at claimed
      obtain rfl : y = x := Option.some.inj (Except.ok.inj claimed)
      obtain rfl := holds.only y hy (same.trans is.symm)
      exact ⟨rfl, pending, due⟩
    · exact absurd claimed (none x)
  · intro finished later allowed room
    obtain ⟨r', more, holds'⟩ := course.run new most holds allowed room
    obtain ⟨none, rfl⟩ := course.finished finished more
    exact ⟨holds'.row, is ▸ none⟩

/-- A world with nothing in it. -/
def emptyWorld : World where
  store := .empty
  now := ⟨0, 0⟩
  nextId := 1
  faults := []
  leases := []
  defaults := ⟨"", "", ""⟩
  settings := ⟨none, none, 5⟩
  offered := []
  notices := []

/-- A database outage meets the first run of a sweep. -/
def brokenSweep : List Event :=
  [.outage [⟨.expiredServices, 0⟩],
    .poll {
      durable := true
      refuses := fun _ => false
      deliver := fun _ _ _ => .ok ()
      provision := fun _ => .ok ⟨"host", "address"⟩ } 0]

def sweepInserted : World := ((TaskQueue.enqueue (.scan .expireService)).run emptyWorld).2

/-- The sweep is tried again after two seconds. -/
theorem retry_budget_brokenSweep : ∃ r ∈ (runEvents brokenSweep sweepInserted).store.tasks,
    r.status = .pending ∧ r.attempts = 1 ∧ r.scheduledAt = ⟨2, 0⟩ := by
  have runs : handlerRuns (.ofNat 1) brokenSweep sweepInserted =
      [⟨⟨0, 0⟩, .error (.database .injected)⟩] := rfl
  have allowed : ∀ e ∈ brokenSweep, e.Allowed := by
    simp [brokenSweep, Event.Allowed, verdicts]
  have accepted : (TaskQueue.enqueue (.scan .expireService)).run emptyWorld =
      (.ok (.ofNat 1), sweepInserted) := rfl
  obtain ⟨-, r, hr, -, -, -, outcome, -⟩ := retry_budget (m := 3) rfl (by decide) (by decide) (by decide)
    (records_of_calm rfl) accepted brokenSweep allowed (by decide)
  have last := outcome _ (by rw [runs]; rfl)
  rw [runs] at last
  exact ⟨r, hr, by simpa [Outcome, Failure.isPermanent, Instant.addSeconds] using last⟩

end Worker

end HostingBilling
