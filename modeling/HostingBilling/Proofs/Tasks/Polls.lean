import HostingBilling.Proofs.Runs
import HostingBilling.Proofs.Tasks.Due
import HostingBilling.Worker

/-!
# What a poll does

A poll claims a task, works on it and records on its row how that went. Here are the equations of these
steps.
-/

namespace HostingBilling

namespace Worker

variable {o : Outside} {w : World}

/-- What a task asks for, as its row tells. -/
def work (o : Outside) (t : TaskRow) : Action Unit := do
  handle o (← Action.ofExcept (TaskKind.ofName t.kind)) t.payload

/-- The next task of the first queue that has one. -/
def nextTask (w : World) (queues : List QueueName) : Option TaskRow :=
  queues.findSome? fun q => TaskQueue.nextDue w.now q w.store.tasks

/-- A world in which a task has been claimed. -/
def claimed (w : World) (t : TaskRow) : World := { w with store := { w.store with
  tasks := changeRows (fun r => r.id == t.id)
    (fun r => { r with status := .processing, updatedAt := w.now }) w.store.tasks } }

theorem nextTask_some {queues : List QueueName} {t : TaskRow} (h : nextTask w queues = some t) :
    t ∈ w.store.tasks ∧ t.status = .pending := by
  obtain ⟨q, -, due⟩ := List.exists_of_findSome?_eq_some h
  obtain ⟨ht, is⟩ := TaskQueue.nextDue_some due
  exact ⟨ht, (TaskQueue.isDue_iff.mp is).1⟩

/-- A claim that is not struck takes the task that is due first, if there is one. -/
theorem claim_run_unstruck (unstruck : (strike .claimTask w.faults).1 = false) (queue : QueueName) :
    (transaction (TaskQueue.claim queue)).run w =
      (.ok (TaskQueue.nextDue w.now queue w.store.tasks),
        ((TaskQueue.nextDue w.now queue w.store.tasks).map
          (claimed { w with faults := (strike .claimTask w.faults).2 })).getD
          { w with faults := (strike .claimTask w.faults).2 }) := by
  rw [Action.run_transaction, TaskQueue.claim, change, Action.run_execute_unstruck unstruck]
  unfold TaskQueue.onTasks TaskQueue.claimRow
  cases TaskQueue.nextDue w.now queue w.store.tasks <;> rfl

theorem claim_run_spared (spared : w.Spares .claimTask) (queue : QueueName) :
    (transaction (TaskQueue.claim queue)).run w =
      (.ok (TaskQueue.nextDue w.now queue w.store.tasks),
        ((TaskQueue.nextDue w.now queue w.store.tasks).map (claimed w)).getD w) := by
  have passes := strike_spared spared
  rw [claim_run_unstruck (by rw [passes]), passes]

/-- A poll runs the next task and tells so, if there is one. -/
theorem pollQueues_run_spared (spared : w.Spares .claimTask) (queues : List QueueName) :
    (pollQueues o queues).run w = match nextTask w queues with
      | none => (.ok false, w)
      | some t => (run o t >>= fun _ => pure true).run (claimed w t) := by
  induction queues with
  | nil => rfl
  | cons q rest ih =>
    rw [pollQueues, Action.run_bind_of_ok (claim_run_spared spared q), nextTask, List.findSome?_cons]
    cases TaskQueue.nextDue w.now q w.store.tasks with
    | none => exact ih
    | some t => rfl

theorem pollQueues_run (calm : w.faults = []) (queues : List QueueName) :
    ((pollQueues o queues).run w).2 = match nextTask w queues with
      | none => w
      | some t => ((run o t).run (claimed w t)).2 := by
  rw [pollQueues_run_spared (World.spares_of_calm calm _)]
  cases nextTask w queues with
  | none => rfl
  | some t => exact Action.run_answer _ _ _

/-! ## Recording -/

/-- The statements that record how a task went. -/
def verdicts : List Statement := [.completeTask, .discardTask, .failTask]

/-- No fault keeps the outcome of a handler from being recorded. -/
def Records (w : World) : Prop := ∀ s ∈ verdicts, w.Spares s

theorem records_of_calm (calm : w.faults = []) : Records w := fun s _ => World.spares_of_calm calm s

/-- A row as the outcome of its handler leaves it. -/
def judged (now : Instant) (result : Except Failure Unit) (r : TaskRow) : TaskRow :=
  match result with
  | .ok () => { r with status := .completed, updatedAt := now }
  | .error e =>
    if e.isPermanent then
      { r with attempts := r.attempts + 1, lastError := some e.message, status := .failed, updatedAt := now }
    else TaskQueue.failedRow now e.message r

theorem judged_permanent {e : Failure} (permanent : e.isPermanent = true) (now : Instant) :
    judged now (.error e) = fun r => { r with
      attempts := r.attempts + 1
      lastError := some e.message
      status := .failed
      updatedAt := now } := by
  funext r
  rw [judged, if_pos permanent]

theorem judged_retry {e : Failure} (retry : e.isPermanent = false) (now : Instant) :
    judged now (.error e) = TaskQueue.failedRow now e.message := by
  funext r
  rw [judged, if_neg (by simp [retry])]

/-- The claim of a task leaves no trace on the row that the outcome makes. -/
theorem judged_inProcessing (now later : Instant) (result : Except Failure Unit) (r : TaskRow) :
    judged later result (TaskQueue.inProcessing now r) = judged later result r := by
  cases result with
  | ok _ => rfl
  | error e => cases permanent : e.isPermanent <;> simp only [judged, permanent] <;> rfl

/-- The outcome is put on the row of the task, unless the wait for a retry is out of range. -/
theorem record_cases (records : Records w) (id : Uuid) (result : Except Failure Unit) :
    (record id result).run w = (.ok (), { w with store := { w.store with
        tasks := changeRows (fun r => r.id == id) (judged w.now result) w.store.tasks } }) ∨
      (∃ r ∈ w.store.tasks, r.id = id ∧ TaskQueue.waitFits r = false) ∧
        ((record id result).run w).2 = w := by
  have spared {s : Statement} (among : s ∈ verdicts) : w.Spares s := records s among
  cases result with
  | ok _ =>
    rw [record, TaskQueue.complete, run_change_spared (spared (by simp [verdicts]))]
    exact .inl rfl
  | error e =>
    cases permanent : e.isPermanent with
    | true =>
      rw [record, if_pos permanent, TaskQueue.discard, run_change_spared (spared (by simp [verdicts])),
        judged_permanent permanent]
      exact .inl rfl
    | false =>
      rw [record, if_neg (by simp [permanent]), TaskQueue.fail,
        run_execute_spared (spared (by simp [verdicts])), TaskQueue.failRow, judged_retry permanent]
      by_cases fits : (w.store.tasks.all fun r => r.id != id || TaskQueue.waitFits r) = true
      · rw [if_pos fits]
        exact .inl rfl
      · rw [if_neg fits]
        refine .inr ⟨?_, rfl⟩
        simpa using fits

/-- The outcome changes the row of the task, and neither what it is nor what it asks for. Where the wait
for a retry is in range, the row is as the outcome has it. -/
theorem record_run (records : Records w) (id : Uuid) (result : Except Failure Unit) :
    ∃ change : TaskRow → TaskRow,
      (∀ t, (change t).id = t.id ∧ (change t).kind = t.kind ∧ (change t).payload = t.payload) ∧
      ((record id result).run w).2 = { w with store := { w.store with
        tasks := changeRows (fun r => r.id == id) change w.store.tasks } } ∧
      ((∀ r ∈ w.store.tasks, r.id = id → TaskQueue.waitFits r = true) →
        change = judged w.now result) := by
  rcases record_cases records id result with recorded | ⟨⟨r, hr, is, long⟩, left⟩
  · refine ⟨judged w.now result, fun t => ?_, congrArg Prod.snd recorded, fun _ => rfl⟩
    cases result with
    | ok _ => exact ⟨rfl, rfl, rfl⟩
    | error e => cases permanent : e.isPermanent <;> simp [judged, permanent, TaskQueue.failedRow]
  · refine ⟨fun t => t, fun t => ⟨rfl, rfl, rfl⟩, by simp [left, changeRows], fun fits => ?_⟩
    rw [fits r hr is] at long
    cases long

/-- A task that is run is worked on, and then its row is changed. -/
theorem run_run (t : TaskRow) :
    (run o t).run w = (record t.id ((work o t).run w).1).run ((work o t).run w).2 :=
  Action.run_bind_of_ok (a := (work o t).attempt) rfl (record t.id)

/-! ## Claiming under faults -/

/-- Claims the next task of the first queue that has one. -/
def claimFirst : List QueueName → Action (Option TaskRow)
  | [] => return none
  | q :: rest => do
    match ← transaction (TaskQueue.claim q) with
    | some t => return some t
    | none => claimFirst rest

/-- A poll claims a task and runs it, or finds none. -/
theorem pollQueues_claims (o : Outside) (queues : List QueueName) (w : World) :
    ((pollQueues o queues).run w).2 = match (claimFirst queues).run w with
      | (.ok (some t), w') => ((run o t).run w').2
      | (_, w') => w' := by
  induction queues generalizing w with
  | nil => rfl
  | cons q rest ih =>
    rw [pollQueues, claimFirst, Action.run_bind, Action.run_bind]
    rcases (transaction (TaskQueue.claim q)).run w with ⟨e | none | t, w'⟩
    · rfl
    · exact ih w'
    · change (((run o t) >>= fun _ => pure true).run w').2 = ((run o t).run w').2
      exact Action.run_answer _ _ _

/-- Claims either return a due task and take it, or a fault or nothing due keeps them from it. -/
theorem claimFirst_run (queues : List QueueName) (w : World) :
    ∃ faults, (∀ s, w.Spares s → ({ w with faults := faults } : World).Spares s) ∧
      ((∃ t ∈ w.store.tasks, t.status = .pending ∧ t.scheduledAt ≤ w.now ∧
          (claimFirst queues).run w = (.ok (some t), claimed { w with faults := faults } t)) ∨
        (∀ t, ((claimFirst queues).run w).1 ≠ .ok (some t)) ∧
          ((claimFirst queues).run w).2 = { w with faults := faults }) := by
  induction queues generalizing w with
  | nil => exact ⟨w.faults, fun _ spared => spared, .inr ⟨by simp [claimFirst], rfl⟩⟩
  | cons q rest ih =>
    have spares (s : Statement) (spared : w.Spares s) :
        ({ w with faults := (strike .claimTask w.faults).2 } : World).Spares s := strike_spares _ spared
    rw [claimFirst]
    cases struck : (strike .claimTask w.faults).1 with
    | true =>
      have ran : (transaction (TaskQueue.claim q)).run w =
          (.error (.database .injected), { w with faults := (strike .claimTask w.faults).2 }) := by
        rw [Action.run_transaction, TaskQueue.claim, change, Action.run_execute_struck struck]
      rw [Action.run_bind_of_error ran]
      exact ⟨_, spares, .inr ⟨by simp, rfl⟩⟩
    | false =>
      rw [Action.run_bind_of_ok (claim_run_unstruck struck q)]
      cases found : TaskQueue.nextDue w.now q w.store.tasks with
      | some t =>
        obtain ⟨ht, due⟩ := TaskQueue.nextDue_some found
        obtain ⟨pending, -, now⟩ := TaskQueue.isDue_iff.mp due
        exact ⟨_, spares, .inl ⟨t, ht, pending, now, rfl⟩⟩
      | none =>
        obtain ⟨faults, spared, answer⟩ := ih { w with faults := (strike .claimTask w.faults).2 }
        exact ⟨faults, fun s h => spared s (spares s h), answer⟩

/-- Stale tasks are handed out again. -/
theorem reap_run (calm : w.faults = []) : reap w = { w with store := { w.store with
    tasks := changeRows (TaskQueue.isStale w.now)
      (fun r => { r with status := .pending, updatedAt := w.now }) w.store.tasks } } := by
  rw [reap, TaskQueue.reap, run_change calm]
  rfl

end Worker

theorem TaskQueue.enqueue_run {w : World} (calm : w.faults = []) (t : TaskDraft) : (enqueue t).run w =
    (.ok (.ofNat w.nextId), { w with
      nextId := w.nextId + 1
      store := { w.store with tasks := w.store.tasks ++ [newRow w.now (.ofNat w.nextId) t] } }) := by
  simp only [enqueue, insert, Action.run_bind, Action.run_attempt, Action.run_freshId]
  rw [run_change (by exact calm)]
  rfl

end HostingBilling
