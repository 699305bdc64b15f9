import HostingBilling.Proofs.Tasks.Retries

/-!
# One poll, one task

A poll looks at the queues in the order of its tick and takes from the first one that has a due task the task
that was scheduled first. Main statement: that task is handled once, whatever its handler comes to, and its row
then tells how that went; no other row of the task table is touched, and a task that cannot be read changes
nothing but its own row. Without a due task nothing changes.
-/

namespace HostingBilling

/-! ## Tasks that cannot be read -/

/-- The kind of the task is unknown, or its payload does not fit the kind. -/
def TaskRow.Unreadable (t : TaskRow) : Prop :=
  ∀ kind, TaskKind.ofName t.kind = .ok kind → ∀ p, Payload.decode kind t.payload ≠ .ok p

theorem TaskKind.ofName_permanent {name : String} {e : Failure} (unknown : ofName name = .error e) :
    e.isPermanent = true := by
  unfold ofName at unknown
  split at unknown
  · cases unknown
  · cases unknown
    rfl

theorem Payload.decodeAs_permanent {α β : Type} {kind : TaskKind} {decode : Json.Decoder α} {payload : Json}
    {wrap : α → β} {e : Failure} (fails : (decodeAs kind decode payload).map wrap = .error e) :
    e.isPermanent = true := by
  unfold decodeAs at fails
  dsimp only at fails
  split at fails
  · cases fails
  · cases fails
    rfl

theorem Payload.decode_permanent {kind : TaskKind} {payload : Json} {e : Failure}
    (fails : decode kind payload = .error e) : e.isPermanent = true := by
  cases kind <;> exact decodeAs_permanent fails

namespace Worker

variable {o : Outside} {w : World} {t : TaskRow}

/-- A task that cannot be read fails for good, before anything is done. -/
theorem work_unreadable (unreadable : t.Unreadable) (o : Outside) (w : World) :
    ∃ e, e.isPermanent = true ∧ (work o t).run w = (.error e, w) := by
  cases named : TaskKind.ofName t.kind with
  | error e =>
    refine ⟨e, TaskKind.ofName_permanent named, ?_⟩
    rw [work, named, Action.run_bind_of_error (Action.run_ofExcept_error _ _)]
  | ok kind =>
    cases decoded : Payload.decode kind t.payload with
    | error e =>
      refine ⟨e, Payload.decode_permanent decoded, ?_⟩
      rw [work, named, Action.run_bind_of_ok (Action.run_ofExcept_ok _ _), handle, decoded,
        Action.run_bind_of_error (Action.run_ofExcept_error _ _)]
    | ok p => exact absurd decoded (unreadable kind named p)

/-! ## The task of a poll -/

/-- Whether a queue has a task that is due. -/
def hasDue (w : World) (queue : QueueName) : Bool := w.store.tasks.any (TaskQueue.isDue w.now queue)

/-- The first queue in the order of a tick that has a due task. -/
def dueQueue (w : World) (tick : Nat) : Option QueueName := (QueueName.visits tick).find? (hasDue w)

theorem nextTask_eq (w : World) (queues : List QueueName) :
    nextTask w queues = (queues.find? (hasDue w)).bind fun q => TaskQueue.nextDue w.now q w.store.tasks := by
  induction queues with
  | nil => rfl
  | cons q rest ih =>
    have some_ := TaskQueue.nextDue_isSome w.now q w.store.tasks
    rw [nextTask, List.findSome?_cons, List.find?_cons, hasDue, ← some_]
    cases due : TaskQueue.nextDue w.now q w.store.tasks with
    | none => exact ih
    | some t => exact due.symm

/-! ## Its row -/

/-- How the row of a task stands once its handler has come to an end: the task is done, given up, or waits for
a retry. -/
def Stands (now : Instant) (t row : TaskRow) : Except Failure Unit → Prop
  | .ok () => row.status = .completed
  | .error e =>
    if e.isPermanent = true ∨ t.maxAttempts ≤ t.attempts + 1 then row.status = .failed
    else row.status = .pending ∧ now < row.scheduledAt

theorem Stands.settled {now : Instant} {row : TaskRow} {result : Except Failure Unit}
    (h : Stands now t row result) : row.status ≠ .processing := by
  cases result with
  | ok _ => simp [show row.status = .completed from h]
  | error e =>
    rw [Stands] at h
    split at h
    · simp [h]
    · simp [h.1]

theorem judged_stands (used : 0 ≤ t.attempts) (now : Instant) (result : Except Failure Unit) :
    Stands now t (judged now result t) result := by
  cases result with
  | ok _ => rfl
  | error e =>
    cases permanent : e.isPermanent with
    | true => simp [Stands, judged_permanent permanent, permanent]
    | false =>
      have waits : 0 < TaskQueue.backoff t.attempts := by
        rw [TaskQueue.backoff, if_neg (by omega)]
        exact Nat.pow_pos (by omega)
      simp only [Stands, judged_retry permanent, TaskQueue.failedRow, permanent, Bool.false_eq_true, false_or,
        TaskQueue.isSpent, decide_eq_true_eq]
      split
      · rfl
      · refine ⟨rfl, ?_⟩
        rw [Instant.lt_def]
        simp only [Instant.addSeconds]
        omega

/-- A task has been handled. Its handler has run once, after the task was claimed, and then its row was written
and no other row of the task table. -/
structure Handled (o : Outside) (w : World) (t row : TaskRow) (w' : World) : Prop where
  left : w' = { ((work o t).run (claimed w t)).2 with store := { ((work o t).run (claimed w t)).2.store with
    tasks := changeRows (fun x => x.id == t.id) (fun _ => row) w.store.tasks } }
  named : row.id = t.id
  stands : Stands w.now t row ((work o t).run (claimed w t)).1
  settled : row.status ≠ .processing
  unreadable : t.Unreadable → row.status = .failed ∧
    w' = { w with store := { w.store with tasks := w'.store.tasks } }

/-- The wait for a retry of a task that may be tried again is in range. -/
theorem waitFits_of_budget (used : 0 ≤ t.attempts) (more : t.attempts < t.maxAttempts)
    (most : t.maxAttempts ≤ 31) : TaskQueue.waitFits t = true :=
  waitFits_of_used (k := t.attempts.toNat) (m := t.maxAttempts.toNat) (by omega) (by omega) (by omega)

/-- The claim and the outcome of a task make one row of it, and leave every other row as it was. -/
theorem changeRows_judged {rows : List TaskRow} (distinct : (rows.map (·.id)).Nodup) (ht : t ∈ rows)
    (now later : Instant) (result : Except Failure Unit) :
    changeRows (fun x => x.id == t.id) (judged later result)
        (changeRows (fun x => x.id == t.id) (TaskQueue.inProcessing now) rows) =
      changeRows (fun x => x.id == t.id) (fun _ => judged later result t) rows := by
  rw [changeRows_changeRows (by exact fun _ _ own => own) (by exact fun _ _ other => other)]
  apply List.map_congr_left
  intro x hx
  split
  · next own =>
    dsimp only
    rw [judged_inProcessing, eq_of_key distinct hx ht (by simpa using own)]
  · rfl

theorem run_handled (distinct : (w.store.tasks.map (·.id)).Nodup) (records : Records w)
    (ht : t ∈ w.store.tasks) (used : 0 ≤ t.attempts) (fits : TaskQueue.waitFits t = true) (o : Outside) :
    ∃ row w', (run o t).run (claimed w t) = (.ok (), w') ∧ Handled o w t row w' := by
  have kept := work_keeps o t (claimed w t)
  have clock : ((work o t).run (claimed w t)).2.now = w.now := kept.now
  have claiming : ((work o t).run (claimed w t)).2.store.tasks =
      changeRows (fun x => x.id == t.id) (TaskQueue.inProcessing w.now) w.store.tasks := kept.store
  have records' : Records ((work o t).run (claimed w t)).2 := fun s hs => kept.spares s (records s hs)
  rcases record_cases records' t.id ((work o t).run (claimed w t)).1 with recorded | ⟨⟨x, hx, is, long⟩, -⟩
  · have stands := judged_stands used w.now ((work o t).run (claimed w t)).1
    have rows := changeRows_judged distinct ht w.now w.now ((work o t).run (claimed w t)).1
    rw [← claiming, ← clock] at rows
    rw [← clock] at stands
    refine ⟨_, _, (run_run t).trans recorded, by rw [rows], (judged_kept _ _ t).1, clock ▸ stands, stands.settled,
      fun unreadable => ?_⟩
    obtain ⟨e, permanent, fails⟩ := work_unreadable unreadable o (claimed w t)
    rw [fails] at stands ⊢
    exact ⟨by simpa [Stands, permanent] using stands, rfl⟩
  · -- the claim leaves the attempts as they were, so the wait is in range
    rw [claiming] at hx
    obtain ⟨y, hy, rfl⟩ := mem_changeRows.mp hx
    by_cases own : y.id = t.id
    · obtain rfl := eq_of_key distinct hy ht own
      rw [if_pos (beq_self_eq_true _)] at long
      exact absurd (long.symm.trans fits) Bool.false_ne_true
    · rw [if_neg (by simpa using own)] at is
      exact absurd is own

/-- **One poll handles one task.** If no queue has a due task, a poll tells so and changes nothing. Otherwise it
tells that it ran a task: from the first queue in the order of its tick that has a due task, one that is
scheduled before none of the others. That task is handled once, whatever its handler comes to: afterwards it is
done after a success, given up after a failure for good or the last attempt, and otherwise pending until later.
No other row of the task table changes, and a task that cannot be read is given up with nothing else changed. -/
theorem poll_handles_one (o : Outside) (tick : Nat) (distinct : (w.store.tasks.map (·.id)).Nodup)
    (claims : w.Spares .claimTask) (records : Records w)
    (budgets : ∀ r ∈ w.store.tasks, r.status = .pending →
      0 ≤ r.attempts ∧ r.attempts < r.maxAttempts ∧ r.maxAttempts ≤ 31) :
    match dueQueue w tick with
    | none => (poll o tick).run w = (.ok false, w)
    | some q => ∃ t row w', t ∈ w.store.tasks ∧ TaskQueue.isDue w.now q t = true ∧
        (∀ x ∈ w.store.tasks, TaskQueue.isDue w.now q x = true → t.scheduledAt ≤ x.scheduledAt) ∧
        (poll o tick).run w = (.ok true, w') ∧ Handled o w t row w' := by
  have polled := pollQueues_run_spared (o := o) claims (QueueName.visits tick)
  rw [nextTask_eq] at polled
  cases found : dueQueue w tick with
  | none =>
    rw [show (QueueName.visits tick).find? (hasDue w) = none from found] at polled
    exact polled
  | some q =>
    rw [show (QueueName.visits tick).find? (hasDue w) = some q from found] at polled
    have due : (TaskQueue.nextDue w.now q w.store.tasks).isSome = true := by
      rw [TaskQueue.nextDue_isSome]
      exact List.find?_some (p := hasDue w) found
    obtain ⟨t, next⟩ := Option.isSome_iff_exists.mp due
    obtain ⟨ht, isDue⟩ := TaskQueue.nextDue_some next
    obtain ⟨used, more, most⟩ := budgets t ht (TaskQueue.isDue_iff.mp isDue).1
    obtain ⟨row, w', ran, handled⟩ :=
      run_handled distinct records ht used (waitFits_of_budget used more most) o
    refine ⟨t, row, w', ht, isDue, TaskQueue.nextDue_least next, ?_, handled⟩
    rw [Option.bind_some, next] at polled
    exact polled.trans (Action.run_bind_of_ok ran _)

/-- A task of a kind that nobody knows, due before a sweep that is due as well. The queue that is looked at first
has a task that is not due yet. -/
def crowdedTasks : List TaskRow :=
  [⟨.ofNat 1, "vps:suspend", .critical, .object [], .pending, 0, 3, none, ⟨200, 0⟩, ⟨50, 0⟩, ⟨50, 0⟩⟩,
    ⟨.ofNat 2, "service:expire", .default, .object [], .pending, 0, 3, none, ⟨90, 0⟩, ⟨50, 0⟩, ⟨50, 0⟩⟩,
    ⟨.ofNat 3, "vps:resize", .default, .object [], .pending, 1, 3, none, ⟨80, 0⟩, ⟨60, 0⟩, ⟨60, 0⟩⟩]

def crowdedWorld : World :=
  { emptyWorld with now := ⟨100, 0⟩, store := { Store.empty with tasks := crowdedTasks } }

theorem unreadable_resize {t : TaskRow} (kind : t.kind = "vps:resize") : t.Unreadable := by
  intro k named
  rw [kind] at named
  cases named

/-- Everything that is asked of it goes through. -/
def willing : Outside where
  durable := true
  refuses _ := false
  deliver _ _ _ := .ok ()
  provision _ := .ok ⟨"host", "address"⟩

/-- The task that cannot be read is given up, and the sweep waits for the next poll. -/
theorem poll_handles_one_crowded : ∃ row w',
    (poll willing 0).run crowdedWorld = (.ok true, w') ∧ row.status = .failed ∧
      w'.store.tasks = crowdedTasks.take 2 ++ [row] := by
  have budgets : ∀ r ∈ crowdedWorld.store.tasks, r.status = .pending →
      0 ≤ r.attempts ∧ r.attempts < r.maxAttempts ∧ r.maxAttempts ≤ 31 := by decide
  have polled := poll_handles_one (w := crowdedWorld) willing 0 (by decide) (World.spares_of_calm rfl _)
    (records_of_calm rfl) budgets
  rw [show dueQueue crowdedWorld 0 = some .default by decide] at polled
  obtain ⟨t, row, w', ht, due, first, ran, handled⟩ := polled
  have resize : t.kind = "vps:resize" ∧ t.id = .ofNat 3 := by
    have least := first _ (show crowdedTasks[2] ∈ crowdedWorld.store.tasks by simp [crowdedWorld]) (by decide)
    rcases List.mem_cons.mp ht with rfl | ht
    · revert due
      decide
    · rcases List.mem_cons.mp ht with rfl | ht
      · revert least
        decide
      · obtain rfl := List.mem_singleton.mp ht
        exact ⟨rfl, rfl⟩
  obtain ⟨failed, -⟩ := handled.unreadable (unreadable_resize resize.1)
  refine ⟨row, w', ran, failed, ?_⟩
  rw [handled.left, resize.2]
  rfl

end Worker

end HostingBilling
