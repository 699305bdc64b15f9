import HostingBilling.Proofs.Operations.Moves

/-!
# Completed jobs

A completed job should be over. Main statement: through a run a completed job stays as it is, until a
worker comes to its service while that is suspended and the job is its latest one; then the job is started
once more, and the service is active again if the machine backend answers.
-/

namespace HostingBilling

open Provisioning (Works)

/-- A service that waits for its machine. -/
def ServiceRow.Waits (r : ServiceRow) : Prop := r.status = .pending ∨ r.status = .provisioning

/-- After a completed job of a service that waits for its machine comes one that is not completed. -/
def Store.Pursues (s : Store) : Prop :=
  ∀ r ∈ s.services, r.Waits → ∀ j ∈ s.jobs, j.serviceId = r.id → j.status = .completed →
    ∃ k ∈ s.jobs, k.serviceId = r.id ∧ k.status ≠ .completed ∧ Store.isLater k j = true

/-- A worker comes to the service of a job when that is suspended and the job is its latest. -/
structure Operation.Revives (op : Operation) (w : World) (j : JobRow) : Prop where
  comes : op.ComesTo w j.serviceId
  latest : w.store.latestJob j.serviceId .provisionVps = some j
  suspended : ∃ r ∈ w.store.services, r.id = j.serviceId ∧ r.status = .suspended

/-- The job has been tried once more, and has failed or its service is active. -/
def Operation.Restarts (op : Operation) (w : World) (j : JobRow) : Prop :=
  ∃ k ∈ (op.run w).store.jobs, k.id = j.id ∧ k.attempts = j.attempts + 1 ∧
    (k.status = .failed ∨ k.status = .completed ∧
      ∃ r ∈ (op.run w).store.services, r.id = j.serviceId ∧ r.status = .active)

namespace Operations

variable {op : Operation} {v w w' : World} {owed owed' : List CommittedJob}

/-! ## A service that waits for its machine -/

/-- Jobs may close, and a service begins to wait only for a job that is live. -/
theorem pursues_of (law' : JobLaw owed' w') (h : w.store.Pursues)
    (each : ∀ r' ∈ w'.store.services, r'.Waits → w'.store.hasLive r'.id = true ∨
      ∃ r ∈ w.store.services, r.id = r'.id ∧ r.Waits ∧
        (∀ j ∈ w'.store.jobs, j.serviceId = r.id → j.status = .completed → j ∈ w.store.jobs) ∧
        ∀ k ∈ w.store.jobs, k.serviceId = r.id → k.status ≠ .completed →
          ∃ k' ∈ w'.store.jobs, k.Closes k' ∧ k'.status ≠ .completed) : w'.store.Pursues := by
  intro r' hr' waits j hj service completed
  rcases each r' hr' waits with live | ⟨r, hr, same, waited, old, kept⟩
  · obtain ⟨k, hk, is⟩ := List.any_eq_true.mp live
    obtain ⟨of, -, live⟩ := isLiveJob_iff.mp is
    have apart : k.status ≠ .completed := fun ended => by rw [ended] at live; cases live
    refine ⟨k, hk, of, apart, law'.latest k hk live j hj (service.trans of.symm) fun is => apart ?_⟩
    rw [eq_of_key law'.linked.jobs hk hj is.symm]
    exact completed
  · rw [← same] at service ⊢
    obtain ⟨k, hk, of, open_, later⟩ := h r hr waited j (old j hj service completed) service completed
    obtain ⟨k', hk', closes, still⟩ := kept k hk of open_
    refine ⟨k', hk', closes.serviceId.trans of, still, ?_⟩
    rw [Store.isLater_iff, closes.id, closes.createdAt, ← Store.isLater_iff]
    exact later

/-- Where no service is new, and the others are waited for as before, closing jobs without success keeps
them pursued. -/
theorem pursues_closed (law' : JobLaw owed' w') (h : w.store.Pursues)
    {selects : JobRow → Bool} {close : JobRow → JobRow}
    (jobs : w'.store.jobs = changeRows selects close w.store.jobs)
    (same : ∀ r, (close r).id = r.id ∧ (close r).serviceId = r.serviceId ∧ (close r).kind = r.kind ∧
      (close r).createdAt = r.createdAt) (failed : ∀ r, (close r).status = .failed)
    (services : ∀ r' ∈ w'.store.services, r'.Waits → ∃ r ∈ w.store.services, r.id = r'.id ∧ r.Waits) :
    w'.store.Pursues := by
  refine pursues_of law' h fun r' hr' waits => .inr ?_
  obtain ⟨r, hr, is, waited⟩ := services r' hr' waits
  refine ⟨r, hr, is, waited, fun j hj _ completed => ?_, fun k hk _ open_ => ?_⟩
  · rw [jobs] at hj
    obtain ⟨x, hx, rfl⟩ := mem_changeRows.mp hj
    split at completed
    · rw [failed] at completed
      cases completed
    · next other => rwa [if_neg other]
  · refine ⟨_, jobs ▸ mem_changeRows.mpr ⟨k, hk, rfl⟩, ?_, ?_⟩ <;> split
    · obtain ⟨id, service, kind, created⟩ := same k
      exact ⟨id, service, kind, created, fun live => by rw [failed] at live; cases live⟩
    · exact .refl k
    · rw [failed]
      exact JobStatus.noConfusion
    · exact open_

/-- New jobs do not come between an old job and the ones before it. -/
theorem pursues_added (law' : JobLaw owed' w') (h : w.store.Pursues) {new : List JobRow}
    (jobs : w'.store.jobs = w.store.jobs ++ new) (open_ : ∀ j ∈ new, j.status ≠ .completed)
    (services : ∀ r' ∈ w'.store.services, r'.Waits → w'.store.hasLive r'.id = true ∨
      ∃ r ∈ w.store.services, r.id = r'.id ∧ r.Waits) : w'.store.Pursues := by
  refine pursues_of law' h fun r' hr' waits => (services r' hr' waits).imp id ?_
  rintro ⟨r, hr, is, waited⟩
  refine ⟨r, hr, is, waited, fun j hj _ completed => ?_, fun k hk _ still => ?_⟩
  · rw [jobs] at hj
    exact (List.mem_append.mp hj).resolve_right fun new => open_ j new completed
  · exact ⟨k, jobs ▸ List.mem_append_left _ hk, .refl k, still⟩

theorem worked_pursues {o : Outside} {serviceId : Uuid} (law : JobLaw owed w) (law' : JobLaw owed w')
    (h : w.store.Pursues) (works : Works o serviceId w w') : w'.store.Pursues := by
  cases works with
  | left => exact h
  | failed =>
    exact pursues_closed law' h rfl (fun _ => ⟨rfl, rfl, rfl, rfl⟩) (fun _ => rfl)
      fun r hr waits => ⟨r, hr, rfl, waits⟩
  | @built r₀ j₀ machine item is ready =>
    obtain ⟨hj₀, ofJob, -⟩ := Store.latestJob_some ready.latest
    refine pursues_of law' h fun r' hr' waits => .inr ?_
    obtain ⟨r, hr, rfl⟩ := mem_changeRows.mp hr'
    split at waits
    · rcases waits with waits | waits <;> cases waits
    · next other =>
      rw [if_neg other]
      -- the job that is completed is of the service that is activated
      have elsewhere {x : JobRow} (hx : x ∈ w.store.jobs) (service : x.serviceId = r.id) :
          ¬ (x.id == j₀.id) = true := by
        intro same
        rw [eq_of_key law.linked.jobs hx hj₀ (by simpa using same), ofJob] at service
        simp [service] at other
      refine ⟨r, hr, rfl, waits, fun j hj service _ => ?_, fun k hk service open_ => ?_⟩
      · obtain ⟨x, hx, rfl⟩ := mem_changeRows.mp hj
        have of : x.serviceId = r.id := by split at service <;> exact service
        rwa [if_neg (elsewhere hx of)]
      · refine ⟨k, mem_changeRows.mpr ⟨k, hk, ?_⟩, .refl k, open_⟩
        rw [if_neg (elsewhere hk service)]

theorem move_pursues (move : Move op v owed w owed' w') (law : JobLaw owed w) (law' : JobLaw owed' w')
    (h : w.store.Pursues) : w'.store.Pursues := by
  cases move with
  | decline step =>
    have jobs : w'.store.jobs = w.store.jobs ++ [] := by rw [step.store.jobs, List.append_nil]
    refine pursues_added law' h jobs (fun _ hj => nomatch hj) fun r' hr' waits => .inr ?_
    obtain ⟨r, hr, lapses⟩ := exists_left_of_forall₂ step.store.services hr'
    refine ⟨r, hr, lapses.id.symm, ?_⟩
    rcases lapses.status with same | closed | closed
    · unfold ServiceRow.Waits
      rwa [← same]
    · rcases waits with waits | waits <;> · rw [closed] at waits; cases waits
    · rcases waits with waits | waits <;> · rw [closed] at waits; cases waits
  | carry _ carried =>
    refine pursues_added law' h carried.jobs (fun j hj => ?_) fun r hr waits => ?_
    · obtain ⟨t, -, rfl⟩ := List.mem_map.mp hj
      exact JobStatus.noConfusion
    · rcases carried.services r hr with old | ⟨-, live, -⟩
      · exact .inr ⟨r, old, rfl, waits⟩
      · exact .inl live
  | @prepare o id detail w w' task is found prepared =>
    refine pursues_added law' h prepared.jobs (fun j hj => ?_) fun r' hr' waits => ?_
    · rw [List.mem_singleton.mp hj]
      exact JobStatus.noConfusion
    · rw [prepared.services] at hr'
      obtain ⟨r, hr, rfl⟩ := mem_changeRows.mp hr'
      split
      · next selected =>
        refine .inl (List.any_eq_true.mpr ⟨newJob w.now (.ofNat w.nextId) detail.id .provisionVps, ?_, ?_⟩)
        · rw [prepared.jobs]
          exact List.mem_append_right _ (List.mem_singleton_self _)
        · simp only [Bool.and_eq_true, beq_iff_eq] at selected
          exact isLiveJob_iff.mpr ⟨selected.1.1.symm, rfl, rfl⟩
      · next other =>
        rw [if_neg other] at waits
        exact .inr ⟨r, hr, rfl, waits⟩
  | @refuse owed t w reason =>
    refine pursues_closed law' h (CommittedJob.takenBack_jobs w.now t reason w.store)
      (fun _ => ⟨rfl, rfl, rfl, rfl⟩) (fun _ => rfl) fun r' hr' waits => ?_
    dsimp only at hr'
    rw [CommittedJob.takenBack_services] at hr'
    obtain ⟨r, hr, rfl⟩ := mem_changeRows.mp hr'
    split
    · next selected =>
      simp only [Bool.and_eq_true, beq_iff_eq] at selected
      exact ⟨r, hr, rfl, .inr selected.2⟩
    · next other =>
      rw [if_neg other] at waits
      exact ⟨r, hr, rfl, waits⟩
  | work _ _ _ works => exact worked_pursues law law' h works
  | accept | proceed | enqueue | wait => exact h

theorem Step.operation (h : Step w w') : ∃ op : Operation, op.Allowed w ∧ w' = op.run w := by
  cases h with
  | deliver o e durable => exact ⟨.deliver o e, durable, rfl⟩
  | reprovision o id durable => exact ⟨.reprovision o id, durable, rfl⟩
  | poll o tick => exact ⟨.poll o tick, trivial, rfl⟩
  | reap => exact ⟨.reap, trivial, rfl⟩
  | enqueue t => exact ⟨.enqueue t, trivial, rfl⟩
  | wait now later => exact ⟨.wait now, later, rfl⟩

theorem moves_pursues (moves : Moves op v owed w owed' w') (law : JobLaw owed w) (h : w.store.Pursues) :
    w'.store.Pursues :=
  moves.keeps (I := fun _ w => w.store.Pursues) law h fun move law law' => move_pursues move law law'

theorem reachable_pursues (h : Reachable w) : w.store.Pursues := by
  induction h with
  | start calm linked fresh jobs =>
    intro r hr waits j hj
    rw [jobs] at hj
    cases hj
  | next before step room ih =>
    obtain ⟨op, allowed, rfl⟩ := step.operation
    have law := reachable_law before
    exact moves_pursues (moves allowed law room) law ih

/-! ## What becomes of a completed job -/

variable {j : JobRow}

/-- If an attempt can go ahead with a completed job, its service is suspended. -/
theorem suspended_of_ready {s : Store} (h : s.Pursues) (kinds : ∀ k ∈ s.jobs, k.kind = JobKind.provisionVps.name)
    {r : ServiceRow} (ready : s.Ready r j) (completed : j.status = .completed) : r.status = .suspended := by
  obtain ⟨hj, service, -⟩ := Store.latestJob_some ready.latest
  have settled : ¬ r.Waits := by
    intro waits
    obtain ⟨k, hk, of, -, later⟩ := h r ready.service waits j hj service completed
    rw [Store.latestJob_max ready.latest hk of (kinds k hk)] at later
    cases later
  cases status : r.status with
  | pending => exact absurd (.inl status) settled
  | provisioning => exact absurd (.inr status) settled
  | active => exact absurd completed (ready.undone status)
  | suspended => rfl
  | terminated => exact absurd status ready.alive

/-- A completed job stays where it is unless it is revived. -/
theorem move_completed (move : Move op v owed w owed' w') (law : JobLaw owed w) (h : w.store.Pursues)
    (hj : j ∈ w.store.jobs) (completed : j.status = .completed) :
    j ∈ w'.store.jobs ∨ op.Revives v j := by
  -- rows that a change does not select stay
  have apart {selects : JobRow → Bool} (change : JobRow → JobRow) (other : selects j = false) :
      j ∈ changeRows selects change w.store.jobs :=
    mem_changeRows.mpr ⟨j, hj, by rw [if_neg (by simp [other])]⟩
  cases move with
  | decline step => exact .inl (step.store.jobs ▸ hj)
  | carry _ carried => exact .inl (carried.jobs ▸ List.mem_append_left _ hj)
  | prepare _ _ prepared => exact .inl (prepared.jobs ▸ List.mem_append_left _ hj)
  | refuse =>
    left
    dsimp only
    rw [CommittedJob.takenBack_jobs]
    exact apart _ (by simp [completed, JobStatus.isLive])
  | @work o tick t serviceId _ is took serves works =>
    have revived {r : ServiceRow} {k : JobRow} (of : r.id = serviceId)
        (ready : (Worker.claimed v t).store.Ready r k) (same : j.id = k.id) : op.Revives v j := by
      obtain ⟨hk, service, -⟩ := Store.latestJob_some ready.latest
      obtain rfl := eq_of_key law.linked.jobs hj hk same
      rw [is]
      refine ⟨⟨t, took, ?_⟩, service ▸ ready.latest, r, ready.service, service.symm,
        suspended_of_ready h law.kinds ready completed⟩
      rw [service, of]
      exact serves
    cases works with
    | left => exact .inl hj
    | @failed r k e of ready =>
      by_cases same : j.id = k.id
      · exact .inr (revived of ready same)
      · exact .inl (apart _ (by simpa using same))
    | @built r k machine item of ready =>
      by_cases same : j.id = k.id
      · exact .inr (revived of ready same)
      · exact .inl (apart _ (by simpa using same))
  | accept | proceed | enqueue | wait => exact .inl hj

theorem moves_completed (moves : Moves op v owed w owed' w') (law : JobLaw owed w) (h : w.store.Pursues)
    (hj : j ∈ w.store.jobs) (completed : j.status = .completed) :
    j ∈ w'.store.jobs ∨ op.Revives v j := by
  refine (moves.keeps (I := fun _ w => w.store.Pursues ∧ (j ∈ w.store.jobs ∨ op.Revives v j)) law
    ⟨h, .inl hj⟩ fun move law law' ⟨h, kept⟩ => ⟨move_pursues move law law' h, ?_⟩).2
  rcases kept with there | revived
  · exact move_completed move law h there completed
  · exact .inr revived

/-- A worker that comes to the suspended service of a completed job starts the job once more. -/
theorem revives_restarts (law : JobLaw [] w) (hj : j ∈ w.store.jobs) (h : op.Revives w j) :
    op.Restarts w j := by
  cases op with
  | poll o tick =>
    obtain ⟨⟨t, took, serves⟩, latest, r, hr, of, suspended⟩ := h
    obtain ⟨w₁, rows, works, ran⟩ := Worker.poll_works (o := o) law took serves
    have ready : (Worker.claimed w t).store.Ready r j := by
      refine ⟨hr, of ▸ latest, ?_, ?_⟩ <;> rw [suspended]
      · exact ServiceStatus.noConfusion
      · exact fun active => nomatch active
    -- it is this job that the attempt takes
    have taken {r' : ServiceRow} {k : JobRow} (of' : r'.id = j.serviceId)
        (ready' : (Worker.claimed w t).store.Ready r' k) : k = j := by
      have := ready'.latest
      rw [of'] at this
      exact Option.some.inj (this.symm.trans latest)
    unfold Operation.Restarts
    rw [show (Operation.poll o tick).run w = _ from ran]
    cases works with
    | left idle => exact absurd ready (idle r j of)
    | failed of' ready' =>
      obtain rfl := taken of' ready'
      exact ⟨_, mem_changeRows.mpr ⟨_, hj, (if_pos (beq_self_eq_true _)).symm⟩, rfl, rfl, .inl rfl⟩
    | @built r' k machine item of' ready' =>
      obtain rfl := taken of' ready'
      refine ⟨_, mem_changeRows.mpr ⟨_, hj, (if_pos (beq_self_eq_true _)).symm⟩, rfl, rfl,
        .inr ⟨rfl, r'.activated w.now machine, ?_, of', rfl⟩⟩
      exact mem_changeRows.mpr ⟨_, ready'.service, (if_pos (beq_self_eq_true _)).symm⟩
  | deliver | reprovision | reap | enqueue | wait => exact h.comes.elim

/-- **Completed jobs.** Through a run a completed job stays as it is, with its status and its attempts,
as long as no worker comes to its service while that is suspended and the job is its latest. The first
worker that does starts the job once more, and makes the service active if the backend answers. -/
theorem completed_job_revived {w : World} {ops : List Operation} (reachable : Reachable w)
    (runs : Runs w ops) {j : JobRow} (hj : j ∈ w.store.jobs) (completed : j.status = .completed) :
    (j ∈ (runAll ops w).store.jobs ∧
      ∀ before op after, ops = before ++ op :: after → ¬ op.Revives (runAll before w) j) ∨
    ∃ before op after, ops = before ++ op :: after ∧ j ∈ (runAll before w).store.jobs ∧
      op.Revives (runAll before w) j ∧ op.Restarts (runAll before w) j := by
  induction ops generalizing w with
  | nil => exact .inl ⟨hj, fun before op after split => by simp at split⟩
  | cons op ops ih =>
    obtain ⟨allowed, room, rest⟩ := runs
    have law := reachable_law reachable
    by_cases revives : op.Revives w j
    · exact .inr ⟨[], op, ops, rfl, hj, revives, revives_restarts law hj revives⟩
    · have kept := (moves_completed (moves allowed law room) law (reachable_pursues reachable) hj
        completed).resolve_right revives
      rcases ih (reachable.next (Operation.step allowed) room) rest kept with
        ⟨there, none_⟩ | ⟨before, op', after, split, there⟩
      · refine .inl ⟨there, fun before op' after split => ?_⟩
        cases before with
        | nil =>
          obtain ⟨rfl, -⟩ := List.cons.inj split
          exact revives
        | cons first before =>
          obtain ⟨rfl, rest⟩ := List.cons.inj split
          exact none_ before op' after rest
      · exact .inr ⟨op :: before, op', after, by rw [split]; rfl, there⟩

/-- A task that suspends a service. -/
def suspendTask (serviceId : Uuid) : TaskDraft :=
  ⟨.suspendVps, .default, SuspendPayload.encode ⟨serviceId, "overdue"⟩, 3⟩

/-- The backend is down for the first job, an operator asks for a fresh one, which is completed, and then
the service is suspended. The task of the first job is left over. -/
def suspendedRun : List Operation := [
  .deliver (sampleOutside true) sampleEvent,
  .poll (sampleOutside true) 0,
  .reprovision (sampleOutside true) (.ofNat 104),
  .poll (sampleOutside false) 0,
  .enqueue (suspendTask (.ofNat 104)),
  .poll (sampleOutside false) 0]

theorem suspendedRun_runs : Runs openingWorld suspendedRun := by decide +kernel

/-- The world in which the service is suspended. -/
def suspendedWorld : World := runAll suspendedRun openingWorld

theorem reachable_suspendedWorld : Reachable suspendedWorld :=
  suspendedRun_runs.reachable opening_openingWorld.reachable

/-- The task of the first job becomes due again, and the backend is up. -/
def leftoverRun : List Operation := [.wait ⟨1002, 0⟩, .poll (sampleOutside false) 0]

theorem leftoverRun_runs : Runs suspendedWorld leftoverRun := by decide +kernel

theorem leftoverRun_restarts : ∃ j ∈ suspendedWorld.store.jobs, j.status = .completed ∧
    (∃ r ∈ suspendedWorld.store.services, r.id = j.serviceId ∧ r.status = .suspended) ∧
    (∃ k ∈ (runAll leftoverRun suspendedWorld).store.jobs, k.id = j.id ∧ k.attempts = j.attempts + 1) ∧
    ∃ r ∈ (runAll leftoverRun suspendedWorld).store.services, r.id = j.serviceId ∧ r.status = .active := by
  decide +kernel

theorem completed_job_revived_leftover : ∃ j ∈ suspendedWorld.store.jobs, j.status = .completed ∧
    ∃ before op after, leftoverRun = before ++ op :: after ∧
      j ∈ (runAll before suspendedWorld).store.jobs ∧ op.Revives (runAll before suspendedWorld) j ∧
      op.Restarts (runAll before suspendedWorld) j := by
  obtain ⟨j, hj, completed, -, ⟨k, hk, same, grown⟩, -⟩ := leftoverRun_restarts
  refine ⟨j, hj, completed, ?_⟩
  apply (completed_job_revived reachable_suspendedWorld leftoverRun_runs hj completed).resolve_left
  rintro ⟨kept, -⟩
  have keys := (reachable_law (leftoverRun_runs.reachable reachable_suspendedWorld)).linked.jobs
  rw [eq_of_key keys hk kept same] at grown
  omega

/-- A completed job is tried a second time, and its suspended service is active again. -/
theorem completed_job_restarted : openingWorld.Opening ∧
    Runs openingWorld (suspendedRun ++ leftoverRun) ∧
    ∃ j ∈ suspendedWorld.store.jobs, j.status = .completed ∧
      (∃ r ∈ suspendedWorld.store.services, r.id = j.serviceId ∧ r.status = .suspended) ∧
      (∃ k ∈ (runAll leftoverRun suspendedWorld).store.jobs, k.id = j.id ∧ k.attempts = j.attempts + 1) ∧
      ∃ r ∈ (runAll leftoverRun suspendedWorld).store.services, r.id = j.serviceId ∧ r.status = .active :=
  ⟨opening_openingWorld, runs_append.mpr ⟨suspendedRun_runs, leftoverRun_runs⟩, leftoverRun_restarts⟩

end Operations

end HostingBilling
