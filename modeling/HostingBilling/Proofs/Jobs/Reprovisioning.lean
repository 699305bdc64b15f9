import HostingBilling.Proofs.Jobs.Attempt
import HostingBilling.Proofs.Recovery.Submissions

/-!
# Building a service anew

An operator asks for a fresh job for a service. The request goes through exactly when the service is neither
active nor terminated, has no live job, and the queue takes its task. One that is declined changes nothing,
and one that the queue refuses leaves a service that can be asked for again.
-/

namespace HostingBilling

/-- The service is there and may be built anew: it is neither active nor terminated, and no job of it is
live. -/
def Store.Rebuildable (s : Store) (id : Uuid) : Prop :=
  (∃ r ∈ s.services, r.id = id ∧
    (r.status = .pending ∨ r.status = .provisioning ∨ r.status = .suspended)) ∧ s.hasLive id = false

/-- A failure that tells that the request does not fit the service. -/
def Failure.declines : Failure → Bool
  | .notFound _ | .conflict _ | .illegalTransition .. => true
  | _ => false

theorem ServiceStatus.isDone_eq_false {status : ServiceStatus} :
    status.isDone = false ↔ status = .pending ∨ status = .provisioning ∨ status = .suspended := by
  cases status <;> decide

namespace Reprovision

open CommittedJob (takenBack)
open Provisioning (viewed)

/-- The critical task that is offered to the queue for a service that was bought on this line. -/
def draft (r : ServiceRow) (item : ItemRow) : TaskDraft :=
  .provision ⟨r.id, item.orderId, r.planId, r.userId⟩

/-- What a request that goes through changes: a pending job and a task for it are new, the service is
provisioning, and so is its order if it was paid. -/
structure Rebuilt (o : Outside) (r : ServiceRow) (item : ItemRow) (w : World) (jobId : Uuid)
    (w' : World) : Prop where
  jobs : w'.store.jobs = w.store.jobs ++ [newJob w.now jobId r.id .provisionVps]
  unused : ∀ j ∈ w.store.jobs, j.id ≠ jobId
  services : w'.store.services = changeRows (fun x => x.id == r.id)
    (fun x => { x with status := .provisioning, updatedAt := w.now }) w.store.services
  orders : w'.store.orders = changeRows (fun x => x.id == item.orderId && x.status == .paid)
    (fun x => { x with status := .provisioning, updatedAt := w.now }) w.store.orders
  offered : w'.offered = w.offered ++ [draft r item]
  tasks : ∃ taskId, (∀ t ∈ w.store.tasks, t.id ≠ taskId) ∧ w'.store.tasks =
    w.store.tasks ++ if o.durable then [TaskQueue.newRow w.now taskId (draft r item)] else []
  rest : w' = { w with
    offered := w'.offered
    nextId := w'.nextId
    store := { w.store with
      jobs := w'.store.jobs
      services := w'.store.services
      orders := w'.store.orders
      tasks := w'.store.tasks } }

/-- What is told of the task when the queue refuses it. -/
def refusal (o : Outside) (r : ServiceRow) (item : ItemRow) (w : World) : String :=
  (o.refusal w.offered.length (draft r item)).message

/-- What a request that the queue refuses changes: its job has failed for that, the service is pending, and its
order is where its other work leaves it. -/
structure Refused (o : Outside) (r : ServiceRow) (item : ItemRow) (w : World) (w' : World) : Prop where
  jobs : ∃ jobId, (∀ j ∈ w.store.jobs, j.id ≠ jobId) ∧ w'.store.jobs = w.store.jobs ++
    [Store.failed w.now ("enqueue failed: " ++ refusal o r item w) (newJob w.now jobId r.id .provisionVps)]
  services : w'.store.services = changeRows (fun x => x.id == r.id)
    (fun x => { x with status := .pending, updatedAt := w.now }) w.store.services
  orders : w'.store.orders = changeRows
    (fun x => x.id == item.orderId &&
      (x.status == .paid || x.status == .provisioning && !w.store.hasWorkDone x.id))
    (fun x => { x with
      status := if w.store.hasWorkDone x.id then .provisioning else .paid
      updatedAt := w.now }) w.store.orders
  offered : w'.offered = w.offered ++ [draft r item]
  rest : w' = { w with
    offered := w'.offered
    nextId := w'.nextId
    store := { w.store with
      jobs := w'.store.jobs
      services := w'.store.services
      orders := w'.store.orders } }

variable {o : Outside} {w : World}

/-! ## How a request runs -/

theorem permit_declines {id : Uuid} {status : ServiceStatus} {e : Failure}
    (h : permit id status = .error e) : e.declines = true := by
  cases status <;> cases h <;> rfl

theorem permit_of_not_done {status : ServiceStatus} (h : status.isDone = false) (id : Uuid) :
    permit id status = .ok () := by
  cases status <;> first | rfl | cases h

/-- Submitting one job. -/
theorem submit_one (calm : w.faults = []) (o : Outside) (t : CommittedJob) :
    (CommittedJob.submitAll o [t]).run w = (if o.refuses w.offered.length then
      .error (.several [CommittedJob.complaint (t, o.refusal w.offered.length (.provision t.payload))])
      else .ok 1, t.answered o w) := by
  rw [CommittedJob.submitAll_answers calm]
  cases answer : o.refuses w.offered.length with
  | true =>
    rw [CommittedJob.refusals_refused answer]
    rfl
  | false =>
    rw [CommittedJob.refusals_accepted answer]
    rfl

theorem service_missing (calm : w.faults = []) {id : Uuid} (missing : w.store.detail? id = none) :
    (service o id).run w = (.error (serviceNotFound id), w) := by
  rw [service, Action.run_bind_of_error (Provisioning.require_of_none calm missing)]

section bought

variable {r : ServiceRow} {item : ItemRow} {order : OrderRow} (calm : w.faults = []) (linked : w.store.Linked)
  (bought : w.store.Bought r item order)

include calm linked bought

theorem prepare_viewed : (prepare (viewed r item order)).run w =
    match permit r.id r.status with
    | .error e => (.error e, w)
    | .ok _ =>
      if w.store.hasLive r.id then (.error (busy r.id), { w with nextId := w.nextId + 1 })
      else (.ok (nextJob (viewed r item order) w), prepared (viewed r item order) w) :=
  prepare_found calm linked.orders
    (bought.owner ▸ find?_key linked.orders bought.ordered) (find?_key linked.services bought.service)

theorem service_run : (service o r.id).run w =
    (transaction (prepare (viewed r item order)) >>= fun task => do
      let _ ← CommittedJob.submitAll o [task]
      return task.jobId).run w := by
  have found := Provisioning.detail?_of_bought linked bought
  rw [service, Action.run_bind_of_ok (Provisioning.require_of_some calm found)]

/-- A service in another status, or with a live job. -/
theorem service_declined (unfit : r.status.isDone = true ∨ w.store.hasLive r.id = true) :
    ∃ e n, e.declines = true ∧ (service o r.id).run w = (.error e, { w with nextId := n }) := by
  have prepares := prepare_viewed calm linked bought
  have ends {e : Failure} {w₁ : World} (fails : (prepare (viewed r item order)).run w = (.error e, w₁)) :
      (service o r.id).run w = (.error e, { w₁ with store := w.store }) := by
    rw [service_run calm linked bought, Action.run_bind, Action.run_transaction, fails]
  cases permitted : permit r.id r.status with
  | error e =>
    rw [permitted] at prepares
    exact ⟨e, w.nextId, permit_declines permitted, ends prepares⟩
  | ok _ =>
    have live : w.store.hasLive r.id = true := by
      rcases unfit with done | live
      · rw [permit_ok permitted] at done
        cases done
      · exact live
    rw [permitted, live] at prepares
    exact ⟨busy r.id, w.nextId + 1, rfl, ends prepares⟩

/-- For any other service a job is prepared and offered. -/
theorem service_offered (notDone : r.status.isDone = false) (idle : w.store.hasLive r.id = false) :
    (service o r.id).run w =
      (if o.refuses w.offered.length then
        .error (.several [CommittedJob.complaint
          (nextJob (viewed r item order) w, o.refusal w.offered.length (draft r item))])
        else .ok (.ofNat w.nextId),
        (nextJob (viewed r item order) w).answered o (prepared (viewed r item order) w)) := by
  have prepares := prepare_viewed calm linked bought
  rw [permit_of_not_done notDone, idle] at prepares
  have submitted := submit_one (w := prepared (viewed r item order) w) calm o (nextJob (viewed r item order) w)
  rw [show (prepared (viewed r item order) w).offered = w.offered from rfl] at submitted
  rw [service_run calm linked bought, Action.run_bind_of_ok (Action.run_transaction_of_ok prepares),
    Action.run_bind, submitted]
  cases o.refuses w.offered.length <;> rfl

end bought

/-! ## What it leaves -/

/-- An order that moves on from paid and is taken back unless it has work. -/
theorem taken_back_orders (now : Instant) (orderId : Uuid) (work : Uuid → Bool) (orders : List OrderRow) :
    changeRows (fun x => x.id == orderId && x.status == .provisioning && !work x.id)
        (fun x => { x with status := .paid, updatedAt := now })
        (changeRows (fun x => x.id == orderId && x.status == .paid)
          (fun x => { x with status := .provisioning, updatedAt := now }) orders) =
      changeRows (fun x => x.id == orderId && (x.status == .paid || x.status == .provisioning && !work x.id))
        (fun x => { x with status := if work x.id then .provisioning else .paid, updatedAt := now }) orders := by
  simp only [changeRows, List.map_map]
  apply List.map_congr_left
  intro x _
  by_cases own : x.id = orderId
  · cases working : work x.id <;> cases status : x.status <;> simp [← own, working, status]
  · simp [own]

section left

variable {r : ServiceRow} {item : ItemRow} {order : OrderRow} (linked : w.store.Linked)
  (bought : w.store.Bought r item order)

include linked bought

/-- The service of the request is the only one that starts. -/
theorem prepared_services (notDone : r.status.isDone = false) :
    (prepared (viewed r item order) w).store.services = changeRows (fun x => x.id == r.id)
      (fun x => { x with status := .provisioning, updatedAt := w.now }) w.store.services := by
  refine changeRows_congr fun x hx => ?_
  cases own : x.id == r.id with
  | false => simp [viewed, own]
  | true =>
    obtain rfl := eq_of_key linked.services hx bought.service (beq_iff_eq.mp own)
    have active : x.status ≠ .active := fun is => by simp [is, ServiceStatus.isDone] at notDone
    have terminated : x.status ≠ .terminated := fun is => by simp [is, ServiceStatus.isDone] at notDone
    simp [viewed, active, terminated]

theorem prepared_linked (numbered : w.Numbered) (room : w.nextId < Uuid.limit) :
    (prepared (viewed r item order) w).store.Linked := by
  have created : { w.store with
      jobs := w.store.jobs ++ [newJob w.now (.ofNat w.nextId) r.id .provisionVps] }.Linked :=
    linked.add_job (fun x hx => Uuid.ne_ofNat (numbered.jobs x hx) room)
      (List.mem_map_of_mem bought.service)
  have started := (Store.quiet_startService w.now r.id _).linked created
  exact (Orders.moveOrder_still _ _ _ _ _).quiet.linked started

theorem rebuilt (numbered : w.Numbered) (room : w.nextId + 2 ≤ Uuid.limit) (notDone : r.status.isDone = false)
    (taken : o.refuses w.offered.length = false) :
    Rebuilt o r item w (.ofNat w.nextId)
      ((nextJob (viewed r item order) w).answered o (prepared (viewed r item order) w)) := by
  have taken' : ¬ o.refuses (prepared (viewed r item order) w).offered.length = true := by
    rw [show (prepared (viewed r item order) w).offered = w.offered from rfl, taken]
    exact Bool.false_ne_true
  have services := prepared_services linked bought notDone
  rw [CommittedJob.answered, if_neg taken']
  refine ⟨?_, fun j hj => Uuid.ne_ofNat (numbered.jobs j hj) (by omega), ?_, ?_, rfl,
    ⟨.ofNat (w.nextId + 1), ?_, ?_⟩, ?_⟩
  · split <;> rfl
  · rw [← services]
    split <;> rfl
  · split <;> rfl
  · exact fun t ht => Uuid.ne_ofNat (Nat.lt_succ_of_lt (numbered.tasks t ht)) (by omega)
  · cases o.durable with
    | true => rfl
    | false => exact (List.append_nil _).symm
  · cases o.durable <;> rfl

theorem prepared_isServiceOf (notDone : r.status.isDone = false) :
    (prepared (viewed r item order) w).store.isServiceOf = w.store.isServiceOf :=
  Store.isServiceOf_changeServices (prepared_services linked bought notDone) rfl (fun _ => rfl) fun _ => rfl

/-- The tables once the prepared job has been taken back. -/
theorem refused (numbered : w.Numbered) (room : w.nextId < Uuid.limit) (notDone : r.status.isDone = false)
    (refuses : o.refuses w.offered.length = true) :
    Refused o r item w ((nextJob (viewed r item order) w).answered o (prepared (viewed r item order) w)) := by
  let t := nextJob (viewed r item order) w
  let s := takenBack w.now t (refusal o r item w) (prepared (viewed r item order) w).store
  have jobs : s.jobs = w.store.jobs ++
      [Store.failed w.now ("enqueue failed: " ++ refusal o r item w) (newJob w.now t.jobId r.id .provisionVps)] := by
    refine (CommittedJob.takenBack_jobs _ _ _ _).trans ((changeRows_append _ fun j hj => ?_).trans ?_)
    · have other : j.id ≠ t.jobId := Uuid.ne_ofNat (numbered.jobs j hj) room
      simp [other]
    · simp [changeRows, newJob, JobStatus.isLive, t, nextJob, viewed]
  -- the job that failed is no work, and services stay with their orders
  have work : s.hasWorkDone = w.store.hasWorkDone := by
    have services : s.isServiceOf = w.store.isServiceOf :=
      (CommittedJob.takenBack_isServiceOf _ _ _ _).trans (prepared_isServiceOf linked bought notDone)
    funext orderId
    simp [Store.hasWorkDone, jobs, services, Store.failed, JobStatus.isLive]
  rw [CommittedJob.answered_refused (w := prepared (viewed r item order) w) refuses]
  refine ⟨⟨t.jobId, fun j hj => Uuid.ne_ofNat (numbered.jobs j hj) room, jobs⟩, ?_, ?_, rfl, ?_⟩
  · refine (CommittedJob.takenBack_services w.now t (refusal o r item w) _).trans ?_
    rw [prepared_services linked bought notDone]
    refine changeRows_changeRows (fun x _ own => ?_) fun x _ other => ?_
    · exact Bool.and_eq_true_iff.mpr ⟨own, rfl⟩
    · rw [show (x.id == t.serviceId) = false from other, Bool.false_and]
  · refine (CommittedJob.takenBack_reverts w.now t (refusal o r item w) _).trans ?_
    rw [work]
    exact taken_back_orders w.now item.orderId w.store.hasWorkDone w.store.orders
  · exact congrArg (fun store => { prepared (viewed r item order) w with
      offered := w.offered ++ [draft r item], store }) (CommittedJob.takenBack_rest w.now t _ _)

end left

/-! ## When it goes through -/

/-- A service that may be built anew, with its line and order. -/
theorem bought_of_rebuildable {s : Store} {id : Uuid} (linked : s.Linked) (fit : s.Rebuildable id) :
    ∃ r item order, s.Bought r item order ∧ r.id = id ∧ r.status.isDone = false ∧ s.hasLive r.id = false := by
  obtain ⟨⟨r, hr, rfl, status⟩, idle⟩ := fit
  obtain ⟨item, order, bought⟩ := linked.bought hr
  exact ⟨r, item, order, bought, rfl, ServiceStatus.isDone_eq_false.mpr status, idle⟩

/-- Taking a job back leaves a service that may be built anew. -/
theorem Refused.rebuildable {r : ServiceRow} {item : ItemRow} {w' : World} (h : Refused o r item w w')
    (hr : r ∈ w.store.services) (idle : w.store.hasLive r.id = false) : w'.store.Rebuildable r.id := by
  obtain ⟨jobId, -, jobs⟩ := h.jobs
  refine ⟨⟨_, h.services ▸ mem_changeRows.mpr ⟨r, hr, rfl⟩, ?_⟩, ?_⟩
  · simp
  · rw [Store.hasLive, jobs, List.any_append, show w.store.jobs.any _ = false from idle]
    simp [Store.isLiveJob, Store.failed, JobStatus.isLive]

section answers

variable {id : Uuid} (calm : w.faults = []) (linked : w.store.Linked)

include calm linked

/-- A request that does not fit the service fails, and changes nothing. -/
theorem service_unfit (unfit : ¬ w.store.Rebuildable id) :
    ∃ e n, e.declines = true ∧ (service o id).run w = (.error e, { w with nextId := n }) := by
  cases found : w.store.detail? id with
  | none => exact ⟨serviceNotFound id, w.nextId, rfl, service_missing calm found⟩
  | some d =>
    obtain ⟨r, hr, rfl, -⟩ := Provisioning.detail?_eq_some found
    obtain ⟨item, order, bought⟩ := linked.bought hr
    refine service_declined calm linked bought (Classical.or_iff_not_imp_left.mpr fun notDone => ?_)
    by_contra idle
    refine unfit ⟨⟨r, hr, rfl, ServiceStatus.isDone_eq_false.mp ?_⟩, Bool.not_eq_true _ ▸ idle⟩
    exact Bool.not_eq_true _ ▸ notDone

/-- A request goes through exactly when the service may be built anew and the queue takes the task. -/
theorem service_isOk : ((service o id).run w).1.isOk = true ↔
    w.store.Rebuildable id ∧ o.refuses w.offered.length = false := by
  by_cases fit : w.store.Rebuildable id
  · obtain ⟨r, item, order, bought, rfl, notDone, idle⟩ := bought_of_rebuildable linked fit
    rw [service_offered calm linked bought notDone idle]
    cases o.refuses w.offered.length <;> simp [fit, Except.isOk, Except.toBool]
  · obtain ⟨e, n, -, ran⟩ := service_unfit (o := o) calm linked fit
    rw [ran]
    simp [fit, Except.isOk, Except.toBool]

end answers

/-- **A request to build a service anew goes through, or changes nothing, or can be made again.** It goes
through exactly when the service may be built anew and the queue takes the task; then there is one new pending
job and one new critical task for it, the service is provisioning and so is its order if it was paid. A request
that does not fit changes nothing. One that the queue refuses leaves a failed job and a pending service, and as
soon as the queue takes the task it goes through. -/
theorem service_settles (calm : w.faults = []) (linked : w.store.Linked) (numbered : w.Numbered)
    (room : w.nextId + 2 ≤ Uuid.limit) (o : Outside) (id : Uuid) :
    ∃ answer w', (service o id).run w = (answer, w') ∧
      (answer.isOk = true ↔ w.store.Rebuildable id ∧ o.refuses w.offered.length = false) ∧
      (∀ jobId, answer = .ok jobId → ∃ r item order, w.store.Bought r item order ∧ r.id = id ∧
        Rebuilt o r item w jobId w') ∧
      (¬ w.store.Rebuildable id → ∃ e, answer = .error e ∧ e.declines = true) ∧
      (∀ e, answer = .error e → e.declines = true → w' = { w with nextId := w'.nextId }) ∧
      (w.store.Rebuildable id → o.refuses w.offered.length = true →
        (∃ r item order, w.store.Bought r item order ∧ r.id = id ∧ Refused o r item w w') ∧
        ∀ (o' : Outside) (v : World), v.store = w'.store → v.faults = [] →
          o'.refuses v.offered.length = false → ((service o' id).run v).1.isOk = true) := by
  have goes : ((service o id).run w).1.isOk = true ↔ _ := service_isOk calm linked
  by_cases fit : w.store.Rebuildable id
  · obtain ⟨r, item, order, bought, rfl, notDone, idle⟩ := bought_of_rebuildable linked fit
    have ran := service_offered (o := o) calm linked bought notDone idle
    cases refuses : o.refuses w.offered.length with
    | false =>
      rw [refuses, if_neg Bool.false_ne_true] at ran
      rw [ran, refuses] at goes
      refine ⟨_, _, ran, goes, ?_, fun unfit => absurd fit unfit, fun e is => ?_, fun _ => nofun⟩
      · rintro _ ⟨⟩
        exact ⟨r, item, order, bought, rfl, rebuilt linked bought numbered room notDone refuses⟩
      · cases is
    | true =>
      rw [refuses, if_pos rfl] at ran
      rw [ran, refuses] at goes
      have left := refused (o := o) linked bought numbered (by omega) notDone refuses
      refine ⟨_, _, ran, goes, fun jobId is => ?_, fun unfit => absurd fit unfit, fun e is declined => ?_, fun _ _ =>
        ⟨⟨r, item, order, bought, rfl, left⟩, fun o' v same calm' accepts => ?_⟩⟩
      · cases is
      · cases is
        cases declined
      · have linked' : v.store.Linked := by
          rw [same, CommittedJob.answered_refused (w := prepared (viewed r item order) w) refuses]
          exact (CommittedJob.takenBack_eases _ _ _ _).linked
            (prepared_linked linked bought numbered (by omega))
        refine (service_isOk calm' linked').mpr ⟨?_, accepts⟩
        rw [same]
        exact left.rebuildable bought.service idle
  · obtain ⟨e, n, declines, ran⟩ := service_unfit (o := o) calm linked fit
    rw [ran] at goes
    refine ⟨_, _, ran, goes, fun jobId is => ?_, fun _ => ⟨e, rfl, declines⟩, fun _ _ _ => rfl,
      fun fit' => absurd fit' fit⟩
    cases is

/-- Services that are provisioning, while no job of theirs is live. -/
def haltedWorld : World :=
  { CommittedJob.dueWorld with store := { CommittedJob.dueStore with jobs := [] } }

/-- The queue refuses the first task that it is offered. -/
def firstRefused : Outside := { Operations.sampleOutside true with refuses := (· == 0) }

/-- The queue refuses the first request, and takes the second. -/
theorem service_settles_firstRefused : ∃ answer w',
    (service firstRefused (.ofNat 4)).run haltedWorld = (answer, w') ∧ answer.isOk = false ∧
      ((service firstRefused (.ofNat 4)).run w').1.isOk = true := by
  have linked : haltedWorld.store.Linked := by decide
  have fresh : haltedWorld.Fresh := by decide
  have fit : haltedWorld.store.Rebuildable (.ofNat 4) := ⟨⟨_, List.mem_cons_self, rfl, .inr (.inl rfl)⟩, rfl⟩
  obtain ⟨answer, w', ran, goes, -, -, -, refused⟩ :=
    service_settles (w := haltedWorld) rfl linked fresh.numbered (by decide) firstRefused (.ofNat 4)
  obtain ⟨⟨r, item, order, -, -, left⟩, again⟩ := refused fit rfl
  refine ⟨answer, w', ran, ?_, again _ w' rfl ?_ ?_⟩
  · exact Bool.eq_false_iff.mpr fun ok => absurd (goes.mp ok).2 (by decide)
  · rw [left.rest]
    rfl
  · rw [left.offered]
    rfl

end Reprovision

end HostingBilling
