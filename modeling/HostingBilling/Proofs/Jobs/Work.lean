import HostingBilling.Proofs.Jobs.Attempt
import HostingBilling.Proofs.Quiet
import HostingBilling.Proofs.Tasks.Polls

/-!
# Working on tasks

A poll takes a task, and a task names a service, not a job: whichever job of the service is the latest is
driven to its end. So once a task has been worked on, nothing is left to build for its service, and
closing the task leaves no live job without one.
-/

namespace HostingBilling

open Store (Declines Eases)

/-! ## The service of a task -/

namespace Provisioning

variable {o : Outside} {serviceId : Uuid} {w w' : World} {owed : List CommittedJob}

theorem closed_closes {jobs : List JobRow} {id : Uuid} {close : JobRow → JobRow}
    (same : ∀ r, (close r).id = r.id ∧ (close r).serviceId = r.serviceId ∧ (close r).kind = r.kind ∧
      (close r).createdAt = r.createdAt)
    (dead : ∀ r, (close r).status.isLive = false) :
    List.Forall₂ JobRow.Closes jobs (changeRows (fun r => r.id == id) close jobs) := by
  refine forall₂_changeRows .refl fun r _ _ => ?_
  obtain ⟨id, service, kind, created⟩ := same r
  refine ⟨id, service, kind, created, fun live => ?_⟩
  rw [dead] at live
  cases live

/-- Whatever a request comes to, at most a job has been closed. -/
theorem Works.eases (h : Works o serviceId w w') (linked : w.store.Linked) : Follows Eases w w' := by
  cases h with
  | left => exact Eases.chain.follows_refl w
  | failed =>
    refine ⟨rfl, Nat.le_refl _, fun _ spared => spared, rfl, rfl, (Store.Quiet.refl w.store).services, ?_, rfl⟩
    exact closed_closes (fun _ => ⟨rfl, rfl, rfl, rfl⟩) fun _ => rfl
  | built _ ready =>
    refine ⟨rfl, Nat.le_refl _, fun _ spared => spared, map_changeRows _ fun _ => rfl, rfl, ?_, ?_, rfl⟩
    · refine forall₂_changeRows .refl fun x hx selected => ⟨rfl, rfl, rfl, rfl, fun terminated => ?_⟩
      rw [eq_of_key linked.services hx ready.service (by simpa using selected)] at terminated
      exact absurd terminated ready.alive
    · exact closed_closes (fun _ => ⟨rfl, rfl, rfl, rfl⟩) fun _ => rfl

/-- Nothing is left to build for a service once its latest job is closed. -/
theorem closed_atRest (law : JobLaw owed w) {r : ServiceRow} {j : JobRow} (ready : w.store.Ready r j)
    {close : JobRow → JobRow} {s : Store}
    (closed : s.jobs = changeRows (fun x => x.id == j.id) close w.store.jobs)
    (dead : ∀ r, (close r).status.isLive = false) : s.AtRest r.id := by
  intro x' hx' of live
  rw [closed] at hx'
  obtain ⟨x, hx, rfl⟩ := mem_changeRows.mp hx'
  split at live
  · rw [dead] at live
    cases live
  · next other =>
    rw [if_neg other] at of
    have latest := law.latestJob hx live
    rw [of, ready.latest] at latest
    cases latest
    simp at other

/-- However a request comes out, nothing is left to build for its service. -/
theorem Works.atRest (h : Works o serviceId w w') (law : JobLaw owed w) : w'.store.AtRest serviceId := by
  cases h with
  | left idle =>
    rintro j hj of live r hr rfl
    have latest := law.latestJob hj live
    rw [of] at latest
    by_contra alive
    refine idle r j rfl ⟨hr, latest, alive, fun _ completed => ?_⟩
    rw [completed] at live
    cases live
  | failed is ready =>
    exact is ▸ closed_atRest law ready rfl fun _ => rfl
  | built is ready =>
    exact is ▸ closed_atRest law ready rfl fun _ => rfl

end Provisioning

namespace Worker

variable {o : Outside} {w : World} {owed : List CommittedJob}

theorem kind_of_name {name : String} {kind : TaskKind} (named : TaskKind.ofName name = .ok kind) :
    name = kind.name := by
  unfold TaskKind.ofName at named
  split at named
  · next found =>
    cases named
    have is := List.find?_some found
    exact (beq_iff_eq.mp is).symm
  · cases named

theorem name_injective {a b : TaskKind} (same : a.name = b.name) : a = b := by
  cases a <;> cases b <;> first | rfl | simp [TaskKind.name] at same

theorem kind_of_decode {kind : TaskKind} {v : Json} {payload : Payload}
    (decoded : Payload.decode kind v = .ok payload) : payload.kind = kind := by
  have of {α : Type} {wrap : α → Payload} {x : Except Failure α} (h : x.map wrap = .ok payload) :
      ∃ a, wrap a = payload := by
    cases x with
    | error e => cases h
    | ok a => exact ⟨a, Except.ok.inj h⟩
  cases kind <;> obtain ⟨a, rfl⟩ := of decoded <;> rfl

/-- The work on a task to build is a request for the machine. -/
theorem work_provision {t : TaskRow} {p : ProvisionPayload} (kind : t.kind = TaskKind.provisionVps.name)
    (payload : Payload.decode .provisionVps t.payload = .ok (.provision p)) :
    work o t = (do let _ ← Provisioning.provision o p) := by
  have named : TaskKind.ofName t.kind = .ok .provisionVps := kind ▸ rfl
  have handled : work o t = handle o .provisionVps t.payload := by
    rw [work, named]
    exact pure_bind _ _
  rw [handled, handle, payload]
  exact pure_bind _ _

/-- A pending task serves a service and a request for it is made, or it declines at most. -/
theorem work_cases (law : JobLaw owed w) {t : TaskRow} (pending : t.status = .pending) :
    (∃ serviceId, t.Serves serviceId ∧ Provisioning.Works o serviceId w ((work o t).run w).2) ∨
      (∀ serviceId, ¬ t.Serves serviceId) ∧ Follows Declines w ((work o t).run w).2 := by
  rw [work, Action.run_bind, Action.run_ofExcept]
  cases named : TaskKind.ofName t.kind with
  | error e =>
    refine .inr ⟨fun serviceId serves => ?_, Declines.chain.follows_refl w⟩
    rw [serves.kind] at named
    cases named
  | ok kind =>
    dsimp only
    rw [handle, Action.run_bind, Action.run_ofExcept]
    have asks {serviceId : Uuid} (serves : t.Serves serviceId) :
        ∃ p, Payload.decode kind t.payload = .ok (.provision p) ∧ p.serviceId = serviceId := by
      rw [serves.kind] at named
      cases named
      exact serves.payload
    cases decoded : Payload.decode kind t.payload with
    | error e =>
      refine .inr ⟨fun serviceId serves => ?_, Declines.chain.follows_refl w⟩
      obtain ⟨p, read, -⟩ := asks serves
      cases decoded.symm.trans read
    | ok payload =>
      have other {a : Action Unit} (declines : a.Keeps Declines) (not : ∀ p, payload ≠ .provision p) :
          (∀ serviceId, ¬ t.Serves serviceId) ∧ Follows Declines w (a.run w).2 := by
        refine ⟨fun serviceId serves => ?_, declines w⟩
        obtain ⟨p, read, -⟩ := asks serves
        exact not p (Except.ok.inj (decoded.symm.trans read))
      have unit {α : Type} {a : Action α} (declines : a.Keeps Declines) :
          (a >>= fun _ => pure ()).Keeps Declines :=
        Declines.chain.bind declines fun _ => Declines.chain.pure _
      cases payload with
      | provision p =>
        have is : TaskKind.provisionVps = kind := kind_of_decode decoded
        subst is
        refine .inl ⟨p.serviceId, ⟨.inl pending, kind_of_name named, p, decoded, rfl⟩, ?_⟩
        have works := Provisioning.provision_works (o := o) law p
        dsimp only
        rw [Action.run_bind]
        rcases ran : (Provisioning.provision o p).run w with ⟨_ | _, _⟩ <;> rw [ran] at works <;>
          exact works
      | suspend p => exact .inr (other (Lifecycle.suspend_keeps Declines.tends p) fun _ h => nomatch h)
      | terminate p => exact .inr (other (Lifecycle.terminate_keeps Declines.tends p) fun _ h => nomatch h)
      | expire p => exact .inr (other (unit (Lifecycle.expire_keeps Declines.tends p)) fun _ h => nomatch h)
      | reminder p => exact .inr (other (unit (Renewal.remind_keeps Declines.tends o p)) fun _ h => nomatch h)
      | invoice p => exact .inr (other (unit (Renewal.invoice_keeps Declines.tends p)) fun _ h => nomatch h)

/-- A task serves at most one service. -/
theorem serves_unique {t : TaskRow} {a b : Uuid} (ha : t.Serves a) (hb : t.Serves b) : a = b := by
  obtain ⟨p, read, rfl⟩ := ha.payload
  obtain ⟨q, read', rfl⟩ := hb.payload
  cases read.symm.trans read'
  rfl

/-- Once a pending task has been worked on, nothing is left to build for the service that it serves. -/
theorem work_atRest (law : JobLaw owed w) {t : TaskRow} (pending : t.status = .pending) :
    Follows Eases w ((work o t).run w).2 ∧
      ∀ serviceId, t.Serves serviceId → ((work o t).run w).2.store.AtRest serviceId := by
  rcases work_cases (o := o) law pending with ⟨serviceId, serves, works⟩ | ⟨serves, declines⟩
  · refine ⟨works.eases law.linked, fun other serves' => ?_⟩
    rw [serves_unique serves' serves]
    exact works.atRest law
  · exact ⟨(declines.mono Declines.quiet).eases, fun serviceId h => absurd h (serves serviceId)⟩

/-! ## Claiming and recording -/

/-- A task may be closed once nothing is left to build for the service that it serves. -/
theorem record_law (law : JobLaw owed w) {id : Uuid}
    (rest : ∀ t ∈ w.store.tasks, t.id = id → ∀ serviceId, t.Serves serviceId →
      w.store.AtRest serviceId) (result : Except Failure Unit) :
    JobLaw owed ((record id result).run w).2 := by
  obtain ⟨change, same, ran, -⟩ := record_run (records_of_calm law.calm) id result
  rw [ran]
  exact law.changeTasks (fun t => (same t).1) fun t ht selected serviceId serves =>
    .inr (rest t ht (by simpa using selected) serviceId serves)

theorem claimed_law (law : JobLaw owed w) (t : TaskRow) : JobLaw owed (claimed w t) :=
  law.changeTasks (fun _ => rfl) fun _ _ _ _ serves => .inl ⟨.inr rfl, serves.kind, serves.payload⟩

/-- The row of a claimed task is in processing and asks for what the task asked for. -/
theorem claimed_row (keys : (w.store.tasks.map (·.id)).Nodup) {t : TaskRow} (ht : t ∈ w.store.tasks)
    {x : TaskRow} (hx : x ∈ (claimed w t).store.tasks) (is : x.id = t.id) :
    x = { t with status := .processing, updatedAt := w.now } := by
  obtain ⟨y, hy, rfl⟩ := mem_changeRows.mp hx
  have same : y.id = t.id := by
    split at is
    · exact is
    · exact is
  obtain rfl := eq_of_key keys hy ht same
  rw [if_pos (by simp)]

/-- A poll that takes a task for a service works on that service, and then tasks change. -/
theorem poll_works (law : JobLaw owed w) {tick : Nat} {t : TaskRow} {serviceId : Uuid}
    (took : nextTask w (QueueName.visits tick) = some t) (serves : t.Serves serviceId) :
    ∃ w₁ rows, Provisioning.Works o serviceId (claimed w t) w₁ ∧
      ((poll o tick).run w).2 = { w₁ with store := { w₁.store with tasks := rows } } := by
  obtain ⟨ht, pending⟩ := nextTask_some took
  have law₁ := claimed_law law t
  rcases work_cases (o := o) law₁ pending with ⟨id, serves', works⟩ | ⟨other, -⟩
  · obtain rfl := serves_unique serves serves'
    have calm := (works.eases law₁.linked).calm law₁.calm
    obtain ⟨change, -, ran, -⟩ := record_run (records_of_calm calm) t.id ((work o t).run (claimed w t)).1
    have polled : ((poll o tick).run w).2 = ((run o t).run (claimed w t)).2 := by
      rw [poll, pollQueues_run law.calm, took]
    exact ⟨_, _, works, polled.trans ((congrArg Prod.snd (run_run t)).trans ran)⟩
  · exact absurd serves (other serviceId)

theorem pollQueues_law (law : JobLaw owed w) (queues : List QueueName) :
    JobLaw owed ((pollQueues o queues).run w).2 := by
  rw [pollQueues_run law.calm]
  cases next : nextTask w queues with
  | none => exact law
  | some t =>
    obtain ⟨ht, pending⟩ := nextTask_some next
    have law₁ := claimed_law law t
    obtain ⟨eases, rest⟩ := work_atRest (o := o) law₁ pending
    dsimp only
    rw [run_run]
    refine record_law (law₁.eases eases) (fun x hx is serviceId serves => ?_) _
    rw [eases.store.tasks] at hx
    rw [claimed_row law.tasks ht hx is] at serves
    exact rest serviceId ⟨.inl pending, serves.kind, serves.payload⟩

theorem reap_law (law : JobLaw owed w) : JobLaw owed (reap w) := by
  rw [reap_run law.calm]
  exact law.changeTasks (fun _ => rfl) fun x _ _ serviceId serves =>
    .inl ⟨.inl rfl, serves.kind, serves.payload⟩

end Worker

theorem TaskQueue.enqueue_law {w : World} {owed : List CommittedJob} (law : JobLaw owed w) (t : TaskDraft)
    (room : ((enqueue t).run w).2.nextId ≤ Uuid.limit) : JobLaw owed ((enqueue t).run w).2 := by
  rw [enqueue_run law.calm] at room ⊢
  exact law.addTask rfl room

end HostingBilling
