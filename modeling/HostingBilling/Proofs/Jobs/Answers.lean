import HostingBilling.Proofs.Checkout.Committing
import HostingBilling.Proofs.Jobs.Commitment

/-!
# One task for each machine

While an order is being settled, each of its lines has a service that is being built or one that was
halted. A service that is built has one live job and one task, accepted or still to be submitted; one that
was halted has neither. Committing the jobs of the halted lines and taking back those that the queue
refuses keep it so.
-/

namespace HostingBilling

/-- Whether a task builds the machine of a service. -/
def TaskDraft.builds (serviceId : Uuid) (t : TaskDraft) : Bool :=
  t.kind == .provisionVps && match Payload.decode .provisionVps t.payload with
    | .ok (.provision p) => p.serviceId == serviceId
    | _ => false

/-- The tasks that the queue accepts of these, the first of which is offered as number `n`. -/
def Outside.accepted (o : Outside) (n : Nat) : List TaskDraft → List TaskDraft
  | [] => []
  | t :: rest => if o.refuses n then o.accepted (n + 1) rest else t :: o.accepted (n + 1) rest

theorem Outside.accepted_all {o : Outside} {n : Nat} {drafts : List TaskDraft}
    (all : ∀ i < drafts.length, o.refuses (n + i) = false) : o.accepted n drafts = drafts := by
  induction drafts generalizing n with
  | nil => rfl
  | cons t rest ih =>
    have first : o.refuses n = false := all 0 (Nat.succ_pos _)
    rw [accepted, if_neg (by simp [first]), ih fun i below => ?_]
    rw [Nat.add_assoc, Nat.add_comm 1]
    exact all (i + 1) (Nat.succ_lt_succ below)

namespace CommittedJob

/-- The task that a job is submitted with. -/
def draft (t : CommittedJob) : TaskDraft := .provision t.payload

theorem builds_draft (t : CommittedJob) (serviceId : Uuid) :
    t.draft.builds serviceId = (t.serviceId == serviceId) := by
  simp only [draft, TaskDraft.provision, TaskDraft.builds, beq_self_eq_true, Bool.true_and,
    Payload.decode_provision]
  rfl

theorem countP_drafts (tasks : List CommittedJob) (serviceId : Uuid) :
    (tasks.map (·.draft)).countP (TaskDraft.builds serviceId) =
      (tasks.map (·.serviceId)).countP (· == serviceId) := by
  induction tasks with
  | nil => rfl
  | cons t rest ih =>
    rw [List.map_cons, List.map_cons, List.countP_cons, List.countP_cons, ih, t.builds_draft]

/-! ## What the answers leave -/

variable {o : Outside} {t : CommittedJob} {w : World}

theorem answered_linked (linked : w.store.Linked) (o : Outside) (t : CommittedJob) :
    (t.answered o w).store.Linked := by
  unfold answered
  split
  · exact (takenBack_eases w.now t (t.refusal o w.offered.length) w.store).linked linked
  · dsimp only
    split
    · exact ⟨linked.orders, linked.items, linked.services, linked.serviceItems, linked.jobs,
        linked.itemOrder, linked.serviceItem, linked.jobService⟩
    · exact linked

theorem answered_numbered (numbered : w.Numbered) (o : Outside) (t : CommittedJob) :
    (t.answered o w).Numbered := by
  have later {n : Nat} (h : n < w.nextId) : n < w.nextId + 1 := Nat.lt_succ_of_lt h
  unfold answered
  split
  · have eases := takenBack_eases w.now t (t.refusal o w.offered.length) w.store
    exact Follows.numbered (w := w) ⟨rfl, Nat.le_refl _, fun _ spared => spared, eases⟩ numbered
  · refine ⟨fun r hr => later (numbered.services r ?_), fun r hr => later (numbered.jobs r ?_),
      fun r hr => ?_⟩
    · split at hr <;> exact hr
    · split at hr <;> exact hr
    · dsimp only at hr
      split at hr
      · rcases List.mem_append.mp hr with hr | hr
        · exact later (numbered.tasks r hr)
        · rw [List.mem_singleton.mp hr]
          exact Nat.lt_succ_of_le (Nat.mod_le _ _)
      · exact later (numbered.tasks r hr)

/-- The order of a job goes on as it was, or is paid again. -/
theorem answered_stands {order : OrderRow}
    (h : ∃ status, (status = .paid ∨ status = .provisioning) ∧ Checkout.Stands w.store order status)
    (o : Outside) (t : CommittedJob) : ∃ status, (status = .paid ∨ status = .provisioning) ∧
      Checkout.Stands (t.answered o w).store order status := by
  obtain ⟨status, is, updatedAt, there⟩ := h
  unfold answered
  split
  · rcases takenBack_orders w.now t (t.refusal o w.offered.length) w.store with same | ⟨changed, -⟩
    · exact ⟨status, is, updatedAt, same ▸ there⟩
    · dsimp only [Checkout.Stands]
      rw [changed]
      by_cases selected : (order.id == t.orderId && status == .provisioning) = true
      · exact ⟨.paid, .inl rfl, w.now, mem_changeRows.mpr ⟨_, there, (if_pos selected).symm⟩⟩
      · exact ⟨status, is, updatedAt, mem_changeRows.mpr ⟨_, there, (if_neg selected).symm⟩⟩
  · refine ⟨status, is, updatedAt, ?_⟩
    dsimp only
    split <;> exact there

section allAnswered

variable (o : Outside) (tasks : List CommittedJob)

theorem allAnswered_linked (linked : w.store.Linked) : (allAnswered o tasks w).store.Linked :=
  allAnswered_keeps (I := fun w => w.store.Linked) (fun t _ linked => answered_linked linked o t) tasks
    linked

theorem allAnswered_numbered (numbered : w.Numbered) : (allAnswered o tasks w).Numbered :=
  allAnswered_keeps (I := World.Numbered) (fun t _ numbered => answered_numbered numbered o t) tasks
    numbered

theorem allAnswered_stands {order : OrderRow} (h : Checkout.Stands w.store order .provisioning) :
    ∃ status, (status = .paid ∨ status = .provisioning) ∧
      Checkout.Stands (allAnswered o tasks w).store order status :=
  allAnswered_keeps
    (I := fun w => ∃ status, (status = .paid ∨ status = .provisioning) ∧
      Checkout.Stands w.store order status)
    (fun t _ stands => answered_stands stands o t) tasks ⟨.provisioning, .inr rfl, h⟩

end allAnswered

end CommittedJob

/-- A row of the queue that was made for a task. -/
def TaskDraft.Queued (d : TaskDraft) (r : TaskRow) : Prop := ∃ now id, r = TaskQueue.newRow now id d

/-- What a durable queue accepts becomes its last rows. -/
theorem CommittedJob.allAnswered_rows {o : Outside} (durable : o.durable = true)
    (tasks : List CommittedJob) (w : World) :
    ∃ rows, (allAnswered o tasks w).store.tasks = w.store.tasks ++ rows ∧
      List.Forall₂ TaskDraft.Queued (o.accepted w.offered.length (tasks.map (·.draft))) rows := by
  induction tasks generalizing w with
  | nil => exact ⟨[], (List.append_nil _).symm, .nil⟩
  | cons t rest ih =>
    obtain ⟨rows, added, queued⟩ := ih (t.answered o w)
    rw [answered_offered, List.length_append, List.length_singleton] at queued
    change ∃ rows, (allAnswered o rest (t.answered o w)).store.tasks = _ ∧ _
    rw [added, List.map_cons, Outside.accepted]
    cases answer : o.refuses w.offered.length with
    | true =>
      refine ⟨rows, ?_, queued⟩
      rw [answered_refused answer]
      exact congrArg (· ++ rows) (takenBack_tasks _ _ _ _)
    | false =>
      refine ⟨_ :: rows, ?_, .cons ⟨w.now, .ofNat w.nextId, rfl⟩ queued⟩
      rw [answered_accepted durable answer, List.append_assoc]
      rfl

/-! ## Lines that are built and lines that were halted -/

/-- A service is being built by its one live job, and one task for it has been promised. -/
structure Building (promised : List TaskDraft) (owed : List CommittedJob) (services : List ServiceRow)
    (jobs : List JobRow) (r : ServiceRow) (j : JobRow) : Prop where
  here : r ∈ services
  status : r.status = .provisioning
  job : j ∈ jobs
  live : Store.isLiveJob r.id JobKind.provisionVps.name j = true
  others : ∀ k ∈ jobs, k.serviceId = r.id → k = j ∨ k.status = .failed
  once : promised.countP (TaskDraft.builds r.id) = 1
  owing : ∀ t ∈ owed, t.serviceId = r.id → t.jobId = j.id

/-- A service waits, all of its jobs have failed, and no task for it has been promised. -/
structure Halted (promised : List TaskDraft) (jobs : List JobRow) (r : ServiceRow) : Prop where
  status : r.status = .pending
  failed : ∀ k ∈ jobs, k.serviceId = r.id → k.status = .failed
  none : promised.countP (TaskDraft.builds r.id) = 0

/-- How far an order has come: these tasks were accepted, and these jobs are still to be submitted. -/
structure Underway (orderId : Uuid) (accepted : List TaskDraft) (owed : List CommittedJob) (s : Store) :
    Prop where
  lines : ∀ item ∈ s.itemsOf orderId,
    (∃ r j, r.itemId = item.id ∧
      Building (accepted ++ owed.map (·.draft)) owed s.services s.jobs r j) ∨
    ∀ r ∈ s.services, r.itemId = item.id → Halted (accepted ++ owed.map (·.draft)) s.jobs r
  owing : ∀ t ∈ owed, ∃ r ∈ s.services, r.id = t.serviceId ∧ s.isLineOf orderId r.itemId = true
  known : ∀ d ∈ accepted, ∀ serviceId, d.builds serviceId = true →
    serviceId ∈ s.services.map (·.id)

/-- A service of the order waits. -/
def Store.Stalled (s : Store) (orderId : Uuid) : Prop :=
  ∃ r ∈ s.services, s.isLineOf orderId r.itemId = true ∧ r.status = .pending

variable {orderId : Uuid} {accepted : List TaskDraft} {owed : List CommittedJob} {s : Store}

/-- A job that is to be submitted is the live job of a service that is being built. -/
theorem Underway.building (h : Underway orderId accepted owed s) (linked : s.Linked) {t : CommittedJob}
    (ht : t ∈ owed) : ∃ r j, r.id = t.serviceId ∧ s.isLineOf orderId r.itemId = true ∧
      Building (accepted ++ owed.map (·.draft)) owed s.services s.jobs r j ∧ t.jobId = j.id := by
  obtain ⟨r, hr, is, line⟩ := h.owing t ht
  obtain ⟨item, hi, itemId⟩ := Store.mem_isLineOf.mp line
  have promised : t.draft ∈ accepted ++ owed.map (·.draft) :=
    List.mem_append_right _ (List.mem_map_of_mem ht)
  have builds : t.draft.builds r.id = true := by rw [t.builds_draft, is, beq_self_eq_true]
  rcases h.lines item hi with ⟨r', j, line', building⟩ | halted
  · obtain rfl := eq_of_key linked.serviceItems building.here hr (line'.trans itemId)
    exact ⟨r', j, is, line, building, building.owing t ht is.symm⟩
  · exact absurd builds (List.countP_eq_zero.mp (halted r hr itemId.symm).none _ promised)

/-! ## The queue accepts or refuses -/

theorem Underway.accept {t : CommittedJob} (h : Underway orderId accepted (t :: owed) s) :
    Underway orderId (accepted ++ [t.draft]) owed s := by
  have promised : accepted ++ [t.draft] ++ owed.map (·.draft) =
      accepted ++ (t :: owed).map (·.draft) := by simp
  constructor
  · rw [promised]
    intro item hi
    refine (h.lines item hi).imp_left fun ⟨r, j, line, building⟩ => ⟨r, j, line, ?_⟩
    exact ⟨building.here, building.status, building.job, building.live, building.others, building.once,
      fun x hx => building.owing x (List.mem_cons_of_mem _ hx)⟩
  · exact fun x hx => h.owing x (List.mem_cons_of_mem _ hx)
  · intro d hd id builds
    rcases List.mem_append.mp hd with hd | hd
    · exact h.known d hd id builds
    · obtain rfl := List.mem_singleton.mp hd
      obtain ⟨r, hr, is, -⟩ := h.owing t List.mem_cons_self
      rw [t.builds_draft, beq_iff_eq] at builds
      exact List.mem_map.mpr ⟨r, hr, is.trans builds⟩

/-- The tasks that were promised are those that were accepted and those still to be submitted. -/
theorem countP_promised (accepted : List TaskDraft) (tasks : List CommittedJob) (serviceId : Uuid) :
    (accepted ++ tasks.map (·.draft)).countP (TaskDraft.builds serviceId) =
      accepted.countP (TaskDraft.builds serviceId) +
        (tasks.map (·.serviceId)).countP (· == serviceId) := by
  rw [List.countP_append, CommittedJob.countP_drafts]

section refuse

variable {t : CommittedJob} {r : ServiceRow} {j : JobRow} (now : Instant) (reason : String)

/-- A job of a taken-back store is one that was there, or has just been failed. -/
theorem takenBack_job {k' : JobRow} (hk' : k' ∈ (CommittedJob.takenBack now t reason s).jobs) :
    ∃ k ∈ s.jobs, k'.serviceId = k.serviceId ∧
      (k' = k ∨ k'.status = .failed) ∧ (k.id = t.jobId → k.status.isLive = true → k'.status = .failed) := by
  rw [CommittedJob.takenBack_jobs] at hk'
  obtain ⟨k, hk, rfl⟩ := mem_changeRows.mp hk'
  refine ⟨k, hk, ?_⟩
  split
  · exact ⟨rfl, .inr rfl, fun _ _ => rfl⟩
  · next other => exact ⟨rfl, .inl rfl, fun is live => absurd (by simp [is, live]) other⟩

/-- The service of a refused job is halted. -/
theorem Building.halts
    (h : Building (accepted ++ (t :: owed).map (·.draft)) (t :: owed) s.services s.jobs r j)
    (mine : t.serviceId = r.id) : Halted (accepted ++ owed.map (·.draft))
      (CommittedJob.takenBack now t reason s).jobs { r with status := .pending, updatedAt := now } where
  status := rfl
  failed k' hk' of := by
    obtain ⟨k, hk, same, is, fails⟩ := takenBack_job now reason hk'
    rcases h.others k hk (same.symm.trans of) with rfl | failed
    · exact fails (h.owing t List.mem_cons_self mine).symm (isLiveJob_iff.mp h.live).2.2
    · rcases is with rfl | failed
      · exact failed
      · exact failed
  none := by
    have once := h.once
    rw [countP_promised, List.map_cons, List.countP_cons_of_pos (by simpa using mine),
      ← Nat.add_assoc] at once
    rw [countP_promised]
    exact Nat.succ.inj once

/-- A service that is being built goes on when the job of another one is taken back. -/
theorem Building.spared
    (h : Building (accepted ++ (t :: owed).map (·.draft)) (t :: owed) s.services s.jobs r j)
    (other : t.serviceId ≠ r.id)
    (apart : ∀ k ∈ s.jobs, k.serviceId = r.id → k.id ≠ t.jobId) :
    Building (accepted ++ owed.map (·.draft)) owed (CommittedJob.takenBack now t reason s).services
      (CommittedJob.takenBack now t reason s).jobs r j where
  here := by
    rw [CommittedJob.takenBack_services]
    refine mem_changeRows.mpr ⟨r, h.here, ?_⟩
    rw [if_neg (by simp [Ne.symm other])]
  status := h.status
  job := by
    rw [CommittedJob.takenBack_jobs]
    refine mem_changeRows.mpr ⟨j, h.job, ?_⟩
    rw [if_neg (by simp [apart j h.job (isLiveJob_iff.mp h.live).1])]
  live := h.live
  others k' hk' of := by
    obtain ⟨k, hk, same, is, -⟩ := takenBack_job now reason hk'
    rcases is with rfl | failed
    · exact h.others k' hk of
    · exact .inr failed
  once := by
    have once := h.once
    rw [countP_promised, List.map_cons, List.countP_cons_of_neg (by simpa using other)] at once
    rw [countP_promised]
    exact once
  owing x hx := h.owing x (List.mem_cons_of_mem _ hx)

/-- A service that was halted stays so. -/
theorem Halted.spared (h : Halted (accepted ++ (t :: owed).map (·.draft)) s.jobs r) :
    Halted (accepted ++ owed.map (·.draft)) (CommittedJob.takenBack now t reason s).jobs r where
  status := h.status
  failed k' hk' of := by
    obtain ⟨k, hk, same, is, -⟩ := takenBack_job now reason hk'
    rcases is with rfl | failed
    · exact h.failed k' hk of
    · exact failed
  none := by
    have none := h.none
    rw [countP_promised, List.map_cons, List.countP_cons] at none
    rw [countP_promised]
    omega

/-- The service of a refused job is halted, and no other one is concerned. -/
theorem Underway.refuse (h : Underway orderId accepted (t :: owed) s) (linked : s.Linked) :
    Underway orderId accepted owed (CommittedJob.takenBack now t reason s) := by
  obtain ⟨rt, jt, ofT, -, buildingT, isJob⟩ := h.building linked List.mem_cons_self
  have ofJob : jt.serviceId = t.serviceId := (isLiveJob_iff.mp buildingT.live).1.trans ofT
  have apart {r : ServiceRow} (other : t.serviceId ≠ r.id) (k : JobRow) (hk : k ∈ s.jobs)
      (of : k.serviceId = r.id) : k.id ≠ t.jobId := by
    intro same
    rw [eq_of_key linked.jobs hk buildingT.job (same.trans isJob), ofJob] at of
    exact other of
  -- a service of the store that is left is one that was there, pending if the job was its own
  have service {r' : ServiceRow} (hr' : r' ∈ (CommittedJob.takenBack now t reason s).services) :
      ∃ r ∈ s.services, r'.itemId = r.itemId ∧ r' = if r.id == t.serviceId && r.status == .provisioning
        then { r with status := .pending, updatedAt := now } else r := by
    rw [CommittedJob.takenBack_services] at hr'
    obtain ⟨r, hr, rfl⟩ := mem_changeRows.mp hr'
    refine ⟨r, hr, ?_, rfl⟩
    split <;> rfl
  constructor
  · rw [Checkout.itemsOf_congr (CommittedJob.takenBack_items now t reason s)]
    intro item hi
    rcases h.lines item hi with ⟨r, j, line, building⟩ | halted
    · by_cases mine : t.serviceId = r.id
      · refine .inr fun r' hr' line' => ?_
        obtain ⟨x, hx, same, rfl⟩ := service hr'
        obtain rfl := eq_of_key linked.serviceItems hx building.here
          (same.symm.trans (line'.trans line.symm))
        rw [if_pos (by simp [mine, building.status])]
        exact building.halts now reason mine
      · exact .inl ⟨r, j, line, building.spared now reason mine (apart mine)⟩
    · refine .inr fun r' hr' line' => ?_
      obtain ⟨x, hx, same, rfl⟩ := service hr'
      have waits := halted x hx (same.symm.trans line')
      rw [if_neg (by simp [waits.status])]
      exact waits.spared now reason
  · intro x hx
    obtain ⟨r, hr, is, line⟩ := h.owing x (List.mem_cons_of_mem _ hx)
    obtain ⟨r', hr', same⟩ := exists_right_of_forall₂ (CommittedJob.takenBack_continues now t reason s) hr
    refine ⟨r', hr', same.id.trans is, ?_⟩
    rw [Store.isLineOf, CommittedJob.takenBack_items, ← Store.isLineOf, same.itemId]
    exact line
  · intro d hd id builds
    have ids := map_eq_of_forall₂ (fun h => h.id) (CommittedJob.takenBack_continues now t reason s)
    rw [ids]
    exact h.known d hd id builds

end refuse

/-- The service of a job that is taken back waits. -/
theorem Underway.stalls {t : CommittedJob} (h : Underway orderId accepted (t :: owed) s)
    (linked : s.Linked) (now : Instant) (reason : String) :
    (CommittedJob.takenBack now t reason s).Stalled orderId := by
  obtain ⟨r, j, of, line, building, -⟩ := h.building linked List.mem_cons_self
  refine ⟨{ r with status := .pending, updatedAt := now }, ?_, ?_, rfl⟩
  · rw [CommittedJob.takenBack_services]
    exact mem_changeRows.mpr ⟨r, building.here, by rw [if_pos (by simp [of, building.status])]⟩
  · rwa [Store.isLineOf, CommittedJob.takenBack_items, ← Store.isLineOf]

/-- Whatever the queue answers, every line is built or halted; and if it refuses a job, a service of the
order waits. -/
theorem Underway.answered (o : Outside) {w : World} (h : Underway orderId accepted owed w.store)
    (linked : w.store.Linked) :
    Underway orderId (accepted ++ o.accepted w.offered.length (owed.map (·.draft))) []
      (CommittedJob.allAnswered o owed w).store ∧
    (w.store.Stalled orderId ∨ (∃ i < owed.length, o.refuses (w.offered.length + i) = true) →
      (CommittedJob.allAnswered o owed w).store.Stalled orderId) := by
  induction owed generalizing accepted w with
  | nil =>
    constructor
    · change Underway orderId (accepted ++ []) [] w.store
      rwa [List.append_nil]
    · refine fun stalls => stalls.resolve_right ?_
      rintro ⟨i, below, -⟩
      exact Nat.not_lt_zero i below
  | cons t rest ih =>
    have offered : (t.answered o w).offered.length = w.offered.length + 1 := by
      rw [CommittedJob.answered_offered, List.length_append, List.length_singleton]
    have later (i : Nat) : w.offered.length + 1 + i = w.offered.length + (i + 1) := by omega
    change Underway _ _ _ (CommittedJob.allAnswered o rest (t.answered o w)).store ∧
      (_ → (CommittedJob.allAnswered o rest (t.answered o w)).store.Stalled orderId)
    rw [List.map_cons, Outside.accepted]
    have linked' := CommittedJob.answered_linked linked o t
    cases answer : o.refuses w.offered.length with
    | true =>
      have store : (t.answered o w).store =
          CommittedJob.takenBack w.now t (t.refusal o w.offered.length) w.store := by
        rw [CommittedJob.answered_refused answer]
      have after := h.refuse w.now (t.refusal o w.offered.length) linked
      rw [← store] at after
      obtain ⟨ih₁, ih₂⟩ := ih after linked'
      rw [offered] at ih₁
      exact ⟨ih₁, fun _ => ih₂ (.inl (store ▸ h.stalls linked w.now (t.refusal o w.offered.length)))⟩
    | false =>
      have after : Underway orderId (accepted ++ [t.draft]) rest (t.answered o w).store := by
        have h := h.accept
        unfold CommittedJob.answered
        rw [if_neg (by simp [answer])]
        dsimp only
        split <;> exact ⟨h.lines, h.owing, h.known⟩
      have same : w.store.Stalled orderId → (t.answered o w).store.Stalled orderId := by
        unfold CommittedJob.answered
        rw [if_neg (by simp [answer])]
        dsimp only
        split <;> exact id
      obtain ⟨ih₁, ih₂⟩ := ih after linked'
      rw [offered, List.append_assoc, List.singleton_append] at ih₁
      refine ⟨by simpa using ih₁, fun stalls => ih₂ ?_⟩
      rw [offered]
      rcases stalls with stalls | ⟨i, below, refused⟩
      · exact .inl (same stalls)
      · cases i with
        | zero =>
          rw [Nat.add_zero, answer] at refused
          cases refused
        | succ i => exact .inr ⟨i, Nat.lt_of_succ_lt_succ below, by rw [later]; exact refused⟩

theorem halted_awaits {promised : List TaskDraft} {itemId : Uuid}
    (h : ∀ r ∈ s.services, r.itemId = itemId → Halted promised s.jobs r) : s.awaits itemId = true := by
  rw [Store.awaits, Bool.not_eq_true', List.any_eq_false]
  intro r hr handled
  simp only [Bool.and_eq_true, Bool.or_eq_true, beq_iff_eq] at handled
  obtain ⟨line, handled⟩ := handled
  have waits := h r hr line
  rcases handled with done | live
  · rw [waits.status] at done
    cases done
  · obtain ⟨j, hj, is⟩ := List.any_eq_true.mp live
    obtain ⟨of, -, live⟩ := isLiveJob_iff.mp is
    rw [waits.failed j hj of] at live
    cases live

/-- While a service of the order waits, some line has nobody working on it. -/
theorem Underway.awaits (h : Underway orderId accepted owed s) (linked : s.Linked)
    (stalled : s.Stalled orderId) : ∃ item ∈ s.itemsOf orderId, s.awaits item.id = true := by
  obtain ⟨r, hr, line, waits⟩ := stalled
  obtain ⟨item, hi, is⟩ := Store.mem_isLineOf.mp line
  refine ⟨item, hi, ?_⟩
  rcases h.lines item hi with ⟨r', j, same, building⟩ | halted
  · obtain rfl := eq_of_key linked.serviceItems building.here hr (same.trans is)
    rw [building.status] at waits
    cases waits
  · exact halted_awaits halted

/-! ## A checkout commits -/

section commits

variable {order : OrderRow} {w w' : World} {tasks : List CommittedJob}

/-- The jobs are for different services. -/
theorem Checkout.Carried.apart (h : Checkout.Carried order w tasks w') (linked : w.store.Linked) :
    (tasks.map (·.serviceId)).Nodup :=
  commits_apart h.commits h.linked ((linked.nodup_itemsOf order.id).sublist (List.filter_sublist.map _))

theorem Building.handled {promised : List TaskDraft} {r : ServiceRow} {j : JobRow}
    (h : Building promised owed s.services s.jobs r j) : s.awaits r.itemId = false := by
  rw [Store.awaits, Bool.not_eq_false', List.any_eq_true]
  refine ⟨r, h.here, ?_⟩
  have live : s.hasLive r.id = true := List.any_eq_true.mpr ⟨j, h.job, h.live⟩
  simp [live]

/-- A new job is for the service of a line that waited. -/
theorem Checkout.Carried.waited (h : Checkout.Carried order w tasks w') {t : CommittedJob}
    (ht : t ∈ tasks) {r : ServiceRow} (hr : r ∈ w'.store.services) (of : t.serviceId = r.id) :
    w.store.awaits r.itemId = true := by
  obtain ⟨item, hi, -, r', hr', line, service, -⟩ := exists_left_of_forall₂ h.commits ht
  obtain rfl := eq_of_key h.linked.services hr hr' (of.symm.trans service)
  rw [line]
  exact (List.mem_filter.mp hi).2

theorem Checkout.Carried.job_cases (h : Checkout.Carried order w tasks w') {k : JobRow}
    (hk : k ∈ w'.store.jobs) :
    k ∈ w.store.jobs ∨ ∃ t ∈ tasks, k.id = t.jobId ∧ k.serviceId = t.serviceId := by
  rw [h.jobs] at hk
  refine (List.mem_append.mp hk).imp_right fun hk => ?_
  obtain ⟨t, ht, rfl⟩ := List.mem_map.mp hk
  exact ⟨t, ht, rfl, rfl⟩

/-- A service that is being built goes on, and gets no second job. -/
theorem Building.carried {r : ServiceRow} {j : JobRow}
    (h : Building accepted [] w.store.services w.store.jobs r j)
    (carried : Checkout.Carried order w tasks w') : ∃ r', r'.itemId = r.itemId ∧
      Building (accepted ++ tasks.map (·.draft)) tasks w'.store.services w'.store.jobs r' j := by
  obtain ⟨r', hr', starts⟩ := carried.kept r h.here
  have same := starts.continues
  have idle (t : CommittedJob) (ht : t ∈ tasks) : t.serviceId ≠ r'.id := by
    intro of
    have waits := carried.waited ht hr' of
    rw [same.itemId, h.handled] at waits
    cases waits
  refine ⟨r', same.itemId, ?_⟩
  constructor
  · exact hr'
  · rcases starts with rfl | ⟨-, _, rfl⟩
    · exact h.status
    · rfl
  · rw [carried.jobs]
    exact List.mem_append_left _ h.job
  · rw [same.id]
    exact h.live
  · intro k hk of
    rcases carried.job_cases hk with hk | ⟨t, ht, -, ofT⟩
    · exact h.others k hk (of.trans same.id)
    · exact absurd (ofT.symm.trans of) (idle t ht)
  · have none : (tasks.map (·.serviceId)).countP (· == r'.id) = 0 := by
      refine List.countP_eq_zero.mpr fun id hid => ?_
      obtain ⟨t, ht, rfl⟩ := List.mem_map.mp hid
      simpa using idle t ht
    rw [countP_promised, none, same.id]
    exact h.once
  · exact fun t ht of => absurd of (idle t ht)

/-- A line that was halted gets a job. -/
theorem Checkout.Carried.resumes (h : Checkout.Carried order w tasks w') (linked : w.store.Linked)
    (known : ∀ d ∈ accepted, ∀ serviceId, d.builds serviceId = true →
      serviceId ∈ w.store.services.map (·.id)) {item : ItemRow} (hi : item ∈ w.store.itemsOf order.id)
    (halted : ∀ r ∈ w.store.services, r.itemId = item.id → Halted accepted w.store.jobs r) :
    ∃ r j, r.itemId = item.id ∧
      Building (accepted ++ tasks.map (·.draft)) tasks w'.store.services w'.store.jobs r j := by
  obtain ⟨t, ht, -, r, hr, line, service, -, -, status, j, hj, isJob, live⟩ :=
    exists_right_of_forall₂ h.commits (List.mem_filter.mpr ⟨hi, halted_awaits halted⟩)
  have apart := h.apart linked
  have mine {t' : CommittedJob} (ht' : t' ∈ tasks) (of : t'.serviceId = r.id) : t' = t :=
    eq_of_key apart ht' ht (of.trans service.symm)
  refine ⟨r, j, line, ?_⟩
  constructor
  · exact hr
  · exact status
  · exact hj
  · exact live
  · intro k hk of
    rcases h.job_cases hk with hk | ⟨t', ht', isT, ofT⟩
    · obtain ⟨r₀, hr₀, sameId, sameItem⟩ := h.service_before linked h.linked hk hr of
      exact .inr ((halted r₀ hr₀ (sameItem.trans line)).failed k hk (of.trans sameId.symm))
    · obtain rfl := mine ht' (ofT.symm.trans of)
      exact .inl (eq_of_key h.linked.jobs hk hj (isT.trans isJob.symm))
  · have one : (tasks.map (·.serviceId)).countP (· == r.id) = 1 :=
      countP_eq_one apart (List.mem_map_of_mem ht) (by simp [service]) fun id _ is => by
        rw [service]
        exact beq_iff_eq.mp is
    -- the tasks that were accepted build services that were there, and this one was halted
    have none : accepted.countP (TaskDraft.builds r.id) = 0 := by
      refine List.countP_eq_zero.mpr fun d hd builds => ?_
      obtain ⟨r₀, hr₀, is⟩ := List.mem_map.mp (known d hd r.id builds)
      obtain ⟨r₁, hr₁, starts⟩ := h.kept r₀ hr₀
      obtain rfl := eq_of_key h.linked.services hr₁ hr (starts.continues.id.trans is)
      have none := (halted r₀ hr₀ (starts.continues.itemId.symm.trans line)).none
      rw [is] at none
      exact List.countP_eq_zero.mp none d hd builds
    rw [countP_promised, none, one]
  · intro t' ht' of
    rw [mine ht' of]
    exact isJob.symm

/-- A checkout commits a job for each halted line, so that all lines are being built. -/
theorem Underway.committed (h : Underway order.id accepted [] w.store) (linked : w.store.Linked)
    (carried : Checkout.Carried order w tasks w') :
    (∀ item ∈ w'.store.itemsOf order.id, ∃ r j, r.itemId = item.id ∧
      Building (accepted ++ tasks.map (·.draft)) tasks w'.store.services w'.store.jobs r j) ∧
    Underway order.id accepted tasks w'.store := by
  have lines := h.lines
  rw [List.map_nil, List.append_nil] at lines
  have all : ∀ item ∈ w'.store.itemsOf order.id, ∃ r j, r.itemId = item.id ∧
      Building (accepted ++ tasks.map (·.draft)) tasks w'.store.services w'.store.jobs r j := by
    intro item hi
    rw [Checkout.itemsOf_congr carried.items] at hi
    rcases lines item hi with ⟨r, j, line, building⟩ | halted
    · obtain ⟨r', same, building⟩ := building.carried carried
      exact ⟨r', j, same.trans line, building⟩
    · exact carried.resumes linked h.known hi halted
  refine ⟨all, fun item hi => .inl (all item hi), fun t ht => carried.ofOrder t ht, ?_⟩
  intro d hd id builds
  obtain ⟨r, hr, is⟩ := List.mem_map.mp (h.known d hd id builds)
  obtain ⟨r', hr', starts⟩ := carried.kept r hr
  exact List.mem_map.mpr ⟨r', hr', starts.continues.id.trans is⟩

end commits

end HostingBilling
