import HostingBilling.Proofs.Checkout.Fulfilment
import HostingBilling.Proofs.Jobs.Commitment

/-!
# Stranded services

A service is stranded when its live job has no unfinished task that will come to it. Committing jobs
strands their services until they are submitted; submitting a job, accepted or refused, ends that for its
service and touches no other.
-/

namespace HostingBilling

open Store (Quiet Still)

namespace Store

/-- A service of an order that is not done and whose live job no unfinished task will come to. -/
def Stranded (s : Store) (orderId serviceId : Uuid) : Prop :=
  (∃ r ∈ s.services, r.id = serviceId ∧ s.isLineOf orderId r.itemId = true ∧ r.status.isDone = false) ∧
    s.hasLive serviceId = true ∧ ¬ s.Served serviceId

/-- Every service of an order is done, or has a live job and an unfinished task. -/
def Secured (s : Store) (orderId : Uuid) : Prop :=
  ∀ r ∈ s.services, s.isLineOf orderId r.itemId = true →
    r.status = .active ∨ r.status = .terminated ∨ s.hasLive r.id = true ∧ s.Served r.id

/-- The job of a committed job is live. -/
def Due (s : Store) (t : CommittedJob) : Prop :=
  ∃ j ∈ s.jobs, j.id = t.jobId ∧ isLiveJob t.serviceId JobKind.provisionVps.name j = true

/-- Jobs and tasks are as they were, and the same services are done. -/
structure Leaves (a b : Store) : Prop where
  items : b.items = a.items
  services : List.Forall₂ (fun r r' : ServiceRow =>
    r'.id = r.id ∧ r'.itemId = r.itemId ∧ r'.status.isDone = r.status.isDone) a.services b.services
  jobs : b.jobs = a.jobs
  tasks : b.tasks = a.tasks

theorem Leaves.chain : Chain Leaves where
  refl _ := ⟨rfl, List.forall₂_same.mpr fun _ _ => ⟨rfl, rfl, rfl⟩, rfl, rfl⟩
  trans hab hbc := {
    items := hbc.items.trans hab.items
    services := forall₂_trans (fun h k =>
      ⟨k.1.trans h.1, k.2.1.trans h.2.1, k.2.2.trans h.2.2⟩) hab.services hbc.services
    jobs := hbc.jobs.trans hab.jobs
    tasks := hbc.tasks.trans hab.tasks }

theorem Still.leaves {a b : Store} (h : a.Still b) : a.Leaves b :=
  ⟨h.items, h.services ▸ (Leaves.chain.refl a).services, h.jobs, h.tasks⟩

variable {a b s : Store} {orderId serviceId : Uuid}

theorem Leaves.stranded (h : a.Leaves b) :
    b.Stranded orderId serviceId ↔ a.Stranded orderId serviceId := by
  have row : (∃ r ∈ b.services, r.id = serviceId ∧ b.isLineOf orderId r.itemId = true ∧
      r.status.isDone = false) ↔ ∃ r ∈ a.services, r.id = serviceId ∧
        a.isLineOf orderId r.itemId = true ∧ r.status.isDone = false := by
    constructor
    · rintro ⟨r', hr', id, line, done⟩
      obtain ⟨r, hr, same⟩ := exists_left_of_forall₂ h.services hr'
      rw [isLineOf, h.items, ← isLineOf, same.2.1] at line
      exact ⟨r, hr, same.1.symm.trans id, line, same.2.2.symm.trans done⟩
    · rintro ⟨r, hr, id, line, done⟩
      obtain ⟨r', hr', same⟩ := exists_right_of_forall₂ h.services hr
      refine ⟨r', hr', same.1.trans id, ?_, same.2.2.trans done⟩
      rw [isLineOf, h.items, ← isLineOf, same.2.1]
      exact line
  unfold Stranded
  rw [row, hasLive, h.jobs, ← hasLive, Served, h.tasks, ← Served]

theorem Leaves.due (h : a.Leaves b) {t : CommittedJob} : b.Due t ↔ a.Due t := by
  unfold Due
  rw [h.jobs]

/-- Where every line is provided for, an order is secured unless one of its services is stranded. -/
theorem secured_iff (linked : s.Linked)
    (provided : ∀ item ∈ s.itemsOf orderId, s.Provided item.id) :
    s.Secured orderId ↔ ∀ serviceId, ¬ s.Stranded orderId serviceId := by
  constructor
  · rintro secured id ⟨⟨r, hr, rfl, line, notDone⟩, -, unserved⟩
    rcases secured r hr line with active | terminated | ⟨-, served⟩
    · rw [active] at notDone
      cases notDone
    · rw [terminated] at notDone
      cases notDone
    · exact unserved served
  · intro none r hr line
    obtain ⟨item, hi, is⟩ := mem_isLineOf.mp line
    obtain ⟨r', hr', line', state⟩ := provided item hi
    obtain rfl := eq_of_key linked.serviceItems hr' hr (line'.trans is)
    cases done : r'.status.isDone with
    | true =>
      have : r'.status = .active ∨ r'.status = .terminated := by
        simpa [ServiceStatus.isDone] using done
      exact this.imp_right .inl
    | false =>
      have live := (state.resolve_left (by simp [done])).2
      refine .inr (.inr ⟨live, ?_⟩)
      by_contra unserved
      exact none r'.id ⟨⟨r', hr', rfl, line, done⟩, live, unserved⟩

end Store

/-! ## Committing jobs -/

namespace Checkout

/-- What carrying a checkout out leaves: each job it commits is live, its service had none before, and
only the services that had no unfinished task are stranded by it. -/
structure Commitment (orderId : Uuid) (a : Store) (tasks : List CommittedJob) (b : Store) : Prop where
  stranded : ∀ id, b.Stranded orderId id ↔
    a.Stranded orderId id ∨ ∃ t ∈ tasks, t.serviceId = id ∧ ¬ a.Served id
  idle : ∀ t ∈ tasks, a.hasLive t.serviceId = false
  apart : (tasks.map (·.serviceId)).Nodup
  due : ∀ t ∈ tasks, b.Due t
  provided : ∀ item ∈ b.itemsOf orderId, b.Provided item.id

variable {order : OrderRow} {w w' : World} {tasks : List CommittedJob}

section prepares

variable (h : Prepares order (w.store.itemsOf order.id) w tasks w')

include h

theorem Prepares.lines : w'.store.itemsOf order.id = w.store.itemsOf order.id := by
  rw [h.rest]
  rfl

theorem Prepares.served (id : Uuid) : w'.store.Served id ↔ w.store.Served id := by
  rw [h.rest]
  rfl

theorem Prepares.isLineOf (itemId : Uuid) :
    w'.store.isLineOf order.id itemId = w.store.isLineOf order.id itemId := by
  rw [h.rest]
  rfl

/-- Every job was committed for a line that waited. -/
theorem Prepares.committed {t : CommittedJob} (ht : t ∈ tasks) : ∃ item ∈ w.store.itemsOf order.id,
    w.store.awaits item.id = true ∧ w'.store.Commits order.id item t := by
  obtain ⟨item, hi, commits⟩ := exists_left_of_forall₂ h.tasks ht
  obtain ⟨hi, waits⟩ := List.mem_filter.mp hi
  exact ⟨item, hi, waits, commits⟩

/-- A service that is stranded was so before, or its job is one of those that were committed. -/
theorem Prepares.stranded_after {id : Uuid} (stranded : w'.store.Stranded order.id id) :
    w.store.Stranded order.id id ∨ ∃ t ∈ tasks, t.serviceId = id ∧ ¬ w.store.Served id := by
  obtain ⟨⟨r', hr', rfl, line, notDone⟩, live, unserved⟩ := stranded
  rw [h.served] at unserved
  rw [h.isLineOf] at line
  have only {r : ServiceRow} (hr : r ∈ w'.store.services) (same : r.itemId = r'.itemId) : r = r' :=
    eq_of_key h.linked.serviceItems hr hr' same
  obtain ⟨item, hi, is⟩ := Store.mem_isLineOf.mp line
  cases waits : w.store.awaits item.id with
  | true =>
    obtain ⟨t, ht, -, r, hr, itemId, service, -⟩ :=
      exists_right_of_forall₂ h.tasks (List.mem_filter.mpr ⟨hi, waits⟩)
    obtain rfl := only hr (itemId.trans is)
    exact .inr ⟨t, ht, service, unserved⟩
  | false =>
    -- the line has kept its service, which has its live job from before
    obtain ⟨r, hr, itemId, handled⟩ : ∃ r ∈ w.store.services, r.itemId = item.id ∧
        (r.status.isDone || w.store.hasLive r.id) = true := by
      simpa [Store.awaits] using waits
    obtain ⟨r₂, hr₂, starts⟩ := h.services r hr
    obtain rfl := only hr₂ (starts.continues.itemId.trans (itemId.trans is))
    have stillNot : r.status.isDone = false := by
      rcases starts with rfl | ⟨notDone, -⟩
      · exact notDone
      · exact notDone
    rw [stillNot, Bool.false_or] at handled
    rw [starts.continues.itemId] at line
    rw [starts.continues.id] at unserved ⊢
    exact .inl ⟨⟨r, hr, rfl, line, stillNot⟩, handled, unserved⟩

theorem Prepares.stranded_before {id : Uuid} (stranded : w.store.Stranded order.id id) :
    w'.store.Stranded order.id id := by
  obtain ⟨⟨r, hr, rfl, line, notDone⟩, live, unserved⟩ := stranded
  obtain ⟨r', hr', starts⟩ := h.services r hr
  refine ⟨⟨r', hr', starts.continues.id, ?_, ?_⟩, ?_, fun after => unserved ((h.served _).mp after)⟩
  · rw [h.isLineOf, starts.continues.itemId]
    exact line
  · rcases starts with rfl | ⟨-, now, rfl⟩
    · exact notDone
    · rfl
  · obtain ⟨j, hj, isLive⟩ := List.any_eq_true.mp live
    exact List.any_eq_true.mpr ⟨j, h.jobs j hj, isLive⟩

theorem Prepares.stranded_committed {t : CommittedJob} (ht : t ∈ tasks)
    (unserved : ¬ w.store.Served t.serviceId) : w'.store.Stranded order.id t.serviceId := by
  obtain ⟨item, hi, -, -, r, hr, itemId, service, -, -, building, j, hj, -, isLive⟩ := h.committed ht
  refine ⟨⟨r, hr, service.symm, ?_, by rw [building]; rfl⟩, ?_,
    fun after => unserved ((h.served _).mp after)⟩
  · exact Store.mem_isLineOf.mpr ⟨item, h.lines ▸ hi, itemId.symm⟩
  · exact List.any_eq_true.mpr ⟨j, hj, service ▸ isLive⟩

/-- The service of a line that waits has no live job, also when it is a new one. -/
theorem Prepares.idle (linked : w.store.Linked) {t : CommittedJob} (ht : t ∈ tasks) :
    w.store.hasLive t.serviceId = false := by
  obtain ⟨item, -, waits, -, r', hr', itemId, service, -⟩ := h.committed ht
  cases live : w.store.hasLive t.serviceId with
  | false => rfl
  | true =>
    obtain ⟨j, hj, isLive⟩ := List.any_eq_true.mp live
    obtain ⟨r, hr, same⟩ := List.mem_map.mp (linked.jobService (List.mem_map_of_mem hj))
    have same : r.id = t.serviceId := same.trans (isLiveJob_iff.mp isLive).1
    obtain ⟨r₂, hr₂, starts⟩ := h.services r hr
    obtain rfl := eq_of_key h.linked.services hr₂ hr' (starts.continues.id.trans (same.trans service))
    have settled : w.store.awaits item.id = false := by
      simp only [Store.awaits, Bool.not_eq_false', List.any_eq_true]
      exact ⟨r, hr, by simp [same, live, starts.continues.itemId.symm.trans itemId]⟩
    rw [settled] at waits
    cases waits

/-- The jobs are for different services. -/
theorem Prepares.apart (linked : w.store.Linked) : (tasks.map (·.serviceId)).Nodup :=
  commits_apart h.tasks h.linked ((linked.nodup_itemsOf order.id).sublist (List.filter_sublist.map _))

theorem Prepares.commitment (linked : w.store.Linked) :
    Commitment order.id w.store tasks w'.store where
  stranded id := by
    refine ⟨h.stranded_after, ?_⟩
    rintro (before | ⟨t, ht, rfl, unserved⟩)
    · exact h.stranded_before before
    · exact h.stranded_committed ht unserved
  idle t ht := h.idle linked ht
  apart := h.apart linked
  due t ht := by
    obtain ⟨item, -, -, -, r, -, -, service, -, -, -, j, hj, id, isLive⟩ := h.committed ht
    exact ⟨j, hj, id, service ▸ isLive⟩
  provided := h.lines ▸ h.provided

end prepares

theorem Commitment.still {orderId : Uuid} {a b c d : Store} (h : Commitment orderId b tasks c)
    (before : a.Still b) (after : c.Still d) : Commitment orderId a tasks d where
  stranded id := by
    rw [after.leaves.stranded, h.stranded, before.leaves.stranded, Store.Served, before.tasks,
      ← Store.Served]
  idle t ht := by
    rw [Store.hasLive, ← before.jobs, ← Store.hasLive]
    exact h.idle t ht
  apart := h.apart
  due t ht := after.leaves.due.mpr (h.due t ht)
  provided item hi := by
    rw [Store.itemsOf, after.items, ← Store.itemsOf] at hi
    exact provided_later (h.provided item hi) (fun r hr => ⟨r, after.services ▸ hr, .inl rfl⟩)
      fun j hj => after.jobs ▸ hj

/-- A checkout that goes through commits the jobs of the lines that waited. -/
theorem carryOut_commitment {c : Checkout} {owed : List CommittedJob} {orderId : Uuid}
    (law : JobLaw owed w) (reference : c.orderId = .ok orderId)
    (ran : c.carryOut.run w = (.ok tasks, w')) (room : w'.nextId ≤ Uuid.limit) :
    Commitment orderId w.store tasks w'.store := by
  rw [carryOut, reference, Action.run_bind_of_ok (Action.run_ofExcept_ok _ _)] at ran
  obtain ⟨order, found, ⟨steps⟩⟩ := settle_ok law.calm (Action.run_transaction_ok ran)
  obtain ⟨status, invoiceId, outcome, paid, invoiced, recorded, prepared, ranOrder, ranInvoice,
    ranPayment, ranItems, ranMove⟩ := steps
  have is : order.id = orderId := by simpa using List.find?_some found
  have still := Still.chain.follows_trans (Still.chain.follows_trans
    ((settleOrder_still order).follows ranOrder) ((Invoices.ensureInitial_still _ _).follows ranInvoice))
    ((Payments.record_still _).follows ranPayment)
  have last := (moveOn_still order status tasks).follows ranMove
  have law := law.quiet still.quiet
  have lines : paid.store.itemsOf order.id = recorded.store.itemsOf order.id := by
    have same := ((settleOrder_still order).follows ranOrder).store.items
    rw [Store.itemsOf, Store.itemsOf, still.store.items, same]
  rw [lines] at ranItems
  have prepares := prepareItems_run law.calm law.linked law.numbered
    (fun item hi => List.mem_map_of_mem (Store.mem_itemsOf.mp hi).1) (law.linked.nodup_itemsOf order.id)
    ranItems (Nat.le_trans last.nextId room)
  exact is ▸ (prepares.commitment law.linked).still still.store last.store

end Checkout

/-! ## Submitting them -/

namespace CommittedJob

/-- Submitting a job ends it for its service, and touches no other. -/
structure Discharges (t : CommittedJob) (a b : Store) : Prop where
  stranded : ∀ orderId id, b.Stranded orderId id ↔ a.Stranded orderId id ∧ id ≠ t.serviceId
  due : ∀ x, a.Due x → x.serviceId ≠ t.serviceId → b.Due x

variable {o : Outside} {t : CommittedJob} {w w' : World} {owed : List CommittedJob} {a b c : Store}

theorem Discharges.after (h : Discharges t a b) (step : b.Leaves c) : Discharges t a c where
  stranded orderId id := by rw [step.stranded, h.stranded]
  due x due other := step.due.mpr (h.due x due other)

/-- An accepted job has its task. -/
theorem accepted_discharges (t : CommittedJob) (s : Store) (now : Instant) (id : Uuid) :
    Discharges t s { s with
      tasks := s.tasks ++ [TaskQueue.newRow now id (TaskDraft.provision t.payload)] } where
  stranded orderId serviceId := by
    have served : Store.Served { s with
        tasks := s.tasks ++ [TaskQueue.newRow now id (TaskDraft.provision t.payload)] } serviceId ↔
          s.Served serviceId ∨ serviceId = t.serviceId := by
      simp only [Store.Served, List.mem_append, List.mem_singleton, or_and_right, exists_or,
        exists_eq_left]
      rw [newRow_serves_iff]
      rfl
    unfold Store.Stranded
    rw [served, not_or]
    constructor
    · rintro ⟨row, live, unserved, other⟩
      exact ⟨⟨row, live, unserved⟩, other⟩
    · rintro ⟨⟨row, live, unserved⟩, other⟩
      exact ⟨row, live, unserved, other⟩
  due _ due _ := due

/-- A refused job is failed, and it was the only live one of its service. -/
theorem failed_discharges (law : JobLaw owed w) (due : w.store.Due t) (error : String) :
    Discharges t w.store (w.store.abandonJob w.now t.jobId error).2 := by
  obtain ⟨k, hk, is, isLive⟩ := due
  obtain ⟨ofK, kindK, liveK⟩ := isLiveJob_iff.mp isLive
  have untouched {j : JobRow} (hj : j ∈ w.store.jobs) (other : j.id ≠ t.jobId) :
      j ∈ (w.store.abandonJob w.now t.jobId error).2.jobs :=
    mem_changeRows.mpr ⟨j, hj, by simp [other]⟩
  have apart {j : JobRow} (hj : j ∈ w.store.jobs) (other : j.serviceId ≠ t.serviceId) :
      j.id ≠ t.jobId := by
    intro same
    rw [eq_of_key law.linked.jobs hj hk (same.trans is.symm)] at other
    exact other ofK
  have live (id : Uuid) : (w.store.abandonJob w.now t.jobId error).2.hasLive id = true ↔
      w.store.hasLive id = true ∧ id ≠ t.serviceId := by
    simp only [Store.hasLive, List.any_eq_true]
    constructor
    · rintro ⟨j', hj', isLive'⟩
      obtain ⟨j, hj, rfl⟩ := mem_changeRows.mp hj'
      split at isLive'
      · cases (isLiveJob_iff.mp isLive').2.2
      · next other =>
        refine ⟨⟨j, hj, isLive'⟩, ?_⟩
        rintro rfl
        obtain ⟨of, kind, live⟩ := isLiveJob_iff.mp isLive'
        have same := law.oneLive j hj k hk (of.trans ofK.symm) (kind.trans kindK.symm) live liveK
        simp [same, is, liveK] at other
    · rintro ⟨⟨j, hj, isLive'⟩, other⟩
      have of := (isLiveJob_iff.mp isLive').1
      exact ⟨j, untouched hj (apart hj (of ▸ other)), isLive'⟩
  constructor
  · intro orderId id
    unfold Store.Stranded
    rw [live]
    constructor
    · rintro ⟨row, ⟨live, other⟩, unserved⟩
      exact ⟨⟨row, live, unserved⟩, other⟩
    · rintro ⟨⟨row, live, unserved⟩, other⟩
      exact ⟨row, ⟨live, other⟩, unserved⟩
  · rintro x ⟨j, hj, id, isLive'⟩ other
    exact ⟨j, untouched hj (apart hj ((isLiveJob_iff.mp isLive').1 ▸ other)), id, isLive'⟩

theorem takeBack_leaves (id : Uuid) : (Services.takeBack id).Keeps Store.Leaves := by
  refine Store.Leaves.chain.change _ fun now s => ⟨rfl, ?_, rfl, rfl⟩
  refine forall₂_changeRows (fun _ => ⟨rfl, rfl, rfl⟩) fun r _ selected => ⟨rfl, rfl, ?_⟩
  simp only [Bool.and_eq_true, beq_iff_eq] at selected
  rw [selected.2]
  rfl

theorem revertServiceStep_leaves (t : CommittedJob) : t.revertServiceStep.Keeps Store.Leaves :=
  stepError_keeps Store.Leaves.chain (takeBack_leaves _) _ _

theorem revertOrderStep_leaves (t : CommittedJob) : t.revertOrderStep.Keeps Store.Leaves :=
  stepError_keeps Store.Leaves.chain ((Orders.takeBack_still _).mono Store.Still.leaves) _ _

theorem submit_discharges (durable : o.durable = true) (law : JobLaw owed w) (due : w.store.Due t)
    {errors : List String} (ran : (t.submit o).run w = (.ok errors, w')) :
    Discharges t w.store w'.store := by
  rw [submit, Action.run_bind, Action.run_attempt] at ran
  cases refused : o.refuses w.offered.length with
  | false =>
    rw [TaskQueue.submit_accepted law.calm durable refused] at ran
    cases ran
    exact accepted_discharges t w.store w.now _
  | true =>
    rw [TaskQueue.submit_refused refused] at ran
    obtain ⟨errors, w₁, ranBack, last⟩ := Action.run_bind_ok ran
    cases last
    rw [retract, Action.run_bind_of_ok (failJobStep_run (by exact law.calm) t _)] at ranBack
    have rest := retract_rest_keeps Store.Leaves.chain (revertServiceStep_leaves t)
      (revertOrderStep_leaves t) []
    exact (failed_discharges law due _).after (rest.follows ranBack).store

/-- Submitting some jobs one after another. -/
theorem submitEach_stranded (durable : o.durable = true) {done : List CommittedJob}
    (law : JobLaw (done ++ owed) w) (apart : (done.map (·.serviceId)).Nodup)
    (due : ∀ t ∈ done, w.store.Due t) {result : Nat × List String}
    (ran : (submitEach o done).run w = (.ok result, w')) (room : w'.nextId ≤ Uuid.limit) :
    (∀ orderId id, w'.store.Stranded orderId id ↔
      w.store.Stranded orderId id ∧ ∀ t ∈ done, id ≠ t.serviceId) ∧
    ∀ x, w.store.Due x → (∀ t ∈ done, x.serviceId ≠ t.serviceId) → w'.store.Due x := by
  induction done generalizing w result with
  | nil =>
    cases ran
    exact ⟨by simp, fun x due _ => due⟩
  | cons t rest ih =>
    obtain ⟨errors, w₁, ranFirst, ran⟩ := Action.run_bind_ok ran
    obtain ⟨more, _, ranRest, last⟩ := Action.run_bind_ok ran
    cases last
    have counted := ((submitEach_counts o rest).follows ranRest).nextId
    obtain ⟨other, apart⟩ := List.nodup_cons.mp apart
    have first := submit_discharges durable law (due t List.mem_cons_self) ranFirst
    have law₁ := submit_law durable law ranFirst (Nat.le_trans counted room)
    have others : ∀ x ∈ rest, x.serviceId ≠ t.serviceId :=
      fun x hx same => other (List.mem_map.mpr ⟨x, hx, same⟩)
    obtain ⟨stranded, kept⟩ := ih law₁ apart
      (fun x hx => first.due x (due x (List.mem_cons_of_mem _ hx)) (others x hx)) ranRest
    constructor
    · intro orderId id
      rw [stranded, first.stranded, List.forall_mem_cons, and_assoc]
    · intro x due apart
      obtain ⟨here, there⟩ := List.forall_mem_cons.mp apart
      exact kept x (first.due x due here) there

end CommittedJob

/-- Of the jobs that were committed, those that are left strand their services, unless an older task is
still unfinished. -/
theorem Checkout.Commitment.left {orderId : Uuid} {a b c : Store} {done left : List CommittedJob}
    (h : Commitment orderId a (done ++ left) b)
    (submitted : ∀ id, c.Stranded orderId id ↔
      b.Stranded orderId id ∧ ∀ t ∈ done, id ≠ t.serviceId) (id : Uuid) :
    c.Stranded orderId id ↔
      a.Stranded orderId id ∨ ∃ t ∈ left, t.serviceId = id ∧ ¬ a.Served id := by
  rw [submitted, h.stranded]
  have apart := h.apart
  rw [List.map_append, List.nodup_append] at apart
  constructor
  · rintro ⟨before | ⟨t, ht, rfl, unserved⟩, other⟩
    · exact .inl before
    · rcases List.mem_append.mp ht with gone | there
      · exact absurd rfl (other t gone)
      · exact .inr ⟨t, there, rfl, unserved⟩
  · rintro (before | ⟨t, ht, rfl, unserved⟩)
    · refine ⟨.inl before, ?_⟩
      rintro t ht rfl
      have idle := h.idle t (List.mem_append_left _ ht)
      rw [before.2.1] at idle
      cases idle
    · constructor
      · exact .inr ⟨t, List.mem_append_right _ ht, rfl, unserved⟩
      · intro x hx same
        exact apart.2.2 _ (List.mem_map_of_mem hx) _ (List.mem_map_of_mem ht) same.symm

end HostingBilling
