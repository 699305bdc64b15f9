import HostingBilling.Proofs.Checkout.Settlement
import HostingBilling.Proofs.Jobs.Law

/-!
# Committing and submitting jobs

A checkout and an operator commit jobs that are then owed a task. Submitting pays: an accepted task serves
the service of its job, and a job whose submission is refused is failed before anything else happens.
-/

namespace HostingBilling

open Store (Apart Declines Quiet Eases Still)

/-- Whatever comes of the action, the law of jobs holds after it if it held before. -/
def Action.Upholds {α : Type} (a : Action α) : Prop :=
  ∀ w, w.nextId ≤ (a.run w).2.nextId ∧
    ∀ owed, JobLaw owed w → (a.run w).2.nextId ≤ Uuid.limit → JobLaw owed (a.run w).2

namespace Action.Upholds

variable {α β : Type}

theorem of_quiet {a : Action α} (h : a.Keeps Quiet) : a.Upholds :=
  fun w => ⟨(h w).nextId, fun _ law _ => law.quiet (h w)⟩

theorem attempt {a : Action α} (h : a.Upholds) : a.attempt.Upholds := fun w => h w

theorem bind {a : Action α} {f : α → Action β} (first : a.Upholds) (rest : ∀ x, (f x).Upholds) :
    (a >>= f).Upholds := by
  intro w
  have start := first w
  rw [Action.run_bind]
  rcases ran : a.run w with ⟨e | x, w₁⟩
  · rw [ran] at start
    exact start
  · rw [ran] at start
    have next := rest x w₁
    constructor
    · exact Nat.le_trans start.1 next.1
    · intro owed law room
      exact next.2 owed (start.2 owed law (Nat.le_trans next.1 room)) room

end Action.Upholds

/-! ## Creating jobs -/

namespace Checkout

variable {order : OrderRow} {item : ItemRow} {w w' : World} {owed : List CommittedJob}

theorem ensured_law {r : ServiceRow} {s : Store} (law : JobLaw owed w)
    (ensured : w.store.Ensures w.now (.ofNat w.nextId) order.userId item r s)
    (known : item.id ∈ w.store.items.map (·.id)) (room : w.nextId < Uuid.limit) :
    JobLaw owed { w with nextId := w.nextId + 1, store := s } := by
  cases ensured with
  | found => exact law.quiet ⟨rfl, Nat.le_succ _, fun _ spared => spared, Quiet.refl _⟩
  | added _ unserved => exact law.addService rfl room unserved known

theorem ItemPrepared.law {task : Option CommittedJob} (h : ItemPrepared order item w task w')
    (law : JobLaw owed w) (known : item.id ∈ w.store.items.map (·.id))
    (room : w'.nextId ≤ Uuid.limit) : JobLaw (task.toList ++ owed) w' := by
  cases h with
  | handled r s n ensured _ counted =>
    apply (ensured_law law ensured known (Nat.lt_of_lt_of_le counted room)).quiet
    exact ⟨rfl, counted, fun _ spared => spared, Store.quiet_startService w.now r.id s⟩
  | committed r s ensured _ idle =>
    have room : w.nextId + 1 < Uuid.limit := room
    have there : JobLaw owed { w with nextId := w.nextId + 1, store := (s.startService w.now r.id).2 } := by
      apply (ensured_law law ensured known (by omega)).quiet
      exact ⟨rfl, Nat.le_refl _, fun _ spared => spared, Store.quiet_startService w.now r.id s⟩
    obtain ⟨r', hr', starts, -⟩ := started_mem ensured
    refine there.addJob (d := ⟨.ofNat (w.nextId + 1), r.id, order.id, r.planId, r.userId⟩) rfl room
      (List.mem_map.mpr ⟨r', hr', starts.continues.id⟩) (there.idle idle)

/-- The jobs that were created for some lines are owed. -/
theorem prepareItems_law {items : List ItemRow} {tasks : List CommittedJob} (law : JobLaw owed w)
    (known : ∀ item ∈ items, item.id ∈ w.store.items.map (·.id))
    (ran : (prepareItems order items).run w = (.ok tasks, w')) (room : w'.nextId ≤ Uuid.limit) :
    JobLaw (tasks ++ owed) w' := by
  induction items generalizing w tasks owed with
  | nil =>
    cases ran
    exact law
  | cons item rest ih =>
    obtain ⟨task, w₁, ranItem, ranRest⟩ := Action.run_bind_ok ran
    obtain ⟨more, _, ranRest, last⟩ := Action.run_bind_ok ranRest
    cases last
    obtain ⟨_, _, ranItem', prepared⟩ := prepareItem_run law.calm law.linked order item
    rw [ranItem] at ranItem'
    cases ranItem'
    have counted := ((prepareItems_plain order rest).counts.follows ranRest).nextId
    have first := prepared.law law (known item List.mem_cons_self) (Nat.le_trans counted room)
    have same : w₁.store.items = w.store.items := by rw [prepared.rest]
    have then_ := ih first (fun x hx => same ▸ known x (List.mem_cons_of_mem _ hx)) ranRest
    apply then_.owe
    intro d
    simp only [List.mem_append]
    tauto

theorem settle_law {c : Checkout} {orderId : Uuid} {tasks : List CommittedJob} (law : JobLaw owed w)
    (ran : (c.settle orderId).run w = (.ok tasks, w')) (room : w'.nextId ≤ Uuid.limit) :
    JobLaw (tasks ++ owed) w' := by
  obtain ⟨order, found, ⟨steps⟩⟩ := settle_ok law.calm ran
  obtain ⟨status, invoiceId, outcome, paid, invoiced, recorded, prepared, ranOrder, ranInvoice,
    ranPayment, ranItems, ranMove⟩ := steps
  have first := (settleOrder_still order).quiet.follows ranOrder
  have second := (Invoices.ensureInitial_still _ _).quiet.follows ranInvoice
  have third := (Payments.record_still _).quiet.follows ranPayment
  have quiet := Quiet.chain.follows_trans (Quiet.chain.follows_trans first second) third
  have last := (moveOn_still order status tasks).quiet.follows ranMove
  refine (prepareItems_law (law.quiet quiet) ?_ ranItems (Nat.le_trans last.nextId room)).quiet last
  intro item hi
  rw [quiet.store.items, ← first.store.items]
  exact List.mem_map_of_mem (Store.mem_itemsOf.mp hi).1

/-- What a checkout commits is owed. One that fails leaves nothing behind. -/
theorem carryOut_law {c : Checkout} {r : Except Failure (List CommittedJob)} (law : JobLaw owed w)
    (ran : c.carryOut.run w = (r, w')) (room : w'.nextId ≤ Uuid.limit) :
    JobLaw (match r with | .ok tasks => tasks ++ owed | .error _ => owed) w' := by
  rw [carryOut, Action.run_bind, Action.run_ofExcept] at ran
  cases reference : c.orderId with
  | error e =>
    rw [reference] at ran
    cases ran
    exact law
  | ok orderId =>
    simp only [reference] at ran
    cases r with
    | error e => exact law.quiet ((settle_plain c orderId).undone Quiet.chain ran)
    | ok tasks => exact settle_law law (Action.run_transaction_ok ran) room

theorem carryOut_plain (c : Checkout) : c.carryOut.Plain :=
  .bind (.ofExcept _) fun orderId => .transaction (settle_plain c orderId)

theorem carryOut_counts (c : Checkout) : c.carryOut.Keeps fun _ _ => True := (carryOut_plain c).counts

/-- A checkout that fails has used up identifiers and met faults at most. -/
theorem carryOut_failed {c : Checkout} {failure : Failure} {v u : World}
    (failed : c.carryOut.run v = (.error failure, u)) :
    ∃ nextId faults, u = { v with nextId := nextId, faults := faults } := by
  have same : Chain fun a b : Store => b = a := ⟨fun _ => rfl, fun hab hbc => hbc.trans hab⟩
  have kept : u.store = v.store := by
    rw [carryOut, Action.run_bind, Action.run_ofExcept] at failed
    cases reference : c.orderId with
    | error e =>
      rw [reference] at failed
      cases failed
      rfl
    | ok orderId =>
      rw [reference] at failed
      exact ((settle_plain c orderId).undone same failed).store
  obtain ⟨store, nextId, faults, left⟩ := (carryOut_plain c).frame v
  rw [failed] at left
  have left : u = _ := left
  rw [left] at kept ⊢
  have kept : store = v.store := kept
  rw [kept]
  exact ⟨nextId, faults, rfl⟩

end Checkout

/-! ## Submitting them -/

theorem Outside.refusal?_refused {o : Outside} {n : Nat} (h : o.refuses n = true) (t : TaskDraft) :
    o.refusal? n t = some (o.refusal n t) := if_pos h

theorem Outside.refusal?_accepted {o : Outside} {n : Nat} (h : o.refuses n = false) (t : TaskDraft) :
    o.refusal? n t = none := if_neg (by simp [h])

namespace TaskQueue

variable {o : Outside} {t : TaskDraft} {w : World}

theorem submit_refused (h : o.refuses w.offered.length = true) : (submit o t).run w =
    (.error (o.refusal w.offered.length t), { w with offered := w.offered ++ [t] }) := by
  rw [submit_run, Outside.refusal?_refused h]
  rfl

theorem submit_accepted (calm : w.faults = []) (durable : o.durable = true)
    (h : o.refuses w.offered.length = false) : (submit o t).run w =
      (.ok (.ofNat w.nextId), { w with
        offered := w.offered ++ [t]
        nextId := w.nextId + 1
        store := { w.store with tasks := w.store.tasks ++ [newRow w.now (.ofNat w.nextId) t] } }) := by
  rw [submit_run, Outside.refusal?_accepted h, receive]
  simp only [if_pos durable, enqueue, insert, Action.run_bind, Action.run_attempt, Action.run_freshId]
  rw [run_change (by exact calm)]
  rfl

/-- A queue may also accept a task and keep it elsewhere. -/
theorem submit_elsewhere (elsewhere : o.durable = false) (h : o.refuses w.offered.length = false) :
    (submit o t).run w =
      (.ok (.ofNat w.nextId), { w with offered := w.offered ++ [t], nextId := w.nextId + 1 }) := by
  rw [submit_run, Outside.refusal?_accepted h, elsewhere]
  rfl

theorem submit_counts (o : Outside) (t : TaskDraft) : (submit o t).Keeps fun _ _ => True :=
  submit_keeps Chain.all (fun _ _ => trivial) o t

end TaskQueue

namespace CommittedJob

variable {o : Outside} {t : CommittedJob} {w : World} {owed : List CommittedJob}

theorem abandon_eases (id : Uuid) (error : String) : (Jobs.abandon id error).Keeps Eases := by
  refine Eases.chain.change _ fun now s => ⟨rfl, rfl, (Quiet.refl s).services, ?_, rfl⟩
  exact forall₂_changeRows .refl fun j _ _ => ⟨rfl, rfl, rfl, rfl, fun live => nomatch live⟩

theorem revertServiceStep_eases (t : CommittedJob) : t.revertServiceStep.Keeps Eases :=
  stepError_keeps Eases.chain ((Services.takeBack_quiet _).mono Quiet.eases) _ _

theorem revertOrderStep_eases (t : CommittedJob) : t.revertOrderStep.Keeps Eases :=
  stepError_keeps Eases.chain ((Orders.takeBack_still _).quiet.mono Quiet.eases) _ _

/-- The steps after the first keep what each of them keeps. -/
theorem retract_rest_keeps {R : Store → Store → Prop} (chain : Chain R)
    (service : t.revertServiceStep.Keeps R) (order : t.revertOrderStep.Keeps R) (first : List String) :
    (do return first ++ (← t.revertServiceStep) ++ (← t.revertOrderStep)).Keeps R :=
  chain.bind service fun _ => chain.bind order fun _ => chain.pure _

theorem stepError_run {a : Action Bool} {x : Bool} {w' : World} (ran : a.run w = (.ok x, w')) (label : String)
    (id : Uuid) : (stepError label id a).run w = (.ok [], w') := by
  rw [stepError, Action.run_bind, Action.run_attempt, ran]
  rfl

theorem failJobStep_run (calm : w.faults = []) (t : CommittedJob) (reason : String) :
    (t.failJobStep reason).run w = (.ok [], { w with
      store := (w.store.abandonJob w.now t.jobId ("enqueue failed: " ++ reason)).2 }) :=
  stepError_run (run_change calm _ _) _ _

/-- The first step of taking a job back ends what it is owed. -/
theorem failJobStep_law (law : JobLaw (t :: owed) w) (reason : String) :
    JobLaw owed ((t.failJobStep reason).run w).2 := by
  have failed := failJobStep_run law.calm t reason
  have closed := law.eases ((stepError_keeps Eases.chain (abandon_eases _ _) _ _).follows failed)
  rw [failed]
  apply closed.forgive
  intro j hj is
  obtain ⟨x, -, rfl⟩ := mem_changeRows.mp hj
  split
  · rfl
  · next other =>
    rw [if_neg other] at is
    simpa [is] using other

/-- A refused job is failed, and nothing else of the provisioning work changes for good. -/
theorem retract_law (law : JobLaw (t :: owed) w) (reason : String) :
    JobLaw owed ((t.retract reason).run w).2 := by
  have failed := failJobStep_law law reason
  rw [failJobStep_run law.calm] at failed
  rw [retract, Action.run_bind_of_ok (failJobStep_run law.calm t reason)]
  exact failed.eases (retract_rest_keeps Eases.chain (revertServiceStep_eases t)
    (revertOrderStep_eases t) [] _)

theorem submitEach_counts (o : Outside) (tasks : List CommittedJob) :
    (submitEach o tasks).Keeps fun _ _ => True :=
  submitEach_keeps Chain.all (fun _ _ => trivial) (fun _ _ => trivial) (fun _ _ _ => trivial)
    (fun _ _ => trivial) o tasks

theorem stepError_total (label : String) (id : Uuid) (step : Action Bool) :
    (stepError label id step).Total := by
  refine .bind (.attempt _) ?_
  rintro (_ | _) <;> exact .pure _

theorem retract_total (t : CommittedJob) (reason : String) : (t.retract reason).Total :=
  .bind (stepError_total _ _ _) fun _ => .bind (stepError_total _ _ _) fun _ =>
    .bind (stepError_total _ _ _) fun _ => .pure _

/-- The errors of a submission are given, never raised. -/
theorem submit_total (o : Outside) (t : CommittedJob) : (t.submit o).Total := by
  refine .bind (.attempt _) ?_
  rintro (e | _)
  · exact .bind (retract_total t e.message) fun _ => .pure _
  · exact .pure _

theorem submitEach_total (o : Outside) (tasks : List CommittedJob) : (submitEach o tasks).Total := by
  induction tasks with
  | nil => exact .pure _
  | cons t rest ih => exact .bind (submit_total o t) fun _ => .bind ih fun _ => .pure _

/-! ### What the queue's answer leaves -/

/-- A store in which a refused job has been taken back: the job failed if it was live, its service
pending if it was provisioning, and its order paid if it was provisioning with no work under way. -/
def takenBack (now : Instant) (t : CommittedJob) (reason : String) (s : Store) : Store :=
  ((s.abandonJob now t.jobId ("enqueue failed: " ++ reason)).2.revertService now t.serviceId).2.revertOrder
    now t.orderId .paid |>.2

section takenBack

variable (now : Instant) (t : CommittedJob) (reason : String) (s : Store)

@[simp] theorem takenBack_items : (takenBack now t reason s).items = s.items := by
  unfold takenBack Store.revertOrder
  split <;> rfl

@[simp] theorem takenBack_tasks : (takenBack now t reason s).tasks = s.tasks := by
  unfold takenBack Store.revertOrder
  split <;> rfl

@[simp] theorem takenBack_services : (takenBack now t reason s).services =
    changeRows (fun r => r.id == t.serviceId && r.status == .provisioning)
      (fun r => { r with status := .pending, updatedAt := now }) s.services := by
  unfold takenBack Store.revertOrder
  split <;> rfl

@[simp] theorem takenBack_jobs : (takenBack now t reason s).jobs =
    changeRows (fun r => r.id == t.jobId && r.status.isLive)
      (Store.failed now ("enqueue failed: " ++ reason)) s.jobs := by
  unfold takenBack Store.revertOrder
  split <;> rfl

/-- The order is paid again only when all of its jobs have failed. -/
theorem takenBack_orders : (takenBack now t reason s).orders = s.orders ∨
    (takenBack now t reason s).orders =
      changeRows (fun x => x.id == t.orderId && x.status == .provisioning)
        (fun x => { x with status := .paid, updatedAt := now }) s.orders ∧
      ∀ j ∈ (takenBack now t reason s).jobs,
        (takenBack now t reason s).isServiceOf t.orderId j.serviceId = true → j.status = .failed := by
  unfold takenBack Store.revertOrder
  split
  · exact .inl rfl
  · next idle =>
    refine .inr ⟨rfl, fun j hj of => ?_⟩
    have none_ := List.any_eq_false.mp (Bool.not_eq_true _ ▸ idle) j hj
    have ended : ¬ (j.status.isLive || j.status == .completed) = true := fun under =>
      none_ (Bool.and_eq_true_iff.mpr ⟨under, of⟩)
    cases status : j.status <;> simp [status, JobStatus.isLive] at ended ⊢

/-- Only orders, services and jobs are touched. -/
theorem takenBack_rest : takenBack now t reason s = { s with
    orders := (takenBack now t reason s).orders
    services := (takenBack now t reason s).services
    jobs := (takenBack now t reason s).jobs } := by
  unfold takenBack Store.revertOrder
  split <;> rfl

/-- What a service is stays as it was. -/
theorem takenBack_continues :
    List.Forall₂ ServiceRow.Continues s.services (takenBack now t reason s).services := by
  rw [takenBack_services]
  refine forall₂_changeRows .refl fun r _ selected => ⟨rfl, rfl, rfl, rfl, fun terminated => ?_⟩
  simp [terminated] at selected

/-- No row is added, and at most the job has been closed. -/
theorem takenBack_eases : s.Eases (takenBack now t reason s) := by
  refine ⟨?_, takenBack_items _ _ _ _, takenBack_continues _ _ _ _, ?_, takenBack_tasks _ _ _ _⟩
  · rcases takenBack_orders now t reason s with same | ⟨orders, -⟩
    · rw [same]
    · rw [orders]
      exact map_changeRows _ fun _ => rfl
  · rw [takenBack_jobs]
    exact forall₂_changeRows .refl fun _ _ _ => ⟨rfl, rfl, rfl, rfl, fun live => nomatch live⟩

end takenBack

theorem revertServiceStep_run (calm : w.faults = []) (t : CommittedJob) : (t.revertServiceStep).run w =
    (.ok [], { w with store := (w.store.revertService w.now t.serviceId).2 }) :=
  stepError_run (run_change calm _ _) _ _

theorem revertOrderStep_run (calm : w.faults = []) (t : CommittedJob) : (t.revertOrderStep).run w =
    (.ok [], { w with store := (w.store.revertOrder w.now t.orderId .paid).2 }) := by
  have steps : OrderStatus.provisioning.stepBack .paid = .ok .paid := rfl
  have reverted : (Orders.takeBack t.orderId).run w = (.ok (w.store.revertOrder w.now t.orderId .paid).1,
      { w with store := (w.store.revertOrder w.now t.orderId .paid).2 }) := by
    rw [Orders.takeBack, steps, Action.run_bind_of_ok (Action.run_ofExcept_ok _ _)]
    exact run_change calm _ _
  exact stepError_run reverted _ _

theorem retract_run (calm : w.faults = []) (t : CommittedJob) (reason : String) :
    (t.retract reason).run w = (.ok [], { w with store := takenBack w.now t reason w.store }) := by
  rw [retract, Action.run_bind_of_ok (failJobStep_run calm t reason),
    Action.run_bind_of_ok (revertServiceStep_run (by exact calm) t),
    Action.run_bind_of_ok (revertOrderStep_run (by exact calm) t)]
  rfl

/-- The reason that a job is taken back for when the submission of number `n` is refused. -/
def refusal (o : Outside) (n : Nat) (t : CommittedJob) : String :=
  (o.refusal n (.provision t.payload)).message

/-- The world once the queue has answered for a job. -/
def answered (o : Outside) (t : CommittedJob) (w : World) : World :=
  if o.refuses w.offered.length then
    { w with
      offered := w.offered ++ [.provision t.payload]
      store := takenBack w.now t (t.refusal o w.offered.length) w.store }
  else
    { w with
      offered := w.offered ++ [.provision t.payload]
      nextId := w.nextId + 1
      store :=
        if o.durable then { w.store with
          tasks := w.store.tasks ++ [TaskQueue.newRow w.now (.ofNat w.nextId) (.provision t.payload)] }
        else w.store }

theorem answered_refused (h : o.refuses w.offered.length = true) : t.answered o w = { w with
    offered := w.offered ++ [.provision t.payload]
    store := takenBack w.now t (t.refusal o w.offered.length) w.store } := if_pos h

theorem answered_accepted (durable : o.durable = true) (h : o.refuses w.offered.length = false) :
    t.answered o w = { w with
      offered := w.offered ++ [.provision t.payload]
      nextId := w.nextId + 1
      store := { w.store with
        tasks := w.store.tasks ++ [TaskQueue.newRow w.now (.ofNat w.nextId) (.provision t.payload)] } } := by
  rw [answered, if_neg (by simp [h]), if_pos durable]

theorem submit_run (calm : w.faults = []) (o : Outside) (t : CommittedJob) :
    (t.submit o).run w = (.ok (if o.refuses w.offered.length then
      ["job " ++ t.jobId.toText ++ ": " ++ t.refusal o w.offered.length] else []), t.answered o w) := by
  rw [submit, Action.run_bind, Action.run_attempt, answered]
  cases refused : o.refuses w.offered.length with
  | true =>
    rw [TaskQueue.submit_refused refused]
    dsimp only
    rw [Action.run_bind_of_ok (retract_run (by exact calm) t _)]
    rfl
  | false =>
    cases durable : o.durable with
    | true =>
      rw [TaskQueue.submit_accepted calm durable refused]
      rfl
    | false =>
      rw [TaskQueue.submit_elsewhere durable refused]
      rfl

theorem answered_calm (calm : w.faults = []) (o : Outside) (t : CommittedJob) :
    (t.answered o w).faults = [] := by
  unfold answered
  split <;> exact calm

theorem answered_offered (o : Outside) (t : CommittedJob) (w : World) :
    (t.answered o w).offered = w.offered ++ [.provision t.payload] := by
  unfold answered
  split <;> rfl

/-- The world once the queue has answered for all jobs. -/
def allAnswered (o : Outside) (tasks : List CommittedJob) (w : World) : World :=
  tasks.foldl (fun w t => t.answered o w) w

/-- What each answer keeps, all of them keep. -/
theorem allAnswered_keeps {I : World → Prop} {o : Outside}
    (keep : ∀ (t : CommittedJob) (w : World), I w → I (t.answered o w)) (tasks : List CommittedJob)
    {w : World} (start : I w) : I (allAnswered o tasks w) := by
  induction tasks generalizing w with
  | nil => exact start
  | cons t rest ih => exact ih (keep t w start)

theorem answered_counts (o : Outside) (t : CommittedJob) (w : World) :
    w.nextId ≤ (t.answered o w).nextId := by
  unfold answered
  split
  · exact Nat.le_refl _
  · exact Nat.le_succ _

theorem allAnswered_counts (o : Outside) (tasks : List CommittedJob) (w : World) :
    w.nextId ≤ (allAnswered o tasks w).nextId :=
  allAnswered_keeps (I := fun v => w.nextId ≤ v.nextId)
    (fun t v counted => Nat.le_trans counted (answered_counts o t v)) tasks (Nat.le_refl _)

theorem allAnswered_offered (o : Outside) (tasks : List CommittedJob) (w : World) :
    (allAnswered o tasks w).offered = w.offered ++ tasks.map fun t => .provision t.payload := by
  induction tasks generalizing w with
  | nil => exact (List.append_nil _).symm
  | cons t rest ih =>
    rw [List.map_cons, List.append_cons, ← answered_offered o t w]
    exact ih (t.answered o w)

/-- Nothing but the provisioning work and the orders has changed. -/
structure Spares (w w' : World) : Prop where
  now : w'.now = w.now
  faults : w'.faults = w.faults
  items : w'.store.items = w.store.items
  invoices : w'.store.invoices = w.store.invoices
  payments : w'.store.payments = w.store.payments
  events : w'.store.events = w.store.events

theorem answered_spares (o : Outside) (t : CommittedJob) (w : World) : Spares w (t.answered o w) := by
  unfold answered
  split
  · refine ⟨rfl, rfl, ?_, ?_, ?_, ?_⟩ <;>
    · dsimp only
      rw [takenBack_rest]
  · split <;> exact ⟨rfl, rfl, rfl, rfl, rfl, rfl⟩

theorem allAnswered_spares (o : Outside) (tasks : List CommittedJob) (w : World) :
    Spares w (allAnswered o tasks w) := by
  refine allAnswered_keeps (I := Spares w) (fun t v h => ?_) tasks ⟨rfl, rfl, rfl, rfl, rfl, rfl⟩
  have next := answered_spares o t v
  exact ⟨next.now.trans h.now, next.faults.trans h.faults, next.items.trans h.items,
    next.invoices.trans h.invoices, next.payments.trans h.payments, next.events.trans h.events⟩

/-- When every task is accepted, nothing but the queue has changed. -/
theorem allAnswered_accepted {tasks : List CommittedJob}
    (all : ∀ i < tasks.length, o.refuses (w.offered.length + i) = false) :
    ∃ rows, (allAnswered o tasks w).store = { w.store with tasks := rows } := by
  induction tasks generalizing w with
  | nil => exact ⟨_, rfl⟩
  | cons t rest ih =>
    have first : o.refuses w.offered.length = false := all 0 (Nat.succ_pos _)
    obtain ⟨rows, same⟩ := ih (w := t.answered o w) fun i below => by
      rw [answered_offered, List.length_append, List.length_singleton, Nat.add_assoc, Nat.add_comm 1]
      exact all (i + 1) (Nat.succ_lt_succ below)
    refine ⟨rows, same.trans ?_⟩
    unfold answered
    rw [if_neg (by simp [first])]
    dsimp only
    split <;> rfl

/-- Every job is submitted, whatever the queue answers, and a refusal is reported. -/
theorem submitEach_run (calm : w.faults = []) (o : Outside) (tasks : List CommittedJob) :
    ∃ n errors, (submitEach o tasks).run w = (.ok (n, errors), allAnswered o tasks w) ∧
      (errors = [] ↔ ∀ i < tasks.length, o.refuses (w.offered.length + i) = false) := by
  induction tasks generalizing w with
  | nil => exact ⟨0, [], rfl, by simp⟩
  | cons t rest ih =>
    obtain ⟨n, errors, ran, none_⟩ := ih (answered_calm calm o t)
    rw [submitEach, Action.run_bind_of_ok (submit_run calm o t), Action.run_bind_of_ok ran]
    refine ⟨_, _, rfl, ?_⟩
    rw [List.append_eq_nil_iff, none_, answered_offered, List.length_append, List.length_singleton,
      List.length_cons]
    constructor
    · rintro ⟨first, others⟩ i below
      cases i with
      | zero =>
        cases refused : o.refuses (w.offered.length + 0) with
        | false => rfl
        | true => simp [show o.refuses w.offered.length = true from refused] at first
      | succ i =>
        rw [Nat.add_comm i, ← Nat.add_assoc]
        exact others i (Nat.lt_of_succ_lt_succ below)
    · intro all
      constructor
      · rw [if_neg (by simp [show o.refuses w.offered.length = false from all 0 (Nat.succ_pos _)])]
      · intro i below
        rw [Nat.add_assoc, Nat.add_comm 1]
        exact all (i + 1) (Nat.succ_lt_succ below)

theorem newRow_serves (now : Instant) (id : Uuid) (p : ProvisionPayload) :
    (TaskQueue.newRow now id (.provision p)).Serves p.serviceId :=
  ⟨.inl rfl, rfl, p, Payload.decode_provision p, rfl⟩

theorem newRow_serves_iff (now : Instant) (id : Uuid) (p : ProvisionPayload) (serviceId : Uuid) :
    (TaskQueue.newRow now id (.provision p)).Serves serviceId ↔ serviceId = p.serviceId := by
  constructor
  · rintro ⟨-, -, p', read, rfl⟩
    rw [show (TaskQueue.newRow now id (.provision p)).payload = p.encode from rfl,
      Payload.decode_provision] at read
    cases read
    rfl
  · rintro rfl
    exact newRow_serves now id p

variable {w' : World}

/-- A submission that is accepted pays, and one that is refused takes its job back. -/
theorem answered_law (durable : o.durable = true) (law : JobLaw (t :: owed) w)
    (room : (t.answered o w).nextId ≤ Uuid.limit) : JobLaw owed (t.answered o w) := by
  have offered : JobLaw (t :: owed) { w with offered := w.offered ++ [.provision t.payload] } :=
    law.quiet ⟨rfl, Nat.le_refl _, fun _ spared => spared, Quiet.refl _⟩
  cases answer : o.refuses w.offered.length with
  | true =>
    rw [answered_refused answer]
    have law := retract_law offered (t.refusal o w.offered.length)
    rw [retract_run offered.calm] at law
    exact law
  | false =>
    rw [answered_accepted durable answer] at room ⊢
    refine (offered.addTask rfl room).pay ⟨_, List.mem_append_right _ (List.mem_singleton_self _), ?_⟩
    exact newRow_serves w.now (.ofNat w.nextId) t.payload

theorem submit_law (durable : o.durable = true) (law : JobLaw (t :: owed) w) {errors : List String}
    (ran : (t.submit o).run w = (.ok errors, w')) (room : w'.nextId ≤ Uuid.limit) : JobLaw owed w' := by
  rw [submit_run law.calm] at ran
  cases ran
  exact answered_law durable law room

theorem submitEach_law (durable : o.durable = true) {tasks : List CommittedJob}
    {result : Nat × List String} (law : JobLaw (tasks ++ owed) w)
    (ran : (submitEach o tasks).run w = (.ok result, w')) (room : w'.nextId ≤ Uuid.limit) :
    JobLaw owed w' := by
  induction tasks generalizing w result with
  | nil =>
    cases ran
    exact law
  | cons t rest ih =>
    obtain ⟨errors, w₁, ranFirst, ran⟩ := Action.run_bind_ok ran
    obtain ⟨more, _, ranRest, last⟩ := Action.run_bind_ok ran
    cases last
    have counted := ((submitEach_counts o rest).follows ranRest).nextId
    exact ih (submit_law durable law ranFirst (Nat.le_trans counted room)) ranRest

theorem submitAll_run (calm : w.faults = []) (o : Outside) (tasks : List CommittedJob) :
    ∃ r, (submitAll o tasks).run w = (r, allAnswered o tasks w) ∧
      (r.isOk = true ↔ ∀ i < tasks.length, o.refuses (w.offered.length + i) = false) := by
  obtain ⟨n, errors, ran, none_⟩ := submitEach_run calm o tasks
  rw [submitAll, Action.run_bind_of_ok ran, ← none_]
  dsimp only
  cases errors with
  | nil => exact ⟨.ok n, rfl, by simp [Except.isOk, Except.toBool]⟩
  | cons first rest => exact ⟨_, rfl, by simp [Except.isOk, Except.toBool]⟩

theorem submitAll_law (durable : o.durable = true) {tasks : List CommittedJob}
    (law : JobLaw (tasks ++ owed) w) (room : ((submitAll o tasks).run w).2.nextId ≤ Uuid.limit) :
    JobLaw owed ((submitAll o tasks).run w).2 := by
  obtain ⟨n, errors, ran, -⟩ := submitEach_run law.calm o tasks
  obtain ⟨r, same, -⟩ := submitAll_run law.calm o tasks
  rw [same] at room ⊢
  exact submitEach_law durable law ran room

theorem submitAll_counts (o : Outside) (tasks : List CommittedJob) :
    (submitAll o tasks).Keeps fun _ _ => True :=
  submitAll_keeps Chain.all (fun _ _ => trivial) (fun _ _ => trivial) (fun _ _ _ => trivial)
    (fun _ _ => trivial) o tasks

/-- Committing some jobs and submitting them all upholds the law. -/
theorem submitAll_upholds {α β : Type} {a : Action α} {f : α → List CommittedJob}
    (durable : o.durable = true) (counts : a.Keeps fun _ _ => True)
    (commits : ∀ w w' r owed, JobLaw owed w → a.run w = (r, w') → w'.nextId ≤ Uuid.limit →
      JobLaw (match r with | .ok x => f x ++ owed | .error _ => owed) w') (answer : α → β) :
    (do
      let x ← a
      let _ ← submitAll o (f x)
      return answer x).Upholds := by
  intro w
  rw [Action.run_bind]
  rcases ran : a.run w with ⟨e | x, w₁⟩
  · exact ⟨(counts.follows ran).nextId, fun owed law room => commits w w₁ _ owed law ran room⟩
  · have submitted := (submitAll_counts o (f x) w₁).nextId
    dsimp only
    rw [Action.run_answer]
    constructor
    · exact Nat.le_trans (counts.follows ran).nextId submitted
    · intro owed law room
      exact submitAll_law durable (commits w w₁ _ owed law ran (Nat.le_trans submitted room)) room

end CommittedJob

/-! ## The operations that commit jobs -/

namespace Reprovision

variable {o : Outside} {w w' : World}

theorem prepare_plain (detail : ServiceView) : (prepare detail).Plain := by
  refine .bind (.ask _ _) ?_
  rintro (_ | order)
  · exact .throw _
  · refine .bind (.ask _ _) ?_
    rintro (_ | status)
    · exact .throw _
    · refine .bind (.ofExcept _) fun _ => .bind (.bind .freshId fun _ => .change _ _) ?_
      rintro (_ | jobId)
      · exact .throw _
      · refine .bind (.change _ _) fun _ => .ite ?_ (.pure _)
        exact .bind (.bind (.ofExcept _) fun _ => .change _ _) fun _ => .pure _

/-- What is left to do once the job is created. -/
def prepareRest (serviceId : Uuid) (order : OrderRow) (job : CommittedJob) : Action CommittedJob := do
  Services.start serviceId
  if order.status = .paid then
    let _ ← Orders.move order.id .paid .provisioning
  return job

theorem prepareRest_run (calm : w.faults = []) (keys : (w.store.orders.map (·.id)).Nodup)
    (serviceId : Uuid) {order : OrderRow} (found : w.store.order? order.id = some order)
    (job : CommittedJob) : (prepareRest serviceId order job).run w = (.ok job, { w with
      store := ((w.store.startService w.now serviceId).2.moveOrder w.now order.id .paid
        .provisioning).2 }) := by
  let started : World := { w with store := (w.store.startService w.now serviceId).2 }
  rw [prepareRest, Action.run_bind_of_ok (Checkout.run_start calm serviceId)]
  split
  · have moved : (Orders.move order.id .paid .provisioning).run started =
        (.ok (started.store.moveOrder w.now order.id .paid .provisioning).1, { started with
          store := (started.store.moveOrder w.now order.id .paid .provisioning).2 }) := by
      have becomes : OrderStatus.paid.become .provisioning = .ok .provisioning := rfl
      rw [Orders.move, becomes, Action.run_bind_of_ok (Action.run_ofExcept_ok _ _)]
      exact run_change (w := started) calm _ _
    rw [Action.run_bind_of_ok moved]
    rfl
  · next unpaid =>
    have elsewhere : (started.store.order? order.id).map (·.status) ≠ some .paid := by
      rw [show started.store.order? order.id = some order from found]
      simpa using unpaid
    rw [Orders.moveOrder_of_ne (s := started.store) keys elsewhere]
    rfl

/-- What has been prepared for a service that is not done: a new job, the service started, and its order
provisioning if it was paid. -/
structure Prepared (detail : ServiceView) (w : World) (task : CommittedJob) (w' : World) : Prop where
  service : ∃ r ∈ w.store.services, r.id = detail.id ∧ r.status.isDone = false
  order : ∃ order ∈ w.store.orders, order.id = detail.orderId
  idle : w.store.hasLive detail.id = false
  committed : task = ⟨.ofNat w.nextId, detail.id, detail.orderId, detail.planId, detail.userId⟩
  left : w' = { w with
    nextId := w.nextId + 1
    store := (Store.startService w.now detail.id { w.store with
      jobs := w.store.jobs ++ [newJob w.now task.jobId detail.id .provisionVps] }).2.moveOrder w.now
        detail.orderId .paid .provisioning |>.2 }

namespace Prepared

variable {detail : ServiceView} {task : CommittedJob} (h : Prepared detail w task w')

include h

theorem items : w'.store.items = w.store.items := by rw [h.left]; rfl

theorem tasks : w'.store.tasks = w.store.tasks := by rw [h.left]; rfl

theorem orders : w'.store.orders =
    changeRows (fun x => x.id == detail.orderId && x.status == .paid)
      (fun x => { x with status := .provisioning, updatedAt := w.now }) w.store.orders := by
  rw [h.left]; rfl

theorem services : w'.store.services = (w.store.startService w.now detail.id).2.services := by
  rw [h.left]; rfl

theorem jobs : w'.store.jobs =
    w.store.jobs ++ [newJob w.now (.ofNat w.nextId) detail.id .provisionVps] := by
  rw [h.left, h.committed]; rfl

theorem continues : List.Forall₂ ServiceRow.Continues w.store.services w'.store.services := by
  rw [h.services]
  exact (Store.quiet_startService w.now detail.id w.store).services

end Prepared

theorem permit_ok {id : Uuid} {status : ServiceStatus} (h : permit id status = .ok ()) :
    status.isDone = false := by
  cases status <;> first | rfl | cases h

/-- The failure of a request for a service that has a live job. -/
def busy (id : Uuid) : Failure := .conflict ("service " ++ id.toText ++ " already has a live job")

/-- The job that is prepared for a service. -/
def nextJob (detail : ServiceView) (w : World) : CommittedJob :=
  ⟨.ofNat w.nextId, detail.id, detail.orderId, detail.planId, detail.userId⟩

/-- The world in which it has been prepared. -/
def prepared (detail : ServiceView) (w : World) : World := { w with
  nextId := w.nextId + 1
  store := (Store.startService w.now detail.id { w.store with
    jobs := w.store.jobs ++ [newJob w.now (.ofNat w.nextId) detail.id .provisionVps] }).2.moveOrder w.now
      detail.orderId .paid .provisioning |>.2 }

/-- Preparing for a service that is there with its order. A job that is not created uses up its identifier
all the same. -/
theorem prepare_found {detail : ServiceView} {order : OrderRow} {r : ServiceRow} (calm : w.faults = [])
    (keys : (w.store.orders.map (·.id)).Nodup) (ofOrder : w.store.order? detail.orderId = some order)
    (found : w.store.service? detail.id = some r) : (prepare detail).run w =
      match permit detail.id r.status with
      | .error e => (.error e, w)
      | .ok _ =>
        if w.store.hasLive detail.id then (.error (busy detail.id), { w with nextId := w.nextId + 1 })
        else (.ok (nextJob detail w), prepared detail w) := by
  have locked : (Orders.lock detail.orderId).run w = (.ok (w.store.order? detail.orderId), w) :=
    run_ask calm _ _
  have status : (Services.lockStatus detail.id).run w =
      (.ok ((w.store.service? detail.id).map (·.status)), w) := run_ask calm _ _
  rw [prepare, Action.run_bind_of_ok locked, ofOrder]
  simp only [Action.run_bind_of_ok status, found, Option.map_some]
  cases permitted : permit detail.id r.status with
  | error e => rw [Action.run_bind_of_error (Action.run_ofExcept_error _ _)]
  | ok _ =>
    rw [Action.run_bind_of_ok (Action.run_ofExcept_ok _ _),
      Action.run_bind_of_ok (Checkout.run_create calm _ _)]
    dsimp only
    cases live : w.store.hasLive detail.id with
    | true =>
      rw [Store.createJob_of_live live, if_pos rfl]
      rfl
    | false =>
      rw [Store.createJob_of_none live, if_neg Bool.false_ne_true]
      have is : order.id = detail.orderId := by simpa using List.find?_some ofOrder
      let created : World := { w with
        nextId := w.nextId + 1
        store := { w.store with
          jobs := w.store.jobs ++ [newJob w.now (.ofNat w.nextId) detail.id .provisionVps] } }
      have ofOrder : created.store.order? order.id = some order := is ▸ ofOrder
      change (prepareRest detail.id order ⟨.ofNat w.nextId, detail.id, order.id, _, _⟩).run created = _
      rw [prepareRest_run (w := created) calm keys detail.id ofOrder, is]
      rfl

theorem prepare_ok {detail : ServiceView} {task : CommittedJob} (calm : w.faults = [])
    (keys : (w.store.orders.map (·.id)).Nodup)
    (ran : (prepare detail).run w = (.ok task, w')) : Prepared detail w task w' := by
  cases ofOrder : w.store.order? detail.orderId with
  | none =>
    have locked : (Orders.lock detail.orderId).run w = (.ok none, w) := ofOrder ▸ run_ask calm _ _
    rw [prepare, Action.run_bind_of_ok locked] at ran
    cases ran
  | some order =>
    cases found : w.store.service? detail.id with
    | none =>
      have locked : (Orders.lock detail.orderId).run w = (.ok (some order), w) := ofOrder ▸ run_ask calm _ _
      have status : (Services.lockStatus detail.id).run w = (.ok none, w) := by
        rw [Services.lockStatus, run_ask calm, found]
        rfl
      rw [prepare, Action.run_bind_of_ok locked] at ran
      simp only [Action.run_bind_of_ok status] at ran
      cases ran
    | some r =>
      rw [prepare_found calm keys ofOrder found] at ran
      cases permitted : permit detail.id r.status with
      | error e =>
        rw [permitted] at ran
        cases ran
      | ok _ =>
        cases live : w.store.hasLive detail.id with
        | true =>
          rw [permitted, live] at ran
          cases ran
        | false =>
          rw [permitted, live] at ran
          cases ran
          constructor
          · exact ⟨r, List.mem_of_find?_eq_some found, by simpa using List.find?_some found,
              permit_ok permitted⟩
          · exact ⟨order, List.mem_of_find?_eq_some ofOrder, by simpa using List.find?_some ofOrder⟩
          · exact live
          · rfl
          · rfl

/-- The job that is created is owed. -/
theorem prepare_law {detail : ServiceView} {task : CommittedJob} {owed : List CommittedJob}
    (law : JobLaw owed w) (ran : (prepare detail).run w = (.ok task, w'))
    (room : w'.nextId ≤ Uuid.limit) : JobLaw (task :: owed) w' := by
  obtain ⟨⟨r, hr, is, -⟩, -, idle, rfl, rfl⟩ := prepare_ok law.calm law.linked.orders ran
  let job : CommittedJob := ⟨.ofNat w.nextId, detail.id, detail.orderId, detail.planId, detail.userId⟩
  have added := law.addJob (d := job) rfl room (List.mem_map.mpr ⟨r, hr, is⟩) (law.idle idle)
  have started := Store.quiet_startService w.now detail.id { w.store with
    jobs := w.store.jobs ++ [newJob w.now job.jobId detail.id .provisionVps] }
  exact added.quiet ⟨rfl, Nat.le_refl _, fun _ spared => spared,
    Quiet.chain.trans started (Orders.moveOrder_still _ _ _ _ _).quiet⟩

theorem service_upholds (durable : o.durable = true) (id : Uuid) : (service o id).Upholds := by
  refine .bind (.of_quiet (Services.require_keeps Quiet.chain id)) fun detail => ?_
  have plain := prepare_plain detail
  refine CommittedJob.submitAll_upholds durable (Action.Plain.transaction plain).counts
    (f := fun task => [task]) (fun w w' r owed law ran room => ?_) _
  cases r with
  | error e => exact law.quiet (plain.undone Quiet.chain ran)
  | ok task => exact prepare_law law (Action.run_transaction_ok ran) room

end Reprovision

namespace Delivery

variable {o : Outside}

theorem conclude_apart (e : GatewayEvent) (row : Uuid) (result : Except Failure DeliveryOutcome) :
    (conclude e row result).Keeps Apart :=
  conclude_keeps Apart.chain (fun _ _ => ⟨rfl, rfl, rfl, rfl, rfl⟩) e row result

theorem conclude_still (e : GatewayEvent) (row : Uuid) (result : Except Failure DeliveryOutcome) :
    (conclude e row result).Keeps Still := (conclude_apart e row result).mono Apart.still

theorem handle_upholds (durable : o.durable = true) (notification : Notification) :
    (handle o notification).Upholds := by
  have declines {a : Action Unit} (h : a.Keeps Declines) :
      (a >>= fun _ => pure DeliveryOutcome.processed).Upholds :=
    .of_quiet ((Declines.chain.bind h fun _ => Declines.chain.pure _).mono Declines.quiet)
  cases notification with
  | checkout c =>
    refine CommittedJob.submitAll_upholds durable (Checkout.carryOut_counts c) (f := fun tasks => tasks)
      (fun w w' r owed law ran room => ?_) _
    have left := Checkout.carryOut_law law ran room
    cases r with
    | error e => exact left
    | ok tasks => exact left
  | paymentFailed intent => exact declines (Reversal.failPayment_declines intent)
  | refund r => exact declines (Reversal.refund_declines r)
  | dispute d => exact declines (Reversal.dispute_declines d)
  | unhandled => exact .of_quiet (Quiet.chain.pure _)

theorem process_upholds (durable : o.durable = true) (e : GatewayEvent) : (process o e).Upholds := by
  refine .bind (.of_quiet (Quiet.chain.ofExcept _)) fun notification =>
    .bind (.of_quiet (Ledger.claim_still e).quiet) ?_
  rintro (_ | row)
  · exact .of_quiet (Quiet.chain.pure _)
  · exact .bind (handle_upholds durable notification).attempt fun result =>
      .of_quiet (conclude_still e row result).quiet

end Delivery

end HostingBilling
