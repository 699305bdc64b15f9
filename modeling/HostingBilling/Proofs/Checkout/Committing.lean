import HostingBilling.Proofs.Checkout.Fulfilment

/-!
# What a checkout commits

The provisioning work that a checkout leaves, row by row: the jobs it adds are those that it gives, a
service it touched is being built, and its order stands where the status it had and the new jobs put it.
-/

namespace HostingBilling

open Store (Apart)

namespace Checkout

/-- What preparing some lines adds: the jobs that were committed; and each service that is not as it was
is being built. -/
structure Adds (items : List ItemRow) (w : World) (tasks : List CommittedJob) (w' : World) : Prop where
  jobs : w'.store.jobs = w.store.jobs ++
    tasks.map fun t => newJob w.now t.jobId t.serviceId .provisionVps
  services : ∀ r ∈ w'.store.services, r ∈ w.store.services ∨
    r.status = .provisioning ∧ w'.store.hasLive r.id = true ∧ r.itemId ∈ items.map (·.id)

variable {order : OrderRow} {w w' : World}

theorem hasLive_append {s : Store} {id : Uuid} (live : s.hasLive id = true) (more : List JobRow)
    {s' : Store} (jobs : s'.jobs = s.jobs ++ more) : s'.hasLive id = true := by
  rw [Store.hasLive, jobs, List.any_append, ← Store.hasLive, live, Bool.true_or]

/-- A service that starting another one has changed is that other one, and it was not done. -/
theorem started_changed {s : Store} (linked : s.Linked) {r : ServiceRow} (here : r ∈ s.services)
    {now : Instant} {x : ServiceRow} (hx : x ∈ (s.startService now r.id).2.services) :
    (x ∈ s.services ∧ (x.id = r.id → r.status.isDone = true)) ∨
      r.status.isDone = false ∧ x = { r with status := .provisioning, updatedAt := now } := by
  obtain ⟨y, hy, rfl⟩ := mem_changeRows.mp hx
  split
  · next selected =>
    simp only [Bool.and_eq_true, beq_iff_eq, bne_iff_ne] at selected
    obtain rfl := eq_of_key linked.services hy here selected.1.1
    exact .inr ⟨by simp [ServiceStatus.isDone, selected.1.2, selected.2], rfl⟩
  · next unselected =>
    refine .inl ⟨hy, fun same => ?_⟩
    obtain rfl := eq_of_key linked.services hy here same
    cases is : y.status <;> simp [is, ServiceStatus.isDone] at unselected ⊢

theorem ItemPrepared.adds {item : ItemRow} {task : Option CommittedJob}
    (h : ItemPrepared order item w task w') (linked : w.store.Linked) (numbered : w.Numbered)
    (known : item.id ∈ w.store.items.map (·.id)) (room : w'.nextId ≤ Uuid.limit) :
    Adds [item] w task.toList w' := by
  -- a row that the start left alone was there before, for a new one would have been started
  have old {r x : ServiceRow} {s : Store}
      (ensured : w.store.Ensures w.now (.ofNat w.nextId) order.userId item r s)
      (hx : x ∈ s.services) (done : x.id = r.id → r.status.isDone = true) : x ∈ w.store.services := by
    cases ensured with
    | found => exact hx
    | added _ _ =>
      rcases List.mem_append.mp hx with hx | hx
      · exact hx
      · obtain rfl := List.mem_singleton.mp hx
        cases done rfl
  cases h with
  | handled r s n ensured handled counted =>
    have before := (started_linked ensured linked numbered known (Nat.lt_of_lt_of_le counted room)).1
    refine ⟨by simp [Store.startService, Store.changeServices, ensured_jobs ensured], fun x hx => ?_⟩
    rcases started_changed before (ensured_mem ensured) hx with ⟨hx, done⟩ | ⟨notDone, rfl⟩
    · exact .inl (old ensured hx done)
    · exact .inr ⟨rfl, handled.resolve_left (by simp [notDone]), by simp [ensured_line ensured]⟩
  | committed r s ensured notDone idle =>
    have room : w.nextId + 1 < Uuid.limit := room
    have before := (started_linked ensured linked numbered known (by omega)).1
    refine ⟨by simp [ensured_jobs ensured], fun x hx => ?_⟩
    rcases started_changed before (ensured_mem ensured) hx with ⟨hx, done⟩ | ⟨_, rfl⟩
    · exact .inl (old ensured hx done)
    · refine .inr ⟨rfl, ?_, by simp [ensured_line ensured]⟩
      exact List.any_eq_true.mpr ⟨_, List.mem_append_right _ (List.mem_singleton_self _),
        isLiveJob_newJob _ _ _ _⟩

theorem prepareItems_adds {items : List ItemRow} {tasks : List CommittedJob} (calm : w.faults = [])
    (linked : w.store.Linked) (numbered : w.Numbered)
    (known : ∀ item ∈ items, item.id ∈ w.store.items.map (·.id))
    (ran : (prepareItems order items).run w = (.ok tasks, w')) (room : w'.nextId ≤ Uuid.limit) :
    Adds items w tasks w' := by
  induction items generalizing w tasks with
  | nil =>
    cases ran
    exact ⟨by simp, fun r hr => .inl hr⟩
  | cons item rest ih =>
    obtain ⟨task, w₁, ranItem, ranRest⟩ := Action.run_bind_ok ran
    obtain ⟨more, _, ranRest, last⟩ := Action.run_bind_ok ranRest
    cases last
    obtain ⟨_, _, ranItem', prepared⟩ := prepareItem_run calm linked order item
    rw [ranItem] at ranItem'
    cases ranItem'
    have room₁ := Nat.le_trans ((prepareItems_plain order rest).counts.follows ranRest).nextId room
    have here := known item List.mem_cons_self
    have same := prepared.rest
    have first := prepared.adds linked numbered here room₁
    have then_ := ih (by rw [same]; exact calm) (prepared.linked linked numbered here room₁)
      (prepared.numbered numbered room₁)
      (fun x hx => by rw [same]; exact known x (List.mem_cons_of_mem _ hx)) ranRest
    have now : w₁.now = w.now := by rw [same]
    constructor
    · rw [then_.jobs, first.jobs, now, List.map_append, List.append_assoc]
    · intro r hr
      rcases then_.services r hr with hr | ⟨building, live, line⟩
      · refine (first.services r hr).imp id fun ⟨building, live, line⟩ => ⟨building, ?_, ?_⟩
        · exact hasLive_append live _ then_.jobs
        · rw [List.mem_singleton.mp line]
          exact List.mem_cons_self
      · exact .inr ⟨building, live, List.mem_cons_of_mem _ line⟩

/-- What a checkout that goes through leaves of its order and of the provisioning work. -/
structure Carried (order : OrderRow) (w : World) (tasks : List CommittedJob) (w' : World) : Prop where
  here : order ∈ w.store.orders
  payable : order.status.isSettled = true ∨ order.status = .pendingPayment
  stands : Stands w'.store order (order.status.settled.onward tasks)
  otherOrders : w'.store.orders.filter (fun r => r.id != order.id) =
    w.store.orders.filter fun r => r.id != order.id
  items : w'.store.items = w.store.items
  services : ∀ r ∈ w'.store.services, r ∈ w.store.services ∨
    r.status = .provisioning ∧ w'.store.hasLive r.id = true ∧
      w'.store.isLineOf order.id r.itemId = true
  kept : ∀ r ∈ w.store.services, ∃ r' ∈ w'.store.services, r.Starts r'
  jobs : w'.store.jobs = w.store.jobs ++
    tasks.map fun t => newJob w.now t.jobId t.serviceId .provisionVps
  taskRows : w'.store.tasks = w.store.tasks
  commits : List.Forall₂ (w'.store.Commits order.id)
    ((w.store.itemsOf order.id).filter fun item => w.store.awaits item.id) tasks
  linked : w'.store.Linked
  numbered : w'.Numbered

theorem itemsOf_congr {a b : Store} (items : b.items = a.items) (orderId : Uuid) :
    b.itemsOf orderId = a.itemsOf orderId := by rw [Store.itemsOf, items, ← Store.itemsOf]

/-- A job is committed for a service of the order. -/
theorem Carried.ofOrder {tasks : List CommittedJob} (h : Carried order w tasks w') :
    ∀ t ∈ tasks, ∃ r ∈ w'.store.services, r.id = t.serviceId ∧
      w'.store.isLineOf order.id r.itemId = true := by
  intro t ht
  obtain ⟨item, hi, -, r, hr, is, service, -⟩ := exists_left_of_forall₂ h.commits ht
  refine ⟨r, hr, service.symm, Store.mem_isLineOf.mpr ⟨item, ?_, is.symm⟩⟩
  rw [itemsOf_congr h.items]
  exact List.mem_of_mem_filter hi

/-- Another order is as it was, and this one stands where the checkout put it. -/
theorem Carried.order_cases {tasks : List CommittedJob} (h : Carried order w tasks w')
    (keys : (w'.store.orders.map (·.id)).Nodup) {x : OrderRow} (hx : x ∈ w'.store.orders) :
    (x ∈ w.store.orders ∧ x.id ≠ order.id) ∨
      x.id = order.id ∧ x.status = order.status.settled.onward tasks := by
  by_cases is : x.id = order.id
  · obtain ⟨updatedAt, there⟩ := h.stands
    rw [eq_of_key keys hx there is]
    exact .inr ⟨rfl, rfl⟩
  · have other : x ∈ w'.store.orders.filter fun r => r.id != order.id :=
      List.mem_filter.mpr ⟨hx, by simpa using is⟩
    rw [h.otherOrders] at other
    exact .inl ⟨(List.mem_filter.mp other).1, is⟩

/-- A job that was there before is of a service that was there before. -/
theorem Carried.service_before {tasks : List CommittedJob} (h : Carried order w tasks w')
    (linked : w.store.Linked) (linked' : w'.store.Linked) {j : JobRow} (hj : j ∈ w.store.jobs)
    {r' : ServiceRow} (hr' : r' ∈ w'.store.services) (of : j.serviceId = r'.id) :
    ∃ r ∈ w.store.services, r.id = r'.id ∧ r.itemId = r'.itemId := by
  obtain ⟨r, hr, same⟩ := List.mem_map.mp (linked.jobService (List.mem_map_of_mem hj))
  obtain ⟨r₁, hr₁, starts⟩ := h.kept r hr
  obtain rfl := eq_of_key linked'.services hr₁ hr' (starts.continues.id.trans (same.trans of))
  exact ⟨r, hr, starts.continues.id.symm, starts.continues.itemId.symm⟩

theorem Steps.carried {c : Checkout} {tasks : List CommittedJob} (calm : w.faults = [])
    (linked : w.store.Linked) (numbered : w.Numbered) (here : order ∈ w.store.orders)
    (steps : Steps c order w tasks w') (room : w'.nextId ≤ Uuid.limit) : Carried order w tasks w' := by
  obtain ⟨status, invoiceId, outcome, paid, invoiced, recorded, prepared, ranOrder, ranInvoice,
    ranPayment, ranItems, ranMove⟩ := steps
  obtain ⟨rfl, payable⟩ := settleOrder_status ranOrder
  have s₁ := settleOrder_ok calm linked.orders here ranOrder
  have follows₁ := (settleOrder_still order).quiet.follows ranOrder
  have apart := Apart.chain.follows_trans ((Invoices.ensureInitial_apart _ _).follows ranInvoice)
    ((Payments.record_apart _).follows ranPayment)
  have quiet := Store.Quiet.chain.follows_trans follows₁ (apart.mono fun h => h.still.quiet)
  have last := (moveOn_still order _ tasks).follows ranMove
  have room₁ := Nat.le_trans last.nextId room
  have linked₁ := quiet.store.linked linked
  have numbered₁ := quiet.eases.numbered numbered
  have lines : paid.store.itemsOf order.id = recorded.store.itemsOf order.id := by
    simp only [Store.itemsOf, apart.store.items]
  rw [lines] at ranItems
  have known : ∀ item ∈ recorded.store.itemsOf order.id, item.id ∈ recorded.store.items.map (·.id) :=
    fun item hi => List.mem_map_of_mem (Store.mem_itemsOf.mp hi).1
  have prepares := prepareItems_run (quiet.calm calm) linked₁ numbered₁ known
    (linked₁.nodup_itemsOf order.id) ranItems room₁
  have adds := prepareItems_adds (quiet.calm calm) linked₁ numbered₁ known ranItems room₁
  have orders₁ : prepared.store.orders = paid.store.orders := by rw [prepares.rest, apart.store.orders]
  have calm₁ : prepared.faults = [] := by rw [prepares.rest]; exact quiet.calm calm
  have stands : Stands prepared.store order order.status.settled := by
    unfold Stands
    rw [orders₁]
    exact s₁.stands
  have s₂ := moveOn_ok calm₁ (orders₁ ▸ s₁.keys) s₁.isSettled stands ranMove
  have items : w'.store.items = recorded.store.items := by rw [last.store.items, prepares.rest]
  have line (itemId : Uuid) : w'.store.isLineOf order.id itemId = true ↔
      itemId ∈ (recorded.store.itemsOf order.id).map (·.id) := by
    rw [Store.mem_isLineOf, itemsOf_congr items, List.mem_map]
  have services : recorded.store.services = w.store.services := by
    rw [apart.store.services, s₁.rest]
  have waits (item : ItemRow) : recorded.store.awaits item.id = w.store.awaits item.id := by
    rw [Store.awaits, services]
    simp only [Store.hasLive, quiet.store.jobs]
    rfl
  constructor
  · exact here
  · exact payable
  · exact s₂.stands
  · rw [s₂.others, orders₁, s₁.others]
  · rw [items, quiet.store.items]
  · intro r hr
    rw [last.store.services] at hr
    rcases adds.services r hr with hr | ⟨building, live, of⟩
    · exact .inl (services ▸ hr)
    · refine .inr ⟨building, ?_, (line _).mpr of⟩
      rw [Store.hasLive, last.store.jobs]
      exact live
  · intro r hr
    rw [last.store.services]
    exact prepares.services r (services ▸ hr)
  · rw [last.store.jobs, adds.jobs, quiet.store.jobs, quiet.now]
  · rw [last.store.tasks, prepares.rest, quiet.store.tasks]
  · rw [← itemsOf_congr quiet.store.items, ← List.filter_congr fun item _ => waits item]
    exact prepares.tasks.imp fun item t commits => commits_later commits
      (fun r hr => ⟨r, last.store.services ▸ hr, .inl rfl⟩) fun j hj => last.store.jobs ▸ hj
  · exact last.store.quiet.linked prepares.linked
  · exact last.quiet.eases.numbered prepares.numbered

/-- A checkout goes through for an order that is there and payable, or leaves the tables of the
provisioning work as they are. -/
theorem carryOut_carried {c : Checkout} {r : Except Failure (List CommittedJob)} (calm : w.faults = [])
    (linked : w.store.Linked) (numbered : w.Numbered) (ran : c.carryOut.run w = (r, w'))
    (room : w'.nextId ≤ Uuid.limit) : match r with
      | .error _ => Follows Apart w w'
      | .ok tasks => ∃ order, c.orderId = .ok order.id ∧ Carried order w tasks w' := by
  rw [carryOut, Action.run_bind, Action.run_ofExcept] at ran
  cases reference : c.orderId with
  | error e =>
    rw [reference] at ran
    cases ran
    exact Apart.chain.follows_refl w
  | ok orderId =>
    simp only [reference] at ran
    cases r with
    | error e => exact (settle_plain c orderId).undone Apart.chain ran
    | ok tasks =>
      obtain ⟨order, found, ⟨steps⟩⟩ := settle_ok calm (Action.run_transaction_ok ran)
      have is : order.id = orderId := by simpa using List.find?_some found
      exact ⟨order, congrArg _ is.symm,
        steps.carried calm linked numbered (List.mem_of_find?_eq_some found) room⟩

end Checkout

end HostingBilling
