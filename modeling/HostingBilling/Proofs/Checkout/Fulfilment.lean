import HostingBilling.Proofs.Checkout.Settlement

/-!
# A checkout is fulfilled once

Main statement: a checkout that goes through leaves its order settled, billed once, and with a service
for each line that is done or being built; the jobs it gives are those of the lines that were waiting;
nothing of another order has changed; and carrying the checkout out again, whenever that may be, gives
no job and changes nothing but the times of the last change.
-/

namespace HostingBilling

/-- A service without the time of its last change. -/
def ServiceRow.untimed (r : ServiceRow) : ServiceRow := { r with updatedAt := ⟨0, 0⟩ }

/-- A store without the times of the last changes. -/
def Store.untimed (s : Store) : Store := { s with
  orders := s.orders.map fun r => { r with updatedAt := ⟨0, 0⟩ }
  invoices := s.invoices.map fun r => { r with updatedAt := ⟨0, 0⟩ }
  payments := s.payments.map PaymentRow.untimed
  services := s.services.map ServiceRow.untimed
  jobs := s.jobs.map fun r => { r with updatedAt := ⟨0, 0⟩ }
  refunds := s.refunds.map fun r => { r with updatedAt := ⟨0, 0⟩ }
  disputes := s.disputes.map fun r => { r with updatedAt := ⟨0, 0⟩ }
  settings := s.settings.map fun r => { r with updatedAt := ⟨0, 0⟩ }
  tasks := s.tasks.map fun r => { r with updatedAt := ⟨0, 0⟩ } }

/-- Whether this is a line of an order. -/
def Store.isLineOf (s : Store) (orderId itemId : Uuid) : Bool :=
  s.items.any fun item => item.id == itemId && item.orderId == orderId

theorem Store.mem_isLineOf {s : Store} {orderId itemId : Uuid} : s.isLineOf orderId itemId = true ↔
    ∃ item ∈ s.itemsOf orderId, item.id = itemId := by
  simp only [isLineOf, List.any_eq_true, Bool.and_eq_true, beq_iff_eq, mem_itemsOf]
  constructor
  · rintro ⟨item, hi, is, of⟩
    exact ⟨item, ⟨hi, of⟩, is⟩
  · rintro ⟨item, ⟨hi, of⟩, is⟩
    exact ⟨item, hi, is, of⟩

/-- A line is of one order. -/
theorem Store.Linked.order_of_line {s : Store} (linked : s.Linked) {a b itemId : Uuid}
    (ha : s.isLineOf a itemId = true) (hb : s.isLineOf b itemId = true) : a = b := by
  obtain ⟨x, hx, idX⟩ := mem_isLineOf.mp ha
  obtain ⟨y, hy, idY⟩ := mem_isLineOf.mp hb
  obtain ⟨inX, ofX⟩ := mem_itemsOf.mp hx
  obtain ⟨inY, ofY⟩ := mem_itemsOf.mp hy
  rw [← ofX, ← ofY, eq_of_key linked.items inX inY (idX.trans idY.symm)]

namespace Checkout

/-! ## The second time -/

section again

variable {w w' : World}

/-- A line that is provided for is handled, and its service is only touched. -/
theorem prepareItem_again (order : OrderRow) (calm : w.faults = []) (linked : w.store.Linked)
    {item : ItemRow} (provided : w.store.Provided item.id) :
    ∃ n services, (prepareItem order item).run w = (.ok none, { w with
        nextId := n
        store := { w.store with services := services } }) ∧
      List.Forall₂ ServiceRow.Starts w.store.services services ∧
      services.map ServiceRow.untimed = w.store.services.map ServiceRow.untimed := by
  obtain ⟨r₀, here₀, line₀, state⟩ := provided
  obtain ⟨task, w', ran, prepared⟩ := prepareItem_run calm linked order item
  cases prepared with
  | handled r s n ensured _ _ =>
    cases ensured with
    | added _ unserved => exact absurd line₀ (unserved r₀ here₀)
    | found _ here line =>
      obtain rfl := eq_of_key linked.serviceItems here₀ here (line₀.trans line.symm)
      refine ⟨n, _, ran, started_services w.now r₀.id w.store, ?_⟩
      simp only [changeRows, List.map_map]
      apply List.map_congr_left
      intro x hx
      simp only [Function.comp]
      split
      · next selected =>
        simp only [Bool.and_eq_true, beq_iff_eq, bne_iff_ne] at selected
        obtain rfl := eq_of_key linked.services hx here₀ selected.1.1
        have building : x.status = .provisioning := by
          rcases state with isDone | ⟨building, -⟩
          · simp [ServiceStatus.isDone, selected.1.2, selected.2] at isDone
          · exact building
        simp [ServiceRow.untimed, building]
      · rfl
  | committed r s ensured notDone idle =>
    cases ensured with
    | added _ unserved => exact absurd line₀ (unserved r₀ here₀)
    | found _ here line =>
      obtain rfl := eq_of_key linked.serviceItems here₀ here (line₀.trans line.symm)
      rcases state with isDone | ⟨-, live⟩
      · rw [notDone] at isDone; cases isDone
      · rw [idle] at live; cases live

theorem prepareItems_again (order : OrderRow) (calm : w.faults = []) (linked : w.store.Linked)
    {items : List ItemRow} (provided : ∀ item ∈ items, w.store.Provided item.id) :
    ∃ n services, (prepareItems order items).run w = (.ok [], { w with
        nextId := n
        store := { w.store with services := services } }) ∧
      services.map ServiceRow.untimed = w.store.services.map ServiceRow.untimed := by
  induction items generalizing w with
  | nil => exact ⟨w.nextId, w.store.services, rfl, rfl⟩
  | cons item rest ih =>
    obtain ⟨n, services, ran, starts, same⟩ :=
      prepareItem_again order calm linked (provided item List.mem_cons_self)
    have quiet : w.store.Quiet { w.store with services := services } :=
      ⟨rfl, rfl, starts.imp fun _ _ h => h.continues, rfl, rfl⟩
    have later : ∀ x ∈ rest, Store.Provided { w.store with services := services } x.id :=
      fun x hx => provided_later (provided x (List.mem_cons_of_mem _ hx))
        (fun r hr => exists_right_of_forall₂ starts hr) fun j hj => hj
    obtain ⟨n', services', ran', same'⟩ := ih (w := { w with
      nextId := n
      store := { w.store with services := services } }) calm (quiet.linked linked) later
    refine ⟨n', services', ?_, same'.trans same⟩
    rw [prepareItems, Action.run_bind_of_ok ran, Action.run_bind_of_ok ran']
    rfl

/-- Settling again finds everything there. -/
theorem settle_again {c : Checkout} {order : OrderRow} {tasks : List CommittedJob}
    (settled : Settles c order w tasks w') (now : Instant) :
    ∃ w'', (c.settle order.id).run { w' with now := now, faults := [] } = (.ok [], w'') ∧
      w''.store.untimed = w'.store.untimed := by
  obtain ⟨status, isSettled, updatedAt, stands⟩ := settled.settled
  obtain ⟨priced, total, pricing, totalling⟩ := settled.priced
  obtain ⟨invoice, invoiced, recorded⟩ := settled.invoice
  let v : World := { w' with now := now, faults := [] }
  let order' : OrderRow := { order with status := status, updatedAt := updatedAt }
  have calm : v.faults = [] := rfl
  have found : v.store.order? order.id = some order' := find?_key settled.orderKeys stands
  have locked : (Orders.lock order.id).run v = (.ok (some order'), v) := by
    rw [← found]
    exact run_ask calm _ _
  have settledAlready : (settleOrder order').run v = (.ok status, v) := by
    rw [settleOrder, if_pos isSettled]
    rfl
  have items : w'.store.itemsOf order.id = w.store.itemsOf order.id := by
    rw [settled.rest]
    rfl
  have listed : (Orders.items order.id).run v = (.ok (w.store.itemsOf order.id), v) := by
    rw [← items]
    exact run_ask calm _ _
  have billed : (Invoices.ensureInitial order' (w.store.itemsOf order.id)).run v =
      (.ok invoice.id, { v with nextId := v.nextId + 1 }) :=
    Invoices.ensureInitial_again calm pricing totalling invoiced
  have recorded : w'.store.Recorded (c.payment order' invoice.id) := recorded
  obtain ⟨outcome, payments, paid, samePayments, -⟩ :=
    Payments.record_again (w := { v with nextId := v.nextId + 1 }) calm settled.paymentKeys recorded
  unfold payment at paid
  obtain ⟨n, services, prepared, sameServices⟩ := prepareItems_again order' (w := { v with
    nextId := v.nextId + 1
    store := { v.store with payments := payments } }) calm
    ⟨settled.linked.orders, settled.linked.items, settled.linked.services,
      settled.linked.serviceItems, settled.linked.jobs, settled.linked.itemOrder,
      settled.linked.serviceItem, settled.linked.jobService⟩ settled.provided
  rw [settle, Action.run_bind_of_ok locked]
  dsimp only
  rw [Action.run_bind_of_ok settledAlready, Action.run_bind_of_ok listed,
    Action.run_bind_of_ok billed, Action.run_bind_of_ok paid, Action.run_bind_of_ok prepared]
  refine ⟨_, rfl, ?_⟩
  change Store.untimed { w'.store with payments := payments, services := services } = _
  simp only [Store.untimed, samePayments, sameServices]
  rfl

end again

/-! ## What is left behind -/

/-- What a checkout that has gone through leaves behind. -/
structure Fulfilled (c : Checkout) (orderId : Uuid) (w : World) (tasks : List CommittedJob)
    (w' : World) : Prop where
  order : ∃ r, w'.store.order? orderId = some r ∧
    (r.status = .paid ∨ r.status = .provisioning ∨ r.status = .active)
  invoice : w'.store.invoices.countP (fun r => r.orderId == orderId && r.kind == .initial) = 1
  items : w'.store.items = w.store.items
  service : ∀ item ∈ w.store.items, item.orderId = orderId →
    w'.store.services.countP (fun r => r.itemId == item.id) = 1
  built : ∀ item ∈ w.store.items, item.orderId = orderId → ∀ r ∈ w'.store.services,
    r.itemId = item.id → r.status = .active ∨ r.status = .terminated ∨ r.status = .provisioning ∧
      w'.store.jobs.countP (Store.isLiveJob r.id JobKind.provisionVps.name) = 1
  tasks : List.Forall₂ (w'.store.Commits orderId)
    ((w.store.itemsOf orderId).filter fun item => w.store.awaits item.id) tasks
  otherOrders : w'.store.orders.filter (fun r => r.id != orderId) =
    w.store.orders.filter fun r => r.id != orderId
  otherInvoices : w'.store.invoices.filter (fun r => r.orderId != orderId) =
    w.store.invoices.filter fun r => r.orderId != orderId
  otherServices : w'.store.services.filter (fun r => !w.store.isLineOf orderId r.itemId) =
    w.store.services.filter fun r => !w.store.isLineOf orderId r.itemId
  otherJobs : w'.store.jobs.filter (fun j => !w'.store.isServiceOf orderId j.serviceId) =
    w.store.jobs.filter fun j => !w'.store.isServiceOf orderId j.serviceId
  again : ∀ now, ∃ w'', c.carryOut.run { w' with now := now, faults := [] } = (.ok [], w'') ∧
    w''.store.untimed = w'.store.untimed

theorem isServiceOf_of_linked {s : Store} (linked : s.Linked) {r : ServiceRow} (hr : r ∈ s.services)
    (orderId : Uuid) :
    s.isServiceOf orderId r.id = s.isLineOf orderId r.itemId := by
  have found : s.service? r.id = some r := find?_key linked.services hr
  obtain ⟨item, hi, same⟩ := List.mem_map.mp (linked.serviceItem (List.mem_map_of_mem hr))
  have line : s.item? r.itemId = some item := by
    rw [← same]
    exact find?_key linked.items hi
  simp only [Store.isServiceOf, found, line, Store.isLineOf]
  rw [Bool.eq_iff_iff, List.any_eq_true]
  constructor
  · intro of
    exact ⟨item, hi, by simpa [same] using of⟩
  · rintro ⟨x, hx, is⟩
    simp only [Bool.and_eq_true, beq_iff_eq] at is
    rw [eq_of_key linked.items hi hx (same.trans is.1.symm)]
    simpa using is.2

theorem Settles.fulfilled {c : Checkout} {order : OrderRow} {tasks : List CommittedJob}
    {w w' : World} (h : Settles c order w tasks w')
    (reference : c.orderId = .ok order.id) : Fulfilled c order.id w tasks w' := by
  have items : w'.store.items = w.store.items := by rw [h.rest]
  have provided (item : ItemRow) (hi : item ∈ w.store.items) (of : item.orderId = order.id) :
      w'.store.Provided item.id := h.provided item (Store.mem_itemsOf.mpr ⟨hi, of⟩)
  have only {r r' : ServiceRow} (hr : r ∈ w'.store.services) (hr' : r' ∈ w'.store.services)
      (same : r.itemId = r'.itemId) : r = r' := eq_of_key h.linked.serviceItems hr hr' same
  have mine : ∀ item ∈ w.store.itemsOf order.id, w.store.isLineOf order.id item.id = true := by
    intro item hi
    obtain ⟨hi, of⟩ := Store.mem_itemsOf.mp hi
    exact List.any_eq_true.mpr ⟨item, hi, by simp [of]⟩
  constructor
  · obtain ⟨status, isSettled, updatedAt, stands⟩ := h.settled
    refine ⟨{ order with status := status, updatedAt := updatedAt }, ?_, ?_⟩
    · exact find?_key h.orderKeys stands
    · cases status <;> simp_all [OrderStatus.isSettled]
  · obtain ⟨r, found, -⟩ := h.invoice
    obtain ⟨hr, of, initial⟩ := Invoices.initialInvoice?_eq_some found
    apply countP_eq_one (List.Nodup.of_map _ h.invoiced.ids) hr (by simp [of, initial])
    intro x hx same
    simp only [Bool.and_eq_true, beq_iff_eq] at same
    exact h.invoiced.initial x hx r hr (same.1.trans of.symm) same.2 initial
  · exact items
  · intro item hi of
    obtain ⟨r, hr, line, -⟩ := provided item hi of
    apply countP_eq_one (List.Nodup.of_map _ h.linked.services) hr (by simpa using line)
    exact fun x hx same => only hx hr ((by simpa using same : x.itemId = item.id).trans line.symm)
  · intro item hi of r hr line
    obtain ⟨r', hr', line', state⟩ := provided item hi of
    obtain rfl := only hr' hr (line'.trans line.symm)
    rcases state with isDone | ⟨building, live⟩
    · have : r'.status = .active ∨ r'.status = .terminated := by
        simpa [ServiceStatus.isDone] using isDone
      exact this.imp id .inl
    · refine .inr (.inr ⟨building, ?_⟩)
      obtain ⟨j, hj, isLive⟩ := List.any_eq_true.mp live
      apply countP_eq_one (List.Nodup.of_map _ h.linked.jobs) hj isLive
      intro x hx isLive'
      have hj' := isLiveJob_iff.mp isLive
      have hx' := isLiveJob_iff.mp isLive'
      exact h.oneLive x hx j hj (hx'.1.trans hj'.1.symm) (hx'.2.1.trans hj'.2.1.symm) hx'.2.2 hj'.2.2
  · exact h.tasks
  · exact h.otherOrders
  · exact h.otherInvoices
  · apply h.otherServices fun id => !w.store.isLineOf order.id id
    intro item hi
    rw [mine item hi]
    rfl
  · apply h.otherJobs fun id => !w'.store.isServiceOf order.id id
    intro r hr line
    obtain ⟨item, hi, same⟩ := List.mem_map.mp line
    rw [isServiceOf_of_linked h.linked hr, Store.isLineOf, items, ← same]
    exact congrArg Bool.not (mine item hi)
  · intro now
    obtain ⟨w'', ran, same⟩ := settle_again h now
    refine ⟨w'', ?_, same⟩
    rw [carryOut, reference, Action.run_bind_of_ok (Action.run_ofExcept_ok _ _), Action.run_transaction,
      ran]

/-- **A checkout is fulfilled once.** Whatever the store holds within its constraints, a checkout that
goes through leaves its order settled and billed and every line with its one service, done or being
built by its one live job; it gives the jobs of the lines that waited, in their order; and the same
checkout carried out again changes nothing but times. The faults of the second run are left out: they
are what a test injects. -/
theorem carryOut_fulfils {c : Checkout} {w w' : World} {tasks : List CommittedJob}
    (lawful : w.store.Lawful) (fresh : w.Fresh) (ran : c.carryOut.run w = (.ok tasks, w'))
    (room : w'.nextId ≤ Uuid.limit) :
    ∃ orderId, c.orderId = .ok orderId ∧ Fulfilled c orderId w tasks w' := by
  obtain ⟨orderId, w₁, parsed, ran⟩ := Action.run_bind_ok ran
  rw [Action.run_ofExcept] at parsed
  obtain ⟨reference, rfl⟩ := Prod.mk.inj parsed
  have ran := (settle_plain c orderId).steady (Action.run_transaction_ok ran)
  obtain ⟨order, found, ⟨steps⟩⟩ := settle_ok rfl ran
  have here : order ∈ w.store.orders := List.mem_of_find?_eq_some found
  have isOrder : order.id = orderId := by simpa using List.find?_some found
  have settled := settles (w := { w with faults := [] }) rfl lawful fresh here steps room
  refine ⟨orderId, reference, ?_⟩
  have done := settled.fulfilled (isOrder ▸ reference)
  rw [isOrder] at done
  exact ⟨done.order, done.invoice, done.items, done.service, done.built, done.tasks, done.otherOrders,
    done.otherInvoices, done.otherServices, done.otherJobs, done.again⟩

/-- An order of two lines that waits to be paid. The second line has an active service. -/
def sampleStore : Store := { Store.empty with
  orders := [⟨.ofNat 1, .ofNat 9, .pendingPayment, "USD", 1000, ⟨1000, 0⟩, ⟨1000, 0⟩⟩]
  items := [
    ⟨.ofNat 2, .ofNat 1, .ofNat 8, .object [], .monthly, 1, 500, ⟨1000, 0⟩⟩,
    ⟨.ofNat 3, .ofNat 1, .ofNat 8, .object [], .monthly, 1, 500, ⟨1000, 0⟩⟩]
  services := [{ newService ⟨1000, 0⟩ (.ofNat 4) (.ofNat 9)
      ⟨.ofNat 3, .ofNat 1, .ofNat 8, .object [], .monthly, 1, 500, ⟨1000, 0⟩⟩ ⟨2000, 0⟩ with
    status := .active }] }

def sampleWorld : World := World.start sampleStore ⟨1000, 0⟩ 100 ⟨"", "", ""⟩

/-- The checkout of the order of `sampleStore`. -/
def sampleCheckout : Checkout where
  sessionId := "cs_1"
  intent := some ⟨"pi_1"⟩
  orderRef := some "00000000-0000-0000-0000-000000000001"
  amountTotal := none
  currency := none

theorem carryOut_fulfils_sample : ∃ t w', sampleCheckout.carryOut.run sampleWorld = (.ok [t], w') ∧
    Fulfilled sampleCheckout (.ofNat 1) sampleWorld [t] w' := by
  have one : ((sampleCheckout.carryOut.run sampleWorld).1.map List.length) = .ok 1 := by
    decide +kernel
  have few : (sampleCheckout.carryOut.run sampleWorld).2.nextId ≤ Uuid.limit := by decide +kernel
  have lawful : sampleWorld.store.Lawful :=
    ⟨⟨by decide, by decide, by decide, by decide, by decide, by decide, by decide, by decide⟩,
      fun _ hj => (List.not_mem_nil hj).elim, ⟨by decide, fun _ hr => (List.not_mem_nil hr).elim⟩,
      by decide⟩
  match ran : sampleCheckout.carryOut.run sampleWorld, one, few with
  | (.ok [t], w'), _, few =>
    obtain ⟨orderId, reference, done⟩ := carryOut_fulfils lawful (by decide) ran few
    have : orderId = .ofNat 1 := by
      have known : sampleCheckout.orderId = .ok (.ofNat 1) := by decide +kernel
      rw [known] at reference
      exact (Except.ok.inj reference).symm
    exact ⟨t, w', rfl, this ▸ done⟩

end Checkout

end HostingBilling
