import HostingBilling.Proofs.Checkout.Invoicing
import HostingBilling.Proofs.Checkout.Preparation
import HostingBilling.Proofs.Checkout.Recording
import HostingBilling.Proofs.Quiet

/-!
# Settling a checkout

What the steps of a settlement leave to one another, and what all of them together leave to a second
settlement of the same checkout.
-/

namespace HostingBilling

open Store (Quiet Still)

/-- The constraints of the tables that a settlement works on. -/
structure Store.Lawful (s : Store) : Prop where
  linked : s.Linked
  oneLive : s.OneLive
  invoiced : s.Invoiced
  payments : (s.payments.map (·.id)).Nodup

/-! ## What a settlement is made of -/

theorem Orders.move_plain (id : Uuid) (source target : OrderStatus) : (move id source target).Plain :=
  .bind (.ofExcept _) fun _ => .change _ _

theorem Invoices.insertLines_plain (id : Uuid) (priced : List PricedItem) :
    (insertLines id priced).Plain := by
  induction priced with
  | nil => exact .pure _
  | cons p rest ih => exact .bind (.bind .freshId fun _ => .change _ _) fun _ => ih

theorem Invoices.ensureInitial_plain (order : OrderRow) (items : List ItemRow) :
    (ensureInitial order items).Plain := by
  refine .bind (.ofExcept _) fun _ => .bind (.ofExcept _) fun _ => .bind .now fun _ =>
    .bind .freshId fun _ => .bind (.execute _ _) fun created => .ite ?_ (.execute _ _)
  exact .bind (insertLines_plain _ _) fun _ => .pure _

theorem Payments.ofCheckout_plain (p : SettledPayment) : (ofCheckout p).Plain := by
  unfold ofCheckout
  cases p.intent with
  | none =>
    refine .bind (.pure _) fun found => ?_
    cases found
    · exact .ask _ _
    · exact .pure _
  | some intent =>
    refine .bind (.ask _ _) fun found => ?_
    cases found
    · exact .ask _ _
    · exact .pure _

theorem Payments.record_plain (p : SettledPayment) : (record p).Plain := by
  refine .bind (ofCheckout_plain p) ?_
  rintro (_ | r)
  · exact .bind .freshId fun _ => .bind (.execute _ _) fun _ => .pure _
  · exact .ite (.pure _) (.bind (.execute _ _) fun _ => .pure _)

/-- The status of a payable order once its payment is settled. -/
def OrderStatus.settled (s : OrderStatus) : OrderStatus := if s.isSettled then s else .paid

/-- The status of a settled order once these jobs were created for it. -/
def OrderStatus.onward (s : OrderStatus) (created : List CommittedJob) : OrderStatus :=
  if !created.isEmpty && s == .paid then .provisioning else s

namespace Checkout

variable {c : Checkout} {w w' : World}

/-- The payment that a checkout records for its order. -/
def payment (c : Checkout) (order : OrderRow) (invoiceId : Uuid) : SettledPayment where
  userId := order.userId
  orderId := order.id
  invoiceId
  intent := c.intent
  session := c.sessionId
  amountCents := c.paidCents order
  currency := order.currency

/-- The order goes on to provisioning if jobs were created for it while it was only paid. -/
def moveOn (order : OrderRow) (status : OrderStatus) (created : List CommittedJob) : Action Unit := do
  if !created.isEmpty && status == .paid then
    let _ ← Orders.move order.id .paid .provisioning

theorem moveOn_still (order : OrderRow) (status : OrderStatus) (created : List CommittedJob) :
    (moveOn order status created).Keeps Still :=
  Action.Keeps.ite (Still.chain.bind (Orders.move_still _ _ _) fun _ => Still.chain.pure _)
    (Still.chain.pure _)

theorem settle_plain (c : Checkout) (orderId : Uuid) : (c.settle orderId).Plain := by
  refine .bind (.ask _ _) ?_
  rintro (_ | order)
  · exact .throw _
  · refine .bind (.ite (.pure _) (.bind (Orders.move_plain _ _ _) fun _ => .pure _)) fun status =>
      .bind (.ask _ _) fun items => .bind (Invoices.ensureInitial_plain _ _) fun invoiceId =>
        .bind (Payments.record_plain _) fun _ => .bind (prepareItems_plain _ _) fun created =>
          .ite ?_ (.pure _)
    exact .bind (Orders.move_plain _ _ _) fun _ => .pure _

/-- The steps of a settlement that has gone through. -/
structure Steps (c : Checkout) (order : OrderRow) (w : World) (tasks : List CommittedJob)
    (w' : World) : Type where
  status : OrderStatus
  invoiceId : Uuid
  outcome : PaymentOutcome
  paid : World
  invoiced : World
  recorded : World
  prepared : World
  ranOrder : (settleOrder order).run w = (.ok status, paid)
  ranInvoice : (Invoices.ensureInitial order (paid.store.itemsOf order.id)).run paid =
    (.ok invoiceId, invoiced)
  ranPayment : (Payments.record (c.payment order invoiceId)).run invoiced = (.ok outcome, recorded)
  ranItems : (prepareItems order (paid.store.itemsOf order.id)).run recorded = (.ok tasks, prepared)
  ranMove : (moveOn order status tasks).run prepared = (.ok (), w')

theorem settle_ok {orderId : Uuid} {tasks : List CommittedJob} (calm : w.faults = [])
    (ran : (c.settle orderId).run w = (.ok tasks, w')) :
    ∃ order, w.store.order? orderId = some order ∧ Nonempty (Steps c order w tasks w') := by
  have locked : (Orders.lock orderId).run w = (.ok (w.store.order? orderId), w) := run_ask calm _ _
  rw [settle, Action.run_bind_of_ok locked] at ran
  cases found : w.store.order? orderId with
  | none =>
    simp only [found] at ran
    cases ran
  | some order =>
    simp only [found] at ran
    obtain ⟨status, paid, ranOrder, ran⟩ := Action.run_bind_ok ran
    have calm₁ := (settleOrder_still order w).calm calm
    rw [ranOrder] at calm₁
    have listed : (Orders.items order.id).run paid = (.ok (paid.store.itemsOf order.id), paid) :=
      run_ask calm₁ _ _
    rw [Action.run_bind_of_ok listed] at ran
    obtain ⟨invoiceId, invoiced, ranInvoice, ran⟩ := Action.run_bind_ok ran
    obtain ⟨outcome, recorded, ranPayment, ran⟩ := Action.run_bind_ok ran
    obtain ⟨created, prepared, ranItems, ran⟩ := Action.run_bind_ok ran
    have ran' : ((moveOn order status created >>= fun _ => pure created)).run prepared =
        (.ok tasks, w') := by
      rw [← ran]
      unfold moveOn
      by_cases moves : (!created.isEmpty && status == .paid) = true
      · rw [if_pos moves, if_pos moves]
        simp only [Action.run_bind]
        rcases (Orders.move order.id .paid .provisioning).run prepared with ⟨_ | _, _⟩ <;> rfl
      · rw [if_neg moves, if_neg moves]
        rfl
    obtain ⟨_, _, ranMove, last⟩ := Action.run_bind_ok ran'
    cases last
    exact ⟨order, rfl, ⟨status, invoiceId, outcome, paid, invoiced, recorded, prepared, ranOrder,
      ranInvoice, ranPayment, ranItems, ranMove⟩⟩

theorem carryOut_ok {tasks : List CommittedJob} (calm : w.faults = [])
    (ran : c.carryOut.run w = (.ok tasks, w')) : ∃ order, c.orderId = .ok order.id ∧
      w.store.order? order.id = some order ∧ Nonempty (Steps c order w tasks w') := by
  rw [carryOut] at ran
  obtain ⟨orderId, w₁, read, ran⟩ := Action.run_bind_ok ran
  rw [Action.run_ofExcept] at read
  obtain ⟨reference, rfl⟩ := Prod.mk.inj read
  obtain ⟨order, found, steps⟩ := settle_ok calm (Action.run_transaction_ok ran)
  obtain rfl : order.id = orderId := by simpa using List.find?_some found
  exact ⟨order, reference, found, steps⟩

section serves

variable {R : Store → Store → Prop} (serves : Store.Serves R)

include serves

theorem moveOn_serves (order : OrderRow) (status : OrderStatus) (created : List CommittedJob) :
    (moveOn order status created).Keeps R :=
  Action.Keeps.ite (serves.bind (Orders.move_handles serves.toHandles _ _ rfl) fun _ => serves.pure _) (serves.pure _)

variable {order : OrderRow} {tasks : List CommittedJob} (steps : Steps c order w tasks w')

theorem Steps.bills : Follows R steps.paid steps.invoiced :=
  (Invoices.ensureInitial_keeps serves.toChain serves.invoices serves.lines _ _).follows steps.ranInvoice

/-- The steps before the payment is recorded. -/
theorem Steps.before : Follows R w steps.invoiced :=
  serves.follows_trans ((settleOrder_serves serves order).follows steps.ranOrder) (steps.bills serves)

/-- The steps after it. -/
theorem Steps.after : Follows R steps.recorded w' :=
  serves.follows_trans
    ((prepareItems_keeps serves.toChain serves.services serves.jobs _ _).follows steps.ranItems)
    ((moveOn_serves serves order steps.status tasks).follows steps.ranMove)

end serves

/-! ## The order -/

/-- The order is there, in this status, and otherwise as it was read. -/
def Stands (s : Store) (order : OrderRow) (status : OrderStatus) : Prop :=
  ∃ updatedAt, { order with status := status, updatedAt := updatedAt } ∈ s.orders

/-- Only this order may have changed, and it now stands in a status that a settled order can have. -/
structure Settled (order : OrderRow) (w : World) (status : OrderStatus) (w' : World) : Prop where
  rest : w' = { w with store := { w.store with orders := w'.store.orders } }
  keys : (w'.store.orders.map (·.id)).Nodup
  isSettled : status.isSettled = true
  stands : Stands w'.store order status
  others : w'.store.orders.filter (fun r => r.id != order.id) =
    w.store.orders.filter fun r => r.id != order.id

theorem settled_move {order : OrderRow} {source target : OrderStatus} {moved : Bool}
    (calm : w.faults = []) (keys : (w.store.orders.map (·.id)).Nodup)
    (stands : Stands w.store order source) (settles : target.isSettled = true)
    (ran : (Orders.move order.id source target).run w = (.ok moved, w')) :
    Settled order w target w' := by
  have ran : w' = { w with store := (w.store.moveOrder w.now order.id source target).2 } := by
    rw [Orders.move] at ran
    cases allowed : source.canBecome target with
    | false => simp [OrderStatus.become, allowed, Action.run_bind] at ran
    | true =>
      have becomes : source.become target = .ok target := by simp [OrderStatus.become, allowed]
      rw [becomes, Action.run_bind_of_ok (Action.run_ofExcept_ok _ _), run_change calm] at ran
      exact (congrArg Prod.snd ran).symm
  subst ran
  obtain ⟨updatedAt, here⟩ := stands
  refine ⟨rfl, nodup_changeRows keys fun _ => rfl, settles, ⟨w.now, ?_⟩, ?_⟩
  · exact mem_changeRows.mpr ⟨_, here, by simp⟩
  · apply filter_changeRows_of_not
    · intro r _ other
      simp only [bne_iff_ne] at other
      simp [other]
    · exact fun _ _ _ => rfl

theorem settleOrder_ok {order : OrderRow} {status : OrderStatus} (calm : w.faults = [])
    (keys : (w.store.orders.map (·.id)).Nodup) (here : order ∈ w.store.orders)
    (ran : (settleOrder order).run w = (.ok status, w')) : Settled order w status w' := by
  unfold settleOrder at ran
  split at ran
  · next settled =>
    cases ran
    exact ⟨rfl, keys, settled, ⟨order.updatedAt, here⟩, rfl⟩
  · obtain ⟨moved, w₁, ranMove, last⟩ := Action.run_bind_ok ran
    cases last
    exact settled_move calm keys ⟨order.updatedAt, here⟩ rfl ranMove

/-- Only an order that waits for its payment becomes paid. -/
theorem settleOrder_status {order : OrderRow} {status : OrderStatus}
    (ran : (settleOrder order).run w = (.ok status, w')) :
    status = order.status.settled ∧
      (order.status.isSettled = true ∨ order.status = .pendingPayment) := by
  unfold settleOrder at ran
  unfold OrderStatus.settled
  split at ran
  · next settled =>
    cases ran
    exact ⟨(if_pos settled).symm, .inl settled⟩
  · next unsettled =>
    obtain ⟨moved, w₁, ranMove, last⟩ := Action.run_bind_ok ran
    cases last
    refine ⟨(if_neg unsettled).symm, .inr ?_⟩
    rw [Orders.move, Action.run_bind, Action.run_ofExcept] at ranMove
    cases is : order.status
    case pendingPayment => rfl
    all_goals
      rw [is] at ranMove
      cases ranMove

theorem moveOn_ok {order : OrderRow} {status : OrderStatus} {created : List CommittedJob}
    (calm : w.faults = []) (keys : (w.store.orders.map (·.id)).Nodup)
    (isSettled : status.isSettled = true) (stands : Stands w.store order status)
    (ran : (moveOn order status created).run w = (.ok (), w')) :
    Settled order w (status.onward created) w' := by
  unfold moveOn at ran
  unfold OrderStatus.onward
  split at ran
  · next moves =>
    obtain ⟨moved, w₁, ranMove, last⟩ := Action.run_bind_ok ran
    cases last
    rw [if_pos moves]
    simp only [Bool.and_eq_true, beq_iff_eq] at moves
    exact settled_move calm keys (moves.2 ▸ stands) rfl ranMove
  · next stays =>
    cases ran
    rw [if_neg stays]
    exact ⟨rfl, keys, isSettled, stands, rfl⟩

/-! ## The order, the invoice and the payment -/

/-- What has been done when the payment is recorded. -/
structure Paid (c : Checkout) (order : OrderRow) (w : World) (status : OrderStatus) (invoiceId : Uuid)
    (w' : World) : Prop where
  rest : w' = { w with
    nextId := w'.nextId
    store := { w.store with
      orders := w'.store.orders
      invoices := w'.store.invoices
      invoiceLines := w'.store.invoiceLines
      payments := w'.store.payments } }
  quiet : Follows Quiet w w'
  isSettled : status.isSettled = true
  stands : Stands w'.store order status
  orderKeys : (w'.store.orders.map (·.id)).Nodup
  otherOrders : w'.store.orders.filter (fun r => r.id != order.id) =
    w.store.orders.filter fun r => r.id != order.id
  priced : ∃ priced total, priceItems Money.zero (w.store.itemsOf order.id) = .ok priced ∧
    Money.ofCents order.totalCents = .ok total
  found : ∃ r, w'.store.initialInvoice? order.id = some r ∧ r.id = invoiceId
  invoiced : w'.store.Invoiced
  otherInvoices : w'.store.invoices.filter (fun r => r.orderId != order.id) =
    w.store.invoices.filter fun r => r.orderId != order.id
  paymentKeys : (w'.store.payments.map (·.id)).Nodup
  recorded : w'.store.Recorded (c.payment order invoiceId)

theorem paid_ok {order : OrderRow} {status : OrderStatus} {invoiceId : Uuid} {outcome : PaymentOutcome}
    {paid invoiced recorded : World} (calm : w.faults = []) (lawful : w.store.Lawful) (fresh : w.Fresh)
    (here : order ∈ w.store.orders) (ranOrder : (settleOrder order).run w = (.ok status, paid))
    (ranInvoice : (Invoices.ensureInitial order (paid.store.itemsOf order.id)).run paid =
      (.ok invoiceId, invoiced))
    (ranPayment : (Payments.record (c.payment order invoiceId)).run invoiced = (.ok outcome, recorded))
    (room : recorded.nextId ≤ Uuid.limit) :
    Paid c order w status invoiceId recorded ∧
      paid.store.itemsOf order.id = w.store.itemsOf order.id := by
  -- identifiers are only used up, so what is new at the end was new at every step
  have follows₁ := (settleOrder_still order).quiet.follows ranOrder
  have follows₂ := (Invoices.ensureInitial_still _ _).quiet.follows ranInvoice
  have follows₃ := (Payments.record_still _).quiet.follows ranPayment
  have room₂ := Nat.le_trans follows₃.nextId room
  have s₁ := settleOrder_ok calm lawful.linked.orders here ranOrder
  have calm₁ : paid.faults = [] := follows₁.calm calm
  have items : paid.store.itemsOf order.id = w.store.itemsOf order.id := by rw [s₁.rest]; rfl
  have s₂ : Invoices.Billed order paid invoiceId invoiced := by
    apply Invoices.ensureInitial_ok calm₁ _ _ ranInvoice room₂
    · rw [s₁.rest]; exact fresh.invoices
    · rw [s₁.rest]; exact ⟨lawful.invoiced.ids, lawful.invoiced.initial⟩
  have calm₂ : invoiced.faults = [] := follows₂.calm calm₁
  have payments₂ : invoiced.store.payments = w.store.payments := by rw [s₂.rest, s₁.rest]
  obtain ⟨rest₃, paymentKeys, payment⟩ := Payments.record_ok calm₂ (payments₂ ▸ lawful.payments)
    (fun r hr => Nat.lt_of_lt_of_le (fresh.payments r (payments₂ ▸ hr))
      (Nat.le_trans follows₁.nextId follows₂.nextId)) ranPayment room
  have orders : recorded.store.orders = paid.store.orders := by rw [rest₃, s₂.rest]
  have invoices : recorded.store.invoices = invoiced.store.invoices := by rw [rest₃]
  refine ⟨?_, items⟩
  constructor
  · rw [rest₃, s₂.rest, s₁.rest]
  · exact Quiet.chain.follows_trans (Quiet.chain.follows_trans follows₁ follows₂) follows₃
  · exact s₁.isSettled
  · unfold Stands
    rw [orders]
    exact s₁.stands
  · exact orders ▸ s₁.keys
  · rw [orders, s₁.others]
  · rw [← items]
    exact Invoices.ensureInitial_priced ranInvoice
  · unfold Store.initialInvoice?
    rw [invoices]
    exact s₂.found
  · exact ⟨invoices ▸ s₂.invoiced.ids, invoices ▸ s₂.invoiced.initial⟩
  · rw [invoices, s₂.others, s₁.rest]
  · exact paymentKeys
  · exact payment

/-! ## All steps -/

/-- What a settlement has done. Only the tables named in `rest` have changed. -/
structure Settles (c : Checkout) (order : OrderRow) (w : World) (tasks : List CommittedJob)
    (w' : World) : Prop where
  rest : w' = { w with
    nextId := w'.nextId
    store := { w.store with
      orders := w'.store.orders
      invoices := w'.store.invoices
      invoiceLines := w'.store.invoiceLines
      payments := w'.store.payments
      services := w'.store.services
      jobs := w'.store.jobs } }
  settled : ∃ status : OrderStatus, status.isSettled = true ∧ Stands w'.store order status
  orderKeys : (w'.store.orders.map (·.id)).Nodup
  otherOrders : w'.store.orders.filter (fun r => r.id != order.id) =
    w.store.orders.filter fun r => r.id != order.id
  priced : ∃ priced total, priceItems Money.zero (w.store.itemsOf order.id) = .ok priced ∧
    Money.ofCents order.totalCents = .ok total
  invoice : ∃ r, w'.store.initialInvoice? order.id = some r ∧
    w'.store.Recorded (c.payment order r.id)
  invoiced : w'.store.Invoiced
  otherInvoices : w'.store.invoices.filter (fun r => r.orderId != order.id) =
    w.store.invoices.filter fun r => r.orderId != order.id
  paymentKeys : (w'.store.payments.map (·.id)).Nodup
  linked : w'.store.Linked
  oneLive : w'.store.OneLive
  provided : ∀ item ∈ w.store.itemsOf order.id, w'.store.Provided item.id
  tasks : List.Forall₂ (w'.store.Commits order.id)
    ((w.store.itemsOf order.id).filter fun item => w.store.awaits item.id) tasks
  otherServices : ∀ keep : Uuid → Bool, (∀ item ∈ w.store.itemsOf order.id, keep item.id = false) →
    w'.store.services.filter (fun r => keep r.itemId) = w.store.services.filter fun r => keep r.itemId
  otherJobs : ∀ keep : Uuid → Bool,
    (∀ r ∈ w'.store.services, r.itemId ∈ (w.store.itemsOf order.id).map (·.id) →
      keep r.id = false) →
    w'.store.jobs.filter (fun j => keep j.serviceId) = w.store.jobs.filter fun j => keep j.serviceId

theorem settles {order : OrderRow} {tasks : List CommittedJob} (calm : w.faults = [])
    (lawful : w.store.Lawful) (fresh : w.Fresh)
    (here : order ∈ w.store.orders) (steps : Steps c order w tasks w')
    (room : w'.nextId ≤ Uuid.limit) : Settles c order w tasks w' := by
  obtain ⟨status, invoiceId, outcome, paid, invoiced, recorded, prepared, ranOrder, ranInvoice,
    ranPayment, ranItems, ranMove⟩ := steps
  have counted := ((prepareItems_plain order _).counts.follows ranItems).nextId
  have room₄ := Nat.le_trans ((moveOn_still order status tasks).quiet.follows ranMove).nextId room
  obtain ⟨s₃, items⟩ := paid_ok calm lawful fresh here ranOrder ranInvoice ranPayment
    (Nat.le_trans counted room₄)
  have quiet := s₃.quiet
  have known : ∀ item ∈ paid.store.itemsOf order.id, item.id ∈ recorded.store.items.map (·.id) := by
    intro item hi
    rw [items, Store.mem_itemsOf] at hi
    rw [quiet.store.items]
    exact List.mem_map_of_mem hi.1
  have lines := items ▸ lawful.linked.nodup_itemsOf order.id
  have s₄ := prepareItems_run (quiet.calm calm) (quiet.store.linked lawful.linked)
    (quiet.eases.numbered fresh.numbered) known lines ranItems room₄
  have orders₄ : prepared.store.orders = recorded.store.orders := by rw [s₄.rest]
  have calm₄ : prepared.faults = [] := by rw [s₄.rest]; exact quiet.calm calm
  have stands : Stands prepared.store order status := by
    unfold Stands
    rw [orders₄]
    exact s₃.stands
  have s₅ := moveOn_ok calm₄ (orders₄ ▸ s₃.orderKeys) s₃.isSettled stands ranMove
  rw [items] at s₄
  have services : w'.store.services = prepared.store.services := by rw [s₅.rest]
  have jobs : w'.store.jobs = prepared.store.jobs := by rw [s₅.rest]
  have invoices : w'.store.invoices = recorded.store.invoices := by rw [s₅.rest, s₄.rest]
  have payments : w'.store.payments = recorded.store.payments := by rw [s₅.rest, s₄.rest]
  have waits (item : ItemRow) : recorded.store.awaits item.id = w.store.awaits item.id := by
    rw [s₃.rest]
    rfl
  have started : ∀ r ∈ prepared.store.services, ∃ r' ∈ w'.store.services, r.Starts r' :=
    fun r hr => ⟨r, services ▸ hr, .inl rfl⟩
  have kept : ∀ j ∈ prepared.store.jobs, j ∈ w'.store.jobs := fun j hj => jobs ▸ hj
  constructor
  · rw [s₅.rest, s₄.rest, s₃.rest]
  · exact ⟨_, s₅.isSettled, s₅.stands⟩
  · exact s₅.keys
  · rw [s₅.others, orders₄, s₃.otherOrders]
  · exact s₃.priced
  · obtain ⟨r, found, rfl⟩ := s₃.found
    refine ⟨r, ?_, s₃.recorded.congr payments⟩
    unfold Store.initialInvoice?
    rw [invoices]
    exact found
  · exact ⟨invoices ▸ s₃.invoiced.ids, invoices ▸ s₃.invoiced.initial⟩
  · rw [invoices, s₃.otherInvoices]
  · rw [payments]
    exact s₃.paymentKeys
  · exact ((moveOn_still order status tasks).quiet.follows ranMove).store.linked s₄.linked
  · unfold Store.OneLive
    rw [jobs]
    apply s₄.oneLive
    unfold Store.OneLive
    rw [quiet.store.jobs]
    exact lawful.oneLive
  · exact fun item hi => provided_later (s₄.provided item hi) started kept
  · rw [← List.filter_congr fun item _ => waits item]
    exact s₄.tasks.imp fun item t commits => commits_later commits started kept
  · intro keep other
    rw [services, s₄.otherServices keep other, s₃.rest]
  · intro keep other
    rw [jobs, s₄.otherJobs keep (services ▸ other), quiet.store.jobs]

end Checkout

end HostingBilling
