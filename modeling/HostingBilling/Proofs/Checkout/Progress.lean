import HostingBilling.Proofs.Checkout.Committing

/-!
# A checkout that goes through

A checkout of a payable order goes through when its amounts fit, and its payment is either free to be
recorded or recorded already. Either way the order has been billed once when it is through.
-/

namespace HostingBilling

/-- What some lines cost together. -/
def ItemRow.subtotal : List ItemRow → Int
  | [] => 0
  | item :: rest => item.unitPriceCents * item.quantity + subtotal rest

/-- The amounts of an order are within the bounds of the tables, and so is what they add up to. -/
structure OrderRow.Priced (order : OrderRow) (items : List ItemRow) : Prop where
  prices : ∀ item ∈ items, 0 ≤ item.unitPriceCents ∧ 0 < item.quantity
  subtotal : ItemRow.subtotal items < 0x8000000000000000
  total : 0 ≤ order.totalCents ∧ order.totalCents < 0x8000000000000000

namespace Money

theorem ofNat?_of_fits {n : Nat} (fits : n < 0x8000000000000000) : ofNat? n = some ⟨n, fits⟩ := dif_pos fits

theorem ofCents_ok {n : Int} (nonneg : 0 ≤ n) (fits : n < 0x8000000000000000) :
    ∃ m, ofCents n = .ok m ∧ (m.cents : Int) = n := by
  refine ⟨⟨n.toNat, by omega⟩, ?_, Int.toNat_of_nonneg nonneg⟩
  rw [ofCents, if_neg (by omega), ofNat?_of_fits (by omega)]

end Money

theorem ItemRow.amount_ok {item : ItemRow} (price : 0 ≤ item.unitPriceCents) (quantity : 0 < item.quantity)
    (fits : item.unitPriceCents * item.quantity < 0x8000000000000000) :
    ∃ m, item.amount = .ok m ∧ (m.cents : Int) = item.unitPriceCents * item.quantity := by
  have below := Int.mul_le_mul_of_nonneg_left (show 1 ≤ item.quantity from quantity) price
  rw [Int.mul_one] at below
  obtain ⟨unit, is, cents⟩ := Money.ofCents_ok price (Int.lt_of_le_of_lt below fits)
  have product : ((unit.cents * item.quantity.toNat : Nat) : Int) =
      item.unitPriceCents * item.quantity := by
    rw [Int.natCast_mul, cents, Int.toNat_of_nonneg (Int.le_of_lt quantity)]
  have small : unit.cents * item.quantity.toNat < 0x8000000000000000 := by omega
  refine ⟨⟨_, small⟩, ?_, product⟩
  have times : unit.mul? item.quantity = some ⟨_, small⟩ := by
    rw [Money.mul?, if_neg (by omega), Money.ofNat?_of_fits small]
  simp only [ItemRow.amount, is, bind, Except.bind, times]
  rfl

theorem ItemRow.subtotal_nonneg {items : List ItemRow}
    (prices : ∀ item ∈ items, 0 ≤ item.unitPriceCents ∧ 0 < item.quantity) :
    0 ≤ ItemRow.subtotal items := by
  induction items with
  | nil => exact Int.le_refl 0
  | cons item rest ih =>
    obtain ⟨price, quantity⟩ := prices item List.mem_cons_self
    exact Int.add_nonneg (Int.mul_nonneg price (Int.le_of_lt quantity))
      (ih fun x hx => prices x (List.mem_cons_of_mem _ hx))

/-- An item with its amount: the exact product of price and quantity. -/
structure PricedItem.Exact (item : ItemRow) (p : PricedItem) : Prop where
  of : p.item = item
  amount : (p.amount.cents : Int) = item.unitPriceCents * item.quantity

/-- Lines are priced when all of them together fit, each exactly and in their order. -/
theorem priceItems_exact {items : List ItemRow} {sum : Money}
    (prices : ∀ item ∈ items, 0 ≤ item.unitPriceCents ∧ 0 < item.quantity)
    (fits : sum.cents + ItemRow.subtotal items < 0x8000000000000000) :
    ∃ priced total, priceItems sum items = .ok (priced, total) ∧
      List.Forall₂ PricedItem.Exact items priced := by
  induction items generalizing sum with
  | nil => exact ⟨[], sum, rfl, .nil⟩
  | cons item rest ih =>
    rw [ItemRow.subtotal] at fits
    obtain ⟨price, quantity⟩ := prices item List.mem_cons_self
    have others := fun x hx => prices x (List.mem_cons_of_mem item hx)
    have more := ItemRow.subtotal_nonneg others
    obtain ⟨m, amount, cents⟩ := ItemRow.amount_ok price quantity (by omega)
    have small : sum.cents + m.cents < 0x8000000000000000 := by omega
    have below : ((sum.cents + m.cents : Nat) : Int) + ItemRow.subtotal rest < 0x8000000000000000 := by omega
    obtain ⟨priced, total, ran, exact_⟩ := ih others (show ((⟨_, small⟩ : Money).cents : Int) + _ < _ from below)
    have added : sum.add? m = some ⟨_, small⟩ := Money.ofNat?_of_fits small
    refine ⟨⟨item, m⟩ :: priced, total, ?_, .cons ⟨rfl, cents⟩ exact_⟩
    simp only [priceItems, amount, bind, Except.bind, added, ran]
    rfl

theorem OrderRow.Priced.exact {order : OrderRow} {items : List ItemRow} (h : order.Priced items) :
    ∃ priced subtotal total, priceItems Money.zero items = .ok (priced, subtotal) ∧
      List.Forall₂ PricedItem.Exact items priced ∧ Money.ofCents order.totalCents = .ok total := by
  have fits : Money.zero.cents + ItemRow.subtotal items < 0x8000000000000000 := by
    simpa [Money.zero] using h.subtotal
  obtain ⟨priced, subtotal, pricing, exact_⟩ := priceItems_exact h.prices fits
  obtain ⟨total, totalling, -⟩ := Money.ofCents_ok h.total.1 h.total.2
  exact ⟨priced, subtotal, total, pricing, exact_, totalling⟩

theorem OrderRow.Priced.ok {order : OrderRow} {items : List ItemRow} (h : order.Priced items) :
    ∃ priced total, priceItems Money.zero items = .ok priced ∧
      Money.ofCents order.totalCents = .ok total := by
  obtain ⟨priced, subtotal, total, pricing, -, totalling⟩ := h.exact
  exact ⟨_, total, pricing, totalling⟩

namespace Checkout

variable {c : Checkout} {order : OrderRow} {w w' : World}

/-! ## Billing -/

/-- The order has neither an invoice nor a payment, and the intent and the session are on no payment. -/
structure Unbilled (c : Checkout) (order : OrderRow) (w : World) : Prop where
  invoices : ∀ r ∈ w.store.invoices, r.orderId ≠ order.id
  payments : ∀ r ∈ w.store.payments, r.orderId ≠ some order.id
  intent : ∀ i, c.intent = some i → ∀ r ∈ w.store.payments, r.intent ≠ some i.text
  session : ∀ r ∈ w.store.payments, r.session ≠ some c.sessionId
  keys : (w.store.payments.map (·.id)).Nodup
  numbered : ∀ r ∈ w.store.payments, r.id.val < w.nextId

/-- The order has its initial invoice and its payment, and the checkout finds both. -/
structure Billed (c : Checkout) (order : OrderRow) (s : Store) : Prop where
  found : ∃ r, s.initialInvoice? order.id = some r ∧ s.Recorded (c.payment order r.id)
  invoice : s.invoices.countP (fun r => r.orderId == order.id && r.kind == .initial) = 1
  keys : (s.payments.map (·.id)).Nodup
  payment : s.payments.countP (fun r => r.orderId == some order.id) = 1

theorem Billed.congr {a b : Store} (h : Billed c order a) (invoices : b.invoices = a.invoices)
    (payments : b.payments = a.payments) : Billed c order b := by
  obtain ⟨r, found, recorded⟩ := h.found
  refine ⟨⟨r, ?_, recorded.congr payments⟩, invoices ▸ h.invoice, payments ▸ h.keys,
    payments ▸ h.payment⟩
  rw [Store.initialInvoice?, invoices]
  exact found

/-- A checkout that finds nothing of its own is free to record its payment. -/
theorem Unbilled.free (h : Unbilled c order w) (invoiceId id : Uuid) :
    w.store.paymentOf (c.payment order invoiceId) = none ∧
      w.store.checkPaymentKeys id ((c.payment order invoiceId).intent.map (·.text))
        (c.payment order invoiceId).session = .ok () := by
  have bySession : w.store.paymentBySession c.sessionId = none :=
    List.find?_eq_none.mpr fun r hr => by simpa using h.session r hr
  constructor
  · rw [Store.paymentOf, Option.or_eq_none_iff, Option.bind_eq_none_iff]
    refine ⟨fun i hi => ?_, bySession⟩
    exact List.find?_eq_none.mpr fun r hr => by simpa using h.intent i hi r hr
  · refine Payments.checkPaymentKeys_ok.mpr ⟨fun r hr _ some_ => ?_, fun r hr _ => h.session r hr⟩
    obtain ⟨i, hi, is⟩ := Option.map_eq_some_iff.mp (Option.some_get some_).symm
    rw [show (c.payment order invoiceId).intent = c.intent from rfl] at hi ⊢
    rw [hi]
    exact h.intent i hi r hr

/-- The steps of billing an order once. -/
theorem bill_run {items : List ItemRow} (calm : w.faults = [])
    (known : (w.store.order? order.id).isSome = true)
    (priced : ∃ priced total, priceItems Money.zero items = .ok priced ∧
      Money.ofCents order.totalCents = .ok total)
    (h : Unbilled c order w ∨ Billed c order w.store) :
    ∃ invoiceId outcome w₁ n invoices lines payments,
      (Invoices.ensureInitial order items).run w = (.ok invoiceId, w₁) ∧
      (Payments.record (c.payment order invoiceId)).run w₁ = (.ok outcome, { w with
        nextId := n
        store := { w.store with invoices := invoices, invoiceLines := lines, payments := payments } }) ∧
      (n ≤ Uuid.limit → Billed c order
        { w.store with invoices := invoices, invoiceLines := lines, payments := payments }) := by
  obtain ⟨priced, total, pricing, totalling⟩ := priced
  rcases h with new | billed
  · have absent (r : InvoiceRow) (hr : r ∈ w.store.invoices) : (r.orderId == order.id) = false := by
      simpa using new.invoices r hr
    have none_yet : w.store.initialInvoice? order.id = none :=
      List.find?_eq_none.mpr fun r hr => by simp [absent r hr]
    obtain ⟨r, n, lines, ran, isId, of, initial, counted⟩ :=
      Invoices.ensureInitial_first calm known pricing totalling none_yet
    let v : World := { w with
      nextId := n
      store := { w.store with invoices := w.store.invoices ++ [r], invoiceLines := lines } }
    have free : Unbilled c order { v with store := w.store } :=
      ⟨new.invoices, new.payments, new.intent, new.session, new.keys, fun p hp =>
        Nat.lt_trans (new.numbered p hp) counted⟩
    obtain ⟨none_, free⟩ := free.free (.ofNat w.nextId) (.ofNat n)
    have ranPayment := Payments.record_first (w := v) (p := c.payment order (.ofNat w.nextId)) calm none_
      free
    refine ⟨_, _, _, _, _, _, _, ran, ranPayment, fun room => ⟨⟨r, ?_, ?_⟩, ?_, ?_, ?_⟩⟩
    · change (w.store.invoices ++ [r]).find? _ = some r
      rw [List.find?_append, List.find?_eq_none.mpr fun x hx => by simp [absent x hx]]
      simp [of, initial]
    · have fresh : ∀ x ∈ w.store.payments, x.id ≠ .ofNat n := fun x hx =>
        Uuid.ne_ofNat (Nat.lt_trans (new.numbered x hx) counted) room
      rw [isId]
      exact (Payments.recorded_insert (s := v.store) new.keys fresh free).2
    · have none_ : w.store.invoices.countP (fun r => r.orderId == order.id && r.kind == .initial) = 0 :=
        List.countP_eq_zero.mpr fun x hx => by simp [absent x hx]
      change (w.store.invoices ++ [r]).countP _ = 1
      rw [List.countP_append, none_]
      simp [of, initial]
    · have fresh : ∀ x ∈ w.store.payments, x.id ≠ .ofNat n := fun x hx =>
        Uuid.ne_ofNat (Nat.lt_trans (new.numbered x hx) counted) room
      exact (Payments.recorded_insert (s := v.store) new.keys fresh free).1
    · have none_ : w.store.payments.countP (fun r => r.orderId == some order.id) = 0 :=
        List.countP_eq_zero.mpr fun x hx => by simpa using new.payments x hx
      change (w.store.payments ++ [_]).countP _ = 1
      rw [List.countP_append, none_]
      simp [Payments.newPayment, payment]
  · obtain ⟨r, found, recorded⟩ := billed.found
    have ran := Invoices.ensureInitial_again calm pricing totalling found
    obtain ⟨outcome, payments, ranPayment, same, keys, recorded⟩ :=
      Payments.record_again (w := { w with nextId := w.nextId + 1 }) calm billed.keys recorded
    refine ⟨_, _, _, _, _, _, _, ran, ranPayment, fun _ =>
      ⟨⟨r, found, recorded⟩, billed.invoice, keys, ?_⟩⟩
    have untimed (rows : List PaymentRow) : rows.countP (fun r => r.orderId == some order.id) =
        (rows.map PaymentRow.untimed).countP fun r => r.orderId == some order.id := by
      rw [List.countP_map]
      rfl
    exact (untimed payments).trans ((congrArg _ same).trans ((untimed w.store.payments).symm.trans
      billed.payment))

/-! ## All steps -/

theorem settleOrder_goes (calm : w.faults = [])
    (payable : order.status.isSettled = true ∨ order.status = .pendingPayment) :
    ∃ status orders, (settleOrder order).run w =
      (.ok status, { w with store := { w.store with orders := orders } }) := by
  unfold settleOrder
  split
  · exact ⟨_, _, rfl⟩
  · next unsettled =>
    have waits := payable.resolve_left unsettled
    have becomes : order.status.become .paid = .ok .paid := by rw [waits]; rfl
    rw [Orders.move, becomes]
    simp only [Action.run_bind, Action.run_ofExcept_ok]
    rw [run_change calm]
    exact ⟨_, _, rfl⟩

theorem moveOn_goes (calm : w.faults = []) (status : OrderStatus) (tasks : List CommittedJob) :
    ∃ orders, (moveOn order status tasks).run w =
      (.ok (), { w with store := { w.store with orders := orders } }) := by
  unfold moveOn
  split
  · have becomes : OrderStatus.paid.become .provisioning = .ok .provisioning := rfl
    rw [Orders.move, becomes]
    simp only [Action.run_bind, Action.run_ofExcept_ok]
    rw [run_change calm]
    exact ⟨_, rfl⟩
  · exact ⟨_, rfl⟩

theorem prepareItem_goes (calm : w.faults = []) (item : ItemRow) :
    ∃ task n services jobs, (prepareItem order item).run w = (.ok task, { w with
      nextId := n
      store := { w.store with services := services, jobs := jobs } }) := by
  obtain ⟨r, s, ensured, ran⟩ := run_ensure calm order.userId item (firstExpiry item.cycle.name w.now)
  simp only [prepareItem, Action.run_bind, Action.run_now, ran]
  rw [ensured_rest ensured]
  split
  · exact ⟨_, _, _, _, rfl⟩
  · rw [Action.run_bind_of_ok (run_start (by exact calm) _),
      Action.run_bind_of_ok (run_create (by exact calm) _ _)]
    cases live : w.store.hasLive r.id with
    | true =>
      rw [Store.createJob_of_live (by exact live)]
      exact ⟨_, _, _, _, rfl⟩
    | false =>
      rw [Store.createJob_of_none (by exact live)]
      exact ⟨_, _, _, _, rfl⟩

theorem prepareItems_goes (calm : w.faults = []) (items : List ItemRow) :
    ∃ tasks n services jobs, (prepareItems order items).run w = (.ok tasks, { w with
      nextId := n
      store := { w.store with services := services, jobs := jobs } }) := by
  induction items generalizing w with
  | nil => exact ⟨_, _, _, _, rfl⟩
  | cons item rest ih =>
    obtain ⟨task, n, services, jobs, ranItem⟩ := prepareItem_goes calm item
    obtain ⟨more, n', services', jobs', ran⟩ := ih (w := { w with
      nextId := n
      store := { w.store with services := services, jobs := jobs } }) calm
    rw [prepareItems, Action.run_bind_of_ok ranItem, Action.run_bind_of_ok ran]
    exact ⟨_, _, _, _, rfl⟩

/-- Steps that each go through are a settlement that goes through. -/
theorem Steps.run {tasks : List CommittedJob} (steps : Steps c order w tasks w') (calm : w.faults = [])
    (found : w.store.order? order.id = some order) :
    (c.settle order.id).run w = (.ok tasks, w') := by
  obtain ⟨status, invoiceId, outcome, paid, invoiced, recorded, prepared, ranOrder, ranInvoice,
    ranPayment, ranItems, ranMove⟩ := steps
  have locked : (Orders.lock order.id).run w = (.ok (some order), w) := by
    rw [← found]
    exact run_ask calm _ _
  have listed : (Orders.items order.id).run paid = (.ok (paid.store.itemsOf order.id), paid) :=
    run_ask (((settleOrder_still order).follows ranOrder).calm calm) _ _
  have moved : (moveOn order status tasks >>= fun _ => pure tasks).run prepared = (.ok tasks, w') := by
    rw [Action.run_bind_of_ok ranMove]
    rfl
  rw [settle, Action.run_bind_of_ok locked]
  dsimp only
  rw [Action.run_bind_of_ok ranOrder, Action.run_bind_of_ok listed, Action.run_bind_of_ok ranInvoice,
    Action.run_bind_of_ok (by exact ranPayment), Action.run_bind_of_ok ranItems, ← moved]
  unfold moveOn
  split
  · simp only [Action.run_bind]
    rcases (Orders.move order.id .paid .provisioning).run prepared with ⟨_ | _, _⟩ <;> rfl
  · rfl

/-- What a checkout that goes through leaves. -/
structure Completes (c : Checkout) (order : OrderRow) (w : World) (tasks : List CommittedJob)
    (w' : World) : Prop extends Carried order w tasks w' where
  rest : w' = { w with
    nextId := w'.nextId
    store := { w.store with
      orders := w'.store.orders
      invoices := w'.store.invoices
      invoiceLines := w'.store.invoiceLines
      payments := w'.store.payments
      services := w'.store.services
      jobs := w'.store.jobs } }
  billed : Billed c order w'.store

/-- A checkout of a payable order whose amounts fit goes through, the first time and again. -/
theorem carryOut_goes (calm : w.faults = []) (linked : w.store.Linked) (numbered : w.Numbered)
    (here : order ∈ w.store.orders) (reference : c.orderId = .ok order.id)
    (payable : order.status.isSettled = true ∨ order.status = .pendingPayment)
    (priced : order.Priced (w.store.itemsOf order.id))
    (h : Unbilled c order w ∨ Billed c order w.store) :
    ∃ tasks w', c.carryOut.run w = (.ok tasks, w') ∧
      (w'.nextId ≤ Uuid.limit → Completes c order w tasks w') := by
  have found : w.store.order? order.id = some order := find?_key linked.orders here
  obtain ⟨status, orders, ranOrder⟩ := settleOrder_goes calm payable
  have s₁ := settleOrder_ok calm linked.orders here ranOrder
  let paid : World := { w with store := { w.store with orders := orders } }
  have known : (paid.store.order? order.id).isSome = true := by
    obtain ⟨updatedAt, there⟩ := s₁.stands
    have is : paid.store.order? order.id = some { order with status := status, updatedAt := updatedAt } :=
      find?_key s₁.keys there
    rw [is]
    rfl
  have h₁ : Unbilled c order paid ∨ Billed c order paid.store :=
    h.imp (fun h => ⟨h.invoices, h.payments, h.intent, h.session, h.keys, h.numbered⟩)
      fun h => h.congr rfl rfl
  obtain ⟨invoiceId, outcome, invoiced, n, invoices, lines, payments, ranInvoice, ranPayment, billed⟩ :=
    bill_run (w := paid) calm known priced.ok h₁
  let recorded : World := { paid with
    nextId := n
    store := { paid.store with invoices := invoices, invoiceLines := lines, payments := payments } }
  obtain ⟨tasks, n', services, jobs, ranItems⟩ :=
    prepareItems_goes (w := recorded) calm (w.store.itemsOf order.id)
  let prepared : World := { recorded with
    nextId := n'
    store := { recorded.store with services := services, jobs := jobs } }
  obtain ⟨orders', ranMove⟩ := moveOn_goes (w := prepared) calm status tasks
  let steps : Steps c order w tasks { prepared with
      store := { prepared.store with orders := orders' } } :=
    ⟨status, invoiceId, outcome, paid, invoiced, recorded, prepared, ranOrder, ranInvoice, ranPayment,
      ranItems, ranMove⟩
  refine ⟨tasks, _, ?_, fun room => ⟨steps.carried calm linked numbered here room, rfl, ?_⟩⟩
  · rw [carryOut, reference, Action.run_bind_of_ok (Action.run_ofExcept_ok _ _), Action.run_transaction,
      steps.run calm found]
  · have counted := ((prepareItems_plain order _).counts.follows ranItems).nextId
    exact (billed (Nat.le_trans counted room)).congr rfl rfl

end Checkout

end HostingBilling
