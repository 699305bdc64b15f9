import HostingBilling.Proofs.Constraints
import HostingBilling.Store.Invoices

/-!
# The initial invoice of an order

The first checkout makes it and every later one finds it.
-/

namespace HostingBilling

/-- Invoices have identifiers of their own, and an order has at most one initial invoice. -/
structure Store.Invoiced (s : Store) : Prop where
  ids : (s.invoices.map (·.id)).Nodup
  initial : ∀ a ∈ s.invoices, ∀ b ∈ s.invoices, a.orderId = b.orderId → a.kind = .initial →
    b.kind = .initial → a = b

namespace Invoices

/-- An order has been billed: its initial invoice is there, under this identifier. -/
structure Billed (order : OrderRow) (w : World) (id : Uuid) (w' : World) : Prop where
  rest : w' = { w with
    nextId := w'.nextId
    store := { w.store with
      invoices := w'.store.invoices
      invoiceLines := w'.store.invoiceLines } }
  found : ∃ r, w'.store.initialInvoice? order.id = some r ∧ r.id = id
  invoiced : w'.store.Invoiced
  others : w'.store.invoices.filter (fun r => r.orderId != order.id) =
    w.store.invoices.filter fun r => r.orderId != order.id

theorem initialInvoice?_eq_none {s : Store} {orderId : Uuid} (h : s.initialInvoice? orderId = none) :
    ∀ r ∈ s.invoices, r.orderId = orderId → r.kind ≠ .initial := by
  intro r hr of kind
  have := List.find?_eq_none.mp h r hr
  simp [of, kind] at this

theorem initialInvoice?_eq_some {s : Store} {orderId : Uuid} {r : InvoiceRow}
    (h : s.initialInvoice? orderId = some r) :
    r ∈ s.invoices ∧ r.orderId = orderId ∧ r.kind = .initial := by
  have is := List.find?_some h
  simp only [Bool.and_eq_true, beq_iff_eq] at is
  exact ⟨List.mem_of_find?_eq_some h, is⟩

/-- A first initial invoice of its order, under a new identifier. -/
theorem invoiced_add {s : Store} {r : InvoiceRow} (h : s.Invoiced) {orderId : Uuid}
    (of : r.orderId = orderId) (none_yet : s.initialInvoice? orderId = none)
    (fresh : ∀ x ∈ s.invoices, x.id ≠ r.id) (lines : List InvoiceLineRow) :
    { s with invoices := s.invoices ++ [r], invoiceLines := lines }.Invoiced where
  ids := by simpa [List.nodup_append] using ⟨h.ids, fresh⟩
  initial a ha b hb same initialA initialB := by
    have absent := initialInvoice?_eq_none none_yet
    rcases List.mem_append.mp ha with oldA | newA <;> rcases List.mem_append.mp hb with oldB | newB
    · exact h.initial a oldA b oldB same initialA initialB
    · obtain rfl := List.mem_singleton.mp newB
      exact absurd initialA (absent a oldA (same.trans of))
    · obtain rfl := List.mem_singleton.mp newA
      exact absurd initialB (absent b oldB (same.symm.trans of))
    · exact (List.mem_singleton.mp newA).trans (List.mem_singleton.mp newB).symm

/-- The initial invoice of an order. -/
def initialRow (now : Instant) (id : Uuid) (order : OrderRow) (subtotal total : Money) : InvoiceRow where
  id
  userId := order.userId
  orderId := order.id
  number := invoiceNumber now id
  kind := .initial
  status := .paid
  subtotalCents := subtotal.cents
  taxCents := 0
  totalCents := total.cents
  currency := order.currency
  dueDate := (now.addDays? initialDays).getD now
  paidAt := some now
  createdAt := now
  updatedAt := now

/-- Its lines, under new identifiers from this number on. -/
def linesFrom (now : Instant) (invoiceId : Uuid) : Nat → List PricedItem → List InvoiceLineRow
  | _, [] => []
  | n, p :: rest => {
      id := .ofNat n
      invoiceId
      description := p.item.planName
      quantity := p.item.quantity
      unitPriceCents := p.item.unitPriceCents
      amountCents := p.amount.cents
      createdAt := now } :: linesFrom now invoiceId (n + 1) rest

variable {w w' : World}

/-- The amounts of an invoice are checked whether or not it is there already. -/
theorem ensureInitial_priced {order : OrderRow} {items : List ItemRow} {id : Uuid}
    (ran : (ensureInitial order items).run w = (.ok id, w')) :
    ∃ priced total, priceItems Money.zero items = .ok priced ∧
      Money.ofCents order.totalCents = .ok total := by
  cases pricing : priceItems Money.zero items with
  | error e => simp [ensureInitial, pricing, Action.run_bind] at ran
  | ok priced =>
    cases totalling : Money.ofCents order.totalCents with
    | error e => simp [ensureInitial, pricing, totalling, Action.run_bind] at ran
    | ok total => exact ⟨priced, total, rfl, rfl⟩

section runs

variable (calm : w.faults = [])

include calm

theorem insertLine_run (invoiceId : Uuid) (description : String) (quantity unitPrice amount : Int) :
    (insertLine invoiceId description quantity unitPrice amount).run w = (.ok (), { w with
      nextId := w.nextId + 1
      store := { w.store with invoiceLines := w.store.invoiceLines ++ [{
        id := .ofNat w.nextId
        invoiceId
        description
        quantity
        unitPriceCents := unitPrice
        amountCents := amount
        createdAt := w.now }] } }) := by
  rw [insertLine, Action.run_bind_of_ok (Action.run_freshId w), run_change (by exact calm)]
  rfl

/-- The lines are numbered one after another. -/
theorem insertLines_run (invoiceId : Uuid) (priced : List PricedItem) :
    (insertLines invoiceId priced).run w = (.ok (), { w with
      nextId := w.nextId + priced.length
      store := { w.store with
        invoiceLines := w.store.invoiceLines ++ linesFrom w.now invoiceId w.nextId priced } }) := by
  induction priced generalizing w with
  | nil => simp [insertLines, linesFrom]
  | cons p rest ih =>
    rw [insertLines, Action.run_bind_of_ok (insertLine_run calm _ _ _ _ _), ih (by exact calm)]
    simp [linesFrom, Nat.add_comm 1, Nat.add_assoc]

/-- An order without an initial invoice gets one, with its lines. -/
theorem ensureInitial_bills {order : OrderRow} {items : List ItemRow} {priced : List PricedItem × Money}
    {total : Money} (known : (w.store.order? order.id).isSome = true)
    (pricing : priceItems Money.zero items = .ok priced)
    (totalling : Money.ofCents order.totalCents = .ok total)
    (none_yet : w.store.initialInvoice? order.id = none) :
    (ensureInitial order items).run w = (.ok (.ofNat w.nextId), { w with
      nextId := w.nextId + 1 + priced.1.length
      store := { w.store with
        invoices := w.store.invoices ++ [initialRow w.now (.ofNat w.nextId) order priced.2 total]
        invoiceLines := w.store.invoiceLines ++
          linesFrom w.now (.ofNat w.nextId) (w.nextId + 1) priced.1 } }) := by
  have added (r : InvoiceRow) (of : r.orderId = order.id) : w.store.insertInitial r =
      .ok (true, { w.store with invoices := w.store.invoices ++ [r] }) := by
    simp [Store.insertInitial, Store.insertInvoice, of, none_yet, known, bind, Except.bind, pure,
      Except.pure]
  simp only [ensureInitial, pricing, totalling, Action.run_bind, Action.run_ofExcept_ok, Action.run_now,
    Action.run_freshId]
  rw [run_execute (by exact calm), added _ rfl]
  simp only [↓reduceIte]
  rw [Action.run_bind_of_ok (insertLines_run (by exact calm) _ _)]
  rfl

/-- An order without an initial invoice gets one. -/
theorem ensureInitial_first {order : OrderRow} {items : List ItemRow} {priced : List PricedItem × Money}
    {total : Money} (known : (w.store.order? order.id).isSome = true)
    (pricing : priceItems Money.zero items = .ok priced)
    (totalling : Money.ofCents order.totalCents = .ok total)
    (none_yet : w.store.initialInvoice? order.id = none) :
    ∃ r n lines, (ensureInitial order items).run w = (.ok (.ofNat w.nextId), { w with
        nextId := n
        store := { w.store with invoices := w.store.invoices ++ [r], invoiceLines := lines } }) ∧
      r.id = .ofNat w.nextId ∧ r.orderId = order.id ∧ r.kind = .initial ∧ w.nextId < n :=
  ⟨_, _, _, ensureInitial_bills calm known pricing totalling none_yet, rfl, rfl, rfl, by omega⟩

/-- The invoice that an order without one gets is its only one. -/
theorem ensureInitial_new {order : OrderRow} {items : List ItemRow} {id : Uuid}
    (numbered : ∀ r ∈ w.store.invoices, r.id.val < w.nextId) (invoiced : w.store.Invoiced)
    (none_yet : w.store.initialInvoice? order.id = none)
    (ran : (ensureInitial order items).run w = (.ok id, w')) (room : w'.nextId ≤ Uuid.limit) :
    ∃ r n lines, w' = { w with
        nextId := n
        store := { w.store with invoices := w.store.invoices ++ [r], invoiceLines := lines } } ∧
      r.id = id ∧ r.orderId = order.id ∧ r.kind = .initial ∧ w'.store.Invoiced := by
  obtain ⟨priced, total, pricing, totalling⟩ := ensureInitial_priced ran
  cases known : (w.store.order? order.id).isSome with
  | false =>
    have refused (r : InvoiceRow) (of : r.orderId = order.id) : w.store.insertInitial r =
        .error (.missingReference "invoices" "invoices_order_id_fkey") := by
      simp [Store.insertInitial, Store.insertInvoice, of, none_yet, known, bind, Except.bind]
    simp only [ensureInitial, pricing, totalling, Action.run_bind, Action.run_ofExcept_ok, Action.run_now,
      Action.run_freshId] at ran
    rw [run_execute (by exact calm), refused _ rfl] at ran
    cases ran
  | true =>
    obtain ⟨r, n, lines, ran', isId, of, initial, counted⟩ :=
      ensureInitial_first calm known pricing totalling none_yet
    rw [ran'] at ran
    cases ran
    have fresh : ∀ x ∈ w.store.invoices, x.id ≠ r.id :=
      fun x hx => isId ▸ Uuid.ne_ofNat (numbered x hx) (Nat.lt_of_lt_of_le counted room)
    exact ⟨r, n, lines, rfl, isId, of, initial, invoiced_add invoiced of none_yet fresh lines⟩

/-- An order with an initial invoice keeps it. -/
theorem ensureInitial_again {order : OrderRow} {items : List ItemRow} {r : InvoiceRow}
    {priced : List PricedItem × Money} {total : Money}
    (pricing : priceItems Money.zero items = .ok priced)
    (totalling : Money.ofCents order.totalCents = .ok total)
    (there : w.store.initialInvoice? order.id = some r) :
    (ensureInitial order items).run w = (.ok r.id, { w with nextId := w.nextId + 1 }) := by
  simp only [ensureInitial, pricing, totalling, Action.run_bind, Action.run_ofExcept_ok, Action.run_now,
    Action.run_freshId]
  rw [run_execute (by exact calm)]
  simp only [Store.insertInitial, there, Option.isSome_some, ↓reduceIte, Bool.false_eq_true]
  rw [run_execute (by exact calm)]
  simp only [there]

/-- Billing goes through for an order that is there and priced, and touches no other table. -/
theorem ensureInitial_goes {order : OrderRow} {items : List ItemRow}
    (known : (w.store.order? order.id).isSome = true)
    (priced : ∃ priced total, priceItems Money.zero items = .ok priced ∧
      Money.ofCents order.totalCents = .ok total) :
    ∃ id n invoices lines, (ensureInitial order items).run w = (.ok id, { w with
      nextId := n
      store := { w.store with invoices := invoices, invoiceLines := lines } }) := by
  obtain ⟨priced, total, pricing, totalling⟩ := priced
  cases there : w.store.initialInvoice? order.id with
  | none =>
    obtain ⟨r, n, lines, ran, -⟩ := ensureInitial_first calm known pricing totalling there
    exact ⟨_, _, _, _, ran⟩
  | some r => exact ⟨_, _, _, _, ensureInitial_again calm pricing totalling there⟩

/-- Either way the order has its initial invoice, and no other order is concerned. -/
theorem ensureInitial_ok {order : OrderRow} {items : List ItemRow} {id : Uuid}
    (numbered : ∀ r ∈ w.store.invoices, r.id.val < w.nextId) (invoiced : w.store.Invoiced)
    (ran : (ensureInitial order items).run w = (.ok id, w')) (room : w'.nextId ≤ Uuid.limit) :
    Billed order w id w' := by
  cases there : w.store.initialInvoice? order.id with
  | some r =>
    obtain ⟨priced, total, pricing, totalling⟩ := ensureInitial_priced ran
    rw [ensureInitial_again calm pricing totalling there] at ran
    cases ran
    exact ⟨rfl, ⟨r, there, rfl⟩, invoiced, rfl⟩
  | none =>
    obtain ⟨r, n, lines, rfl, isId, of, initial, invoiced'⟩ :=
      ensureInitial_new calm numbered invoiced there ran room
    have absent := initialInvoice?_eq_none there
    refine ⟨rfl, ⟨r, ?_, isId⟩, invoiced', ?_⟩
    · apply find?_of_only (by simp) (by simp [of, initial])
      intro x hx same
      simp only [Bool.and_eq_true, beq_iff_eq] at same
      rcases List.mem_append.mp hx with hx | hx
      · exact absurd same.2 (absent x hx same.1)
      · exact List.mem_singleton.mp hx
    · simp [List.filter_append, of]

end runs

end Invoices

end HostingBilling
