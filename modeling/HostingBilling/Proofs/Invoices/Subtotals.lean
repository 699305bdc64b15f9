import HostingBilling.Proofs.Invoices.Amounts

/-!
# The subtotal of an invoice

The lines of an order are multiplied out and added up one after another, and each product and each sum is
checked. Main statement: that goes through exactly when no price is below zero and the exact sum fits. No
product and no sum on the way fails where the whole fits, so the order of the lines does not matter.
-/

namespace HostingBilling

namespace Money

theorem eq_of_cents {a b : Money} (same : a.cents = b.cents) : a = b := by
  cases a
  cases b
  simpa using same

theorem ofNat?_eq_some {n : Nat} {m : Money} : ofNat? n = some m ↔ m.cents = n := by
  unfold ofNat?
  constructor
  · intro is
    split at is
    · cases is
      rfl
    · cases is
  · intro is
    subst is
    rw [dif_pos m.fits]

theorem add?_eq_some {a b c : Money} : a.add? b = some c ↔ c.cents = a.cents + b.cents := ofNat?_eq_some

theorem mul?_eq_some {a c : Money} {quantity : Int} (nonneg : 0 ≤ quantity) :
    a.mul? quantity = some c ↔ (c.cents : Int) = a.cents * quantity := by
  have product : ((a.cents * quantity.toNat : Nat) : Int) = a.cents * quantity := by
    rw [Int.natCast_mul, Int.toNat_of_nonneg nonneg]
  rw [mul?, if_neg (by omega), ofNat?_eq_some]
  omega

theorem ofCents_eq_ok {n : Int} {m : Money} : ofCents n = .ok m ↔ (m.cents : Int) = n := by
  constructor
  · intro is
    by_cases negative : n < 0
    · simp [ofCents, negative] at is
    · cases fits : ofNat? n.toNat with
      | none => simp [ofCents, negative, fits] at is
      | some m' =>
        obtain rfl : m' = m := by simpa [ofCents, negative, fits] using is
        have := ofNat?_eq_some.mp fits
        omega
  · intro is
    have fits := m.fits
    obtain ⟨m', same, cents⟩ := ofCents_ok (n := n) (by omega) (by omega)
    rw [same, eq_of_cents (by omega : m'.cents = m.cents)]

end Money

/-- The exact product is what a line charges, if no price is below zero. -/
theorem ItemRow.amount_eq_ok {item : ItemRow} (quantity : 0 < item.quantity) {m : Money} :
    item.amount = .ok m ↔ 0 ≤ item.unitPriceCents ∧ (m.cents : Int) = item.unitPriceCents * item.quantity := by
  cases priced : Money.ofCents item.unitPriceCents with
  | error e =>
    constructor
    · intro is
      simp [amount, priced, bind, Except.bind] at is
    · rintro ⟨price, product⟩
      have fits := m.fits
      obtain ⟨m', is, -⟩ := amount_ok price quantity (by omega)
      simp [amount, priced, bind, Except.bind] at is
  | ok unit =>
    have cents := Money.ofCents_eq_ok.mp priced
    have times := Money.mul?_eq_some (a := unit) (c := m) (Int.le_of_lt quantity)
    rw [cents] at times
    rw [← times]
    have price : 0 ≤ item.unitPriceCents := by omega
    cases multiplied : unit.mul? item.quantity with
    | none => simp [amount, priced, multiplied, bind, Except.bind]
    | some m' => simp [amount, priced, multiplied, bind, Except.bind, pure, Except.pure, price]

/-! ## The exact sum -/

theorem ItemRow.subtotal_perm {items arranged : List ItemRow} (same : arranged.Perm items) :
    subtotal arranged = subtotal items := by
  induction same with
  | nil => rfl
  | cons item _ ih => rw [subtotal, subtotal, ih]
  | swap a b rest =>
    simp only [subtotal]
    omega
  | trans _ _ first second => rw [first, second]

/-- Lines that have been priced have no price below zero, and what came before has grown by exactly their
subtotal. -/
theorem priceItems_sums {items : List ItemRow} {sum total : Money} {priced : List PricedItem}
    (quantities : ∀ item ∈ items, 0 < item.quantity) (ran : priceItems sum items = .ok (priced, total)) :
    (∀ item ∈ items, 0 ≤ item.unitPriceCents) ∧ (total.cents : Int) = sum.cents + ItemRow.subtotal items := by
  induction items generalizing sum total priced with
  | nil =>
    cases ran
    simp [ItemRow.subtotal]
  | cons item rest ih =>
    obtain ⟨here, others⟩ := List.forall_mem_cons.mp quantities
    cases charged : item.amount with
    | error e => simp [priceItems, charged, bind, Except.bind] at ran
    | ok amount =>
      obtain ⟨price, product⟩ := (ItemRow.amount_eq_ok here).mp charged
      cases added : sum.add? amount with
      | none => simp [priceItems, charged, added, bind, Except.bind] at ran
      | some more =>
        have grown := Money.add?_eq_some.mp added
        cases later : priceItems more rest with
        | error e => simp [priceItems, charged, added, later, bind, Except.bind] at ran
        | ok answer =>
          obtain ⟨priced', total'⟩ := answer
          obtain ⟨prices, exact_⟩ := ih others later
          simp only [priceItems, charged, added, later, bind, Except.bind, pure, Except.pure, Except.ok.injEq,
            Prod.mk.injEq] at ran
          obtain ⟨-, rfl⟩ := ran
          refine ⟨List.forall_mem_cons.mpr ⟨price, prices⟩, ?_⟩
          rw [ItemRow.subtotal, exact_, grown]
          omega

/-- Pricing goes through exactly when no price is below zero and the exact sum fits. -/
theorem priceItems_isOk_iff {items : List ItemRow} (sum : Money)
    (quantities : ∀ item ∈ items, 0 < item.quantity) :
    (∃ priced total, priceItems sum items = .ok (priced, total)) ↔
      (∀ item ∈ items, 0 ≤ item.unitPriceCents) ∧
        sum.cents + ItemRow.subtotal items < 0x8000000000000000 := by
  constructor
  · rintro ⟨priced, total, ran⟩
    obtain ⟨prices, exact_⟩ := priceItems_sums quantities ran
    have fits := total.fits
    exact ⟨prices, by omega⟩
  · rintro ⟨prices, fits⟩
    obtain ⟨priced, total, ran, -⟩ :=
      priceItems_exact (fun item hi => ⟨prices item hi, quantities item hi⟩) fits
    exact ⟨priced, total, ran⟩

/-! ## Complaints about amounts -/

/-- If it fails, then by a validation failure. -/
def Validates {α : Type} (r : Except Failure α) : Prop := ∀ e, r = .error e → ∃ text, e = .validation text

namespace Validates

variable {α β : Type}

theorem ok (a : α) : Validates (.ok a) := fun _ same => nomatch same

theorem error (text : String) : Validates (.error (.validation text) : Except Failure α) :=
  fun _ same => ⟨text, (Except.error.inj same).symm⟩

theorem bind {r : Except Failure α} {f : α → Except Failure β} (first : Validates r)
    (rest : ∀ a, Validates (f a)) : Validates (r >>= f) := by
  cases r with
  | error e =>
    intro e' same
    cases same
    exact first e rfl
  | ok a => exact rest a

end Validates

theorem Money.ofCents_validates (n : Int) : Validates (ofCents n) := by
  unfold ofCents
  split
  · exact .error _
  · split
    · exact .ok _
    · exact .error _

theorem ItemRow.amount_validates (item : ItemRow) : Validates item.amount := by
  refine .bind (Money.ofCents_validates _) fun unit => ?_
  split
  · exact .ok _
  · exact .error _

theorem priceItems_validates (items : List ItemRow) (sum : Money) : Validates (priceItems sum items) := by
  induction items generalizing sum with
  | nil => exact .ok _
  | cons item rest ih =>
    refine .bind item.amount_validates fun amount => ?_
    split
    · exact .error _
    · exact .bind (ih _) fun answer => .ok _

namespace Invoices

/-- The lines of an invoice add up to the exact subtotal of the items that they charge. -/
theorem Bills.sum {invoiceId : Uuid} {items : List ItemRow} {lines : List InvoiceLineRow}
    (bills : List.Forall₂ (Bills invoiceId) items lines) :
    (lines.map (·.amountCents)).sum = ItemRow.subtotal items := by
  induction bills with
  | nil => rfl
  | cons bill _ ih => rw [List.map_cons, List.sum_cons, ItemRow.subtotal, ih, bill.amount]

/-- The initial invoice of an order is new, with one line for each item. The subtotal is what the lines
charge together, and the total is that of the order. -/
structure Issued (order : OrderRow) (items : List ItemRow) (w : World) (id : Uuid) (w' : World)
    (row : InvoiceRow) (lines : List InvoiceLineRow) : Prop where
  store : w'.store = { w.store with
    invoices := w.store.invoices ++ [row]
    invoiceLines := w.store.invoiceLines ++ lines }
  named : row.id = id
  owner : row.orderId = order.id
  kind : row.kind = .initial
  bills : List.Forall₂ (Bills id) items lines
  subtotal : row.subtotalCents = (lines.map (·.amountCents)).sum
  total : row.totalCents = order.totalCents

variable {w : World} {order : OrderRow} {items : List ItemRow}

section amounts

variable (calm : w.faults = []) (known : (w.store.order? order.id).isSome = true)

include calm known

/-- The order has its invoice exactly when its amounts are in range. -/
theorem ensureInitial_isOk_iff (total : 0 ≤ order.totalCents ∧ order.totalCents < 0x8000000000000000)
    (quantities : ∀ item ∈ items, 0 < item.quantity) : ((ensureInitial order items).run w).1.isOk = true ↔
    (∀ item ∈ items, 0 ≤ item.unitPriceCents) ∧ ItemRow.subtotal items < 0x8000000000000000 := by
  have pricing := priceItems_isOk_iff Money.zero quantities
  rw [show (Money.zero.cents : Int) = 0 from rfl, Int.zero_add] at pricing
  rw [← pricing]
  constructor
  · intro ok
    obtain ⟨id, answer⟩ := Action.exists_of_isOk ok
    obtain ⟨priced, -, ran, -⟩ := ensureInitial_priced (Action.run_eq_of_fst answer)
    exact ⟨priced.1, priced.2, ran⟩
  · rintro ⟨priced, subtotal, ran⟩
    obtain ⟨m, totalling, -⟩ := Money.ofCents_ok total.1 total.2
    obtain ⟨id, n, invoices, lines, goes⟩ := ensureInitial_goes calm known ⟨_, m, ran, totalling⟩
    rw [goes]
    rfl

/-- A complaint about the amounts is raised before anything is written. -/
theorem ensureInitial_refused (total : 0 ≤ order.totalCents ∧ order.totalCents < 0x8000000000000000)
    {e : Failure} {w' : World} (ran : (ensureInitial order items).run w = (.error e, w')) :
    (∃ text, e = .validation text) ∧ w' = w := by
  cases pricing : priceItems Money.zero items with
  | error e' =>
    simp only [ensureInitial, pricing, Action.run_bind, Action.run_ofExcept_error] at ran
    cases ran
    exact ⟨priceItems_validates items _ _ pricing, rfl⟩
  | ok priced =>
    obtain ⟨m, totalling, -⟩ := Money.ofCents_ok total.1 total.2
    obtain ⟨id, n, invoices, lines, goes⟩ := ensureInitial_goes calm known ⟨_, m, pricing, totalling⟩
    rw [goes] at ran
    cases ran

/-- What an order without an initial invoice gets. -/
theorem ensureInitial_issued (quantities : ∀ item ∈ items, 0 < item.quantity)
    (none_yet : w.store.initialInvoice? order.id = none) {id : Uuid} {w' : World}
    (ran : (ensureInitial order items).run w = (.ok id, w')) :
    ∃ row lines, Issued order items w id w' row lines := by
  obtain ⟨⟨priced, subtotal⟩, m, pricing, totalling⟩ := ensureInitial_priced ran
  obtain ⟨prices, sum⟩ := priceItems_sums quantities pricing
  have bounded : (Money.zero.cents : Int) + ItemRow.subtotal items < 0x8000000000000000 := by
    rw [← sum]
    exact_mod_cast subtotal.fits
  obtain ⟨priced', subtotal', pricing', exact_⟩ :=
    priceItems_exact (fun item hi => ⟨prices item hi, quantities item hi⟩) bounded
  rw [pricing'] at pricing
  cases pricing
  rw [ensureInitial_bills calm known pricing' totalling none_yet] at ran
  cases ran
  have bills := linesFrom_bill w.now (.ofNat w.nextId) exact_ (w.nextId + 1)
  refine ⟨_, _, rfl, rfl, rfl, rfl, bills, ?_, Money.ofCents_eq_ok.mp totalling⟩
  rw [Bills.sum bills]
  exact sum.trans (Int.zero_add _)

end amounts

/-- **The initial invoice is exact.** An order in range is billed exactly when no price is below zero and the
exact sum of price times quantity fits, in whatever order its lines stand. Otherwise that is a validation
failure, and nothing is written. An order without an initial invoice gets one: a line for each item, in their
order, that charges the exact product, their exact sum as the subtotal, and the total of the order. An order
that has one keeps it, and no invoice and no line is added. -/
theorem initial_invoice_exact (calm : w.faults = []) (known : (w.store.order? order.id).isSome = true)
    (total : 0 ≤ order.totalCents ∧ order.totalCents < 0x8000000000000000)
    (quantities : ∀ item ∈ items, 0 < item.quantity) :
    (∀ arranged, arranged.Perm items → (((ensureInitial order arranged).run w).1.isOk = true ↔
      (∀ item ∈ items, 0 ≤ item.unitPriceCents) ∧ ItemRow.subtotal items < 0x8000000000000000)) ∧
    (∀ e w', (ensureInitial order items).run w = (.error e, w') → (∃ text, e = .validation text) ∧ w' = w) ∧
    (∀ id w', (ensureInitial order items).run w = (.ok id, w') → match w.store.initialInvoice? order.id with
      | some r => id = r.id ∧ w'.store = w.store
      | none => ∃ row lines, Issued order items w id w' row lines) := by
  refine ⟨fun arranged same => ?_, fun e w' ran => ?_, fun id w' ran => ?_⟩
  · have among (item : ItemRow) : item ∈ arranged ↔ item ∈ items := same.mem_iff
    rw [ensureInitial_isOk_iff calm known total fun item hi => quantities item ((among item).mp hi),
      ItemRow.subtotal_perm same]
    simp only [among]
  · exact ensureInitial_refused calm known total ran
  · cases there : w.store.initialInvoice? order.id with
    | none => exact ensureInitial_issued calm known quantities there ran
    | some r =>
      obtain ⟨priced, m, pricing, totalling⟩ := ensureInitial_priced ran
      rw [ensureInitial_again calm pricing totalling there] at ran
      cases ran
      exact ⟨rfl, rfl⟩

/-- Two lines that each charge half of the first amount that does not fit. -/
def halves : List ItemRow :=
  [{ pairItem with quantity := 1, unitPriceCents := 0x4000000000000000 },
    { pairItem with id := .ofNat 3, quantity := 2, unitPriceCents := 0x2000000000000000 }]

/-- Each of the two fits and their sum does not: the order is not billed. -/
theorem initial_invoice_exact_halves :
    ∃ text, (ensureInitial pairOrder halves).run pairWorld = (.error (.validation text), pairWorld) := by
  have known : (pairWorld.store.order? pairOrder.id).isSome = true := rfl
  have total : 0 ≤ pairOrder.totalCents ∧ pairOrder.totalCents < 0x8000000000000000 := by decide
  have quantities : ∀ item ∈ halves, 0 < item.quantity := by simp [halves]
  obtain ⟨goes, refuses, -⟩ := initial_invoice_exact rfl known total quantities
  have sum : ItemRow.subtotal halves = 0x8000000000000000 := by decide
  rcases ran : (ensureInitial pairOrder halves).run pairWorld with ⟨e | id, w'⟩
  · obtain ⟨⟨text, rfl⟩, rfl⟩ := refuses e w' ran
    exact ⟨text, rfl⟩
  · have fits := ((goes halves (.refl _)).mp (by rw [ran]; rfl)).2
    omega

end Invoices

end HostingBilling
