import HostingBilling.Proofs.Checkout.Progress
import HostingBilling.Proofs.Invoices.Renewals

/-!
# What invoices charge

The initial invoice of an order charges each of its items by price and quantity. A renewal invoice charges the
service of an item by its price alone.
-/

namespace HostingBilling

namespace Invoices

/-- The line of an invoice that charges an item. -/
structure Bills (invoiceId : Uuid) (item : ItemRow) (line : InvoiceLineRow) : Prop where
  invoice : line.invoiceId = invoiceId
  quantity : line.quantity = item.quantity
  price : line.unitPriceCents = item.unitPriceCents
  amount : line.amountCents = item.unitPriceCents * item.quantity

theorem linesFrom_bill (now : Instant) (invoiceId : Uuid) {items : List ItemRow} {priced : List PricedItem}
    (h : List.Forall₂ PricedItem.Exact items priced) (n : Nat) :
    List.Forall₂ (Bills invoiceId) items (linesFrom now invoiceId n priced) := by
  induction h generalizing n with
  | nil => exact .nil
  | @cons item p _ _ head _ ih =>
    refine .cons ⟨rfl, ?_, ?_, head.amount⟩ (ih (n + 1))
    · exact congrArg ItemRow.quantity head.of
    · exact congrArg ItemRow.unitPriceCents head.of

variable {w : World} {order : OrderRow} {items : List ItemRow}

/-- An order without an initial invoice is billed item by item. -/
theorem ensureInitial_lines (calm : w.faults = []) (known : (w.store.order? order.id).isSome = true)
    (priced : order.Priced items) (none_yet : w.store.initialInvoice? order.id = none) :
    ∃ id w₁ lines, (ensureInitial order items).run w = (.ok id, w₁) ∧
      w₁.store.invoiceLines = w.store.invoiceLines ++ lines ∧ List.Forall₂ (Bills id) items lines := by
  obtain ⟨priced, subtotal, total, pricing, exact_, totalling⟩ := priced.exact
  exact ⟨_, _, _, ensureInitial_bills calm known pricing totalling none_yet, rfl, linesFrom_bill _ _ exact_ _⟩

end Invoices

namespace Renewal

open Invoices (Bills)

/-- A service is billed to its own order: one invoice with one line is new, over the price of one unit of its
item. -/
structure ChargesUnit (r : ServiceRow) (item : ItemRow) (userId : Uuid) (w : World) (row : InvoiceRow)
    (line : InvoiceLineRow) (w' : World) : Prop where
  ran : (invoice ⟨r.id, userId, item.orderId⟩).run w = (.ok row.id, w')
  invoices : w'.store.invoices = w.store.invoices ++ [row]
  lines : w'.store.invoiceLines = w.store.invoiceLines ++ [line]
  billed : line.invoiceId = row.id
  quantity : line.quantity = 1
  amount : line.amountCents = item.unitPriceCents
  total : row.totalCents = item.unitPriceCents

variable {w : World} {r : ServiceRow} {item : ItemRow} {order : OrderRow}

theorem invoice_charges_unit (calm : w.faults = []) (linked : w.store.Linked)
    (bought : w.store.Bought r item order) (price : 0 ≤ item.unitPriceCents)
    (fits : item.unitPriceCents < 0x8000000000000000) (userId : Uuid) :
    ∃ row line w', ChargesUnit r item userId w row line w' := by
  obtain ⟨amount, priced, cents⟩ := Money.ofCents_ok price fits
  have known : w.store.order? item.orderId = some order := bought.owner ▸ find?_key linked.orders bought.ordered
  have billable : Billable ⟨r.id, userId, item.orderId⟩ (Provisioning.viewed r item order) amount w.store :=
    ⟨Provisioning.detail?_of_bought linked bought, priced, by rw [known]; rfl⟩
  let charged := charge ⟨r.id, userId, item.orderId⟩ (Provisioning.viewed r item order) w.now
  exact ⟨Invoices.renewalRow w.now (.ofNat w.nextId) charged amount,
    Invoices.renewalLine w.now (.ofNat (w.nextId + 1)) (.ofNat w.nextId) charged amount, _,
    invoice_run calm billable, rfl, rfl, rfl, rfl, cents, cents⟩

end Renewal

/-- An item costs at most what all of them cost together. -/
theorem ItemRow.le_subtotal {items : List ItemRow}
    (prices : ∀ item ∈ items, 0 ≤ item.unitPriceCents ∧ 0 < item.quantity) {item : ItemRow} (hi : item ∈ items) :
    item.unitPriceCents * item.quantity ≤ ItemRow.subtotal items := by
  induction items with
  | nil => cases hi
  | cons first rest ih =>
    obtain ⟨price, quantity⟩ := prices first List.mem_cons_self
    have others := fun x hx => prices x (List.mem_cons_of_mem first hx)
    have more := ItemRow.subtotal_nonneg others
    have here := Int.mul_nonneg price (Int.le_of_lt quantity)
    rw [ItemRow.subtotal]
    rcases List.mem_cons.mp hi with rfl | hi
    · omega
    · have := ih others hi
      omega

/-- The price of an item is an amount. -/
theorem OrderRow.Priced.price_fits {order : OrderRow} {items : List ItemRow} (h : order.Priced items)
    {item : ItemRow} (hi : item ∈ items) : item.unitPriceCents < 0x8000000000000000 := by
  obtain ⟨price, quantity⟩ := h.prices item hi
  have unit := Int.mul_le_mul_of_nonneg_left (show 1 ≤ item.quantity from quantity) price
  rw [Int.mul_one] at unit
  exact Int.lt_of_le_of_lt (Int.le_trans unit (ItemRow.le_subtotal h.prices hi)) h.subtotal

open Invoices (Bills ensureInitial) in
open Renewal (ChargesUnit) in
/-- **A renewal charges one unit.** The initial invoice of an order charges for each item its price times its
quantity. Whenever the service of the item is billed to the order again, the invoice charges the price alone:
the line of the initial invoice is as many times that as the quantity says, and the two are the same exactly
for a single unit, or for one that is free. -/
theorem renewal_charges_unit {w : World} {order : OrderRow} {items : List ItemRow} (calm : w.faults = [])
    (known : (w.store.order? order.id).isSome = true) (priced : order.Priced items)
    (none_yet : w.store.initialInvoice? order.id = none) :
    ∃ id w₁ lines, (ensureInitial order items).run w = (.ok id, w₁) ∧
      w₁.store.invoiceLines = w.store.invoiceLines ++ lines ∧
      List.Forall₂ (fun item line => Bills id item line ∧
        ∀ (v : World) (r : ServiceRow) (o : OrderRow) (userId : Uuid), v.faults = [] → v.store.Linked →
          v.store.Bought r item o → ∃ row renewal v', ChargesUnit r item userId v row renewal v' ∧
            line.amountCents = row.totalCents * item.quantity ∧
            (row.totalCents = line.amountCents ↔ item.quantity = 1 ∨ item.unitPriceCents = 0)) items lines := by
  obtain ⟨id, w₁, lines, ran, added, bills⟩ := Invoices.ensureInitial_lines calm known priced none_yet
  have amounts : ∀ item ∈ items, 0 ≤ item.unitPriceCents ∧ item.unitPriceCents < 0x8000000000000000 :=
    fun item hi => ⟨(priced.prices item hi).1, priced.price_fits hi⟩
  refine ⟨id, w₁, lines, ran, added, ((List.forall₂_and_left items lines).mpr ⟨amounts, bills⟩).imp ?_⟩
  rintro item line ⟨⟨price, fits⟩, bill⟩
  refine ⟨bill, fun v r o userId calm linked bought => ?_⟩
  obtain ⟨row, renewal, v', charges⟩ := Renewal.invoice_charges_unit calm linked bought price fits userId
  refine ⟨row, renewal, v', charges, ?_, ?_⟩
  · rw [bill.amount, charges.total]
  · rw [bill.amount, charges.total]
    constructor
    · intro same
      have more : item.unitPriceCents * (item.quantity - 1) = 0 := by
        rw [Int.mul_sub, ← same, Int.mul_one, Int.sub_self]
      rcases Int.mul_eq_zero.mp more with free | single
      · exact .inr free
      · exact .inl (by omega)
    · rintro (single | free)
      · rw [single, Int.mul_one]
      · rw [free, Int.zero_mul]

namespace Invoices

/-- An order of two units of one item. -/
def pairOrder : OrderRow := ⟨.ofNat 1, .ofNat 9, .paid, "USD", 1000, ⟨1000, 0⟩, ⟨1000, 0⟩⟩

def pairItem : ItemRow := ⟨.ofNat 2, .ofNat 1, .ofNat 8, .object [], .monthly, 2, 500, ⟨1000, 0⟩⟩

def pairService : ServiceRow := newService ⟨1000, 0⟩ (.ofNat 4) (.ofNat 9) pairItem ⟨2000, 0⟩

def pairWorld : World := World.start
  { Store.empty with orders := [pairOrder], items := [pairItem], services := [pairService] } ⟨1000, 0⟩ 100 ⟨"", "", ""⟩

theorem pairWorld_linked : pairWorld.store.Linked := by decide

theorem pairWorld_bought : pairWorld.store.Bought pairService pairItem pairOrder :=
  ⟨List.mem_cons_self, List.mem_cons_self, rfl, List.mem_cons_self, rfl⟩

theorem pairOrder_priced : pairOrder.Priced [pairItem] :=
  ⟨by simp [pairItem], by decide, by decide⟩

theorem renewal_charges_unit_pair : ∃ id w₁ line row renewal v',
    (ensureInitial pairOrder [pairItem]).run pairWorld = (.ok id, w₁) ∧ line ∈ w₁.store.invoiceLines ∧
      Renewal.ChargesUnit pairService pairItem (.ofNat 9) pairWorld row renewal v' ∧
      row.totalCents = 500 ∧ line.amountCents = 1000 := by
  obtain ⟨id, w₁, lines, ran, added, charges⟩ :=
    renewal_charges_unit (w := pairWorld) rfl rfl pairOrder_priced rfl
  obtain ⟨line, rest, ⟨bill, renews⟩, -, rfl⟩ := List.forall₂_cons_left_iff.mp charges
  obtain ⟨row, renewal, v', renewed, -⟩ := renews pairWorld _ _ (.ofNat 9) rfl pairWorld_linked pairWorld_bought
  exact ⟨id, w₁, line, row, renewal, v', ran, by rw [added]; simp, renewed, renewed.total, bill.amount⟩

/-- The two do not charge the same. -/
theorem renewal_differs : ¬ ∀ (w w₁ : World) (order : OrderRow) (items : List ItemRow) (id : Uuid)
    (lines : List InvoiceLineRow), w.faults = [] → (w.store.order? order.id).isSome = true →
    order.Priced items → w.store.initialInvoice? order.id = none →
    (ensureInitial order items).run w = (.ok id, w₁) →
    w₁.store.invoiceLines = w.store.invoiceLines ++ lines →
    List.Forall₂ (fun item line => ∀ (v v' : World) (r : ServiceRow) (o : OrderRow) (renewalId : Uuid)
      (row : InvoiceRow), v.faults = [] → v.store.Linked → v.store.Bought r item o →
      (Renewal.invoice ⟨r.id, r.userId, item.orderId⟩).run v = (.ok renewalId, v') →
      v'.store.invoices = v.store.invoices ++ [row] → row.totalCents = line.amountCents) items lines := by
  intro claimed
  obtain ⟨id, w₁, lines, ran, added, bills⟩ :=
    ensureInitial_lines (w := pairWorld) rfl rfl pairOrder_priced rfl
  obtain ⟨row, renewal, v', charges⟩ := Renewal.invoice_charges_unit (w := pairWorld) rfl pairWorld_linked
    pairWorld_bought (by decide) (by decide) pairService.userId
  have same := claimed pairWorld w₁ pairOrder [pairItem] id lines rfl rfl pairOrder_priced rfl ran added
  cases bills with
  | cons bill _ =>
    cases same with
    | cons same _ =>
      have equal := same pairWorld v' _ _ _ row rfl pairWorld_linked pairWorld_bought charges.ran charges.invoices
      rw [charges.total, bill.amount] at equal
      revert equal
      decide

end Invoices

end HostingBilling
