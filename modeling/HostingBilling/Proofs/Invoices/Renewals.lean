import HostingBilling.Proofs.Checkout.Fulfilment
import HostingBilling.Proofs.Checkout.Invoicing
import HostingBilling.Proofs.Jobs.Attempt
import HostingBilling.Renewal

/-!
# Renewal invoices

A renewal invoice is a new row with a new line, whatever invoices are there. A task that asks for one and is
handed out again, since its worker died before the task was settled, has the service billed again.
-/

namespace HostingBilling

namespace Invoices

/-- The invoice of a renewal. -/
def renewalRow (now : Instant) (id : Uuid) (r : HostingBilling.Renewal) (amount : Money) : InvoiceRow where
  id
  userId := r.userId
  orderId := r.orderId
  number := invoiceNumber now id
  kind := .renewal
  status := .pending
  subtotalCents := amount.cents
  taxCents := 0
  totalCents := amount.cents
  currency := r.currency
  dueDate := r.dueDate
  paidAt := none
  createdAt := now
  updatedAt := now

/-- Its line. -/
def renewalLine (now : Instant) (id invoiceId : Uuid) (r : HostingBilling.Renewal) (amount : Money) :
    InvoiceLineRow where
  id
  invoiceId
  description := "Service renewal (" ++ r.cycle.name ++ ")"
  quantity := 1
  unitPriceCents := amount.cents
  amountCents := amount.cents
  createdAt := now

/-- The world once a renewal has been billed. -/
def renewed (r : HostingBilling.Renewal) (amount : Money) (w : World) : World := { w with
  nextId := w.nextId + 2
  store := { w.store with
    invoices := w.store.invoices ++ [renewalRow w.now (.ofNat w.nextId) r amount]
    invoiceLines := w.store.invoiceLines ++
      [renewalLine w.now (.ofNat (w.nextId + 1)) (.ofNat w.nextId) r amount] } }

variable {w w' : World} {r : HostingBilling.Renewal} {amount : Money}

theorem issueRenewal_run (calm : w.faults = []) (priced : Money.ofCents r.unitPriceCents = .ok amount)
    (known : (w.store.order? r.orderId).isSome = true) :
    (issueRenewal r).run w = (.ok (.ofNat w.nextId), renewed r amount w) := by
  have inserted (row : InvoiceRow) (of : row.orderId = r.orderId) : w.store.insertInvoice row =
      .ok ((), { w.store with invoices := w.store.invoices ++ [row] }) := by
    rw [Store.insertInvoice, of, if_pos known]
  rw [issueRenewal, priced, Action.run_bind_of_ok (Action.run_ofExcept_ok _ _),
    Action.run_bind_of_ok (Action.run_now w), Action.run_bind_of_ok (Action.run_freshId w), Action.run_bind,
    run_execute (by exact calm), inserted _ rfl]
  dsimp only
  rw [Action.run_bind_of_ok (insertLine_run (by exact calm) _ _ _ _ _)]
  rfl

/-- A renewal is billed only if its price is an amount and its order is there. -/
theorem issueRenewal_ok (calm : w.faults = []) {id : Uuid} (ran : (issueRenewal r).run w = (.ok id, w')) :
    ∃ amount, Money.ofCents r.unitPriceCents = .ok amount ∧ (w.store.order? r.orderId).isSome = true := by
  cases priced : Money.ofCents r.unitPriceCents with
  | error e =>
    rw [issueRenewal, priced, Action.run_bind_of_error (Action.run_ofExcept_error _ _)] at ran
    cases ran
  | ok amount =>
    refine ⟨amount, rfl, ?_⟩
    by_contra unknown
    have refused (row : InvoiceRow) (of : row.orderId = r.orderId) : w.store.insertInvoice row =
        .error (.missingReference "invoices" "invoices_order_id_fkey") := by
      rw [Store.insertInvoice, of, if_neg unknown]
    rw [issueRenewal, priced, Action.run_bind_of_ok (Action.run_ofExcept_ok _ _),
      Action.run_bind_of_ok (Action.run_now w), Action.run_bind_of_ok (Action.run_freshId w), Action.run_bind,
      run_execute (by exact calm), refused _ rfl] at ran
    cases ran

end Invoices

namespace Renewal

open Invoices (renewed renewalRow renewalLine)

/-- What is billed for a service at some time. -/
def charge (p : InvoicePayload) (d : ServiceView) (now : Instant) : HostingBilling.Renewal where
  userId := p.userId
  orderId := p.orderId
  cycle := d.cycle
  unitPriceCents := d.unitPriceCents
  currency := d.currency
  dueDate := renewalDue d.cycle.name now

/-- A request that can be billed: the service is there, its price is an amount, and so is the order that
the request names. -/
structure Billable (p : InvoicePayload) (d : ServiceView) (amount : Money) (s : Store) : Prop where
  found : s.detail? p.serviceId = some d
  priced : Money.ofCents d.unitPriceCents = .ok amount
  known : (s.order? p.orderId).isSome = true

variable {w w₁ : World} {p : InvoicePayload} {d : ServiceView} {amount : Money} {id : Uuid}

theorem invoice_run (calm : w.faults = []) (billable : Billable p d amount w.store) :
    (invoice p).run w = (.ok (.ofNat w.nextId), renewed (charge p d w.now) amount w) := by
  have issued := Invoices.issueRenewal_run (r := charge p d w.now) calm billable.priced billable.known
  rw [invoice, Action.run_bind_of_ok (Provisioning.require_of_some calm billable.found),
    Action.run_bind_of_ok (Action.run_now w)]
  exact Action.run_transaction_of_ok issued

/-- Only such a request is billed. -/
theorem invoice_ok (calm : w.faults = []) (ran : (invoice p).run w = (.ok id, w₁)) :
    ∃ d amount, Billable p d amount w.store := by
  cases found : w.store.detail? p.serviceId with
  | none =>
    rw [invoice, Action.run_bind_of_error (Provisioning.require_of_none calm found)] at ran
    cases ran
  | some d =>
    rw [invoice, Action.run_bind_of_ok (Provisioning.require_of_some calm found),
      Action.run_bind_of_ok (Action.run_now w)] at ran
    obtain ⟨amount, priced, known⟩ := Invoices.issueRenewal_ok calm (Action.run_transaction_ok ran)
    exact ⟨d, amount, found, priced, known⟩

/-! ## Handed out again -/

/-- The task of a request is handed out again and again, each time at some time and with some rows in the
queue. -/
def invoiceEach (p : InvoicePayload) : List (Instant × List TaskRow) → World → World
  | [], w => w
  | (now, tasks) :: again, w =>
    invoiceEach p again ((invoice p).run { w with now, store := { w.store with tasks } }).2

/-- A pending renewal invoice for a request, with its one line. -/
structure Charges (p : InvoicePayload) (amount : Money) (row : InvoiceRow) (line : InvoiceLineRow) : Prop where
  kind : row.kind = .renewal
  status : row.status = .pending
  order : row.orderId = p.orderId
  user : row.userId = p.userId
  total : row.totalCents = amount.cents
  billed : line.invoiceId = row.id
  charged : line.amountCents = amount.cents

/-- Each time one more invoice is there, and nothing keeps the next from being added. -/
theorem invoiceEach_adds (calm : w.faults = []) (billable : Billable p d amount w.store)
    (again : List (Instant × List TaskRow)) : ∃ rows lines, rows.length = again.length ∧
      List.Forall₂ (Charges p amount) rows lines ∧ (invoiceEach p again w).store = { w.store with
        invoices := w.store.invoices ++ rows
        invoiceLines := w.store.invoiceLines ++ lines
        tasks := (invoiceEach p again w).store.tasks } := by
  induction again generalizing w with
  | nil => exact ⟨[], [], rfl, .nil, by simp [invoiceEach]⟩
  | cons delivery again ih =>
    obtain ⟨now, tasks⟩ := delivery
    let v : World := { w with now, store := { w.store with tasks } }
    have billed : (invoice p).run v = (.ok (.ofNat v.nextId), renewed (charge p d now) amount v) :=
      invoice_run (w := v) calm ⟨billable.found, billable.priced, billable.known⟩
    obtain ⟨rows, lines, counted, charges, left⟩ := ih (w := renewed (charge p d now) amount v) calm
      ⟨billable.found, billable.priced, billable.known⟩
    have next : invoiceEach p ((now, tasks) :: again) w =
        invoiceEach p again (renewed (charge p d now) amount v) := by
      rw [invoiceEach, show (invoice p).run { w with now, store := { w.store with tasks } } = _ from billed]
    refine ⟨_ :: rows, _ :: lines, congrArg Nat.succ counted,
      .cons (a := renewalRow now (.ofNat w.nextId) (charge p d now) amount)
        (b := renewalLine now (.ofNat (w.nextId + 1)) (.ofNat w.nextId) (charge p d now) amount)
        ⟨rfl, rfl, rfl, rfl, rfl, rfl, rfl⟩ charges, ?_⟩
    rw [next, left]
    simp [renewed, v]

/-- **A request that is made again is billed again.** Once it has gone through, it goes through each time that
its task is handed out again, and each time one more pending invoice with one more line is there. Nothing else
changes. -/
theorem invoice_again (calm : w.faults = []) (ran : (invoice p).run w = (.ok id, w₁))
    (again : List (Instant × List TaskRow)) : ∃ amount rows lines, rows.length = again.length + 1 ∧
      List.Forall₂ (Charges p amount) rows lines ∧ (invoiceEach p again w₁).store = { w.store with
        invoices := w.store.invoices ++ rows
        invoiceLines := w.store.invoiceLines ++ lines
        tasks := (invoiceEach p again w₁).store.tasks } := by
  obtain ⟨d, amount, billable⟩ := invoice_ok calm ran
  obtain ⟨rows, lines, counted, charges, left⟩ := invoiceEach_adds calm billable ((w.now, w.store.tasks) :: again)
  have first : invoiceEach p ((w.now, w.store.tasks) :: again) w = invoiceEach p again w₁ := by
    change invoiceEach p again ((invoice p).run w).2 = _
    rw [ran]
  rw [first] at left
  exact ⟨amount, rows, lines, counted, charges, left⟩

open Checkout (sampleWorld)

/-- A request for the service of `sampleWorld`. -/
def sampleRequest : InvoicePayload := ⟨.ofNat 4, .ofNat 9, .ofNat 1⟩

theorem invoice_sampleWorld : (invoice sampleRequest).run sampleWorld =
    (.ok (.ofNat 100), ((invoice sampleRequest).run sampleWorld).2) :=
  Action.run_eq_of_fst (by decide +kernel)

/-- Two deliveries of the request make two invoices. -/
theorem invoice_again_sampleWorld : ∃ rows : List InvoiceRow, rows.length = 2 ∧
    (invoiceEach sampleRequest [(⟨1301, 0⟩, [])] ((invoice sampleRequest).run sampleWorld).2).store.invoices =
      sampleWorld.store.invoices ++ rows := by
  obtain ⟨amount, rows, lines, counted, -, left⟩ := invoice_again rfl invoice_sampleWorld [(⟨1301, 0⟩, [])]
  exact ⟨rows, counted, by rw [left]⟩

/-- The invoices are not left as they are. -/
theorem invoice_repeated : ¬ ∀ (w : World) (p : InvoicePayload) (id : Uuid) (w₁ : World), w.faults = [] →
    w.store.Linked → (invoice p).run w = (.ok id, w₁) →
      ((invoice p).run w₁).2.store.invoices = w₁.store.invoices ∧
        ((invoice p).run w₁).2.store.invoiceLines = w₁.store.invoiceLines := by
  intro claimed
  have same := (claimed sampleWorld sampleRequest _ _ rfl (by decide) invoice_sampleWorld).1
  have counts := congrArg List.length same
  revert counts
  decide +kernel

end Renewal

end HostingBilling
