import HostingBilling.Instant.Text
import HostingBilling.Money
import HostingBilling.Store.Orders

/-!
# Invoices in the store

The initial invoice of an order is born paid and lists the order's lines; there is one per order. A
renewal invoice has a single line and waits to be paid.
-/

namespace HostingBilling

/-- `INV-`, the day, and eight digits in upper case that the identifier gives. -/
def invoiceNumber (now : Instant) (id : Uuid) : String :=
  "INV-" ++ now.toDayText ++ "-" ++ String.ofList ((id.digits.drop 24).map Char.toUpper)

/-- What a line charges. -/
def ItemRow.amount (r : ItemRow) : Except Failure Money := do
  match (← Money.ofCents r.unitPriceCents).mul? r.quantity with
  | some m => return m
  | none => .error (.validation ("line amount overflow on item " ++ r.id.toText))

/-- A line with what it charges. -/
structure PricedItem where
  item : ItemRow
  amount : Money

/-- The lines with their amounts, and the sum on top of what came before. -/
def priceItems (sum : Money) : List ItemRow → Except Failure (List PricedItem × Money)
  | [] => .ok ([], sum)
  | r :: rest => do
    let amount ← r.amount
    match sum.add? amount with
    | none => .error (.validation "invoice subtotal overflow")
    | some sum =>
      let (priced, total) ← priceItems sum rest
      return (⟨r, amount⟩ :: priced, total)

/-- What a renewal invoice charges for. -/
structure Renewal where
  userId : Uuid
  orderId : Uuid
  cycle : Cycle
  unitPriceCents : Int
  currency : String
  dueDate : Instant

namespace Store

def initialInvoice? (s : Store) (orderId : Uuid) : Option InvoiceRow :=
  s.invoices.find? fun r => r.orderId == orderId && r.kind == .initial

/-- Adds an invoice. Its order must exist. -/
def insertInvoice (r : InvoiceRow) (s : Store) : Except DatabaseFailure (Unit × Store) :=
  if (s.order? r.orderId).isSome then .ok ((), { s with invoices := s.invoices ++ [r] })
  else .error (.missingReference "invoices" "invoices_order_id_fkey")

/-- Adds the initial invoice of an order that has none. -/
def insertInitial (r : InvoiceRow) (s : Store) : Except DatabaseFailure (Bool × Store) :=
  if (s.initialInvoice? r.orderId).isSome then .ok (false, s)
  else do
    let ((), s) ← s.insertInvoice r
    return (true, s)

def insertInvoiceLine (r : InvoiceLineRow) (s : Store) : Store :=
  { s with invoiceLines := s.invoiceLines ++ [r] }

end Store

namespace Invoices

/-- The days a checkout's invoice is given. -/
def initialDays : Int := 30

def insertLine (invoiceId : Uuid) (description : String) (quantity unitPrice amount : Int) :
    Action Unit := do
  let id ← Action.freshId
  change .insertInvoiceLine fun now s => ((), s.insertInvoiceLine {
    id
    invoiceId
    description
    quantity
    unitPriceCents := unitPrice
    amountCents := amount
    createdAt := now })

def insertLines (invoiceId : Uuid) : List PricedItem → Action Unit
  | [] => return ()
  | p :: rest => do
    insertLine invoiceId p.item.planName p.item.quantity p.item.unitPriceCents p.amount.cents
    insertLines invoiceId rest

/-- The initial invoice of an order, made if there is none. Amounts are checked before anything is
written. -/
def ensureInitial (order : OrderRow) (items : List ItemRow) : Action Uuid := do
  let (priced, subtotal) ← Action.ofExcept (priceItems Money.zero items)
  let total ← Action.ofExcept (Money.ofCents order.totalCents)
  let now ← Action.now
  let id ← Action.freshId
  let created ← execute .insertInvoice fun _ s => s.insertInitial {
    id
    userId := order.userId
    orderId := order.id
    number := invoiceNumber now id
    kind := .initial
    status := .paid
    subtotalCents := subtotal.cents
    taxCents := 0
    totalCents := total.cents
    currency := order.currency
    dueDate := (now.addDays? initialDays).getD now
    paidAt := some now
    createdAt := now
    updatedAt := now }
  if created then
    insertLines id priced
    return id
  execute .initialInvoice fun _ s =>
    match s.initialInvoice? order.id with
    | some r => .ok (r.id, s)
    | none => .error .noRow

/-- A renewal invoice with its single line. -/
def issueRenewal (r : Renewal) : Action Uuid := do
  let amount ← Action.ofExcept (Money.ofCents r.unitPriceCents)
  let now ← Action.now
  let id ← Action.freshId
  execute .insertRenewal fun _ s => s.insertInvoice {
    id
    userId := r.userId
    orderId := r.orderId
    number := invoiceNumber now id
    kind := .renewal
    status := .pending
    subtotalCents := amount.cents
    taxCents := 0
    totalCents := amount.cents
    currency := r.currency
    dueDate := r.dueDate
    paidAt := none
    createdAt := now
    updatedAt := now }
  insertLine id ("Service renewal (" ++ r.cycle.name ++ ")") 1 amount.cents amount.cents
  return id

end Invoices

end HostingBilling
