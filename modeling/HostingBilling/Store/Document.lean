import HostingBilling.Store.Column

/-!
# The store as a document

One object with a list of rows for each table, under the names of the tables and their columns. What a
row leaves out has its default, and where time is due the instant of reading stands in. Rows keep their
order.
-/

namespace HostingBilling

/-- A table: its name, the column that tells rows apart, the row of defaults, and its columns. -/
structure Table (ρ : Type) where
  name : String
  key : String
  blank : Instant → ρ
  columns : List (Column ρ)

namespace Table

open Column

def orders : Table OrderRow where
  name := "orders"
  key := "id"
  blank now := ⟨.nil, .nil, .draft, "", 0, now, now⟩
  columns := [
    uuid "id" (·.id) fun a r => { r with id := a },
    uuid "user_id" (·.userId) fun a r => { r with userId := a },
    named OrderStatus.all OrderStatus.name "status" (·.status) fun a r => { r with status := a },
    text "currency" (·.currency) fun a r => { r with currency := a },
    int "total_cents" (·.totalCents) fun a r => { r with totalCents := a },
    instant "created_at" (·.createdAt) fun a r => { r with createdAt := a },
    instant "updated_at" (·.updatedAt) fun a r => { r with updatedAt := a }]

def items : Table ItemRow where
  name := "order_items"
  key := "id"
  blank now := ⟨.nil, .nil, .nil, .object [], .monthly, 1, 0, now⟩
  columns := [
    uuid "id" (·.id) fun a r => { r with id := a },
    uuid "order_id" (·.orderId) fun a r => { r with orderId := a },
    uuid "plan_id" (·.planId) fun a r => { r with planId := a },
    document "plan_snapshot" (·.planSnapshot) fun a r => { r with planSnapshot := a },
    named Cycle.all Cycle.name "billing_cycle" (·.cycle) fun a r => { r with cycle := a },
    int "quantity" (·.quantity) fun a r => { r with quantity := a },
    int "unit_price_cents" (·.unitPriceCents) fun a r => { r with unitPriceCents := a },
    instant "created_at" (·.createdAt) fun a r => { r with createdAt := a }]

def invoices : Table InvoiceRow where
  name := "invoices"
  key := "id"
  blank now := ⟨.nil, .nil, .nil, "", .initial, .pending, 0, 0, 0, "", now, none, now, now⟩
  columns := [
    uuid "id" (·.id) fun a r => { r with id := a },
    uuid "user_id" (·.userId) fun a r => { r with userId := a },
    uuid "order_id" (·.orderId) fun a r => { r with orderId := a },
    text "invoice_number" (·.number) fun a r => { r with number := a },
    named InvoiceKind.all InvoiceKind.name "kind" (·.kind) fun a r => { r with kind := a },
    named InvoiceStatus.all InvoiceStatus.name "status" (·.status) fun a r => { r with status := a },
    int "subtotal_cents" (·.subtotalCents) fun a r => { r with subtotalCents := a },
    int "tax_cents" (·.taxCents) fun a r => { r with taxCents := a },
    int "total_cents" (·.totalCents) fun a r => { r with totalCents := a },
    text "currency" (·.currency) fun a r => { r with currency := a },
    instant "due_date" (·.dueDate) fun a r => { r with dueDate := a },
    instant? "paid_at" (·.paidAt) fun a r => { r with paidAt := a },
    instant "created_at" (·.createdAt) fun a r => { r with createdAt := a },
    instant "updated_at" (·.updatedAt) fun a r => { r with updatedAt := a }]

def invoiceLines : Table InvoiceLineRow where
  name := "invoice_items"
  key := "id"
  blank now := ⟨.nil, .nil, "", 0, 0, 0, now⟩
  columns := [
    uuid "id" (·.id) fun a r => { r with id := a },
    uuid "invoice_id" (·.invoiceId) fun a r => { r with invoiceId := a },
    text "description" (·.description) fun a r => { r with description := a },
    int "quantity" (·.quantity) fun a r => { r with quantity := a },
    int "unit_price_cents" (·.unitPriceCents) fun a r => { r with unitPriceCents := a },
    int "amount_cents" (·.amountCents) fun a r => { r with amountCents := a },
    instant "created_at" (·.createdAt) fun a r => { r with createdAt := a }]

def payments : Table PaymentRow where
  name := "payments"
  key := "id"
  blank now := ⟨.nil, .nil, none, none, none, none, 0, "", .pending, "card", now, now⟩
  columns := [
    uuid "id" (·.id) fun a r => { r with id := a },
    uuid "user_id" (·.userId) fun a r => { r with userId := a },
    uuid? "order_id" (·.orderId) fun a r => { r with orderId := a },
    uuid? "invoice_id" (·.invoiceId) fun a r => { r with invoiceId := a },
    text? "stripe_payment_intent_id" (·.intent) fun a r => { r with intent := a },
    text? "stripe_checkout_session_id" (·.session) fun a r => { r with session := a },
    int "amount_cents" (·.amountCents) fun a r => { r with amountCents := a },
    text "currency" (·.currency) fun a r => { r with currency := a },
    named PaymentStatus.all PaymentStatus.name "status" (·.status) fun a r => { r with status := a },
    text "method" (·.method) fun a r => { r with method := a },
    instant "created_at" (·.createdAt) fun a r => { r with createdAt := a },
    instant "updated_at" (·.updatedAt) fun a r => { r with updatedAt := a }]

def events : Table EventRow where
  name := "payment_events"
  key := "id"
  blank now := ⟨.nil, "", "", .null, false, none, 1, now, none, now⟩
  columns := [
    uuid "id" (·.id) fun a r => { r with id := a },
    text "gateway_event_id" (·.eventId) fun a r => { r with eventId := a },
    text "event_type" (·.kind) fun a r => { r with kind := a },
    document "payload" (·.payload) fun a r => { r with payload := a },
    flag "processed" (·.processed) fun a r => { r with processed := a },
    text? "error_message" (·.error) fun a r => { r with error := a },
    int "deliveries" (·.deliveries) fun a r => { r with deliveries := a },
    instant "claimed_at" (·.claimedAt) fun a r => { r with claimedAt := a },
    instant? "processed_at" (·.processedAt) fun a r => { r with processedAt := a },
    instant "created_at" (·.createdAt) fun a r => { r with createdAt := a }]

def services : Table ServiceRow where
  name := "services"
  key := "id"
  blank now := ⟨.nil, .nil, .nil, .nil, .pending, none, none, none, none, .object [], now, now⟩
  columns := [
    uuid "id" (·.id) fun a r => { r with id := a },
    uuid "user_id" (·.userId) fun a r => { r with userId := a },
    uuid "order_item_id" (·.itemId) fun a r => { r with itemId := a },
    uuid "plan_id" (·.planId) fun a r => { r with planId := a },
    named ServiceStatus.all ServiceStatus.name "status" (·.status) fun a r => { r with status := a },
    text? "hostname" (·.hostname) fun a r => { r with hostname := a },
    text? "ip_address" (·.address) fun a r => { r with address := a },
    instant? "expires_at" (·.expiresAt) fun a r => { r with expiresAt := a },
    instant? "cancelled_at" (·.cancelledAt) fun a r => { r with cancelledAt := a },
    document "metadata" (·.metadata) fun a r => { r with metadata := a },
    instant "created_at" (·.createdAt) fun a r => { r with createdAt := a },
    instant "updated_at" (·.updatedAt) fun a r => { r with updatedAt := a }]

def jobs : Table JobRow where
  name := "provisioning_jobs"
  key := "id"
  blank now := ⟨.nil, .nil, "", .pending, 0, 5, none, none, none, now, now⟩
  columns := [
    uuid "id" (·.id) fun a r => { r with id := a },
    uuid "service_id" (·.serviceId) fun a r => { r with serviceId := a },
    text "job_type" (·.kind) fun a r => { r with kind := a },
    named JobStatus.all JobStatus.name "status" (·.status) fun a r => { r with status := a },
    int "attempts" (·.attempts) fun a r => { r with attempts := a },
    int "max_attempts" (·.maxAttempts) fun a r => { r with maxAttempts := a },
    text? "last_error" (·.lastError) fun a r => { r with lastError := a },
    instant? "started_at" (·.startedAt) fun a r => { r with startedAt := a },
    instant? "completed_at" (·.completedAt) fun a r => { r with completedAt := a },
    instant "created_at" (·.createdAt) fun a r => { r with createdAt := a },
    instant "updated_at" (·.updatedAt) fun a r => { r with updatedAt := a }]

def refunds : Table RefundRow where
  name := "refunds"
  key := "id"
  blank now := ⟨.nil, .nil, "", 0, none, .pending, now, now⟩
  columns := [
    uuid "id" (·.id) fun a r => { r with id := a },
    uuid "payment_id" (·.paymentId) fun a r => { r with paymentId := a },
    text "stripe_refund_id" (·.refundId) fun a r => { r with refundId := a },
    int "amount_cents" (·.amountCents) fun a r => { r with amountCents := a },
    text? "reason" (·.reason) fun a r => { r with reason := a },
    named RefundStatus.all RefundStatus.name "status" (·.status) fun a r => { r with status := a },
    instant "created_at" (·.createdAt) fun a r => { r with createdAt := a },
    instant "updated_at" (·.updatedAt) fun a r => { r with updatedAt := a }]

def disputes : Table DisputeRow where
  name := "disputes"
  key := "id"
  blank now := ⟨.nil, .nil, "", 0, none, .needsResponse, none, now, now⟩
  columns := [
    uuid "id" (·.id) fun a r => { r with id := a },
    uuid "payment_id" (·.paymentId) fun a r => { r with paymentId := a },
    text "stripe_dispute_id" (·.disputeId) fun a r => { r with disputeId := a },
    int "amount_cents" (·.amountCents) fun a r => { r with amountCents := a },
    text? "reason" (·.reason) fun a r => { r with reason := a },
    named DisputeStatus.all DisputeStatus.name "status" (·.status) fun a r => { r with status := a },
    instant? "evidence_due_by" (·.evidenceDue) fun a r => { r with evidenceDue := a },
    instant "created_at" (·.createdAt) fun a r => { r with createdAt := a },
    instant "updated_at" (·.updatedAt) fun a r => { r with updatedAt := a }]

def audits : Table AuditRow where
  name := "audit_logs"
  key := "id"
  blank now := ⟨.nil, none, "", none, "", "", .object [], now⟩
  columns := [
    uuid "id" (·.id) fun a r => { r with id := a },
    uuid? "user_id" (·.userId) fun a r => { r with userId := a },
    text "entity_type" (·.entityType) fun a r => { r with entityType := a },
    uuid? "entity_id" (·.entityId) fun a r => { r with entityId := a },
    text "action" (·.action) fun a r => { r with action := a },
    text "actor" (·.actor) fun a r => { r with actor := a },
    document "detail" (·.detail) fun a r => { r with detail := a },
    instant "created_at" (·.createdAt) fun a r => { r with createdAt := a }]

def settings : Table SettingRow where
  name := "system_settings"
  key := "key"
  blank now := ⟨"", "", now⟩
  columns := [
    text "key" (·.key) fun a r => { r with key := a },
    text "value" (·.value) fun a r => { r with value := a },
    instant "updated_at" (·.updatedAt) fun a r => { r with updatedAt := a }]

def tasks : Table TaskRow where
  name := "task_queue"
  key := "id"
  blank now := ⟨.nil, "", .default, .object [], .pending, 0, 5, none, now, now, now⟩
  columns := [
    uuid "id" (·.id) fun a r => { r with id := a },
    text "task_type" (·.kind) fun a r => { r with kind := a },
    named QueueName.all QueueName.name "queue" (·.queue) fun a r => { r with queue := a },
    document "payload" (·.payload) fun a r => { r with payload := a },
    named TaskStatus.all TaskStatus.name "status" (·.status) fun a r => { r with status := a },
    int "attempts" (·.attempts) fun a r => { r with attempts := a },
    int "max_attempts" (·.maxAttempts) fun a r => { r with maxAttempts := a },
    text? "last_error" (·.lastError) fun a r => { r with lastError := a },
    instant "scheduled_at" (·.scheduledAt) fun a r => { r with scheduledAt := a },
    instant "created_at" (·.createdAt) fun a r => { r with createdAt := a },
    instant "updated_at" (·.updatedAt) fun a r => { r with updatedAt := a }]

variable {ρ : Type}

/-- The rows that a document lists for the table. -/
def documents (t : Table ρ) (v : Json) : List Json :=
  match v.member? t.name with
  | some (.array rows) => rows
  | _ => []

/-- The rows of the table that a document lists. -/
def read (t : Table ρ) (now : Instant) (v : Json) : List ρ :=
  (t.documents v).map fun row => putMembers t.columns row (t.blank now)

/-- The table as a member of the document. -/
def member (t : Table ρ) (rows : List ρ) : String × List Json :=
  (t.name, rows.map (rowDocument t.columns))

/-- What tells a row apart from the others of its table. -/
def keyOf (t : Table ρ) (row : Json) : Option String := (row.member? t.key).bind Column.textOf?

/-- Lays the listed members over the rows that have the same key, and leaves all else alone. -/
def overwrite (t : Table ρ) (v : Json) (rows : List ρ) : List ρ :=
  rows.map fun r =>
    match (t.documents v).find? fun row => t.keyOf row == t.keyOf (rowDocument t.columns r) with
    | some row => putMembers t.columns row r
    | none => r

end Table

namespace Store

/-- The store that a document lists. -/
def ofDocument (now : Instant) (v : Json) : Store where
  orders := Table.orders.read now v
  items := Table.items.read now v
  invoices := Table.invoices.read now v
  invoiceLines := Table.invoiceLines.read now v
  payments := Table.payments.read now v
  events := Table.events.read now v
  services := Table.services.read now v
  jobs := Table.jobs.read now v
  refunds := Table.refunds.read now v
  disputes := Table.disputes.read now v
  audits := Table.audits.read now v
  settings := Table.settings.read now v
  tasks := Table.tasks.read now v

/-- Every table with its rows as objects. -/
def toDocuments (s : Store) : List (String × List Json) := [
  Table.orders.member s.orders,
  Table.items.member s.items,
  Table.invoices.member s.invoices,
  Table.invoiceLines.member s.invoiceLines,
  Table.payments.member s.payments,
  Table.events.member s.events,
  Table.services.member s.services,
  Table.jobs.member s.jobs,
  Table.refunds.member s.refunds,
  Table.disputes.member s.disputes,
  Table.audits.member s.audits,
  Table.settings.member s.settings,
  Table.tasks.member s.tasks]

/-- Lays the rows that a document lists over those of the store. -/
def overwrite (v : Json) (s : Store) : Store where
  orders := Table.orders.overwrite v s.orders
  items := Table.items.overwrite v s.items
  invoices := Table.invoices.overwrite v s.invoices
  invoiceLines := Table.invoiceLines.overwrite v s.invoiceLines
  payments := Table.payments.overwrite v s.payments
  events := Table.events.overwrite v s.events
  services := Table.services.overwrite v s.services
  jobs := Table.jobs.overwrite v s.jobs
  refunds := Table.refunds.overwrite v s.refunds
  disputes := Table.disputes.overwrite v s.disputes
  audits := Table.audits.overwrite v s.audits
  settings := Table.settings.overwrite v s.settings
  tasks := Table.tasks.overwrite v s.tasks

end Store

end HostingBilling
