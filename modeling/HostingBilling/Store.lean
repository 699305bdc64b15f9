import HostingBilling.Instant
import HostingBilling.Order
import HostingBilling.Payment
import HostingBilling.Service
import HostingBilling.Task

/-!
# The store

The tables as lists of rows in the order of their insertion. A row keeps its place when it changes.
-/

namespace HostingBilling

structure OrderRow where
  id : Uuid
  userId : Uuid
  status : OrderStatus
  currency : String
  totalCents : Int
  createdAt : Instant
  updatedAt : Instant

structure ItemRow where
  id : Uuid
  orderId : Uuid
  planId : Uuid
  planSnapshot : Json
  cycle : Cycle
  quantity : Int
  unitPriceCents : Int
  createdAt : Instant

inductive InvoiceKind where
  | initial
  | renewal
  deriving DecidableEq, Repr, Inhabited

def InvoiceKind.all : List InvoiceKind := [.initial, .renewal]

def InvoiceKind.name : InvoiceKind → String
  | .initial => "initial"
  | .renewal => "renewal"

inductive InvoiceStatus where
  | pending
  | paid
  | void
  deriving DecidableEq, Repr, Inhabited

def InvoiceStatus.all : List InvoiceStatus := [.pending, .paid, .void]

def InvoiceStatus.name : InvoiceStatus → String
  | .pending => "pending"
  | .paid => "paid"
  | .void => "void"

structure InvoiceRow where
  id : Uuid
  userId : Uuid
  orderId : Uuid
  number : String
  kind : InvoiceKind
  status : InvoiceStatus
  subtotalCents : Int
  taxCents : Int
  totalCents : Int
  currency : String
  dueDate : Instant
  paidAt : Option Instant
  createdAt : Instant
  updatedAt : Instant

structure InvoiceLineRow where
  id : Uuid
  invoiceId : Uuid
  description : String
  quantity : Int
  unitPriceCents : Int
  amountCents : Int
  createdAt : Instant

structure PaymentRow where
  id : Uuid
  userId : Uuid
  orderId : Option Uuid
  invoiceId : Option Uuid
  intent : Option String
  session : Option String
  amountCents : Int
  currency : String
  status : PaymentStatus
  method : String
  createdAt : Instant
  updatedAt : Instant

/-- One event of the gateway, however often it was delivered. -/
structure EventRow where
  id : Uuid
  eventId : String
  kind : String
  payload : Json
  processed : Bool
  error : Option String
  deliveries : Int
  claimedAt : Instant
  processedAt : Option Instant
  createdAt : Instant

structure ServiceRow where
  id : Uuid
  userId : Uuid
  itemId : Uuid
  planId : Uuid
  status : ServiceStatus
  hostname : Option String
  address : Option String
  expiresAt : Option Instant
  cancelledAt : Option Instant
  metadata : Json
  createdAt : Instant
  updatedAt : Instant

structure JobRow where
  id : Uuid
  serviceId : Uuid
  kind : String
  status : JobStatus
  attempts : Int
  maxAttempts : Int
  lastError : Option String
  startedAt : Option Instant
  completedAt : Option Instant
  createdAt : Instant
  updatedAt : Instant

structure RefundRow where
  id : Uuid
  paymentId : Uuid
  refundId : String
  amountCents : Int
  reason : Option String
  status : RefundStatus
  createdAt : Instant
  updatedAt : Instant

structure DisputeRow where
  id : Uuid
  paymentId : Uuid
  disputeId : String
  amountCents : Int
  reason : Option String
  status : DisputeStatus
  evidenceDue : Option Instant
  createdAt : Instant
  updatedAt : Instant

structure AuditRow where
  id : Uuid
  userId : Option Uuid
  entityType : String
  entityId : Option Uuid
  action : String
  actor : String
  detail : Json
  createdAt : Instant

structure SettingRow where
  key : String
  value : String
  updatedAt : Instant

inductive TaskStatus where
  | pending
  | processing
  | completed
  | failed
  deriving DecidableEq, Repr, Inhabited

def TaskStatus.all : List TaskStatus := [.pending, .processing, .completed, .failed]

def TaskStatus.name : TaskStatus → String
  | .pending => "pending"
  | .processing => "processing"
  | .completed => "completed"
  | .failed => "failed"

structure TaskRow where
  id : Uuid
  kind : String
  queue : QueueName
  payload : Json
  status : TaskStatus
  attempts : Int
  maxAttempts : Int
  lastError : Option String
  scheduledAt : Instant
  createdAt : Instant
  updatedAt : Instant

structure Store where
  orders : List OrderRow
  items : List ItemRow
  invoices : List InvoiceRow
  invoiceLines : List InvoiceLineRow
  payments : List PaymentRow
  events : List EventRow
  services : List ServiceRow
  jobs : List JobRow
  refunds : List RefundRow
  disputes : List DisputeRow
  audits : List AuditRow
  settings : List SettingRow
  tasks : List TaskRow

def Store.empty : Store := ⟨[], [], [], [], [], [], [], [], [], [], [], [], []⟩

instance : Inhabited Store := ⟨Store.empty⟩

/-- Changes the rows that a condition selects. -/
def changeRows (selects : α → Bool) (change : α → α) (rows : List α) : List α :=
  rows.map fun r => if selects r then change r else r

/-- Inserts before the first element that must come later; equals stay in the order of insertion. -/
def orderedInsert (before : α → α → Bool) (a : α) : List α → List α
  | [] => [a]
  | b :: rest => if before a b then a :: b :: rest else b :: orderedInsert before a rest

/-- Sorts by a strict order. Elements that the order does not tell apart keep their order. -/
def sortRows (before : α → α → Bool) (rows : List α) : List α :=
  rows.foldl (fun acc r => orderedInsert before r acc) []

namespace Store

/-- The identifiers of all rows. -/
def ids (s : Store) : List Uuid :=
  s.orders.map (·.id) ++ s.items.map (·.id) ++ s.invoices.map (·.id) ++
    s.invoiceLines.map (·.id) ++ s.payments.map (·.id) ++ s.events.map (·.id) ++
    s.services.map (·.id) ++ s.jobs.map (·.id) ++ s.refunds.map (·.id) ++
    s.disputes.map (·.id) ++ s.audits.map (·.id) ++ s.tasks.map (·.id)

/-- A number above every identifier in the store. -/
def freeId (s : Store) : Nat := s.ids.foldl (fun n u => max n (u.val + 1)) 0

def order? (s : Store) (id : Uuid) : Option OrderRow := s.orders.find? fun r => r.id == id

def item? (s : Store) (id : Uuid) : Option ItemRow := s.items.find? fun r => r.id == id

def service? (s : Store) (id : Uuid) : Option ServiceRow := s.services.find? fun r => r.id == id

/-- The lines of an order in the order they were made, ties by identifier. -/
def itemsOf (s : Store) (orderId : Uuid) : List ItemRow :=
  sortRows
    (fun a b => a.createdAt < b.createdAt || (a.createdAt == b.createdAt && a.id < b.id))
    (s.items.filter fun r => r.orderId == orderId)

/-- Whether a service belongs to a line of an order. -/
def isServiceOf (s : Store) (orderId serviceId : Uuid) : Bool :=
  match s.service? serviceId with
  | none => false
  | some r => match s.item? r.itemId with
    | none => false
    | some item => item.orderId == orderId

end Store

end HostingBilling
