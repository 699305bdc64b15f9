import HostingBilling.Instant.Text
import HostingBilling.World

/-!
# Services in the store

One service per order line. Every statement that changes a status names the statuses it may leave.
-/

namespace HostingBilling

/-- A service with the order line it was bought on. -/
structure ServiceView where
  id : Uuid
  userId : Uuid
  planId : Uuid
  orderId : Uuid
  status : ServiceStatus
  cycle : Cycle
  unitPriceCents : Int
  currency : String
  expiresAt : Option Instant

/-- A document with members laid over it. Beside an object it is taken as a list of one. -/
def Json.merge (base : Json) (added : List (String × Json)) : Json :=
  match base with
  | .object members => .object (Json.overlay members added)
  | .array items => .array (items ++ [Json.ofMembers added])
  | v => .array [v, Json.ofMembers added]

namespace Store

/-- Changes the services that a condition selects, and tells whether there were any. -/
def changeServices (selects : ServiceRow → Bool) (f : ServiceRow → ServiceRow) (s : Store) :
    Bool × Store :=
  (s.services.any selects, { s with services := changeRows selects f s.services })

def stamp (name : String) (now : Instant) : String × Json := (name, .text now.toStoredText)

/-- Adds a pending service for an order line that has none. -/
def insertService (now : Instant) (id userId : Uuid) (item : ItemRow) (expiresAt : Instant)
    (s : Store) : Store :=
  if s.services.any fun r => r.itemId == item.id then s
  else
    { s with services := s.services ++ [{
        id
        userId
        itemId := item.id
        planId := item.planId
        status := .pending
        hostname := none
        address := none
        expiresAt := some expiresAt
        cancelledAt := none
        metadata := .object []
        createdAt := now
        updatedAt := now }] }

def startService (now : Instant) (id : Uuid) (s : Store) : Bool × Store :=
  s.changeServices (fun r => r.id == id && r.status != .active && r.status != .terminated)
    fun r => { r with status := .provisioning, updatedAt := now }

def detail? (s : Store) (id : Uuid) : Option ServiceView := do
  let r ← s.service? id
  let item ← s.item? r.itemId
  let order ← s.order? item.orderId
  return {
    id := r.id
    userId := r.userId
    planId := r.planId
    orderId := item.orderId
    status := r.status
    cycle := item.cycle
    unitPriceCents := item.unitPriceCents
    currency := order.currency
    expiresAt := r.expiresAt }

def activateService (now : Instant) (id : Uuid) (machine : Machine) (s : Store) : Bool × Store :=
  s.changeServices (fun r => r.id == id) fun r => { r with
    status := .active
    hostname := some machine.hostname
    address := some machine.address
    metadata := r.metadata.merge [stamp "provisioned_at" now]
    updatedAt := now }

def suspendService (now : Instant) (id : Uuid) (reason : String) (s : Store) : Bool × Store :=
  s.changeServices (fun r => r.id == id && r.status != .terminated) fun r => { r with
    status := .suspended
    metadata := r.metadata.merge [stamp "suspended_at" now, ("suspend_reason", .text reason)]
    updatedAt := now }

/-- The first termination stamps the service, a later one only touches it. -/
def terminateService (now : Instant) (id : Uuid) (s : Store) : Bool × Store :=
  s.changeServices (fun r => r.id == id) fun r => { r with
    status := .terminated
    cancelledAt := some (r.cancelledAt.getD now)
    metadata :=
      if r.status = .terminated then r.metadata else r.metadata.merge [stamp "terminated_at" now]
    updatedAt := now }

/-- Whether the paid period of an active service is over. -/
def isExpired (now : Instant) (r : ServiceRow) : Bool :=
  r.status == .active && r.expiresAt.any (· ≤ now)

def expireService (now : Instant) (id : Uuid) (s : Store) : Bool × Store :=
  s.changeServices (fun r => r.id == id && isExpired now r) fun r => { r with
    status := .suspended
    metadata := r.metadata.merge [stamp "expired_at" now]
    updatedAt := now }

/-- The order of expiry. A service with no expiry comes last. -/
def expiresBefore (a b : ServiceRow) : Bool :=
  match a.expiresAt, b.expiresAt with
  | some x, some y => x < y
  | some _, none => true
  | none, _ => false

def expiredServices (now : Instant) (s : Store) : List Uuid :=
  (sortRows expiresBefore (s.services.filter (isExpired now))).map (·.id)

/-- Whether an active service is still to expire, within some days. -/
def isExpiring (now : Instant) (days : Int) (r : ServiceRow) : Bool :=
  r.status == .active && r.expiresAt.any fun due => now < due && due ≤ now.addDays days

def expiringServices (now : Instant) (days : Int) (s : Store) : List ServiceRow :=
  sortRows expiresBefore (s.services.filter (isExpiring now days))

def revertService (now : Instant) (id : Uuid) (s : Store) : Bool × Store :=
  s.changeServices (fun r => r.id == id && r.status == .provisioning)
    fun r => { r with status := .pending, updatedAt := now }

end Store

def serviceNotFound (id : Uuid) : Failure := .notFound ("service " ++ id.toText)

namespace Services

/-- The service of an order line, added if it is not there. -/
def ensure (userId : Uuid) (item : ItemRow) (expiresAt : Instant) : Action ServiceRow := do
  let id ← Action.freshId
  change .insertService fun now s => ((), s.insertService now id userId item expiresAt)
  execute .serviceOfItem fun _ s =>
    match s.services.find? fun r => r.itemId == item.id with
    | some r => .ok (r, s)
    | none => .error .noRow

/-- Sets a service to provisioning, unless it is active or terminated. -/
def start (id : Uuid) : Action Unit :=
  change .startService fun now s => ((), (s.startService now id).2)

def detail (id : Uuid) : Action (Option ServiceView) := ask .serviceDetail fun _ s => s.detail? id

/-- The service, or the failure that there is none. -/
def require (id : Uuid) : Action ServiceView := do
  match ← detail id with
  | some d => return d
  | none => throw (serviceNotFound id)

def lockStatus (id : Uuid) : Action (Option ServiceStatus) :=
  ask .lockService fun _ s => (s.service? id).map (·.status)

def activate (id : Uuid) (machine : Machine) : Action Unit :=
  change .activateService fun now s => ((), (s.activateService now id machine).2)

/-- False when there is no such service or it is terminated. -/
def suspend (id : Uuid) (reason : String) : Action Bool :=
  change .suspendService fun now s => s.suspendService now id reason

def terminate (id : Uuid) : Action Bool :=
  change .terminateService fun now s => s.terminateService now id

/-- Suspends an active service whose paid period is over. -/
def expire (id : Uuid) : Action Bool := change .expireService fun now s => s.expireService now id

def expired : Action (List Uuid) := ask .expiredServices fun now s => s.expiredServices now

def expiring (days : Int) : Action (List ServiceRow) :=
  ask .expiringServices fun now s => s.expiringServices now days

/-- Takes a service back from provisioning to pending. -/
def takeBack (id : Uuid) : Action Bool :=
  change .revertService fun now s => s.revertService now id

end Services

end HostingBilling
