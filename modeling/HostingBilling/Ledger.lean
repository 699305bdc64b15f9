import HostingBilling.Gateway.Event
import HostingBilling.World

/-!
# The ledger of events

One row per gateway event. A delivery owns an event when the event is new, when its last attempt
recorded an error, or when a claim was abandoned for more than two minutes; any other delivery is a
duplicate and only counted.
-/

namespace HostingBilling

namespace Ledger

/-- Seconds after which an unfinished claim counts as abandoned. -/
def claimSeconds : Int := 120

/-- Whether a delivery at `now` may take the event over. -/
def mayReclaim (now : Instant) (r : EventRow) : Bool :=
  r.error.isSome || (!r.processed && r.claimedAt < now.addSeconds (-claimSeconds))

def reclaimed (now : Instant) (r : EventRow) : EventRow :=
  { r with
    processed := false
    error := none
    processedAt := none
    claimedAt := now
    deliveries := r.deliveries + 1 }

def newRow (now : Instant) (id : Uuid) (e : GatewayEvent) : EventRow where
  id
  eventId := e.id.text
  kind := e.kind
  payload := e.payload
  processed := false
  error := none
  deliveries := 1
  claimedAt := now
  processedAt := none
  createdAt := now

/-- The claim: the row that the delivery owns, if it owns one. -/
def claimRow (now : Instant) (id : Uuid) (e : GatewayEvent) (rows : List EventRow) :
    Option Uuid × List EventRow :=
  match rows.find? fun r => r.eventId == e.id.text with
  | none => (some id, rows ++ [newRow now id e])
  | some r =>
    if mayReclaim now r then
      (some r.id, changeRows (fun x => x.eventId == e.id.text) (reclaimed now) rows)
    else (none, rows)

def countDelivery (eventId : String) (rows : List EventRow) : List EventRow :=
  changeRows (fun r => r.eventId == eventId)
    (fun r => { r with deliveries := r.deliveries + 1 }) rows

/-- Records how the attempt on a row ended: with an error, or with none. -/
def markRow (now : Instant) (id : Uuid) (error : Option String) (rows : List EventRow) :
    List EventRow :=
  changeRows (fun r => r.id == id)
    (fun r => { r with processed := true, error := error, processedAt := some now }) rows

def onEvents (f : List EventRow → α × List EventRow) (s : Store) : α × Store :=
  let (a, rows) := f s.events
  (a, { s with events := rows })

/-- Claims an event for this delivery. A duplicate is counted in a second statement. -/
def claim (e : GatewayEvent) : Action (Option Uuid) := do
  let id ← Action.freshId
  let claimed ← change .claimEvent fun now => onEvents (claimRow now id e)
  if claimed.isNone then
    change .countDelivery fun _ => onEvents fun rows => ((), countDelivery e.id.text rows)
  return claimed

def finish (id : Uuid) : Action Unit :=
  change .finishEvent fun now => onEvents fun rows => ((), markRow now id none rows)

def recordError (id : Uuid) (error : String) : Action Unit :=
  change .failEvent fun now => onEvents fun rows => ((), markRow now id (some error) rows)

end Ledger

end HostingBilling
