import HostingBilling.Store.Audits
import HostingBilling.Store.Invoices
import HostingBilling.Store.Services
import HostingBilling.Task.Payload
import HostingBilling.TaskQueue

/-!
# Renewal reminders and invoices

Reminders go out seven, three and one days before a service expires, once a day for each. Every
reminder leaves an audit row; one that was not delivered is tried again by the next sweep.
-/

namespace HostingBilling

namespace Renewal

/-- The days before expiry on which a reminder goes out. -/
def reminderDays : List Int := [7, 3, 1]

/-- How many days ahead a sweep looks. -/
def windowDays : Int := 8

/-- Whole days until a service expires, rounded up; none once it has expired. What is left below a
second is not counted. -/
def wholeDaysLeft (expiresAt now : Instant) : Int :=
  let seconds := expiresAt.secondsSince now
  if seconds ≤ 0 then 0 else (seconds + 86399) / 86400

def remindsOn (daysLeft : Int) : Bool := reminderDays.contains daysLeft

structure Report where
  sent : Nat
  deduplicated : Nat
  /-- Another sweep was running; nothing was sent. -/
  skipped : Bool
  deriving DecidableEq, Repr, Inhabited

/-- How a reminder went: over no channel at all, or over the webhook with its result. -/
inductive Sending where
  | auditOnly
  | webhook (result : Except Failure Unit)

namespace Sending

def channel : Sending → String
  | auditOnly => "audit_log_only"
  | webhook _ => "webhook"

def isSent : Sending → Bool
  | webhook (.ok ()) => true
  | _ => false

def failure? : Sending → Option Failure
  | webhook (.error e) => some e
  | _ => none

end Sending

def auditEntry (serviceId userId : Uuid) (daysLeft : Int) (sending : Sending) : AuditEntry where
  userId
  serviceId
  action := if sending.failure?.isSome then reminderFailedAction else reminderSentAction
  detail := .object [
    ("channel", .text sending.channel),
    ("days_left", .int daysLeft),
    ("error", Json.ofOption (fun e => .text e.message) sending.failure?),
    ("sent", .bool sending.isSent),
    ("service_id", serviceId.encode)]

/-- Hands a reminder to the webhook of the current settings. -/
def deliver (o : Outside) (notice : Reminder) : Action Sending := do
  let w ← get
  match w.settings.webhookUrl with
  | none => return .auditOnly
  | some url =>
    let target : ReminderTarget := ⟨url, w.settings.webhookToken, w.settings.timeoutSeconds⟩
    set { w with notices := w.notices ++ [(target, notice)] }
    return .webhook (o.deliver w.notices.length target notice)

/-- Sends one reminder and records it. The row is written first, then a failure is raised. -/
def send (o : Outside) (serviceId userId : Uuid) (daysLeft : Int) : Action Unit := do
  let sending ← deliver o ⟨serviceId, userId, daysLeft, ← Action.now⟩
  Audits.insert (auditEntry serviceId userId daysLeft sending)
  match sending.failure? with
  | some e => throw e
  | none => return ()

/-- The days that a single reminder tells: those asked for if positive, else those until expiry if
positive, else one. -/
def daysToTell (asked : Option Int) (expiresAt : Option Instant) (now : Instant) : Int :=
  let left := (expiresAt.map fun due => wholeDaysLeft due now).filter (0 < ·)
  (asked.filter (0 < ·)).getD (left.getD 1)

def remindOne (o : Outside) (p : ReminderPayload) (id : Uuid) : Action Report := do
  let service ← Services.require id
  let now ← Action.now
  send o id (p.userId.getD service.userId) (daysToTell p.daysLeft service.expiresAt now)
  return ⟨1, 0, false⟩

def serviceError (id : Uuid) (e : Failure) : String := "service " ++ id.toText ++ ": " ++ e.message

/-- Sends the reminder of one service in a sweep, unless it went out today. -/
def remindService (o : Outside) (r : ServiceRow) (daysLeft : Int) (report : Report) :
    Action (Report × List String) := do
  match ← (Audits.remindedToday r.id daysLeft).attempt with
  | .ok true => return ({ report with deduplicated := report.deduplicated + 1 }, [])
  | .error e => return (report, [serviceError r.id e])
  | .ok false =>
    match ← (send o r.id r.userId daysLeft).attempt with
    | .ok () => return ({ report with sent := report.sent + 1 }, [])
    | .error e => return (report, [serviceError r.id e])

/-- Goes through the services that are about to expire. -/
def remindEach (o : Outside) (report : Report) : List ServiceRow → Action (Report × List String)
  | [] => return (report, [])
  | r :: rest => do
    let now ← Action.now
    let daysLeft := (r.expiresAt.map fun due => wholeDaysLeft due now).getD 0
    if !remindsOn daysLeft then remindEach o report rest
    else
      let (report, errors) ← remindService o r daysLeft report
      let (report, more) ← remindEach o report rest
      return (report, errors ++ more)

def remindAll (o : Outside) : Action Report :=
  TaskQueue.withLease TaskKind.renewalReminder.name ⟨0, 0, true⟩ do
    let (report, errors) ← remindEach o ⟨0, 0, false⟩ (← Services.expiring windowDays)
    if errors.isEmpty then return report
    throw (.several errors)

def remind (o : Outside) (p : ReminderPayload) : Action Report :=
  match p.serviceId with
  | some id => remindOne o p id
  | none => remindAll o

/-- Issues a renewal invoice for a service and gives its identifier. -/
def invoice (p : InvoicePayload) : Action Uuid := do
  let service ← Services.require p.serviceId
  let now ← Action.now
  transaction (Invoices.issueRenewal {
    userId := p.userId
    orderId := p.orderId
    cycle := service.cycle
    unitPriceCents := service.unitPriceCents
    currency := service.currency
    dueDate := renewalDue service.cycle.name now })

end Renewal

end HostingBilling
