import HostingBilling.World

/-!
# The audit trail

Reminders leave a row each, whether or not they went out. A reminder of the same service and the same
number of days that went out today is not sent again.
-/

namespace HostingBilling

/-- An entry about a service, made by the program itself. -/
structure AuditEntry where
  userId : Uuid
  serviceId : Uuid
  action : String
  detail : Json

namespace AuditEntry

def entityType : String := "service"

def actor : String := "system"

end AuditEntry

def reminderSentAction : String := "renewal_reminder_sent"

def reminderFailedAction : String := "renewal_reminder_failed"

namespace Store

def insertAudit (now : Instant) (id : Uuid) (e : AuditEntry) (s : Store) : Store :=
  { s with audits := s.audits ++ [{
      id
      userId := some e.userId
      entityType := AuditEntry.entityType
      entityId := some e.serviceId
      action := e.action
      actor := AuditEntry.actor
      detail := e.detail
      createdAt := now }] }

/-- Whether a row tells of a reminder that went out on the day of `now`. -/
def isReminderOfDay (now : Instant) (serviceId : Uuid) (daysLeft : Int) (r : AuditRow) : Bool :=
  r.action == reminderSentAction && r.entityType == AuditEntry.entityType &&
    r.entityId == some serviceId && r.createdAt.dayNumber == now.dayNumber &&
    match r.detail.member? "days_left" with
    | some (.int n) => n == daysLeft
    | some (.text t) => Text.spacedInteger? t == some daysLeft
    | _ => false

def reminderSent (now : Instant) (serviceId : Uuid) (daysLeft : Int) (s : Store) : Bool :=
  s.audits.any (isReminderOfDay now serviceId daysLeft)

end Store

namespace Audits

def insert (e : AuditEntry) : Action Unit := do
  let id ← Action.freshId
  change .insertAudit fun now s => ((), s.insertAudit now id e)

def remindedToday (serviceId : Uuid) (daysLeft : Int) : Action Bool :=
  ask .reminderSent fun now s => s.reminderSent now serviceId daysLeft

end Audits

end HostingBilling
