import HostingBilling.Http.Status
import HostingBilling.Instant.Text
import HostingBilling.Webhook.Address
import HostingBilling.World

/-!
# Reminders over the webhook

A reminder is posted as a document to the address in the settings. What cannot be sent at all and what
is answered by anything but success are failures; the details of the former are left out.
-/

namespace HostingBilling

namespace Webhook

/-- A request as the webhook sees it. -/
structure Request where
  line : String
  /-- The first credentials that it carries. -/
  authorization : Option String
  contentType : String
  body : Json

/-- Whether a token may stand in a header. -/
def isHeaderText (s : String) : Bool :=
  s.toList.all fun c => (32 ≤ c.toNat && c.toNat != 127) || c == '\t'

def body (n : Reminder) : Json := .object [
  ("days_left", .int n.daysLeft),
  ("event", .text "renewal_reminder"),
  ("sent_at", .text n.sentAt.toOffsetText),
  ("service_id", n.serviceId.encode),
  ("user_id", n.userId.encode)]

/-- The token that is presented. An empty one is none. -/
def presentedToken (t : ReminderTarget) : Option String := t.token.filter (· != "")

/-- What a request presents first: the credentials of the address, else the token. -/
def authorization (address : Address) (t : ReminderTarget) : Option String :=
  match address.credentials with
  | some c => some c.toText
  | none => (presentedToken t).map ("Bearer " ++ ·)

def request (address : Address) (t : ReminderTarget) (n : Reminder) : Request where
  line := "POST " ++ address.target ++ " HTTP/1.1"
  authorization := authorization address t
  contentType := "application/json"
  body := body n

/-- The request that goes out for a reminder, and to which host; nothing if none can be made. -/
def outgoing? (t : ReminderTarget) (n : Reminder) : Option (String × Request) := do
  if !(presentedToken t).all isHeaderText then none
  let address ← Address.parse? t.url
  return (address.host, request address t n)

def unsent : Failure := .notification "renewal webhook:"

/-- Whether a status ends an answer. The provisional ones are waited out, except the switch to another
protocol, and what is not written with three digits is no status. -/
def isFinal (status : Nat) : Bool := status == 101 || (200 ≤ status && status ≤ 999)

/-- What an answer means for the reminder. -/
def judge (status : Nat) : Except Failure Unit :=
  if !isFinal status then .error unsent
  else if Http.isSuccess status then .ok ()
  else .error (.notification ("renewal webhook returned " ++ Http.statusText status))

/-- Posts a reminder; `answers` gives the status with which a host answers, if it answers at all. -/
def notify (answers : String → Option Nat) (t : ReminderTarget) (n : Reminder) :
    Except Failure Unit :=
  match outgoing? t n with
  | none => .error unsent
  | some (host, _) => match answers host with
    | none => .error unsent
    | some status => judge status

end Webhook

end HostingBilling
