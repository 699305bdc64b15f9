import HostingBilling.Delivery
import HostingBilling.Gateway.Signature
import HostingBilling.Http.Answer
import HostingBilling.Http.Target
import HostingBilling.Reprovision
import HostingBilling.Settings.Reload
import HostingBilling.Text.Percent

/-!
# Requests

A health check, the gateway's webhook and two triggers for an operator. The body is read before the
signature is looked at, and the path before the token.
-/

namespace HostingBilling

namespace Http

structure Request where
  method : String
  /-- What is asked for, a path with its query for the most part. -/
  target : String
  headers : List (String × String)
  /-- As much of the body as arrived. -/
  body : ByteArray
  /-- Whether the body broke off or was malformed. -/
  broken : Bool

/-- What the requests are checked against. -/
structure Site where
  webhookSecret : String
  adminToken : Option String
  deriving DecidableEq, Repr

inductive Route where
  | health
  | webhook
  | reprovision (id : String)
  | reloadSettings
  | unknown
  deriving DecidableEq, Repr

/-- The longest body that is read. -/
def bodyLimit : Nat := 65536

/-- Milliseconds after which a request is given up. -/
def timeLimit : Nat := 30000

def visible (c : Char) : Bool := (32 ≤ c.toNat && c.toNat < 127) || c == '\t'

/-- The first header of a name. One that is not visible ASCII counts as absent. -/
def Request.header? (r : Request) (name : String) : Option String :=
  let same (h : String × String) : Bool := h.1.toLower == name.toLower
  ((r.headers.find? same).map (·.2)).filter fun v => v.toList.all visible

def routeOf (path : List Char) : Route :=
  match Text.split '/' path with
  | [[], []] => .health
  | [[], a, b] =>
    if a = "webhooks".toList ∧ b = "stripe".toList then .webhook else .unknown
  | [[], a, b, c] =>
    if a = "admin".toList ∧ b = "settings".toList ∧ c = "reload".toList then .reloadSettings
    else .unknown
  | [[], a, b, id, d] =>
    if a = "admin".toList ∧ b = "services".toList ∧ d = "reprovision".toList then
      .reprovision (String.ofList id)
    else .unknown
  | _ => .unknown

/-- The service that a path segment names. -/
def serviceOf? (segment : String) : Option Uuid := do
  Uuid.parse? (← Text.unescaped? segment.toList)

/-- Whether two tokens agree in every byte. -/
def sameToken (expected presented : String) : Bool :=
  Text.bytes expected == Text.bytes presented

/-- What follows a word in front of a text. -/
def after? (word text : String) : Option String :=
  if word.toList.isPrefixOf text.toList then some (String.ofList (text.toList.drop word.length))
  else none

/-- Only a configured token that is presented in full is let in. -/
def Site.admits (site : Site) (r : Request) : Bool :=
  match site.adminToken, (r.header? "authorization").bind (after? "Bearer ") with
  | some expected, some presented => sameToken expected presented
  | _, _ => false

/-- The event of a signed post. -/
def Site.eventOf (site : Site) (now : Instant) (r : Request) (body : String) :
    Except Failure GatewayEvent :=
  match r.header? Gateway.signatureHeader with
  | none => .error (.webhookSignature "missing Stripe-Signature header")
  | some header => Gateway.verify now.seconds body header site.webhookSecret

/-- The answer of an action, or the face of its failure. -/
def answer (a : Action Json) (w : World) : Response × World :=
  match a.run w with
  | (.ok v, w) => (⟨200, .json v⟩, w)
  | (.error e, w) => (e.response, w)

def webhookAction (site : Site) (o : Outside) (r : Request) (body : String) : Action Json := do
  let event ← Action.ofExcept (site.eventOf (← Action.now) r body)
  let outcome ← Delivery.process o event
  return .object [("status", .text outcome.name)]

def reprovisionAction (site : Site) (o : Outside) (r : Request) (id : Uuid) : Action Json := do
  if !site.admits r then throw .unauthorized
  let jobId ← Reprovision.service o id
  return .object [("job_id", jobId.encode), ("service_id", id.encode), ("status", .text "queued")]

def reloadAction (site : Site) (r : Request) : Action Json := do
  if !site.admits r then throw .unauthorized
  let settings ← Settings.reload
  Settings.announce
  return .object [
    ("notification_timeout_secs", .int settings.timeoutSeconds),
    ("renewal_webhook_configured", .bool settings.webhookUrl.isSome),
    ("status", .text "reloaded")]

def bare (status : Nat) : Response := ⟨status, .none⟩

def handleWebhook (site : Site) (o : Outside) (r : Request) (w : World) : Response × World :=
  if bodyLimit < r.body.size then (bare 413, w)
  else if r.broken then (bare 400, w)
  else match String.fromUTF8? r.body with
    | none => (bare 400, w)
    | some body => answer (webhookAction site o r body) w

def handleReprovision (site : Site) (o : Outside) (r : Request) (segment : String) (w : World) :
    Response × World :=
  match serviceOf? segment with
  | none => (bare 400, w)
  | some id => answer (reprovisionAction site o r id) w

/-- Answers a request for a path. -/
def handleAt (path : List Char) (site : Site) (o : Outside) (r : Request) (w : World) :
    Response × World :=
  match routeOf path with
  | .unknown => (bare 404, w)
  | .health =>
    if r.method = "GET" then (⟨200, .text "ok"⟩, w)
    else if r.method = "HEAD" then (⟨200, .text ""⟩, w)
    else (bare 405, w)
  | .webhook => if r.method = "POST" then handleWebhook site o r w else (bare 405, w)
  | .reprovision segment =>
    if r.method = "POST" then handleReprovision site o r segment w else (bare 405, w)
  | .reloadSettings =>
    if r.method = "POST" then answer (reloadAction site r) w else (bare 405, w)

/-- Answers one request. -/
def handle (site : Site) (o : Outside) (r : Request) (w : World) : Response × World :=
  match Target.path? r.target with
  | none => (bare 400, w)
  | some path => handleAt path site o r w

/-- The status of a request that reads a body of some length and then works for some milliseconds, and
when it is answered. -/
def limited (bodyLength work : Nat) : Nat × Nat :=
  if bodyLimit < bodyLength then (413, 0)
  else if timeLimit ≤ work then (408, timeLimit)
  else (200, work)

end Http

end HostingBilling
