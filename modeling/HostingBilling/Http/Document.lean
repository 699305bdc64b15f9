import HostingBilling.Http
import HostingBilling.Webhook

/-!
# Requests and answers as documents

A request is read from an object with its method, its path, its headers as pairs and its body as text;
an answer is shown as its status and its body.
-/

namespace HostingBilling

namespace Http

def textMember (v : Json) (key : String) : String :=
  match v.member? key with
  | some (.text s) => s
  | _ => ""

/-- The pairs of texts in a list. -/
def pairsOf : Json → List (String × String)
  | .array items => items.filterMap fun item =>
    match item with
    | .array [.text name, .text value] => some (name, value)
    | _ => none
  | _ => []

def Request.ofDocument (v : Json) : Request where
  method := textMember v "method"
  target := textMember v "path"
  headers := pairsOf ((v.member? "headers").getD .null)
  body := (textMember v "body").toUTF8
  broken := false

def Body.toDocument : Body → Json
  | .none => .null
  | .text s => .text s
  | .json v => v

def Response.toDocument (r : Response) : Json := .object [
  ("body", r.body.toDocument),
  ("status", .int r.status)]

end Http

/-- What the webhook received. -/
def Webhook.Request.members (r : Webhook.Request) : List (String × Json) := [
  ("authorization", Json.ofOption .text r.authorization),
  ("body", r.body),
  ("content_type", .text r.contentType),
  ("request_line", .text r.line)]

end HostingBilling
