import HostingBilling.Failure
import HostingBilling.Json

/-!
# Answers

What a failure looks like to the one who made the request.
-/

namespace HostingBilling

namespace Http

inductive Body where
  | none
  | text (s : String)
  | json (v : Json)

structure Response where
  status : Nat
  body : Body

end Http

namespace Failure

/-- The status, the code and the text of a failure. Inner causes are not shown. -/
def face : Failure → Nat × String × String
  | validation text => (422, "validation_error", text)
  | missingOrderReference => (422, "validation_error", missingOrderReference.message)
  | malformedPayload text => (400, "malformed_payload", text)
  | webhookSignature _ => (400, "webhook_error", "invalid webhook signature")
  | illegalTransition entity source target =>
    (400, "illegal_transition", (illegalTransition entity source target).message)
  | notFound text => (404, "not_found", text)
  | conflict text => (409, "conflict", text)
  | unauthorized => (401, "unauthorized", "unauthorized")
  | eventFailed eventId _ => (500, "event_failed", "event " ++ eventId ++ " failed, retry later")
  | _ => (500, "internal_error", "internal error")

def response (e : Failure) : Http.Response :=
  let (status, code, text) := e.face
  ⟨status, .json (.object [("error_code", .text code), ("message", .text text)])⟩

end Failure

end HostingBilling
