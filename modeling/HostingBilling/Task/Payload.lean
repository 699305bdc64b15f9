import HostingBilling.Task

/-!
# Task payloads

What a task carries: identifiers and a few plain values. Null stands for an empty object. A payload
that does not fit its kind never will, so its failure is permanent.
-/

namespace HostingBilling

open Json (Shape need needOr optional asText asInteger asOptional field defaultedField)

structure ProvisionPayload where
  serviceId : Uuid
  orderId : Uuid
  planId : Uuid
  userId : Uuid
  deriving DecidableEq

namespace ProvisionPayload

def shape : Shape := ⟨"ProvisionVpsPayload", [
  field "service_id" Uuid.decode,
  field "order_id" Uuid.decode,
  field "plan_id" Uuid.decode,
  field "user_id" Uuid.decode]⟩

def decode : Json.Decoder ProvisionPayload := fun v => do
  let m ← shape.read v
  return {
    serviceId := ← need m "service_id" Uuid.decode
    orderId := ← need m "order_id" Uuid.decode
    planId := ← need m "plan_id" Uuid.decode
    userId := ← need m "user_id" Uuid.decode }

def encode (p : ProvisionPayload) : Json := .object [
  ("order_id", p.orderId.encode),
  ("plan_id", p.planId.encode),
  ("service_id", p.serviceId.encode),
  ("user_id", p.userId.encode)]

end ProvisionPayload

structure SuspendPayload where
  serviceId : Uuid
  reason : String
  deriving DecidableEq

namespace SuspendPayload

def shape : Shape := ⟨"SuspendVpsPayload", [
  field "service_id" Uuid.decode,
  defaultedField "reason" asText]⟩

def decode : Json.Decoder SuspendPayload := fun v => do
  let m ← shape.read v
  return {
    serviceId := ← need m "service_id" Uuid.decode
    reason := ← needOr m "reason" asText "" }

def encode (p : SuspendPayload) : Json := .object [
  ("reason", .text p.reason),
  ("service_id", p.serviceId.encode)]

end SuspendPayload

structure TerminatePayload where
  serviceId : Uuid
  deriving DecidableEq

namespace TerminatePayload

def shape : Shape := ⟨"TerminateVpsPayload", [field "service_id" Uuid.decode]⟩

def decode : Json.Decoder TerminatePayload := fun v => do
  let m ← shape.read v
  return { serviceId := ← need m "service_id" Uuid.decode }

def encode (p : TerminatePayload) : Json := .object [("service_id", p.serviceId.encode)]

end TerminatePayload

/-- Without a service it asks for a sweep over all of them. -/
structure ReminderPayload where
  serviceId : Option Uuid
  userId : Option Uuid
  daysLeft : Option Int
  deriving DecidableEq

/-- A member that is left out when there is no value. -/
def presentMember (name : String) (f : α → Json) : Option α → List (String × Json)
  | none => []
  | some a => [(name, f a)]

namespace ReminderPayload

def shape : Shape := ⟨"RenewalReminderPayload", [
  defaultedField "service_id" (asOptional Uuid.decode),
  defaultedField "user_id" (asOptional Uuid.decode),
  defaultedField "days_left" (asOptional asInteger)]⟩

def decode : Json.Decoder ReminderPayload := fun v => do
  let m ← shape.read v
  return {
    serviceId := ← optional m "service_id" Uuid.decode
    userId := ← optional m "user_id" Uuid.decode
    daysLeft := ← optional m "days_left" asInteger }

def encode (p : ReminderPayload) : Json := .object (
  presentMember "days_left" Json.int p.daysLeft ++
  presentMember "service_id" Uuid.encode p.serviceId ++
  presentMember "user_id" Uuid.encode p.userId)

end ReminderPayload

structure InvoicePayload where
  serviceId : Uuid
  userId : Uuid
  orderId : Uuid
  deriving DecidableEq

namespace InvoicePayload

def shape : Shape := ⟨"GenerateInvoicePayload", [
  field "service_id" Uuid.decode,
  field "user_id" Uuid.decode,
  field "order_id" Uuid.decode]⟩

def decode : Json.Decoder InvoicePayload := fun v => do
  let m ← shape.read v
  return {
    serviceId := ← need m "service_id" Uuid.decode
    userId := ← need m "user_id" Uuid.decode
    orderId := ← need m "order_id" Uuid.decode }

def encode (p : InvoicePayload) : Json := .object [
  ("order_id", p.orderId.encode),
  ("service_id", p.serviceId.encode),
  ("user_id", p.userId.encode)]

end InvoicePayload

/-- Without a service it asks for a sweep over all of them. -/
structure ExpirePayload where
  serviceId : Option Uuid
  deriving DecidableEq

namespace ExpirePayload

def shape : Shape := ⟨"ExpireServicePayload", [
  defaultedField "service_id" (asOptional Uuid.decode)]⟩

def decode : Json.Decoder ExpirePayload := fun v => do
  let m ← shape.read v
  return { serviceId := ← optional m "service_id" Uuid.decode }

def encode (p : ExpirePayload) : Json :=
  .object (presentMember "service_id" Uuid.encode p.serviceId)

end ExpirePayload

/-- The payload of a task of some kind. -/
inductive Payload where
  | provision (p : ProvisionPayload)
  | suspend (p : SuspendPayload)
  | terminate (p : TerminatePayload)
  | reminder (p : ReminderPayload)
  | invoice (p : InvoicePayload)
  | expire (p : ExpirePayload)

namespace Payload

/-- Reads a payload of one kind, null as an empty object. -/
def decodeAs (kind : TaskKind) (decode : Json.Decoder α) (payload : Json) : Except Failure α :=
  let v := match payload with
    | .null => .object []
    | v => v
  match decode v with
  | .ok a => .ok a
  | .error e => .error (.malformedPayload (kind.name ++ " payload: " ++ e))

def decode (kind : TaskKind) (payload : Json) : Except Failure Payload :=
  match kind with
  | .provisionVps => (decodeAs kind ProvisionPayload.decode payload).map provision
  | .suspendVps => (decodeAs kind SuspendPayload.decode payload).map suspend
  | .terminateVps => (decodeAs kind TerminatePayload.decode payload).map terminate
  | .renewalReminder => (decodeAs kind ReminderPayload.decode payload).map reminder
  | .generateInvoice => (decodeAs kind InvoicePayload.decode payload).map invoice
  | .expireService => (decodeAs kind ExpirePayload.decode payload).map expire

def encode : Payload → Json
  | provision p => p.encode
  | suspend p => p.encode
  | terminate p => p.encode
  | reminder p => p.encode
  | invoice p => p.encode
  | expire p => p.encode

def kind : Payload → TaskKind
  | provision _ => .provisionVps
  | suspend _ => .suspendVps
  | terminate _ => .terminateVps
  | reminder _ => .renewalReminder
  | invoice _ => .generateInvoice
  | expire _ => .expireService

end Payload

/-- The task that builds a machine, with five attempts. -/
def TaskDraft.provision (p : ProvisionPayload) : TaskDraft :=
  ⟨.provisionVps, .critical, p.encode, 5⟩

end HostingBilling
