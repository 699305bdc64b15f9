/-!
# Failures

Why an operation did not go through, the text it is reported with, and whether trying again can help.
-/

namespace HostingBilling

/-- Why the database did not carry out a statement. -/
inductive DatabaseFailure where
  | duplicateKey (constraint : String)
  | missingReference (table constraint : String)
  | integerOutOfRange
  | noRow
  | injected
  deriving DecidableEq, Repr

def DatabaseFailure.message : DatabaseFailure → String
  | .duplicateKey constraint =>
    "error returned from database: duplicate key value violates unique constraint \"" ++ constraint ++
      "\""
  | .missingReference table constraint =>
    "error returned from database: insert or update on table \"" ++ table ++
      "\" violates foreign key constraint \"" ++ constraint ++ "\""
  | .integerOutOfRange => "error returned from database: integer out of range"
  | .noRow => "no rows returned by a query that expected to return at least one row"
  | .injected => "error returned from database: injected failure"

/-- What a status belongs to. -/
inductive Entity where
  | order
  | service
  deriving DecidableEq, Repr

def Entity.name : Entity → String
  | .order => "order"
  | .service => "service"

inductive Failure where
  | validation (text : String)
  | malformedPayload (text : String)
  | database (cause : DatabaseFailure)
  | serialization (text : String)
  | webhookSignature (text : String)
  | missingOrderReference
  | notFound (text : String)
  | conflict (text : String)
  | illegalTransition (entity : Entity) (source target : String)
  | queue (text : String)
  | provider (text : String)
  | notification (text : String)
  | eventFailed (eventId text : String)
  | unauthorized
  /-- Several things went wrong while the rest went through. -/
  | several (texts : List String)
  deriving DecidableEq, Repr

namespace Failure

def message : Failure → String
  | validation text => "validation: " ++ text
  | malformedPayload text => "malformed payload: " ++ text
  | database cause => "database: " ++ cause.message
  | serialization text => "serialization: " ++ text
  | webhookSignature text => "webhook signature: " ++ text
  | missingOrderReference => "order reference missing from checkout metadata"
  | notFound text => "not found: " ++ text
  | conflict text => "conflict: " ++ text
  | illegalTransition entity source target =>
    "illegal " ++ entity.name ++ " transition: " ++ source ++ " → " ++ target
  | queue text => "queue: " ++ text
  | provider text => "provider: " ++ text
  | notification text => "notification: " ++ text
  | eventFailed eventId text => "event " ++ eventId ++ " failed: " ++ text
  | unauthorized => "unauthorized"
  | several texts => "; ".intercalate texts

/-- Failures that no retry will mend. -/
def isPermanent : Failure → Bool
  | validation _ => true
  | malformedPayload _ => true
  | notFound _ => true
  | missingOrderReference => true
  | _ => false

end Failure

end HostingBilling
