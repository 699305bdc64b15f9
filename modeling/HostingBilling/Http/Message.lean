import HostingBilling.Http
import HostingBilling.Http.Chunks

/-!
# Messages

A request as it stands on a connection: a line with a method and a target, fields, and a body whose
length a field tells or that comes in chunks. What is malformed is turned away with a status before
anything looks at what it asks for.
-/

namespace HostingBilling.Http

/-- Why a message is no request. -/
inductive Refusal where
  | malformed
  | targetTooLong
  | tooManyFields
  deriving DecidableEq, Repr

def Refusal.status : Refusal → Nat
  | malformed => 400
  | targetTooLong => 414
  | tooManyFields => 431

namespace Message

/-- The most fields that a message may have. -/
def fieldLimit : Nat := 100

/-- The line that asks for something. -/
structure Demand where
  method : String
  target : String
  /-- Whether the message may come in chunks. -/
  mayChunk : Bool
  deriving DecidableEq, Repr

def space : UInt8 := 32

def isTargetByte (b : UInt8) : Bool := space < b && b != 127

/-- The method, the target and the version of a line, with one space between them. -/
def Demand.read? (line : List UInt8) : Option Demand := do
  let method := line.takeWhile Field.isToken
  let afterMethod := line.drop method.length
  let target := (afterMethod.drop 1).takeWhile isTargetByte
  let afterTarget := afterMethod.drop (target.length + 1)
  if method.isEmpty ∨ target.isEmpty then none
  if afterMethod.head? ≠ some space ∨ afterTarget.head? ≠ some space then none
  let version := Field.textOf (afterTarget.drop 1)
  if version ≠ "HTTP/1.1" ∧ version ≠ "HTTP/1.0" then none
  return {
    method := Field.textOf method
    target := ← String.fromUTF8? ⟨target.toArray⟩
    mayChunk := version = "HTTP/1.1" }

/-- How a body is told from what follows it. -/
structure Framing where
  length : Option Nat
  /-- Whether the last coding that is named is the one in chunks. -/
  chunked : Option Bool
  deriving DecidableEq, Repr

/-- Whether the last of some codings is the one in chunks. -/
def endsInChunks (value : String) : Bool :=
  (Text.split ',' value.toList).getLast?.any fun coding =>
    (Text.strip Text.isSpace coding).map Char.toLower == "chunked".toList

/-- What a field says about the body. Lengths have to agree, and once a coding is named they do not
count. -/
def Framing.add? (f : Framing) (field : String × String) : Option Framing :=
  match field.1.toLower with
  | "transfer-encoding" => some { f with chunked := some (endsInChunks field.2) }
  | "content-length" =>
    if f.chunked.isSome then some f
    else match (Text.digits? field.2.toList).filter (· < 0x10000000000000000) with
      | none => none
      | some n => if f.length.all (· == n) then some { f with length := some n } else none
  | _ => some f

/-- The body in front of some bytes. -/
def Framing.body? (f : Framing) (bytes : List UInt8) : Option Arrived :=
  match f.chunked with
  | some true => some (Chunks.read bytes)
  | some false => none
  | none =>
    let length := f.length.getD 0
    some ⟨bytes.take length, bytes.length < length⟩

/-- Line breaks may stand in front of a message. -/
def skipBreaks : List UInt8 → List UInt8
  | [] => []
  | b :: bytes =>
    if b = Field.lineFeed then skipBreaks bytes
    else if b = Field.carriageReturn ∧ bytes.head? = some Field.lineFeed then skipBreaks bytes
    else b :: bytes

/-- What is given, or the refusal of what is malformed. -/
def wellFormed {α : Type} (given : Option α) : Except Refusal α :=
  match given with
  | some a => .ok a
  | none => .error .malformed

/-- Reads the request in front of some bytes. -/
def read (bytes : List UInt8) : Except Refusal Request := do
  let (lines, rest) ← wellFormed (Field.lines? (skipBreaks bytes))
  let demand ← wellFormed (lines.head?.bind Demand.read?)
  let fields ← wellFormed ((lines.tail.take fieldLimit).mapM Field.read?)
  if fieldLimit < lines.tail.length then throw .tooManyFields
  if Target.limit < demand.target.utf8ByteSize then throw .targetTooLong
  let _ ← wellFormed (Target.path? demand.target)
  let framing ← wellFormed (fields.foldlM Framing.add? ⟨none, none⟩)
  if framing.chunked.isSome ∧ !demand.mayChunk then throw .malformed
  let body ← wellFormed (framing.body? rest)
  return {
    method := demand.method
    target := demand.target
    headers := fields
    body := ⟨body.bytes.toArray⟩
    broken := body.broken }

/-- The fields that every message has. -/
def ownFields (r : Request) : List (String × String) := [
  ("host", "api"),
  ("connection", "close"),
  ("content-length", toString r.body.size)]

/-- The bytes that are sent for a request, on a connection of its own. -/
def write (r : Request) : List UInt8 :=
  let fields := (ownFields r ++ r.headers).map fun (name, value) => name ++ ": " ++ value ++ "\r\n"
  Text.bytes (r.method ++ " " ++ r.target ++ " HTTP/1.1\r\n" ++ String.join fields ++ "\r\n") ++
    r.body.toList

end Message

/-- What arrives of a request that is sent over a connection. -/
def Request.overWire (r : Request) : Except Refusal Request := Message.read (Message.write r)

/-- Answers a request that is sent over a connection. -/
def serve (site : Site) (o : Outside) (r : Request) (w : World) : Response × World :=
  match r.overWire with
  | .error e => (bare e.status, w)
  | .ok r => handle site o r w

/-- Answers requests one after another. -/
def serveEach (site : Site) (o : Outside) : List Request → World → List Response × World
  | [], w => ([], w)
  | r :: rest, w =>
    let (response, w) := serve site o r w
    let (responses, w) := serveEach site o rest w
    (response :: responses, w)

end HostingBilling.Http
