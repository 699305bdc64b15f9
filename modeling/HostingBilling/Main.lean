import HostingBilling.Http.Document
import HostingBilling.Program
import HostingBilling.Store.Document

/-!
# The command line

`api INSTANT` answers the requests that stand on standard input, one document a line; `worker INSTANT`
runs the due tasks. The configuration comes from the environment: `DATABASE_URL` names the file in which
the store stands as a document, which is written back at the end. The clock stands at the instant given.
A reminder is shown as the request it makes and counts as answered.
-/

namespace HostingBilling.CommandLine

/-- The variables that the programs read. -/
def variableNames : List String := [
  "DATABASE_URL", "STRIPE_WEBHOOK_SECRET", "LISTEN_ADDR", "ADMIN_TOKEN", "WORKER_CONCURRENCY",
  "PROVISION_STEP_DELAY_MS", "EXPIRE_SCAN_INTERVAL_SECS", "RENEWAL_SCAN_INTERVAL_SECS",
  "SETTINGS_RELOAD_INTERVAL_SECS", "RENEWAL_WEBHOOK_URL", "RENEWAL_WEBHOOK_TOKEN",
  "NOTIFICATION_TIMEOUT_SECS"]

def environment : IO Environment := do
  let values ← variableNames.mapM fun name => do return (← IO.getEnv name).map (name, ·)
  return values.filterMap id

/-- The store in a file, if there is one. -/
def readStore (env : Environment) (now : Instant) : IO (Option Store) := do
  match env.lookup "DATABASE_URL" with
  | none => return none
  | some file =>
    try
      return (Json.read? (← IO.FS.readFile file)).map (Store.ofDocument now)
    catch _ => return none

def writeStore (env : Environment) (s : Store) : IO Unit := do
  let document := Json.ofMembers (s.toDocuments.map fun (name, rows) => (name, .array rows))
  match env.lookup "DATABASE_URL" with
  | none => return ()
  | some file => IO.FS.writeFile file (document.write ++ "\n")

def surroundings (store : Option Store) : Surroundings where
  reaches := fun _ => store.isSome
  migrated := true
  webhook := fun _ => some 200

/-- The lines of standard input up to its end. -/
partial def readLines (input : IO.FS.Stream) (done : List String) : IO (List String) := do
  let line ← input.getLine
  if line.isEmpty then return done.reverse
  readLines input (line :: done)

def fail (text : String) : IO UInt32 := do
  IO.eprintln text
  return 1

def showAll (documents : List Json) : IO Unit := documents.forM fun v => IO.println v.write

def runApi (env : Environment) (store : Option Store) (w : World) : IO UInt32 := do
  let lines ← readLines (← IO.getStdin) []
  let requests := (lines.filterMap Json.read?).map Http.Request.ofDocument
  match Program.runApi env (surroundings store) requests w with
  | .error e => fail e.message
  | .ok (responses, w) =>
    showAll (responses.map Http.Response.toDocument)
    writeStore env w.store
    return 0

def runWorker (env : Environment) (store : Option Store) (w : World) : IO UInt32 := do
  match Program.runWorker env (surroundings store) w with
  | .error e => fail e.message
  | .ok w =>
    let sent := w.notices.filterMap fun (target, notice) => Webhook.outgoing? target notice
    showAll (sent.map fun (_, r) => Json.ofMembers r.members)
    writeStore env w.store
    return 0

def run (program : String) (now : Instant) : IO UInt32 := do
  let env ← environment
  let store ← readStore env now
  let rows := store.getD .empty
  let w := World.start rows now rows.freeId ⟨"", "", ""⟩
  match program with
  | "api" => runApi env store w
  | "worker" => runWorker env store w
  | _ => fail ("unknown program: " ++ program)

end HostingBilling.CommandLine

def main (args : List String) : IO UInt32 := do
  match args with
  | [program, instant] =>
    match HostingBilling.Instant.parse? instant with
    | some now => HostingBilling.CommandLine.run program now
    | none => HostingBilling.CommandLine.fail ("no instant: " ++ instant)
  | _ => HostingBilling.CommandLine.fail "two arguments are needed: the program and the instant"
