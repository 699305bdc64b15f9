import HostingBilling.Configuration
import HostingBilling.Http.ListenAddress
import HostingBilling.Http.Message
import HostingBilling.Simulator
import HostingBilling.Webhook
import HostingBilling.Worker

/-!
# The two programs

The API answers requests, the worker runs tasks. Both read their configuration, connect, check the
schema and load the settings before they start; what stops them there ends them with a message.
-/

namespace HostingBilling

/-- What stops a program before it runs. -/
inductive StartFailure where
  | configuration (cause : Failure)
  | noWebhookSecret
  | tooManyConnections
  | noDatabase
  | migrations
  | listenAddress
  deriving DecidableEq, Repr

def StartFailure.message : StartFailure → String
  | configuration _ => "invalid configuration"
  | noWebhookSecret => "STRIPE_WEBHOOK_SECRET must be set"
  | tooManyConnections => "attempt to add with overflow"
  | noDatabase => "failed to connect to database"
  | migrations => "failed to run migrations"
  | listenAddress => "failed to bind listen address"

/-- What a starting program finds. -/
structure Surroundings where
  /-- Whether the database at an address can be reached. -/
  reaches : String → Bool
  /-- Whether the schema is as the program expects it. -/
  migrated : Bool
  /-- The status with which a host answers reminders, if it answers. -/
  webhook : String → Option Nat

namespace Program

/-- Takes the defaults of the configuration and tries to load the stored settings. -/
def loadSettings (c : Configuration) (w : World) : World :=
  let defaults := c.settingsDefaults
  Settings.tryReload { w with defaults := defaults, settings := Settings.choose [] defaults }

def connect (around : Surroundings) (c : Configuration) (w : World) : Except StartFailure World :=
  if !around.reaches c.databaseUrl then .error .noDatabase
  else if !around.migrated then .error .migrations
  else .ok (loadSettings c w)

def configure (env : Environment) : Except StartFailure Configuration :=
  match Configuration.ofEnvironment env with
  | .ok c => .ok c
  | .error e => .error (.configuration e)

/-- Tasks go to the task table, reminders out over the network, and machines are simulated. -/
def outside (around : Surroundings) (c : Configuration) : Outside where
  durable := true
  refuses := fun _ => false
  deliver := fun _ target notice => Webhook.notify around.webhook target notice
  provision := fun r => (Simulator.provision c.provisionStepMillis .never r.serviceId).1

/-- What the API needs to answer requests. -/
def startApi (env : Environment) (around : Surroundings) (w : World) :
    Except StartFailure (Http.Site × Outside × World) := do
  let c ← configure env
  let some secret := c.webhookSecret | .error .noWebhookSecret
  let w ← connect around c w
  if !Http.ListenAddress.isValid c.listenAddress then .error .listenAddress
  return (⟨secret, c.adminToken⟩, outside around c, w)

/-- Runs the API over some requests. -/
def runApi (env : Environment) (around : Surroundings) (requests : List Http.Request) (w : World) :
    Except StartFailure (List Http.Response × World) := do
  let (http, o, w) ← startApi env around w
  return Http.serveEach http o requests w

/-- Database connections of a worker, counted in a word of 32 bits: one for each worker, as far as the
word holds their number, and five more. -/
def connections? (concurrency : Nat) : Option Nat :=
  let n := concurrency % 0x100000000 + 5
  if n < 0x100000000 then some n else none

/-- Runs the worker until no task is due. -/
def runWorker (env : Environment) (around : Surroundings) (w : World) :
    Except StartFailure World := do
  let c ← configure env
  if (connections? c.workerConcurrency).isNone then .error .tooManyConnections
  let w ← connect around c w
  return Worker.drain (outside around c) c.workerConcurrency w

end Program

end HostingBilling
