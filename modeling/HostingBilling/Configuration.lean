import HostingBilling.Failure
import HostingBilling.Settings

/-!
# Configuration

What the programs read from their environment, once, at the start. A variable that is blank counts as
not set; a number is trimmed, a text is kept as it is.
-/

namespace HostingBilling

/-- The variables that are set. -/
abbrev Environment := List (String × String)

structure Configuration where
  databaseUrl : String
  webhookSecret : Option String
  listenAddress : String
  adminToken : Option String
  workerConcurrency : Nat
  provisionStepMillis : Nat
  expireScanSeconds : Nat
  renewalScanSeconds : Nat
  settingsReloadSeconds : Nat
  renewalWebhookUrl : String
  renewalWebhookToken : String
  notificationTimeoutSeconds : Nat
  deriving DecidableEq, Repr

namespace Configuration

def value? (env : Environment) (key : String) : Option String :=
  (env.lookup key).filter fun v => Text.trim v ≠ ""

/-- A number of 64 bits, or the default when it is not set. -/
def number (env : Environment) (key : String) (default : Nat) : Except Failure Nat :=
  match value? env key with
  | none => .ok default
  | some raw => match Text.word? (Text.trim raw) with
    | some n => .ok n
    | none => .error (.validation (key ++ " is not valid: " ++ raw))

def ofEnvironment (env : Environment) : Except Failure Configuration := do
  let some databaseUrl := value? env "DATABASE_URL" |
    .error (.validation "DATABASE_URL must be set")
  let workerConcurrency ← number env "WORKER_CONCURRENCY" 10
  if workerConcurrency = 0 then .error (.validation "WORKER_CONCURRENCY must be at least 1")
  return {
    databaseUrl
    webhookSecret := value? env "STRIPE_WEBHOOK_SECRET"
    listenAddress := (value? env "LISTEN_ADDR").getD "0.0.0.0:3000"
    adminToken := value? env "ADMIN_TOKEN"
    workerConcurrency
    provisionStepMillis := ← number env "PROVISION_STEP_DELAY_MS" 500
    expireScanSeconds := ← number env "EXPIRE_SCAN_INTERVAL_SECS" 3600
    renewalScanSeconds := ← number env "RENEWAL_SCAN_INTERVAL_SECS" 86400
    settingsReloadSeconds := ← number env "SETTINGS_RELOAD_INTERVAL_SECS" 60
    renewalWebhookUrl := (value? env "RENEWAL_WEBHOOK_URL").getD ""
    renewalWebhookToken := (value? env "RENEWAL_WEBHOOK_TOKEN").getD ""
    notificationTimeoutSeconds := ← number env "NOTIFICATION_TIMEOUT_SECS" 5 }

/-- The fallbacks of the live settings. -/
def settingsDefaults (c : Configuration) : SettingsFallback where
  webhookUrl := c.renewalWebhookUrl
  webhookToken := c.renewalWebhookToken
  timeoutSeconds := toString c.notificationTimeoutSeconds

end Configuration

end HostingBilling
