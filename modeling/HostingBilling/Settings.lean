import HostingBilling.Text.Blank

/-!
# Live settings

Where reminders go. A stored value wins unless it is blank, then the default of the environment; a
timeout that is no positive number counts as none.
-/

namespace HostingBilling

/-- The fallbacks for stored values, as texts. -/
structure SettingsFallback where
  webhookUrl : String
  webhookToken : String
  timeoutSeconds : String
  deriving DecidableEq, Repr, Inhabited

/-- One snapshot. -/
structure Settings where
  webhookUrl : Option String
  webhookToken : Option String
  timeoutSeconds : Nat
  deriving DecidableEq, Repr, Inhabited

namespace Settings

def defaultTimeout : Nat := 5

/-- The text without white space at its ends, unless nothing is left. -/
def filled (s : String) : Option String :=
  let t := Text.trim s
  if t = "" then none else some t

def pick (stored : List (String × String)) (key fallback : String) : Option String :=
  (stored.lookup key).bind filled <|> filled fallback

def choose (stored : List (String × String)) (defaults : SettingsFallback) : Settings where
  webhookUrl := pick stored "renewal_webhook_url" defaults.webhookUrl
  webhookToken := pick stored "renewal_webhook_token" defaults.webhookToken
  timeoutSeconds :=
    let given := (pick stored "notification_timeout_secs" defaults.timeoutSeconds).bind Text.word?
    (given.filter (0 < ·)).getD defaultTimeout

end Settings

end HostingBilling
