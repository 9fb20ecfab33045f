import LogAlert.Json.Value
import LogAlert.Number.Reader
import LogAlert.Table
import LogAlert.Text.Lower

/-!
# Settings

The settings of the program, each of which an environment variable may set.  The names of the
variables are those of the settings with `LOGWARDEN_` in front, in any case of letters.

## Main definitions

* `Settings` : the settings, with their standard values.
* `Settings.fromEnvironment` : the settings of an environment, or the names of those whose
  variables cannot be read.
-/

namespace LogAlert

/-- The settings of the program. -/
structure Settings where
  /-- Seconds between two evaluations of all alerts. -/
  evaluationInterval : Binary64 := .ofRatio false 30 1
  /-- The number of characters of a log message that a trigger records. -/
  messagePreviewChars : Int := 200
  /-- The address of the alert store. -/
  redisUrl : String := "redis://localhost:6379/0"
  /-- What the keys of the alert store start with. -/
  redisPrefix : String := "logwarden"
  smtpHost : String := "localhost"
  smtpPort : Int := 587
  /-- The login name at the mail server; without one there is no login. -/
  smtpUser : String := ""
  smtpPassword : String := ""
  /-- Whether mail is sent over an encrypted connection. -/
  smtpUseTls : Bool := true
  alertFromEmail : String := "alerts@logwarden.local"
  pushoverApiUrl : String := "https://api.pushover.net/1/messages.json"
  /-- Seconds that a delivery may take. -/
  notifyTimeout : Binary64 := .ofRatio false 10 1
  logLevel : String := "INFO"
  deriving Repr, Inhabited

namespace Settings

/-- The standard values. -/
def standard : Settings := {}

/-- The settings as fields by name. -/
def toFields (s : Settings) : Json.Fields :=
  [("evaluation_interval", .float s.evaluationInterval),
    ("message_preview_chars", .int s.messagePreviewChars),
    ("redis_url", .str s.redisUrl),
    ("redis_prefix", .str s.redisPrefix),
    ("smtp_host", .str s.smtpHost),
    ("smtp_port", .int s.smtpPort),
    ("smtp_user", .str s.smtpUser),
    ("smtp_password", .str s.smtpPassword),
    ("smtp_use_tls", .bool s.smtpUseTls),
    ("alert_from_email", .str s.alertFromEmail),
    ("pushover_api_url", .str s.pushoverApiUrl),
    ("notify_timeout", .float s.notifyTimeout),
    ("log_level", .str s.logLevel)]

/-- A truth value by one of its names, in any case. -/
def readBool? (s : String) : Option Bool :=
  let word := String.ofList (s.toList.map Char.toLower)
  if ["1", "true", "yes", "on", "t", "y"].contains word then some true
  else if ["0", "false", "no", "off", "f", "n"].contains word then some false
  else none

/-- The characters of a numeral, all of them visible ASCII.  The blanks around it do not belong
to it. -/
def numeral? (s : String) : Option (List Char) :=
  let cs := Number.trim s.toList
  if cs.all fun c => '!' ≤ c && c ≤ '~' then some cs else none

/-- An integer, which may have a point and zeros behind it. -/
def readWhole? (s : String) : Option Int := do
  let cs ← numeral? s
  if (cs.dropWhile (· != '.')).drop 1 |>.all (· == '0') then
    Number.readShortInt? (cs.takeWhile (· != '.'))
  else none

/-- A number. -/
def readNumber? (s : String) : Option Binary64 := do
  Number.readNumber? (← numeral? s)

/-- The variable of a setting, its name being in lower case. -/
def variableName (name : String) : String :=
  "logwarden_" ++ name

/-- The names of the variables as they are usually written. -/
def variableNames : List String :=
  standard.toFields.keys.map fun name =>
    String.ofList ((variableName name).toList.map Char.toUpper)

/-- The value of a setting: that of its variable, or the standard one.  A variable that cannot
be read adds the setting to the list of those at fault. -/
def lookup {α : Type} (environment : Table String String) (name : String)
    (read : String → Option α) (standard : α) : StateM (List String) α := do
  match environment.get? (variableName name) with
  | none => pure standard
  | some s =>
    match read s with
    | some a => pure a
    | none => do
      modify (· ++ [name])
      pure standard

/-- The settings of an environment whose names are in lower case. -/
def collect (environment : Table String String) : StateM (List String) Settings := do
  let number (name : String) (standard : Binary64) :=
    lookup environment name readNumber? standard
  let whole (name : String) (standard : Int) := lookup environment name readWhole? standard
  let text (name : String) (standard : String) := lookup environment name some standard
  let evaluationInterval ← number "evaluation_interval" standard.evaluationInterval
  let messagePreviewChars ← whole "message_preview_chars" standard.messagePreviewChars
  let redisUrl ← text "redis_url" standard.redisUrl
  let redisPrefix ← text "redis_prefix" standard.redisPrefix
  let smtpHost ← text "smtp_host" standard.smtpHost
  let smtpPort ← whole "smtp_port" standard.smtpPort
  let smtpUser ← text "smtp_user" standard.smtpUser
  let smtpPassword ← text "smtp_password" standard.smtpPassword
  let smtpUseTls ← lookup environment "smtp_use_tls" readBool? standard.smtpUseTls
  let alertFromEmail ← text "alert_from_email" standard.alertFromEmail
  let pushoverApiUrl ← text "pushover_api_url" standard.pushoverApiUrl
  let notifyTimeout ← number "notify_timeout" standard.notifyTimeout
  let logLevel ← text "log_level" standard.logLevel
  pure { evaluationInterval, messagePreviewChars, redisUrl, redisPrefix, smtpHost, smtpPort,
         smtpUser, smtpPassword, smtpUseTls, alertFromEmail, pushoverApiUrl, notifyTimeout,
         logLevel }

/-- The settings of an environment, or the names of the settings at fault in ascending
order. -/
def fromEnvironment (environment : Table String String) : Except (List String) Settings :=
  let lowered := environment.foldl
    (fun t (name, value) => Table.put (String.ofList (Text.lower name.toList)) value t) []
  let (settings, atFault) := (collect lowered).run []
  if atFault.isEmpty then .ok settings else .error (atFault.mergeSort (· ≤ ·))

end Settings

end LogAlert
