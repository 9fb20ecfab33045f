import LogAlert.Alert.Basic
import LogAlert.Json.Order
import LogAlert.Text.Blank

/-!
# Validation

What the settings of an alert and of a channel must satisfy before they are stored.  The first
setting that does not is refused with the reason.

## Main definitions

* `Alert.validate` : the rules for alerts.
* `Channel.validate` : the rules for channels.
* `isEmail` : the form of an email address.
-/

namespace LogAlert

/-- The lengths of time, in seconds, over which an alert may count records. -/
def velocityWindows : List Int :=
  [60, 300, 900, 3600]

/-- The shortest cooldown in seconds. -/
def minCooldown : Int := 60

/-- The longest cooldown in seconds. -/
def maxCooldown : Int := 86400

/-- The cooldown of an alert that sets none. -/
def defaultCooldown : Int := 300

/-- The refusal of a setting that has to be one of several values. -/
def mustBeOneOf (field : String) (values : List Json) : Failure :=
  .config field ("must be one of " ++ (Json.arr values).inspect)

/-- Names have between 1 and 100 characters besides blanks around them. -/
def checkName (name : Json) : Except Failure Unit :=
  let text : Except Failure String :=
    match name with
    | .str s => .ok s
    | v => if v.isTruthy then .error (.lacks v "strip") else .ok ""
  do
    let length := (Text.strip (← text).toList).length
    if 1 ≤ length && length ≤ 100 then .ok ()
    else .error (.config "name" "must be between 1 and 100 characters")

/-- Whether a cooldown is an integer of seconds within the limits. -/
def isCooldown : Json → Bool
  | .int n => minCooldown ≤ n && n ≤ maxCooldown
  | _ => false

/-- The rules for alerts that count records. -/
def checkVelocity (s : AlertSettings) : Except Failure Unit := do
  if s.threshold.isNull then .error (.config "velocity_threshold" "can't be blank")
  else if ← s.threshold.isAtMost 0 then
    .error (.config "velocity_threshold" "must be greater than 0")
  else if !velocityWindows.any fun n => s.window.same (.int n) then
    .error (mustBeOneOf "velocity_window_seconds" (velocityWindows.map .int))
  else .ok ()

/-- The rules for the settings of alerts.  The query may be one that no record answers. -/
def AlertSettings.validate (s : AlertSettings) : Except Failure Unit := do
  checkName s.name
  if s.searchQuery.isNull || (Text.strip s.searchQuery.display.toList).isEmpty then
    .error (.config "search_query" "can't be blank")
  else match AlertType.ofJson? s.type with
    | none => .error (mustBeOneOf "alert_type" (AlertType.all.map fun t => .str t.name))
    | some type =>
      if !isCooldown s.cooldown then
        .error (.config "cooldown_seconds"
          ("must be between " ++ toString minCooldown ++ " and " ++ toString maxCooldown))
      else match type with
        | .velocity => checkVelocity s
        | .anyMatch => .ok ()

/-- The rules for alerts. -/
def Alert.validate (a : Alert) : Except Failure Unit :=
  a.settings.validate

/-- Whether the character may stand in an email address besides the sign in its middle. -/
def isEmailChar (c : Char) : Bool :=
  c != '@' && c != ',' && c != ';' && !Text.isBlank c

/-- Whether the text is an email address: two parts around an at sign.  One line feed at its
end is passed over. -/
def isEmail (cs : List Char) : Bool :=
  let user := cs.takeWhile isEmailChar
  match cs.dropWhile isEmailChar with
  | '@' :: rest =>
    let host := rest.takeWhile isEmailChar
    let tail := rest.dropWhile isEmailChar
    !user.isEmpty && !host.isEmpty && (tail.isEmpty || tail == ['\n'])
  | _ => false

/-- The value of a field of a channel's configuration, null if it is absent. -/
def configField (config : Json) (key : String) : Except Failure Json :=
  match config with
  | .obj fields => .ok ((Json.field? fields key).getD .null)
  | v => if v.isTruthy then .error (.lacks v "get") else .ok .null

/-- A field of a channel's configuration must be a text that satisfies `fits`. -/
def checkConfigText (config : Json) (key : String) (fits : String → Bool) (problem : String) :
    Except Failure Unit := do
  match ← configField config key with
  | .str s => if fits s then .ok () else .error (.config "config" problem)
  | _ => .error (.config "config" problem)

/-- The priority of a push message is absent or between -2 and 2. -/
def checkPriority (config : Json) : Except Failure Unit := do
  let priority ← configField config "priority"
  if priority.isNull || ([-2, -1, 0, 1, 2] : List Int).any fun n => priority.same (.int n) then
    .ok ()
  else .error (.config "config" "priority must be between -2 and 2")

/-- Whether the text is the address of a web page. -/
def isWebAddress (s : String) : Bool :=
  "http://".toList.isPrefixOf s.toList || "https://".toList.isPrefixOf s.toList

/-- The rules for channels. -/
def Channel.validate (c : Channel) : Except Failure Unit := do
  checkName c.name
  match ChannelType.ofJson? c.type with
  | none => .error (mustBeOneOf "channel_type" (ChannelType.all.map fun t => .str t.name))
  | some .email =>
    checkConfigText c.config "email" (fun s => isEmail s.toList)
      "must include a valid email address"
  | some .pushover => do
    checkConfigText c.config "user_key" (· != "") "must include user_key"
    checkConfigText c.config "app_token" (· != "") "must include app_token"
    checkPriority c.config
  | some .slack =>
    checkConfigText c.config "webhook_url" isWebAddress "must include a webhook_url"

end LogAlert
