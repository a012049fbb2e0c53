import AlertRelay.Discord.Config
import AlertRelay.Endpoint
import AlertRelay.Json.Basic
import AlertRelay.Number.Integer

/-!
# Payloads

The message for one notification: a single embed with a title, a headline that
names the endpoint and the length of the row of results, a color, and one line
for each condition that was checked.
-/

namespace AlertRelay.Discord

open AlertRelay.Number AlertRelay.Text

def defaultTitle : String := ":helmet_with_white_cross: Gatus"

def resolvedColor : Int := 3066993

def triggeredColor : Int := 15158332

def successIcon : String := ":white_check_mark:"

def failureIcon : String := ":x:"

/-- What happened, where, and how many times in a row. -/
def headline (n : Notification) : Spelled :=
  "An alert for **" ++ n.endpoint.displayName ++ "** has been " ++
    (if n.resolved then "resolved after passing successfully "
     else "triggered due to having failed ") ++
    integerText (n.alert.threshold n.resolved) ++ " time(s) in a row"

/-- The description as a quotation below the headline, if there is one. -/
def quotation (a : Alert) : Spelled :=
  if a.descriptionText = "" then "" else ":\n> " ++ a.descriptionText

/-- One line for a condition: an icon and the condition between backticks. -/
def conditionLine (r : ConditionResult) : Spelled :=
  (if r.success then successIcon else failureIcon) ++ " - \x60" ++ r.condition ++ "\x60\n"

def conditionLines (rs : List ConditionResult) : Spelled :=
  rs.foldr (fun r text => conditionLine r ++ text) ""

def conditionFields (rs : List ConditionResult) : List (Spelled × Json) :=
  if rs.isEmpty then []
  else
    [("fields", .array [.object [
      ("name", .text "Condition results"),
      ("value", .text (conditionLines rs)),
      ("inline", .bool false)]])]

def embed (title : Spelled) (n : Notification) : Json :=
  .object (
    ("title", .text (if title = "" then defaultTitle else title)) ::
    ("description", .text (headline n ++ quotation n.alert)) ::
    ("color", .int (if n.resolved then resolvedColor else triggeredColor)) ::
    conditionFields n.result.conditions)

/-- The payload of a notification under a configured title. -/
def payload (title : Spelled) (n : Notification) : Json :=
  .object [("content", .text ""), ("embeds", .array [embed title n])]

/-- The payload of a notification, unless its row of results is too long for its length to be
written. -/
def payload? (title : Spelled) (n : Notification) : Option Json :=
  if isWritable (n.alert.threshold n.resolved) then some (payload title n) else none

end AlertRelay.Discord
