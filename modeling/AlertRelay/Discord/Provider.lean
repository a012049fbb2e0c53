import AlertRelay.Discord.Payload
import AlertRelay.Http.Exchange
import AlertRelay.Secret

/-!
# Sending notifications

A provider routes a notification to a webhook and posts its payload there, once.
What it does to the world outside is listed as effects, in order.  The default
webhook is looked up when it is first needed and remembered from then on; this
is the only thing about a provider that ever changes.
-/

namespace AlertRelay.Discord

open AlertRelay.Text

/-- Whether a provider posts through a client it was given, or opens a client of
its own for each notification. -/
inductive ClientMode where
  | shared
  | owned
  deriving DecidableEq, Repr, Inhabited

/-- What is seen of a provider from outside. -/
inductive Effect where
  | log (event : Log.Event)
  | openClient (timeoutSeconds : Nat)
  | request (r : Http.Request)
  | closeClient
  deriving Repr, Inhabited

inductive SendFault where
  /-- the other side refused it -/
  | rejected (status : Int) (body : Spelled)
  /-- the other side refused it, and why cannot be read -/
  | unreadable (fault : Charset.Fault)
  | undelivered (fault : Http.Fault)
  /-- the request would hold halves of pairs, which cannot be sent, or the webhook is a
  reference to a variable that cannot be asked for -/
  | unencodable
  /-- the row of results is too long for its length to be written -/
  | unwritable
  deriving DecidableEq, Repr, Inhabited

def SendFault.message : SendFault → Spelled
  | rejected status body =>
      "call to provider alert returned status code " ++ Number.integerText status ++ ": " ++ body
  | unreadable _ | unencodable | unwritable => ""
  | undelivered fault => fault.message

structure Provider where
  config : Config
  webhook : Secret
  client : ClientMode
  deriving DecidableEq, Repr, Inhabited

namespace Provider

def name : String := "discord"

def component : String := "notifications.discord"

/-- How long a client of the provider's own waits. -/
def timeoutSeconds : Nat := 10

def ofConfig (config : Config) (client : ClientMode) : Provider :=
  ⟨config, ⟨config.webhookUrl, none⟩, client⟩

/-! ## Routing -/

/-- The default webhook.  It is looked up when it is a reference, unless the variable cannot
be asked for. -/
def resolveDefault (env : Environment) (p : Provider) :
    Except SendFault Spelled × Provider × List Log.Event :=
  let (url, webhook, events) := p.webhook.resolve component env
  (url.elim (.error .unencodable) .ok, { p with webhook := webhook }, events)

/-- The webhook for a group: that of the group, taken as it is, or else the
default one, which may be a reference. -/
def route (env : Environment) (group : Spelled) (p : Provider) :
    Except SendFault Spelled × Provider × List Log.Event :=
  match p.config.overrideFor? group with
  | some url => (.ok url, p, [])
  | none => p.resolveDefault env

/-! ## Sending -/

def payload? (p : Provider) (n : Notification) : Option Json :=
  Discord.payload? p.config.title n

/-- The fields of the event that tells how an exchange ended. -/
def outcomeFields (n : Notification) (status : Int) : List (Spelled × Json) :=
  [("provider", .text name), ("status_code", .int status),
    ("endpoint", .text n.endpoint.displayName), ("resolved", .bool n.resolved)]

/-- What a reply that does not accept the request amounts to. -/
def refusal (r : Http.Reply) : SendFault :=
  match r.text with
  | .ok body => .rejected r.status body
  | .error f => .unreadable f

/-- How an exchange ended, and what was logged about it. -/
def outcome (n : Notification) : Http.Answer → Except SendFault Unit × List Log.Event
  | .fault f => (.error (.undelivered f), [])
  | .reply r =>
      if r.isAccepted then
        (.ok (), [⟨component, .info, "discord_notification_sent", outcomeFields n r.status⟩])
      else
        (.error (refusal r),
          [⟨component, .warning, "discord_non_success_response", outcomeFields n r.status⟩])

/-- The requests of one exchange; a client of the provider's own is open for
just as long. -/
def exchangeEffects (client : ClientMode) (requests : List Http.Request) : List Effect :=
  match client with
  | .shared => requests.map .request
  | .owned => .openClient timeoutSeconds :: requests.map .request ++ [.closeClient]

/-- What posting a payload to a webhook comes to: the requests, the result and what was
logged about it.  Halves of pairs cannot be sent, but a URL that is none is found first. -/
def exchange (n : Notification) (answer : Http.Answer) (url : Spelled) (body : Json) :
    List Http.Request × Except SendFault Unit × List Log.Event :=
  match url.whole?.filter fun _ => body.isWhole with
  | some url =>
      let (requests, answer) := Http.post url body answer
      (requests, outcome n answer)
  | none =>
      match Http.Url.fault? url with
      | some f => ([], .error (.undelivered ⟨.invalidUrl, f.message⟩), [])
      | none => ([], .error .unencodable, [])

/-- What is done for a notification once its webhook is known, or is known not to be
found.  The payload is written first. -/
def deliver (n : Notification) (answer : Http.Answer) (url : Except SendFault Spelled)
    (p : Provider) : Except SendFault Unit × List Effect :=
  match url with
  | .error f => (.error f, [])
  | .ok url =>
      match p.payload? n with
      | none => (.error .unwritable, [])
      | some body =>
          let (requests, result, events) := exchange n answer url body
          (result, exchangeEffects p.client requests ++ events.map .log)

/-- Sends a notification, given what the network answers if it is asked. -/
def send (env : Environment) (n : Notification) (answer : Http.Answer) (p : Provider) :
    Except SendFault Unit × Provider × List Effect :=
  let (url, next, lookup) := p.route env n.endpoint.group
  let (result, effects) := p.deliver n answer url
  (result, next, lookup.map .log ++ effects)

end Provider

/-! ## Building providers -/

/-- The configuration fails its own rules. -/
inductive BuildFault where
  | invalidConfig
  deriving DecidableEq, Repr, Inhabited

def BuildFault.message : BuildFault → String
  | invalidConfig => "Invalid discord alerting configuration"

def buildComponent : String := "notifications"

/-- The provider of a configuration, if there is one, and what was logged. -/
def buildProvider (config : Option Config) (client : ClientMode) :
    Except BuildFault (Option Provider × List Log.Event) :=
  match config with
  | none => .ok (none, [⟨buildComponent, .info, "no_alert_provider_configured", []⟩])
  | some c =>
      if c.isValid then
        .ok (some (.ofConfig c client),
          [⟨buildComponent, .info, "alert_provider_enabled",
            [("provider", .text Provider.name), ("overrides", .int c.overrides.length),
              ("default_alert", .bool c.defaultAlert.isSome)]⟩])
      else .error .invalidConfig

end AlertRelay.Discord
