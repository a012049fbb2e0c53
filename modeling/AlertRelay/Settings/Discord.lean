import AlertRelay.Discord.Config
import AlertRelay.Settings.Alert

/-!
# The settings of the Discord channel

A mapping with the default webhook, a title, a list of overrides and a default
alert.  Texts may be written as values of any kind and are taken by their
display text; a blank value counts as no text.
-/

namespace AlertRelay.Settings

open AlertRelay.Text

/-- The text of a key; empty if the key is missing or its value is blank. -/
def textOf (cx : Value.Context) (key : String) (entries : List (Value × Value)) :
    Except LoadFault Spelled :=
  match (Value.lookup key entries).filter (!·.isBlank) with
  | none => .ok ""
  | some v => displayOf cx v

def overrideOf (cx : Value.Context) (v : Value) : Except LoadFault Discord.Override :=
  match v.entries? cx.table with
  | none => refuse cx v .overrideNotMapping
  | some entries => do
      let group ← textOf cx "group" entries
      let webhookUrl ← textOf cx "webhook-url" entries
      return { group, webhookUrl }

/-- The overrides among the settings; a blank value counts as none. -/
def overridesOf (cx : Value.Context) (entries : List (Value × Value)) :
    Except LoadFault (List Discord.Override) :=
  match (Value.lookup "overrides" entries).filter (!·.isBlank) with
  | none => .ok []
  | some v =>
      match v.items? cx.table with
      | none => .error (.settings .overridesNotList)
      | some items => items.mapM (overrideOf cx)

def defaultAlertOf (cx : Value.Context) (entries : List (Value × Value)) :
    Except LoadFault (Option Alert) :=
  match given? "default-alert" entries with
  | none => .ok none
  | some v => some <$> alertOf cx v

/-- The configuration that the entries of a mapping describe. -/
def discordOfEntries (cx : Value.Context) (entries : List (Value × Value)) :
    Except LoadFault Discord.Config := do
  let overrides ← overridesOf cx entries
  let webhookUrl ← textOf cx "webhook-url" entries
  let title ← textOf cx "title" entries
  let defaultAlert ← defaultAlertOf cx entries
  let config : Discord.Config := { webhookUrl, overrides, title, defaultAlert }
  if config.isValid then return config else throw (.settings .invalidDiscord)

def discordOf (cx : Value.Context) (v : Value) : Except LoadFault Discord.Config :=
  match v.entries? cx.table with
  | none => .error (.settings .discordNotMapping)
  | some entries => discordOfEntries cx entries

end AlertRelay.Settings
