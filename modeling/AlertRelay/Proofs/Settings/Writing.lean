import AlertRelay.Proofs.Settings.Acceptance

/-!
# Configurations written as settings

A configuration is written as a mapping: the webhook, the title and the overrides always, the
default alert and each of its fields only if they are set.  Reading the mapping gives the
configuration back, so every configuration that can be used can be written down.
-/

namespace AlertRelay

open AlertRelay.Text

/-! ## Writing -/

/-- Entries behind that of a field, which is there if the field is set. -/
def withEntry (key : String) (write : α → Value) (x : Option α)
    (rest : List (Value × Value)) : List (Value × Value) :=
  match x with
  | none => rest
  | some a => (.text (.whole key), write a) :: rest

def Alert.entries (a : Alert) : List (Value × Value) :=
  withEntry "enabled" .bool a.enabled <|
    withEntry "failure-threshold" .int a.failureThreshold <|
    withEntry "success-threshold" .int a.successThreshold <|
    withEntry "description" .text a.description <|
    withEntry "send-on-resolved" .bool a.sendOnResolved []

def Alert.written (a : Alert) : Value := .mapping a.entries

def Discord.Override.written (o : Override) : Value :=
  .mapping [(.text "group", .text o.group), (.text "webhook-url", .text o.webhookUrl)]

def Discord.Config.entries (c : Config) : List (Value × Value) :=
  (.text "webhook-url", .text c.webhookUrl) ::
    (.text "title", .text c.title) ::
    (.text "overrides", .list (c.overrides.map Override.written)) ::
    withEntry "default-alert" Alert.written c.defaultAlert []

def Discord.Config.written (c : Config) : Value := .mapping c.entries

namespace Settings

variable {cx : Value.Context} {entries : List (Value × Value)}

/-! ## Entries -/

@[simp] theorem lookup_nil (name : String) : Value.lookup name [] = none := rfl

@[simp] theorem lookup_cons_text (key name : String) (v : Value) :
    Value.lookup name ((.text (.whole key), v) :: entries) =
      if name = key then some v else Value.lookup name entries := by
  by_cases h : name = key
  · simp [Value.lookup, Value.sameKey, h]
  · simp [Value.lookup, Value.sameKey, h, Ne.symm h]

@[simp] theorem lookup_withEntry (key name : String) (write : α → Value) (x : Option α) :
    Value.lookup name (withEntry key write x entries) =
      if name = key then x.map write <|> Value.lookup name entries
      else Value.lookup name entries := by
  cases x with
  | none => simp [withEntry]
  | some a => simp [withEntry]

/-! ## Alerts -/

theorem isSetting_map (write : α → Value) (x : Option α) : IsSetting write (x.map write) x := by
  cases x with
  | none => exact .missing
  | some y => exact .given y

theorem isDescription_map (cx : Value.Context) (s : Option Spelled) :
    IsDescription cx (s.map .text) s := by
  cases s with
  | none => exact .missing
  | some s => exact .shown (by simp) rfl

theorem describesAlert_entries {a : Alert} (hchannel : a.channel = .discord)
    (htriggered : a.triggered = false) : DescribesAlert cx a.entries a where
  enabled := by simpa [Alert.entries] using isSetting_map .bool a.enabled
  failureThreshold := by simpa [Alert.entries] using isSetting_map .int a.failureThreshold
  successThreshold := by simpa [Alert.entries] using isSetting_map .int a.successThreshold
  description := by simpa [Alert.entries] using isDescription_map cx a.description
  sendOnResolved := by simpa [Alert.entries] using isSetting_map .bool a.sendOnResolved
  channel := hchannel
  triggered := htriggered

theorem alertOf_written {a : Alert} (hchannel : a.channel = .discord)
    (htriggered : a.triggered = false) : alertOf cx a.written = .ok a :=
  alertOf_eq_ok_iff.mpr ⟨_, rfl, describesAlert_entries hchannel htriggered⟩

/-! ## Configurations -/

theorem isTextOf_text (cx : Value.Context) (s : Spelled) :
    IsTextOf cx (some (.text s)) s := by
  by_cases h : s = ""
  · subst h
    exact .blank rfl
  · exact .shown (by simpa [Value.isBlank] using h) rfl

theorem describesOverride_written (cx : Value.Context) (o : Discord.Override) :
    DescribesOverride cx o.written o := by
  refine ⟨_, rfl, ?_, ?_⟩
  · simpa using isTextOf_text cx o.group
  · simpa using isTextOf_text cx o.webhookUrl

theorem describesOverrides_written (cx : Value.Context) (overrides : List Discord.Override) :
    DescribesOverrides cx (some (.list (overrides.map Discord.Override.written)))
      overrides := by
  apply DescribesOverrides.list rfl
  induction overrides with
  | nil => exact .nil
  | cons o overrides ih => exact .cons (describesOverride_written cx o) ih

theorem describesDefault_written {alert : Option Alert}
    (halert : ∀ a, alert = some a → a.channel = .discord ∧ a.triggered = false) :
    DescribesDefault cx (alert.map Alert.written) alert := by
  cases alert with
  | none => exact .missing
  | some a =>
      obtain ⟨hchannel, htriggered⟩ := halert a rfl
      exact .alert (by simp [Alert.written]) (alertOf_written hchannel htriggered)

theorem describes_entries {c : Discord.Config}
    (halert : ∀ a, c.defaultAlert = some a → a.channel = .discord ∧ a.triggered = false) :
    Describes cx c.entries c where
  overrides := by
    simpa [Discord.Config.entries] using describesOverrides_written cx c.overrides
  webhookUrl := by
    simpa [Discord.Config.entries] using isTextOf_text cx c.webhookUrl
  title := by simpa [Discord.Config.entries] using isTextOf_text cx c.title
  defaultAlert := by
    simpa [Discord.Config.entries] using describesDefault_written halert

/-- A configuration that can be used is read back from what is written for it, if its default
alert is one that has not gone off. -/
theorem discordOf_written {c : Discord.Config} (hvalid : c.isValid = true)
    (halert : ∀ a, c.defaultAlert = some a → a.channel = .discord ∧ a.triggered = false)
    (cx : Value.Context) : discordOf cx c.written = .ok c := by
  have hentries : c.written.entries? cx.table = some c.entries := rfl
  unfold discordOf
  rw [hentries]
  exact discordOfEntries_eq_ok_iff.mpr ⟨describes_entries halert, hvalid⟩

/-- Fields that are set, but to values that count as nothing elsewhere. -/
def emptyFields : Discord.Config where
  webhookUrl := "$"
  overrides := [⟨"0", "u"⟩, ⟨"null", "u"⟩]
  defaultAlert := some {
    enabled := some false
    failureThreshold := some 0
    successThreshold := some (-Nat.pow 10 4300)
    description := some "" }

theorem discordOf_written_emptyFields :
    emptyFields.isValid = true ∧ discordOf {} emptyFields.written = .ok emptyFields := by
  have hvalid : emptyFields.isValid = true := by decide
  refine ⟨hvalid, discordOf_written hvalid ?_ {}⟩
  rintro a ⟨⟩
  exact ⟨rfl, rfl⟩

end Settings

end AlertRelay
