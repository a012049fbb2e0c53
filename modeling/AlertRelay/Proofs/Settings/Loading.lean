import AlertRelay.Proofs.Failure
import AlertRelay.Settings.Load

/-!
# What loading promises
-/

namespace AlertRelay.Settings

open AlertRelay.Text

/-! ## Settings that are loaded -/

theorem discordOfEntries_isValid {cx : Value.Context} {entries : List (Value × Value)}
    {c : Discord.Config} (h : discordOfEntries cx entries = .ok c) : c.isValid = true := by
  simp only [discordOfEntries, bind_eq_ok] at h
  obtain ⟨overrides, -, webhookUrl, -, title, -, defaultAlert, -, hc⟩ := h
  split at hc
  · obtain rfl := Except.ok.inj hc
    assumption
  · simp [throw, throwThe, MonadExceptOf.throw] at hc

theorem discordSettings_isValid {env : Environment} {cx : Value.Context}
    {top : List (Value × Value)} {c : Discord.Config}
    (h : discordSettings env cx top = .ok (some c)) : c.isValid = true := by
  simp only [discordSettings, bind_eq_ok] at h
  obtain ⟨alerting, -, discordSection, -, hc⟩ := h
  split at hc
  · obtain ⟨c', hentries, hsome⟩ := map_eq_ok.mp hc
    obtain rfl := Option.some.inj hsome
    exact discordOfEntries_isValid hentries
  · simp [pure, Except.pure] at hc

/-- The variables that settings are read from. -/
def variableNames : List String :=
  [configVariable, webhookVariable, titleVariable, logLevelVariable]

theorem topEntries_congr {env env' : Environment} (h : env configVariable = env' configVariable)
    (path : Option Spelled) (files : Files) :
    topEntries path env files = topEntries path env' files := by
  simp only [topEntries, configPath, assigned?, h]

theorem ofEntries_congr {env env' : Environment}
    (hwebhook : env webhookVariable = env' webhookVariable)
    (htitle : env titleVariable = env' titleVariable)
    (hlevel : env logLevelVariable = env' logLevelVariable) (cx : Value.Context)
    (top : List (Value × Value)) : ofEntries env cx top = ofEntries env' cx top := by
  have hdiscord : discordSettings env cx top = discordSettings env' cx top := by
    have hurl : assigned? env webhookVariable = assigned? env' webhookVariable := by
      rw [assigned?, assigned?, hwebhook]
    have htext : assigned? env titleVariable = assigned? env' titleVariable := by
      rw [assigned?, assigned?, htitle]
    rw [discordSettings, discordSettings, hurl, htext]
  have hname : logLevelText env cx top = logLevelText env' cx top := by
    simp only [logLevelText]
    rw [hlevel]
  simp only [ofEntries, hdiscord, hname]

variable {residues : Value.Residues}

/-- Loading reads no other variables. -/
theorem load_congr {env env' : Environment} (h : ∀ name ∈ variableNames, env name = env' name)
    (path : Option Spelled) (files : Files) :
    load residues path env files = load residues path env' files := by
  have hconfig := h configVariable (by simp [variableNames])
  have hwebhook := h webhookVariable (by simp [variableNames])
  have htitle := h titleVariable (by simp [variableNames])
  have hlevel := h logLevelVariable (by simp [variableNames])
  simp only [load, topEntries_congr hconfig, ofEntries_congr hwebhook htitle hlevel]

/-- A configuration that is loaded follows its own rules. -/
theorem load_isValid {path : Option Spelled} {env : Environment} {files : Files}
    {settings : Settings} {c : Discord.Config} (h : load residues path env files = .ok settings)
    (hc : settings.discord = some c) : c.isValid = true := by
  simp only [load, bind_eq_ok, ofEntries] at h
  obtain ⟨source, -, discord, hdiscord, logLevelText, -, logLevel, -, hsettings⟩ := h
  obtain rfl := Except.ok.inj hsettings
  obtain rfl : discord = some c := hc
  exact discordSettings_isValid hdiscord

end AlertRelay.Settings
