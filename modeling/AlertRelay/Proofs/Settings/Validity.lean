import Mathlib.Data.List.Basic
import AlertRelay.Discord.Session
import AlertRelay.Proofs.Settings.Alert

/-!
# Settings that are loaded are valid

Whatever is wrong with settings is found when they are loaded.  A provider can be made from
settings that were loaded, if the document or a variable declares one, and it is sound.
-/

namespace AlertRelay

open AlertRelay.Text

/-! ## Configurations -/

namespace Discord.Config

theorem overridesValid_iff {overrides : List Override} {seen : List Spelled} :
    overridesValid seen overrides = true ↔
      (overrides.map (·.group)).Nodup ∧
        ∀ o ∈ overrides, o.group ≠ "" ∧ o.webhookUrl ≠ "" ∧ o.group ∉ seen := by
  induction overrides generalizing seen with
  | nil => simp [overridesValid]
  | cons o overrides ih =>
      simp only [overridesValid]
      split
      · rename_i hbad
        simp only [Bool.false_eq_true, List.mem_cons, forall_eq_or_imp, false_iff]
        rintro ⟨-, ⟨hgroup, hurl, hseen⟩, -⟩
        rcases hbad with h | h | h
        · exact hgroup h
        · exact hseen h
        · exact hurl h
      · rename_i hgood
        obtain ⟨hgroup, hseen, hurl⟩ : o.group ≠ "" ∧ o.group ∉ seen ∧ o.webhookUrl ≠ "" := by
          simpa [not_or] using hgood
        rw [ih, List.map_cons, List.nodup_cons]
        constructor
        · rintro ⟨hnodup, hrest⟩
          refine ⟨⟨?_, hnodup⟩, ?_⟩
          · intro hmem
            obtain ⟨p, hp, hgroups⟩ := List.mem_map.mp hmem
            exact (hrest p hp).2.2 (by simp [hgroups])
          · intro p hp
            rcases List.mem_cons.mp hp with rfl | hp
            · exact ⟨hgroup, hurl, hseen⟩
            · obtain ⟨hpgroup, hpurl, hpseen⟩ := hrest p hp
              exact ⟨hpgroup, hpurl, fun h => hpseen (by simp [h])⟩
        · rintro ⟨⟨hfresh, hnodup⟩, hrest⟩
          refine ⟨hnodup, fun p hp => ?_⟩
          obtain ⟨hpgroup, hpurl, hpseen⟩ := hrest p (by simp [hp])
          refine ⟨hpgroup, hpurl, ?_⟩
          intro hmem
          rcases List.mem_cons.mp hmem with hsame | hmem
          · exact hfresh (List.mem_map.mpr ⟨p, hp, hsame⟩)
          · exact hpseen hmem

/-- A configuration is valid if it has a default webhook, and overrides of different groups
with a webhook each. -/
theorem isValid_iff (c : Config) :
    c.isValid = true ↔
      c.webhookUrl ≠ "" ∧ (c.overrides.map (·.group)).Nodup ∧
        ∀ o ∈ c.overrides, o.group ≠ "" ∧ o.webhookUrl ≠ "" := by
  simp only [isValid, Bool.and_eq_true, overridesValid_iff, bne_iff_ne, List.not_mem_nil,
    not_false_eq_true, and_true]
  exact and_comm

theorem nodup_groups_iff {overrides : List Override} :
    (overrides.map (·.group)).Nodup ↔
      ∀ i j : Fin overrides.length, i ≠ j → overrides[i].group ≠ overrides[j].group := by
  rw [List.Nodup, List.pairwise_map, List.pairwise_iff_getElem]
  constructor
  · intro h i j hij
    rcases Nat.lt_or_gt_of_ne (Fin.val_ne_of_ne hij) with hlt | hlt
    · exact h i j i.isLt j.isLt hlt
    · exact (h j i j.isLt i.isLt hlt).symm
  · intro h i j hi hj hij
    exact h ⟨i, hi⟩ ⟨j, hj⟩ (Fin.ne_of_val_ne (Nat.ne_of_lt hij))

/-- A configuration is valid exactly if it has a default webhook, every override has a group and
a webhook, and no two positions among the overrides have the same group. -/
theorem isValid_iff_positions (c : Config) :
    c.isValid = true ↔
      c.webhookUrl ≠ "" ∧ (∀ o ∈ c.overrides, o.group ≠ "" ∧ o.webhookUrl ≠ "") ∧
        ∀ i j : Fin c.overrides.length, i ≠ j →
          c.overrides[i].group ≠ c.overrides[j].group := by
  rw [isValid_iff, nodup_groups_iff]
  exact and_congr_right fun _ => and_comm

end Discord.Config

namespace Settings

variable {table : SharedTable} {cx : Value.Context} {top : List (Value × Value)}
  {env : Environment}

/-! ## The log level -/

theorem logLevelNamed_mem {name : Spelled} {level : Log.Level}
    (h : logLevelNamed name = .ok level) : level ∈ logLevels := by
  simp only [logLevelNamed] at h
  split at h
  · rename_i found hfound
    obtain rfl := Except.ok.inj h
    exact List.mem_of_find?_eq_some hfound
  · cases h

/-! ## Default alerts -/

theorem alertOf_untriggered {v : Value} {a : Alert} (h : alertOf cx v = .ok a) :
    a.channel = .discord ∧ a.triggered = false := by
  obtain ⟨entries, -, hdescribes⟩ := alertOf_eq_ok_iff.mp h
  exact ⟨hdescribes.channel, hdescribes.triggered⟩

theorem discordOfEntries_untriggered {entries : List (Value × Value)} {c : Discord.Config}
    {a : Alert} (h : discordOfEntries cx entries = .ok c) (ha : c.defaultAlert = some a) :
    a.channel = .discord ∧ a.triggered = false := by
  simp only [discordOfEntries, bind_eq_ok] at h
  obtain ⟨overrides, -, webhookUrl, -, title, -, defaultAlert, halert, hc⟩ := h
  split at hc
  · obtain rfl := Except.ok.inj hc
    simp only at ha
    subst ha
    simp only [defaultAlertOf] at halert
    split at halert
    · cases halert
    · obtain ⟨found, hfound, hsome⟩ := map_eq_ok.mp halert
      obtain rfl := Option.some.inj hsome
      exact alertOf_untriggered hfound
  · cases hc

/-! ## Whether there is a channel -/

/-- Whether a document has a section for the channel that is not null. -/
def DeclaresDiscord (table : SharedTable) (top : List (Value × Value)) : Prop :=
  ∃ alerting entries v, Value.lookup "alerting" top = some alerting ∧
    alerting.entries? table = some entries ∧ Value.lookup "discord" entries = some v ∧ v ≠ .null

theorem discordEntries_isSome_iff {entries : List (Value × Value)}
    {found : Option (List (Value × Value))} (h : discordEntries table entries = .ok found) :
    found.isSome = true ↔ (given? "discord" entries).isSome = true := by
  simp only [discordEntries] at h
  split at h
  · rename_i hnone
    obtain rfl := Except.ok.inj h
    simp [hnone]
  · rename_i v hv
    split at h
    · cases h
    · obtain rfl := Except.ok.inj h
      simp [hv]

theorem declaresDiscord_iff {alerting : List (Value × Value)}
    (h : alertingEntries table top = .ok alerting) :
    DeclaresDiscord table top ↔ (given? "discord" alerting).isSome = true := by
  have hempty : (given? "discord" []).isSome = false := rfl
  simp only [alertingEntries] at h
  cases hv : Value.lookup "alerting" top with
  | none =>
      obtain rfl : [] = alerting := by simpa [hv] using h
      simp [DeclaresDiscord, hv, hempty]
  | some v =>
      have hdeclares : DeclaresDiscord table top ↔ ∃ entries,
          v.entries? table = some entries ∧ (given? "discord" entries).isSome = true := by
        simp [DeclaresDiscord, hv, Option.isSome_iff_exists, given?_eq_some_iff]
      rw [hdeclares]
      cases hblank : v.isBlank with
      | true =>
          obtain rfl : [] = alerting := by simpa [hv, Option.filter, hblank] using h
          constructor
          · rintro ⟨entries, hentries, hgiven⟩
            rwa [entries?_of_isBlank hblank hentries] at hgiven
          · simp [hempty]
      | false =>
          cases hentries : v.entries? table with
          | none => simp [hv, Option.filter, hblank, hentries] at h
          | some entries =>
              obtain rfl : entries = alerting := by
                simpa [hv, Option.filter, hblank, hentries] using h
              simp

/-- Without a channel neither the document nor a variable declares one. -/
theorem discordSettings_eq_none_iff {channel : Option Discord.Config}
    (h : discordSettings env cx top = .ok channel) :
    channel = none ↔ ¬DeclaresDiscord cx.table top ∧ assigned? env webhookVariable = none ∧
      assigned? env titleVariable = none := by
  simp only [discordSettings, bind_eq_ok] at h
  obtain ⟨alerting, halerting, found, hfound, h⟩ := h
  rw [declaresDiscord_iff halerting, ← discordEntries_isSome_iff hfound]
  split at h
  · rename_i hdeclared
    obtain ⟨c, -, rfl⟩ := map_eq_ok.mp h
    simp only [isEmpty_overlay] at hdeclared
    cases found <;> cases hw : assigned? env webhookVariable <;>
      cases ht : assigned? env titleVariable <;> simp_all
  · rename_i hdeclared
    obtain rfl := Except.ok.inj h
    simp only [isEmpty_overlay] at hdeclared
    cases found <;> cases hw : assigned? env webhookVariable <;>
      cases ht : assigned? env titleVariable <;> simp_all

theorem discordSettings_untriggered {c : Discord.Config} {a : Alert}
    (h : discordSettings env cx top = .ok (some c)) (ha : c.defaultAlert = some a) :
    a.channel = .discord ∧ a.triggered = false := by
  simp only [discordSettings, bind_eq_ok] at h
  obtain ⟨alerting, -, found, -, h⟩ := h
  split at h
  · obtain ⟨c', hc, hsome⟩ := map_eq_ok.mp h
    obtain rfl := Option.some.inj hsome
    exact discordOfEntries_untriggered hc ha
  · cases h

/-! ## Providers -/

/-- What holds of a provider that is made from settings. -/
structure IsSound (p : Discord.Provider) (c : Discord.Config) : Prop where
  config : p.config = c
  reported : ∀ env, (p.act env .isValid).1 = ⟨.truth true, []⟩
  webhookUrl : c.webhookUrl ≠ ""
  groups : (c.overrides.map (·.group)).Nodup
  overrides : ∀ o ∈ c.overrides, o.group ≠ "" ∧ o.webhookUrl ≠ ""
  defaultAlert : ∀ a, c.defaultAlert = some a → a.channel = .discord ∧ a.triggered = false

theorem isSound_ofConfig {c : Discord.Config} (hvalid : c.isValid = true)
    (halert : ∀ a, c.defaultAlert = some a → a.channel = .discord ∧ a.triggered = false)
    (client : Discord.ClientMode) : IsSound (.ofConfig c client) c := by
  obtain ⟨hurl, hgroups, hoverrides⟩ := c.isValid_iff.mp hvalid
  refine ⟨rfl, fun env => ?_, hurl, hgroups, hoverrides, halert⟩
  simp [Discord.Provider.act, Discord.Provider.ofConfig, hvalid]

/-- Settings that are loaded need no second check: a provider is made from them just if the
document or a variable declares one, and it is sound. -/
theorem load_isFinal {residues : Value.Residues} {path : Option Spelled} {env : Environment}
    {files : Files} {settings : Settings} (h : load residues path env files = .ok settings)
    (client : Discord.ClientMode) :
    settings.logLevel.name ∈ ["debug", "info", "warning", "error"] ∧
    ∃ top table provider events,
      topEntries path env files = .ok (top, table) ∧
      Discord.buildProvider settings.discord client = .ok (provider, events) ∧
      (provider = none ↔ settings.discord = none) ∧
      (settings.discord = none ↔ ¬DeclaresDiscord table top ∧
        assigned? env webhookVariable = none ∧ assigned? env titleVariable = none) ∧
      ∀ p, provider = some p → ∃ c, settings.discord = some c ∧ IsSound p c := by
  have hload := h
  simp only [load, bind_eq_ok, ofEntries] at hload
  obtain ⟨⟨top, table⟩, hsource, channel, hchannel, name, -, level, hlevel, hsettings⟩ := hload
  obtain rfl := Except.ok.inj hsettings
  have hname : level.name ∈ ["debug", "info", "warning", "error"] :=
    List.mem_map_of_mem (logLevelNamed_mem hlevel)
  have hdeclared := discordSettings_eq_none_iff hchannel
  refine ⟨hname, top, table, ?_⟩
  cases channel with
  | none => exact ⟨none, _, hsource, rfl, by simp, hdeclared, by simp⟩
  | some c =>
      have hvalid := load_isValid h rfl
      have hsound := isSound_ofConfig hvalid
        (fun a ha => discordSettings_untriggered hchannel ha) client
      obtain ⟨events, hbuilt⟩ : ∃ events, Discord.buildProvider (some c) client =
          .ok (some (.ofConfig c client), events) := by
        simp only [Discord.buildProvider, hvalid, if_true]
        exact ⟨_, rfl⟩
      refine ⟨some (.ofConfig c client), events, hsource, hbuilt, by simp, hdeclared, ?_⟩
      rintro p hp
      obtain rfl := Option.some.inj hp
      exact ⟨c, rfl, hsound⟩

def overridingFiles : Files := fun _ => .ok (.file
  (("alerting: \x7bdiscord: \x7bwebhook-url: $HOOK, overrides: [\x7bgroup: core, " ++
    "webhook-url: u\x7d], default-alert: \x7benabled: no\x7d\x7d\x7d").toList.flatMap
      String.utf8EncodeChar))

def overridingSettings : Settings where
  discord := some {
    webhookUrl := "$HOOK"
    overrides := [⟨"core", "u"⟩]
    defaultAlert := some { enabled := some false } }

theorem load_isFinal_overriding :
    let residues : Value.Residues := fun _ => 0
    load residues (some "c.yaml") Environment.empty overridingFiles = .ok overridingSettings ∧
      ∃ p c events, Discord.buildProvider overridingSettings.discord .owned =
          .ok (some p, events) ∧
        overridingSettings.discord = some c ∧ IsSound p c := by
  intro residues
  have hload : load residues (some "c.yaml") Environment.empty overridingFiles =
      .ok overridingSettings := by
    decide +kernel
  refine ⟨hload, ?_⟩
  obtain ⟨-, top, table, provider, events, -, hbuilt, hnone, -, hsound⟩ :=
    load_isFinal hload .owned
  cases provider with
  | none => cases hnone.mp rfl
  | some p =>
      obtain ⟨c, hc, hp⟩ := hsound p rfl
      exact ⟨p, c, events, hbuilt, hc, hp⟩

end Settings

end AlertRelay
