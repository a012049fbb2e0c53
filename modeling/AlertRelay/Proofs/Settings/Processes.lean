import Mathlib.Data.List.Forall2
import AlertRelay.Proofs.Settings.Sections
import AlertRelay.Proofs.Settings.Validity
import AlertRelay.Proofs.Value.Order

/-!
# The same settings in two processes

Two processes that load one document differ in the order in which they show some sets, and
so in texts that show one.  They fail with the same fault up to that order, or both load the
settings, as long as they tell the groups of the overrides apart alike.
-/

namespace AlertRelay.Settings

open AlertRelay.Text

variable {residues residues' : Value.Residues} {table : SharedTable}

/-! ## Texts -/

/-- Two texts are one, or what two processes write for one value in which a set stands whose
order is drawn. -/
inductive SameText (residues residues' : Value.Residues) : Spelled → Spelled → Prop where
  | same (s : Spelled) : SameText residues residues' s s
  | shown {table : SharedTable} {v : Value} {s t : String} (hv : v.HoldsIn Value.IsDrawn table)
      (hs : v.literal? ⟨table, residues⟩ = some s) (ht : v.literal? ⟨table, residues'⟩ = some t) :
      SameText residues residues' s t

/-- Two messages are one around such texts. -/
inductive SameMessage (residues residues' : Value.Residues) : Spelled → Spelled → Prop where
  | around {s t : Spelled} (before after : Spelled) (h : SameText residues residues' s t) :
      SameMessage residues residues' (before ++ s ++ after) (before ++ t ++ after)

theorem SameMessage.refl (s : Spelled) : SameMessage residues residues' s s := by
  have h : SameMessage residues residues' ("" ++ s ++ "") ("" ++ s ++ "") :=
    .around "" "" (.same s)
  simpa using h

theorem SameText.eq_or_opens {s t : Spelled} (h : SameText residues residues' s t) :
    s = t ∨ ∃ a b : String, s = a ∧ t = b ∧ Value.Opens a ∧ Value.Opens b := by
  cases h with
  | same => exact .inl rfl
  | @shown table v s t hv hs ht =>
      rcases Value.literal?_cases table residues residues' v with
        ⟨hnone, -⟩ | ⟨s', t', hs', ht', hcases⟩
      · simp [hs] at hnone
      · obtain rfl : s = s' := Option.some.inj (hs.symm.trans hs')
        obtain rfl : t = t' := Option.some.inj (ht.symm.trans ht')
        rcases hcases with rfl | ⟨-, hopens⟩
        · exact .inl rfl
        · exact .inr ⟨s, t, rfl, rfl, hopens⟩

theorem SameText.eq_empty_iff {s t : Spelled} (h : SameText residues residues' s t) :
    s = "" ↔ t = "" := by
  rcases h.eq_or_opens with rfl | ⟨a, b, rfl, rfl, ha, hb⟩
  · exact Iff.rfl
  · refine iff_of_false ?_ ?_
    · obtain ⟨c, rest, hrest, -⟩ := ha
      simp [Spelled.eq_empty_iff, hrest]
    · obtain ⟨c, rest, hrest, -⟩ := hb
      simp [Spelled.eq_empty_iff, hrest]

/-! ## Faults -/

/-- Two faults of loading are one, or their messages differ in the order of sets alone. -/
inductive SameFault (residues residues' : Value.Residues) : LoadFault → LoadFault → Prop where
  | same (f : LoadFault) : SameFault residues residues' f f
  | settings {f f' : Fault} (h : SameMessage residues residues' f.message f'.message) :
      SameFault residues residues' (.settings f) (.settings f')

theorem literalOf_related (v : Value) :
    Related (SameFault residues residues')
      (fun s t => SameText residues residues' (.whole s) (.whole t))
      (literalOf ⟨table, residues⟩ v) (literalOf ⟨table, residues'⟩ v) := by
  rcases Value.literal?_cases table residues residues' v with
    ⟨hs, ht⟩ | ⟨s, t, hs, ht, rfl | ⟨hdrawn, -⟩⟩
  · simp only [literalOf, hs, ht]
    exact .error (.same _)
  · simp only [literalOf, hs, ht]
    exact .ok (.same _)
  · simp only [literalOf, hs, ht]
    exact .ok (.shown hdrawn hs ht)

theorem displayOf_of_literal {cx : Value.Context} {v : Value}
    (h : v.display? cx = (v.literal? cx).map .whole) :
    displayOf cx v = Spelled.whole <$> literalOf cx v := by
  simp only [displayOf, literalOf, h]
  cases v.literal? cx <;> rfl

theorem displayOf_related (v : Value) :
    Related (SameFault residues residues') (SameText residues residues')
      (displayOf ⟨table, residues⟩ v) (displayOf ⟨table, residues'⟩ v) := by
  cases v with
  | text s => exact .ok (.same s)
  | date d => exact .ok (.same _)
  | timestamp t => exact .ok (.same _)
  | _ =>
      rw [displayOf_of_literal rfl, displayOf_of_literal rfl]
      exact (literalOf_related _).map fun _ _ h => h

/-- A value is refused in the same words before its literal. -/
theorem refuse_related (v : Value) {fault : String → Fault} {before : Spelled}
    (hmessage : ∀ s : String, (fault s).message = before ++ s) (R : α → β → Prop) :
    Related (SameFault residues residues') R (refuse ⟨table, residues⟩ v fault)
      (refuse ⟨table, residues'⟩ v fault) := by
  refine (literalOf_related v).bind fun s t _ _ h => .error (.settings ?_)
  rw [hmessage, hmessage]
  simpa using SameMessage.around before "" h

/-! ## Parts of the settings -/

theorem textOf_related (key : String) (entries : List (Value × Value)) :
    Related (SameFault residues residues') (SameText residues residues')
      (textOf ⟨table, residues⟩ key entries) (textOf ⟨table, residues'⟩ key entries) := by
  simp only [textOf]
  split
  · exact .ok (.same _)
  · exact displayOf_related _

theorem bool?_related (key : String) (entries : List (Value × Value)) :
    Related (SameFault residues residues') (fun _ _ => True)
      (bool? ⟨table, residues⟩ entries key) (bool? ⟨table, residues'⟩ entries key) := by
  simp only [bool?]
  split
  · exact .ok trivial
  · exact .ok trivial
  · exact refuse_related _ (fun _ => rfl) _

theorem int?_related (key : String) (entries : List (Value × Value)) :
    Related (SameFault residues residues') (fun _ _ => True)
      (int? ⟨table, residues⟩ entries key) (int? ⟨table, residues'⟩ entries key) := by
  simp only [int?]
  split
  · exact .ok trivial
  · exact .ok trivial
  · exact refuse_related _ (fun _ => rfl) _

theorem description?_related (entries : List (Value × Value)) :
    Related (SameFault residues residues') (fun _ _ => True)
      (description? ⟨table, residues⟩ entries) (description? ⟨table, residues'⟩ entries) := by
  simp only [description?]
  split
  · exact .ok trivial
  · exact (displayOf_related _).bind fun _ _ _ _ _ => .ok trivial

theorem alertOf_related (v : Value) :
    Related (SameFault residues residues') (fun _ _ => True)
      (alertOf ⟨table, residues⟩ v) (alertOf ⟨table, residues'⟩ v) := by
  simp only [alertOf]
  split
  · exact refuse_related _ (fun _ => rfl) _
  · exact (bool?_related _ _).bind fun _ _ _ _ _ => (int?_related _ _).bind fun _ _ _ _ _ =>
      (int?_related _ _).bind fun _ _ _ _ _ => (description?_related _).bind fun _ _ _ _ _ =>
        (bool?_related _ _).bind fun _ _ _ _ _ => .ok trivial

theorem defaultAlertOf_related (entries : List (Value × Value)) :
    Related (SameFault residues residues') (fun _ _ => True)
      (defaultAlertOf ⟨table, residues⟩ entries) (defaultAlertOf ⟨table, residues'⟩ entries) := by
  simp only [defaultAlertOf]
  split
  · exact .ok trivial
  · exact (alertOf_related _).map fun _ _ _ => trivial

/-- Two overrides have the same group and the same webhook, up to the order of sets. -/
structure SameOverride (residues residues' : Value.Residues) (o o' : Discord.Override) :
    Prop where
  group : SameText residues residues' o.group o'.group
  webhookUrl : SameText residues residues' o.webhookUrl o'.webhookUrl

theorem overrideOf_related (v : Value) :
    Related (SameFault residues residues') (SameOverride residues residues')
      (overrideOf ⟨table, residues⟩ v) (overrideOf ⟨table, residues'⟩ v) := by
  simp only [overrideOf]
  split
  · exact refuse_related _ (fun _ => rfl) _
  · exact (textOf_related _ _).bind fun _ _ _ _ hgroup =>
      (textOf_related _ _).bind fun _ _ _ _ hurl => .ok ⟨hgroup, hurl⟩

theorem mapM_related {E : ε → ε → Prop} {R : β → γ → Prop} {f : α → Except ε β}
    {g : α → Except ε γ} (h : ∀ a, Related E R (f a) (g a)) (xs : List α) :
    Related E (List.Forall₂ R) (xs.mapM f) (xs.mapM g) := by
  induction xs with
  | nil => exact .ok .nil
  | cons a xs ih =>
      rw [List.mapM_cons, List.mapM_cons]
      exact (h a).bind fun _ _ _ _ hhead => ih.bind fun _ _ _ _ htail => .ok (.cons hhead htail)

theorem overridesOf_related (entries : List (Value × Value)) :
    Related (SameFault residues residues') (List.Forall₂ (SameOverride residues residues'))
      (overridesOf ⟨table, residues⟩ entries) (overridesOf ⟨table, residues'⟩ entries) := by
  simp only [overridesOf]
  split
  · exact .ok .nil
  · split
    · exact .error (.same _)
    · exact mapM_related overrideOf_related _

/-! ## The Discord channel -/

/-- Configurations with the same texts are valid together, if their groups differ together. -/
theorem isValid_congr {c c' : Discord.Config}
    (hurl : SameText residues residues' c.webhookUrl c'.webhookUrl)
    (hoverrides : List.Forall₂ (SameOverride residues residues') c.overrides c'.overrides)
    (hgroups : (c.overrides.map (·.group)).Nodup ↔ (c'.overrides.map (·.group)).Nodup) :
    c.isValid = c'.isValid := by
  have hfull : (∀ o ∈ c.overrides, o.group ≠ "" ∧ o.webhookUrl ≠ "") ↔
      ∀ o ∈ c'.overrides, o.group ≠ "" ∧ o.webhookUrl ≠ "" := by
    clear hgroups
    generalize c.overrides = overrides at hoverrides
    generalize c'.overrides = overrides' at hoverrides
    induction hoverrides with
    | nil => exact Iff.rfl
    | cons hhead _ ih =>
        rw [List.forall_mem_cons, List.forall_mem_cons, ih, ne_eq, ne_eq, hhead.group.eq_empty_iff,
          hhead.webhookUrl.eq_empty_iff]
  rw [Bool.eq_iff_iff, Discord.Config.isValid_iff, Discord.Config.isValid_iff, hgroups, hfull,
    ne_eq, hurl.eq_empty_iff]

/-- The groups of two lists of overrides are told apart in both, or in neither. -/
def DifferAlike (x y : Except LoadFault (List Discord.Override)) : Prop :=
  ∀ overrides overrides', x = .ok overrides → y = .ok overrides' →
    ((overrides.map (·.group)).Nodup ↔ (overrides'.map (·.group)).Nodup)

theorem discordOfEntries_related
    (hgroups : DifferAlike (overridesOf ⟨table, residues⟩ entries)
      (overridesOf ⟨table, residues'⟩ entries)) :
    Related (SameFault residues residues')
      (fun c c' => c.overrides.length = c'.overrides.length)
      (discordOfEntries ⟨table, residues⟩ entries)
      (discordOfEntries ⟨table, residues'⟩ entries) := by
  refine (overridesOf_related entries).bind fun overrides overrides' hok hok' hoverrides => ?_
  refine (textOf_related _ _).bind fun url url' _ _ hurl => ?_
  refine (textOf_related _ _).bind fun title title' _ _ _ => ?_
  refine (defaultAlertOf_related _).bind fun alert alert' _ _ _ => ?_
  have hvalid : Discord.Config.isValid ⟨url, overrides, title, alert⟩ =
      Discord.Config.isValid ⟨url', overrides', title', alert'⟩ :=
    isValid_congr hurl hoverrides (hgroups overrides overrides' hok hok')
  simp only [hvalid]
  split
  · exact .ok hoverrides.length_eq
  · exact .error (.same _)

/-! ## The log level -/

theorem bracket_is_no_letter {c : Char} (hc : c ∈ ['[', '(', '\x7b']) :
    lowerPoint (.char c) = .char c ∧
      ∀ level ∈ logLevels, (Spelled.whole level.name).points.head? ≠ some (.char c) := by
  obtain rfl | rfl | rfl : c = '[' ∨ c = '(' ∨ c = '\x7b' := by simpa using hc
  all_goals exact ⟨by decide, by decide⟩

theorem logLevelNamed_of_opens {name : String} (h : Value.Opens name) :
    logLevelNamed name = .error (.settings (.badLogLevel name)) := by
  obtain ⟨c, rest, hrest, hc⟩ := h
  obtain ⟨hlower, hother⟩ := bracket_is_no_letter hc
  have hnone : (logLevels.find? fun level =>
      (level.name : Spelled) = ⟨(name : Spelled).points.map lowerPoint⟩) = none := by
    rw [List.find?_eq_none]
    intro level hlevel hsame
    refine hother level hlevel ?_
    rw [of_decide_eq_true hsame]
    simp [hrest, hlower]
  simp only [logLevelNamed, hnone]

theorem logLevelNamed_related {name name' : Spelled} (h : SameText residues residues' name name') :
    Related (SameFault residues residues') Eq (logLevelNamed name) (logLevelNamed name') := by
  rcases h.eq_or_opens with rfl | ⟨a, b, rfl, rfl, ha, hb⟩
  · exact .refl .same (fun _ => rfl) _
  · rw [logLevelNamed_of_opens ha, logLevelNamed_of_opens hb]
    exact .error (.settings (.around _ _ h))

theorem logLevelText_related (env : Environment) (top : List (Value × Value)) :
    Related (SameFault residues residues') (SameText residues residues')
      (logLevelText env ⟨table, residues⟩ top) (logLevelText env ⟨table, residues'⟩ top) := by
  refine (textOf_related _ _).bind fun text text' _ _ h => .ok ?_
  cases env logLevelVariable with
  | some name => exact .same name
  | none =>
      simp only [h.eq_empty_iff]
      split
      · exact .same _
      · exact h

/-! ## Documents -/

/-- The overrides in a file, as a process reads them. -/
def overridesIn (residues : Value.Residues) (path : Option Spelled) (env : Environment)
    (files : Files) : Except LoadFault (List Discord.Override) := do
  let (top, table) ← topEntries path env files
  let alerting ← alertingEntries table top
  let discord ← discordEntries table alerting
  overridesOf ⟨table, residues⟩ (discord.getD [])

theorem overridesIn_eq {path : Option Spelled} {env : Environment} {files : Files}
    {top alerting : List (Value × Value)} {discord : Option (List (Value × Value))}
    (htop : topEntries path env files = .ok (top, table))
    (halerting : alertingEntries table top = .ok alerting)
    (hdiscord : discordEntries table alerting = .ok discord) :
    overridesIn residues path env files =
      overridesOf ⟨table, residues⟩ (discord.getD []) := by
  simp only [overridesIn, htop, Bind.bind, Except.bind, halerting, hdiscord]

/-- Two processes tell the groups of the overrides in a file apart, or neither does. -/
def TellApartAlike (residues residues' : Value.Residues) (path : Option Spelled)
    (env : Environment) (files : Files) : Prop :=
  DifferAlike (overridesIn residues path env files) (overridesIn residues' path env files)

theorem discordSettings_related (env : Environment) {top : List (Value × Value)}
    (hgroups : ∀ alerting discord, alertingEntries table top = .ok alerting →
      discordEntries table alerting = .ok discord →
      DifferAlike (overridesOf ⟨table, residues⟩ (discord.getD []))
        (overridesOf ⟨table, residues'⟩ (discord.getD []))) :
    Related (SameFault residues residues')
      (fun c c' => c.map (·.overrides.length) = c'.map (·.overrides.length))
      (discordSettings env ⟨table, residues⟩ top) (discordSettings env ⟨table, residues'⟩ top) := by
  refine (Related.refl .same (fun _ => rfl) (alertingEntries table top)).bind ?_
  rintro alerting _ halerting - rfl
  refine (Related.refl .same (fun _ => rfl) (discordEntries table alerting)).bind ?_
  rintro discord _ hdiscord - rfl
  dsimp only
  split
  · refine (discordOfEntries_related ?_).map fun c c' h => ?_
    · rw [overridesOf_overlay, overridesOf_overlay]
      exact hgroups alerting discord halerting hdiscord
    · simp only [Option.map_some, h]
  · exact .ok rfl

/-- Two processes that tell the groups apart alike load a file with the same fault, or with
the same number of overrides. -/
theorem load_related {path : Option Spelled} {env : Environment} {files : Files}
    (hgroups : TellApartAlike residues residues' path env files) :
    Related (SameFault residues residues')
      (fun s s' => s.discord.map (·.overrides.length) = s'.discord.map (·.overrides.length))
      (load residues path env files) (load residues' path env files) := by
  refine (Related.refl .same (fun _ => rfl) (topEntries path env files)).bind ?_
  rintro ⟨top, table⟩ _ htop - rfl
  have hsettings : Related (SameFault residues residues')
      (fun c c' : Option Discord.Config =>
        c.map (·.overrides.length) = c'.map (·.overrides.length))
      (discordSettings env ⟨table, residues⟩ top)
      (discordSettings env ⟨table, residues'⟩ top) := by
    refine discordSettings_related env fun alerting discord halerting hdiscord => ?_
    rw [← overridesIn_eq htop halerting hdiscord, ← overridesIn_eq htop halerting hdiscord]
    exact hgroups
  refine hsettings.bind fun _ _ _ _ hlength => ?_
  refine (logLevelText_related env top).bind fun _ _ _ _ hname => ?_
  exact (logLevelNamed_related hname).bind fun _ _ _ _ _ => .ok hlength

end AlertRelay.Settings
