import Mathlib.Data.List.Find
import Mathlib.Data.List.Nodup
import AlertRelay.Proofs.Discord.Change
import AlertRelay.Proofs.Settings.Validity

/-!
# The order of overrides

A route goes to the first override of its group.  In a valid configuration no two overrides
have the same group, so the first is the only one, and the order of the overrides shows only
where the configuration itself is asked for.
-/

namespace AlertRelay.Discord

open AlertRelay.Text

/-! ## Configurations -/

namespace Config

variable {c : Config} {o : Override} {overrides : List Override}

theorem find?_group (hvalid : c.isValid = true) (ho : o ∈ c.overrides) :
    c.overrides.find? (fun q => q.group = o.group) = some o := by
  obtain ⟨-, hgroups, -⟩ := c.isValid_iff.mp hvalid
  have hsome : (c.overrides.find? fun q => q.group = o.group).isSome := by
    rw [List.find?_isSome]
    exact ⟨o, ho, by simp⟩
  -- the scan stops at an override of the group, and there is no other
  obtain ⟨q, hq⟩ := Option.isSome_iff_exists.mp hsome
  have hsame : q.group = o.group := by simpa using List.find?_some hq
  rw [hq, List.inj_on_of_nodup_map hgroups (List.mem_of_find?_eq_some hq) ho hsame]

theorem overrideFor?_of_mem (hvalid : c.isValid = true) (ho : o ∈ c.overrides) :
    c.overrideFor? o.group = some o.webhookUrl := by
  simp only [overrideFor?, find?_group hvalid ho, Option.map_some]

theorem overrideFor?_empty (hvalid : c.isValid = true) : c.overrideFor? "" = none := by
  obtain ⟨-, -, hoverrides⟩ := c.isValid_iff.mp hvalid
  exact overrideFor?_eq_none fun o ho => (hoverrides o ho).1

theorem isValid_reordered (hperm : overrides.Perm c.overrides) :
    isValid { c with overrides := overrides } = c.isValid := by
  rw [Bool.eq_iff_iff, isValid_iff, isValid_iff]
  simp only [(hperm.map _).nodup_iff, hperm.mem_iff]

theorem overrideFor?_reordered (hvalid : c.isValid = true) (hperm : overrides.Perm c.overrides)
    (group : Spelled) :
    overrideFor? { c with overrides := overrides } group = c.overrideFor? group := by
  obtain ⟨-, hgroups, -⟩ := c.isValid_iff.mp hvalid
  have hone : {o ∈ c.overrides | decide (o.group = group) = true}.Subsingleton := by
    rintro o ⟨ho, hogroup⟩ q ⟨hq, hqgroup⟩
    have hsame : o.group = q.group := by simp_all
    exact List.inj_on_of_nodup_map hgroups ho hq hsame
  simp only [overrideFor?, List.find?_eq_find?_of_perm hperm.symm hone]

end Config

/-! ## Runs -/

/-- The change that puts one configuration in the place of another. -/
def exchanging (c c' : Config) : Change where
  config d := if d = c then c' else d

/-- An outcome in which a configuration does not tell its overrides. -/
def Outcome.withoutOverrides (o : Outcome) : Outcome :=
  match o.reply with
  | .config d => { o with reply := .config { d with overrides := [] } }
  | _ => o

theorem Provider.withoutOverrides_actAt (p : Provider) {overrides : List Override}
    (hvalid : Config.isValid { p.config with overrides := overrides } = p.config.isValid)
    (url : Except SendFault Spelled) (lookup : List Log.Event) (a : Action) :
    let reordered := { p with config := { p.config with overrides := overrides } }
    (reordered.actAt url lookup a).withoutOverrides = (p.actAt url lookup a).withoutOverrides := by
  intro reordered
  cases a with
  | route group => rfl
  | send n answer mergeDefaults => rfl
  | build n => rfl
  | isValid => simp only [actAt, reordered, hvalid]
  | config => rfl
  | defaultAlert => rfl

theorem exchanging_isUnseen {c : Config} (hvalid : c.isValid = true) {overrides : List Override}
    (hperm : overrides.Perm c.overrides) :
    (exchanging c { c with overrides := overrides }).IsUnseen Outcome.withoutOverrides where
  webhookUrl d := by
    by_cases hd : d = c <;> simp [exchanging, hd]
  overrideFor? d group := by
    by_cases hd : d = c <;> simp [exchanging, hd, Config.overrideFor?_reordered hvalid hperm]
  isValid d := by
    by_cases hd : d = c <;> simp [exchanging, hd, Config.isValid_reordered hperm]
  length d := by
    by_cases hd : d = c <;> simp [exchanging, hd, hperm.length_eq]
  defaultAlert d := by
    by_cases hd : d = c <;> simp [exchanging, hd]
  group? a := rfl
  actAt p url lookup a := by
    by_cases hp : p.config = c
    · subst hp
      have hprovider : (exchanging p.config { p.config with overrides := overrides }).provider p =
          { p with config := { p.config with overrides := overrides } } := by
        simp [Change.provider, exchanging]
      rw [hprovider]
      exact p.withoutOverrides_actAt (Config.isValid_reordered hperm) url lookup a
    · have hprovider : (exchanging c { c with overrides := overrides }).provider p = p := by
        simp [Change.provider, exchanging, hp]
      rw [hprovider]
      rfl

namespace Session

/-- The overrides of a valid configuration can stand in any order: the configuration stays
valid, the webhooks are the same, and a run has the same outcomes.  Every override is that of
its group, and without a group the default webhook counts. -/
theorem run_reordered {c : Config} (hvalid : c.isValid = true) {overrides : List Override}
    (hperm : overrides.Perm c.overrides) :
    let c' := { c with overrides := overrides }
    c'.isValid = true ∧
    (∀ env group client, ((Provider.ofConfig c' client).route env group).1 =
      ((Provider.ofConfig c client).route env group).1) ∧
    (∀ env steps,
      ((start env).run (steps.map (exchanging c c').step)).map Outcome.withoutOverrides =
        ((start env).run steps).map Outcome.withoutOverrides) ∧
    (∀ o ∈ c.overrides, c.overrides.find? (fun q => q.group = o.group) = some o) ∧
    (∀ p : Provider, p.config = c → ∀ env,
      (∀ o ∈ c.overrides, p.route env o.group = (.ok o.webhookUrl, p, [])) ∧
      p.route env "" = p.resolveDefault env) := by
  intro c'
  have hunseen := exchanging_isUnseen hvalid hperm
  refine ⟨(Config.isValid_reordered hperm).trans hvalid, ?_, ?_, ?_, ?_⟩
  · intro env group client
    have hroute := Config.overrideFor?_reordered hvalid hperm group
    simp only [Provider.route_ofConfig, Config.webhookFor, c', hroute]
    rfl
  · exact fun env steps => hunseen.run (start env) steps
  · exact fun o ho => Config.find?_group hvalid ho
  · rintro p rfl env
    constructor
    · intro o ho
      simp only [Provider.route, Config.overrideFor?_of_mem hvalid ho]
    · simp only [Provider.route, Config.overrideFor?_empty hvalid]

/-- A configuration with two groups of its own. -/
def groupedConfig : Config where
  webhookUrl := "$HOOK"
  overrides := [⟨"core", "http://c/"⟩, ⟨"edge", "http://e/"⟩]

def groupedRun : List Step :=
  [.build "a" groupedConfig .shared, .act "a" (.route "edge"), .act "a" (.route "other")]

theorem groupedRun_reordered :
    let reversed := { groupedConfig with overrides := groupedConfig.overrides.reverse }
    groupedConfig.isValid = true ∧ groupedConfig.overrides.reverse.Perm groupedConfig.overrides ∧
      groupedRun.map (exchanging groupedConfig reversed).step =
        [.build "a" reversed .shared, .act "a" (.route "edge"), .act "a" (.route "other")] ∧
      (((start Environment.empty).run (groupedRun.map (exchanging groupedConfig reversed).step)).map
        Outcome.withoutOverrides =
          ((start Environment.empty).run groupedRun).map Outcome.withoutOverrides) ∧
      (Provider.ofConfig groupedConfig .shared).route Environment.empty "edge" =
        (.ok "http://e/", .ofConfig groupedConfig .shared, []) := by
  intro reversed
  have hvalid : groupedConfig.isValid = true := by decide
  have hperm := groupedConfig.overrides.reverse_perm
  obtain ⟨-, -, hrun, -, hroutes⟩ := run_reordered hvalid hperm
  obtain ⟨hown, -⟩ := hroutes (.ofConfig groupedConfig .shared) rfl Environment.empty
  exact ⟨hvalid, hperm, by decide, hrun Environment.empty groupedRun,
    hown ⟨"edge", "http://e/"⟩ (by simp [groupedConfig])⟩

end Session

end AlertRelay.Discord
