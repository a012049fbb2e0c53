import Mathlib.Data.List.Forall2
import AlertRelay.Proofs.Settings.Faults
import AlertRelay.Proofs.Settings.Validity

/-!
# Which settings of the channel are accepted

A mapping describes a configuration if its parts have the right form, and is accepted if the
configuration follows its own rules.  Any other value is refused for the first thing that is
wrong with it.  What stands in the way is a text that has to be made of a value without one:
it ends the reading before anything that comes later is found wrong.
-/

namespace AlertRelay

/-! ## Traversals -/

variable {ε α β : Type} {g : α → Except ε β} {e : ε}

theorem mapM_eq_ok_iff {xs : List α} {ys : List β} :
    xs.mapM g = .ok ys ↔ List.Forall₂ (fun x y => g x = .ok y) xs ys := by
  induction xs generalizing ys with
  | nil => cases ys <;> simp [Pure.pure, Except.pure]
  | cons x xs ih =>
      rw [List.mapM_cons, List.forall₂_cons_left_iff]
      simp only [bind_eq_ok, ih]
      constructor
      · rintro ⟨y, hy, ys', hys, hpure⟩
        obtain rfl := Except.ok.inj hpure
        exact ⟨y, ys', hy, hys, rfl⟩
      · rintro ⟨y, ys', hy, hys, rfl⟩
        exact ⟨y, hy, ys', hys, rfl⟩

theorem mapM_eq_error {xs : List α} (h : xs.mapM g = .error e) :
    ∃ before x after, xs = before ++ x :: after ∧ (∀ u ∈ before, ∃ y, g u = .ok y) ∧
      g x = .error e := by
  induction xs with
  | nil => simp [Pure.pure, Except.pure] at h
  | cons x xs ih =>
      rw [List.mapM_cons] at h
      rcases bind_eq_error.mp h with hx | ⟨y, hy, hrest⟩
      · exact ⟨[], x, xs, rfl, by simp, hx⟩
      · rcases bind_eq_error.mp hrest with hxs | ⟨ys, -, hpure⟩
        · obtain ⟨before, z, after, rfl, hbefore, hz⟩ := ih hxs
          refine ⟨x :: before, z, after, rfl, ?_, hz⟩
          simpa using ⟨⟨y, hy⟩, hbefore⟩
        · cases hpure

theorem FailsWith.bind_eq_error {x : Except ε α} {f : α → Except ε β}
    (hx : FailsWith (· = e) x) (hf : ∀ a, x = .ok a → f a = .error e) :
    x >>= f = .error e := by
  cases hresult : x with
  | error e' =>
      obtain rfl : e' = e := hx e' hresult
      rfl
  | ok a => exact hf a hresult

theorem mapM_of_error {before after : List α} {x : α}
    (hbefore : ∀ u ∈ before, FailsWith (· = e) (g u)) (hx : g x = .error e) :
    (before ++ x :: after).mapM g = .error e := by
  induction before with
  | nil =>
      rw [List.nil_append, List.mapM_cons, hx]
      rfl
  | cons u before ih =>
      have hrest := ih fun v hv => hbefore v (by simp [hv])
      rw [List.cons_append, List.mapM_cons]
      refine (hbefore u (by simp)).bind_eq_error fun y _ => ?_
      rw [hrest]
      rfl

namespace Settings

open AlertRelay.Text

variable {cx : Value.Context} {entries : List (Value × Value)} {v w : Value}
  {c : Discord.Config}

/-! ## What a mapping describes -/

/-- The text of an entry: empty if its value is missing or blank. -/
inductive IsTextOf (cx : Value.Context) : Option Value → Spelled → Prop
  | missing : IsTextOf cx none ""
  | blank {v : Value} (h : v.isBlank = true) : IsTextOf cx (some v) ""
  | shown {v : Value} {s : Spelled} (h : v.isBlank = false) (hs : v.display? cx = some s) :
      IsTextOf cx (some v) s

def DescribesOverride (cx : Value.Context) (v : Value) (o : Discord.Override) : Prop :=
  ∃ entries, v.entries? cx.table = some entries ∧
    IsTextOf cx (Value.lookup "group" entries) o.group ∧
    IsTextOf cx (Value.lookup "webhook-url" entries) o.webhookUrl

inductive DescribesOverrides (cx : Value.Context) :
    Option Value → List Discord.Override → Prop
  | missing : DescribesOverrides cx none []
  | blank {v : Value} (h : v.isBlank = true) : DescribesOverrides cx (some v) []
  | list {v : Value} {items : List Value} {overrides : List Discord.Override}
      (hitems : v.items? cx.table = some items)
      (h : List.Forall₂ (DescribesOverride cx) items overrides) :
      DescribesOverrides cx (some v) overrides

inductive DescribesDefault (cx : Value.Context) : Option Value → Option Alert → Prop
  | missing : DescribesDefault cx none none
  | null : DescribesDefault cx (some .null) none
  | alert {v : Value} {a : Alert} (hv : v ≠ .null) (ha : alertOf cx v = .ok a) :
      DescribesDefault cx (some v) (some a)

structure Describes (cx : Value.Context) (entries : List (Value × Value))
    (c : Discord.Config) : Prop where
  overrides : DescribesOverrides cx (Value.lookup "overrides" entries) c.overrides
  webhookUrl : IsTextOf cx (Value.lookup "webhook-url" entries) c.webhookUrl
  title : IsTextOf cx (Value.lookup "title" entries) c.title
  defaultAlert : DescribesDefault cx (Value.lookup "default-alert" entries) c.defaultAlert

/-- A value that is a mapping, and describes a configuration that can be used. -/
structure Accepts (cx : Value.Context) (v : Value) (c : Discord.Config) : Prop where
  described : ∃ entries, v.entries? cx.table = some entries ∧ Describes cx entries c
  webhookUrl : c.webhookUrl ≠ ""
  groups : (c.overrides.map (·.group)).Nodup
  overrides : ∀ o ∈ c.overrides, o.group ≠ "" ∧ o.webhookUrl ≠ ""

/-! ## What is wrong with a value -/

/-- The overrides are missing, blank or a list of mappings. -/
def AreMappings (cx : Value.Context) (v : Option Value) : Prop :=
  ∀ w, v = some w → w.isBlank = false →
    ∃ items, w.items? cx.table = some items ∧ ∀ u ∈ items, (u.entries? cx.table).isSome = true

/-- The first thing that is wrong with a value. -/
inductive Refuses (cx : Value.Context) (v : Value) : Fault → Prop
  | notMapping (hv : v.entries? cx.table = none) : Refuses cx v .discordNotMapping
  | overridesNotList {entries : List (Value × Value)} {w : Value}
      (hv : v.entries? cx.table = some entries) (hw : Value.lookup "overrides" entries = some w)
      (hblank : w.isBlank = false) (hitems : w.items? cx.table = none) :
      Refuses cx v .overridesNotList
  | itemNotMapping {entries : List (Value × Value)} {w item : Value} {before after : List Value}
      {text : String} (hv : v.entries? cx.table = some entries)
      (hw : Value.lookup "overrides" entries = some w)
      (hitems : w.items? cx.table = some (before ++ item :: after))
      (hbefore : ∀ u ∈ before, (u.entries? cx.table).isSome = true)
      (hitem : item.entries? cx.table = none) (htext : item.literal? cx = some text) :
      Refuses cx v (.overrideNotMapping text)
  | badAlert {entries : List (Value × Value)} {w : Value} {fault : Fault}
      (hv : v.entries? cx.table = some entries)
      (hoverrides : AreMappings cx (Value.lookup "overrides" entries))
      (hw : Value.lookup "default-alert" entries = some w) (hnull : w ≠ .null)
      (halert : alertOf cx w = .error (.settings fault)) : Refuses cx v fault
  -- nothing has the wrong form, so what fails is the use of what is described
  | unusable {entries : List (Value × Value)} {alert : Option Alert}
      (hv : v.entries? cx.table = some entries)
      (hoverrides : AreMappings cx (Value.lookup "overrides" entries))
      (halert : DescribesDefault cx (Value.lookup "default-alert" entries) alert)
      (hnone : ∀ c, ¬Accepts cx v c) : Refuses cx v .invalidDiscord

/-! ## Texts that are missing -/

/-- The value of an entry has no text. -/
def LacksText (cx : Value.Context) (entries : List (Value × Value)) (key : String) : Prop :=
  ∃ v, Value.lookup key entries = some v ∧ v.isBlank = false ∧ v.display? cx = none

/-- A text is asked for that a value of the overrides does not have. -/
inductive OverrideLacksText (cx : Value.Context) (v : Value) : Prop
  | literal (hv : v.entries? cx.table = none) (htext : v.literal? cx = none)
  | entry {entries : List (Value × Value)} {key : String} (hv : v.entries? cx.table = some entries)
      (hkey : key = "group" ∨ key = "webhook-url") (htext : LacksText cx entries key)

/-- A text is asked for that is missing, before anything is found to be wrong. -/
inductive MissesText (cx : Value.Context) (v : Value) : Prop
  | override {entries : List (Value × Value)} {w item : Value} {before after : List Value}
      (hv : v.entries? cx.table = some entries) (hw : Value.lookup "overrides" entries = some w)
      (hitems : w.items? cx.table = some (before ++ item :: after))
      (hbefore : ∀ u ∈ before, (u.entries? cx.table).isSome = true)
      (hitem : OverrideLacksText cx item)
  | entry {entries : List (Value × Value)} {key : String} (hv : v.entries? cx.table = some entries)
      (hoverrides : AreMappings cx (Value.lookup "overrides" entries))
      (hkey : key = "webhook-url" ∨ key = "title") (htext : LacksText cx entries key)
  | alert {entries : List (Value × Value)} {w : Value} (hv : v.entries? cx.table = some entries)
      (hoverrides : AreMappings cx (Value.lookup "overrides" entries))
      (hw : Value.lookup "default-alert" entries = some w) (hnull : w ≠ .null)
      (halert : alertOf cx w = .error .unwritable)

/-! ## Texts -/

theorem textOf_eq_ok_iff {key : String} {s : Spelled} :
    textOf cx key entries = .ok s ↔ IsTextOf cx (Value.lookup key entries) s := by
  unfold textOf displayOf
  cases hv : Value.lookup key entries with
  | none =>
      constructor
      · intro h
        obtain rfl := Except.ok.inj h
        exact .missing
      · rintro ⟨⟩
        rfl
  | some v =>
      cases hblank : v.isBlank with
      | true =>
          simp only [Option.filter, hblank]
          constructor
          · intro h
            obtain rfl := Except.ok.inj h
            exact .blank hblank
          · rintro (_ | _ | ⟨hshown, -⟩)
            · rfl
            · simp [hblank] at hshown
      | false =>
          simp only [Option.filter, hblank]
          constructor
          · intro h
            apply IsTextOf.shown hblank
            cases hs : v.display? cx <;> simp_all
          · rintro (_ | hempty | ⟨-, hs⟩)
            · simp [hblank] at hempty
            · simp [hs]

theorem textOf_eq_error_iff {key : String} {f : LoadFault} :
    textOf cx key entries = .error f ↔ f = .unwritable ∧ LacksText cx entries key := by
  unfold textOf displayOf LacksText
  cases hv : Value.lookup key entries with
  | none => simp
  | some v =>
      cases hblank : v.isBlank with
      | true => simp [Option.filter, hblank]
      | false =>
          cases hs : v.display? cx with
          | none => simpa [Option.filter, hblank, hs] using eq_comm
          | some s => simp [Option.filter, hblank, hs]

theorem textOf_unwritable (key : String) :
    FailsWith (· = .unwritable) (textOf cx key entries) :=
  fun _ h => (textOf_eq_error_iff.mp h).1

/-- Of two texts read one after the other, it does not matter which is missing. -/
theorem textOf_bind_unwritable {α : Type} {key first second : String}
    {f : Spelled → Spelled → Except LoadFault α} (hkey : key = first ∨ key = second)
    (h : LacksText cx entries key) :
    (textOf cx first entries >>= fun s => textOf cx second entries >>= f s) =
      .error .unwritable := by
  refine (textOf_unwritable first).bind_eq_error fun s hs => ?_
  have hkeyed : textOf cx key entries = .error .unwritable := textOf_eq_error_iff.mpr ⟨rfl, h⟩
  rcases hkey with rfl | rfl
  · rw [hkeyed] at hs
    cases hs
  · rw [hkeyed]
    rfl

theorem exists_textOf {key : String} (h : ¬LacksText cx entries key) :
    ∃ s, textOf cx key entries = .ok s := by
  cases htext : textOf cx key entries with
  | error f => exact absurd (textOf_eq_error_iff.mp htext).2 h
  | ok s => exact ⟨s, rfl⟩

/-! ## Overrides -/

theorem overrideOf_eq_ok_iff {o : Discord.Override} :
    overrideOf cx v = .ok o ↔ DescribesOverride cx v o := by
  unfold overrideOf DescribesOverride
  cases hv : v.entries? cx.table with
  | none =>
      constructor
      · intro h
        exact absurd h refuse_ne_ok
      · rintro ⟨entries, hentries, -⟩
        cases hentries
  | some entries =>
      simp only [bind_eq_ok, textOf_eq_ok_iff]
      constructor
      · rintro ⟨group, hgroup, url, hurl, hpure⟩
        obtain rfl := Except.ok.inj hpure
        exact ⟨entries, rfl, hgroup, hurl⟩
      · rintro ⟨entries', hentries, hgroup, hurl⟩
        obtain rfl := Option.some.inj hentries
        exact ⟨o.group, hgroup, o.webhookUrl, hurl, rfl⟩

theorem isMapping_of_describesOverride {o : Discord.Override} (h : DescribesOverride cx v o) :
    (v.entries? cx.table).isSome = true := by
  obtain ⟨entries, hentries, -⟩ := h
  simp [hentries]

theorem overrideOf_of_mapping (h : (v.entries? cx.table).isSome = true) :
    FailsWith (· = .unwritable) (overrideOf cx v) := by
  obtain ⟨entries, hentries⟩ := Option.isSome_iff_exists.mp h
  unfold overrideOf
  rw [hentries]
  exact .bind (textOf_unwritable _) fun _ _ => .bind (textOf_unwritable _) fun _ _ => .pure _

theorem overrideOf_unwritable_iff :
    overrideOf cx v = .error .unwritable ↔ OverrideLacksText cx v := by
  constructor
  · intro h
    unfold overrideOf at h
    split at h
    · rename_i hv
      rcases refuse_eq_error_iff.mp h with ⟨-, htext⟩ | ⟨text, -, hfault⟩
      · exact .literal hv htext
      · cases hfault
    · rename_i entries hv
      simp only [bind_eq_error, textOf_eq_error_iff] at h
      rcases h with ⟨-, hgroup⟩ | ⟨group, -, ⟨-, hurl⟩ | ⟨url, -, hpure⟩⟩
      · exact .entry hv (.inl rfl) hgroup
      · exact .entry hv (.inr rfl) hurl
      · cases hpure
  · intro h
    unfold overrideOf
    cases h with
    | literal hv htext =>
        rw [hv]
        exact refuse_eq_error_iff.mpr (.inl ⟨rfl, htext⟩)
    | entry hv hkey htext =>
        rw [hv]
        exact textOf_bind_unwritable hkey htext

theorem overrideOf_settings_iff {fault : Fault} :
    overrideOf cx v = .error (.settings fault) ↔
      v.entries? cx.table = none ∧
        ∃ text, v.literal? cx = some text ∧ fault = .overrideNotMapping text := by
  cases hv : v.entries? cx.table with
  | none =>
      unfold overrideOf
      rw [hv]
      simp [refuse_eq_error_iff]
  | some entries =>
      constructor
      · intro h
        cases overrideOf_of_mapping (by simp [hv]) _ h
      · rintro ⟨hnone, -⟩
        cases hnone

theorem items_of_isBlank {items : List Value} (hblank : v.isBlank = true)
    (h : v.items? cx.table = some items) : items = [] := by
  cases v <;> simp_all [Value.isBlank, Value.items?, Value.resolved]

theorem overridesOf_eq_ok_iff {overrides : List Discord.Override} :
    overridesOf cx entries = .ok overrides ↔
      DescribesOverrides cx (Value.lookup "overrides" entries) overrides := by
  unfold overridesOf
  cases hv : Value.lookup "overrides" entries with
  | none =>
      constructor
      · intro h
        obtain rfl := Except.ok.inj h
        exact .missing
      · rintro ⟨⟩
        rfl
  | some v =>
      cases hblank : v.isBlank with
      | true =>
          simp only [Option.filter, hblank]
          constructor
          · intro h
            obtain rfl := Except.ok.inj h
            exact .blank hblank
          · rintro (_ | _ | ⟨hitems, hall⟩)
            · rfl
            · obtain rfl := items_of_isBlank hblank hitems
              obtain rfl := List.forall₂_nil_left_iff.mp hall
              rfl
      | false =>
          have hmapM (items : List Value) : items.mapM (overrideOf cx) = .ok overrides ↔
              List.Forall₂ (DescribesOverride cx) items overrides := by
            simp only [mapM_eq_ok_iff, overrideOf_eq_ok_iff]
          simp only [Option.filter, hblank]
          constructor
          · intro h
            cases hitems : v.items? cx.table with
            | none => simp [hitems] at h
            | some items => exact .list hitems ((hmapM items).mp (by simpa [hitems] using h))
          · rintro (_ | hempty | ⟨hitems, hall⟩)
            · simp [hblank] at hempty
            · simpa [hitems] using (hmapM _).mpr hall

theorem areMappings_of_describesOverrides {o : Option Value} {overrides : List Discord.Override}
    (h : DescribesOverrides cx o overrides) : AreMappings cx o := by
  rintro w rfl hblank
  cases h with
  | blank hempty => simp [hblank] at hempty
  | list hitems hall =>
      refine ⟨_, hitems, fun u hu => ?_⟩
      obtain ⟨i, hi, rfl⟩ := List.getElem_of_mem hu
      exact isMapping_of_describesOverride (hall.get hi (hall.length_eq ▸ hi))

theorem overridesOf_of_areMappings (h : AreMappings cx (Value.lookup "overrides" entries)) :
    FailsWith (· = .unwritable) (overridesOf cx entries) := by
  unfold overridesOf
  split
  · exact .ok _
  · rename_i w hw
    obtain ⟨hlookup, hblank⟩ := Option.filter_eq_some_iff.mp hw
    obtain ⟨items, hitems, hall⟩ := h w hlookup (by simpa using hblank)
    rw [hitems]
    exact .mapM fun u hu => overrideOf_of_mapping (hall u hu)

theorem overridesOf_of_items {items : List Value}
    (hw : Value.lookup "overrides" entries = some w) (hitems : w.items? cx.table = some items) :
    overridesOf cx entries = items.mapM (overrideOf cx) := by
  unfold overridesOf
  cases hblank : w.isBlank with
  | true =>
      obtain rfl := items_of_isBlank hblank hitems
      simp [hw, Option.filter, hblank, Pure.pure, Except.pure]
  | false => simp [hw, Option.filter, hblank, hitems]

theorem overridesOf_eq_error {f : LoadFault} (h : overridesOf cx entries = .error f) :
    (f = .settings .overridesNotList ∧ ∃ w, Value.lookup "overrides" entries = some w ∧
      w.isBlank = false ∧ w.items? cx.table = none) ∨
    ∃ w before item after, Value.lookup "overrides" entries = some w ∧
      w.items? cx.table = some (before ++ item :: after) ∧
      (∀ u ∈ before, (u.entries? cx.table).isSome = true) ∧ overrideOf cx item = .error f := by
  unfold overridesOf at h
  split at h
  · cases h
  · rename_i w hw
    obtain ⟨hlookup, hblank⟩ := Option.filter_eq_some_iff.mp hw
    cases hitems : w.items? cx.table with
    | none =>
        rw [hitems] at h
        obtain rfl := Except.error.inj h
        exact .inl ⟨rfl, w, hlookup, by simpa using hblank, hitems⟩
    | some items =>
        rw [hitems] at h
        obtain ⟨before, item, after, rfl, hbefore, hitem⟩ := mapM_eq_error h
        refine .inr ⟨w, before, item, after, hlookup, hitems, fun u hu => ?_, hitem⟩
        obtain ⟨o, ho⟩ := hbefore u hu
        exact isMapping_of_describesOverride (overrideOf_eq_ok_iff.mp ho)

/-! ## The default alert -/

theorem defaultAlertOf_eq_ok_iff {alert : Option Alert} :
    defaultAlertOf cx entries = .ok alert ↔
      DescribesDefault cx (Value.lookup "default-alert" entries) alert := by
  unfold defaultAlertOf
  cases hgiven : given? "default-alert" entries with
  | none =>
      rcases given?_eq_none_iff.mp hgiven with hv | hv <;> rw [hv]
      · constructor
        · rintro ⟨⟩
          exact .missing
        · rintro ⟨⟩
          rfl
      · constructor
        · rintro ⟨⟩
          exact .null
        · rintro (_ | _ | ⟨hnull, -⟩)
          · rfl
          · exact absurd rfl hnull
  | some v =>
      obtain ⟨hv, hnull⟩ := given?_eq_some_iff.mp hgiven
      rw [hv]
      simp only [map_eq_ok]
      constructor
      · rintro ⟨a, ha, rfl⟩
        exact .alert hnull ha
      · rintro (_ | _ | ⟨-, ha⟩)
        · exact absurd rfl hnull
        · exact ⟨_, ha, rfl⟩

theorem defaultAlertOf_eq_error_iff {f : LoadFault} :
    defaultAlertOf cx entries = .error f ↔
      ∃ w, Value.lookup "default-alert" entries = some w ∧ w ≠ .null ∧
        alertOf cx w = .error f := by
  unfold defaultAlertOf
  cases hgiven : given? "default-alert" entries with
  | none =>
      constructor
      · rintro ⟨⟩
      · rintro ⟨w, hw, hnull, -⟩
        simp [given?_eq_some_iff.mpr ⟨hw, hnull⟩] at hgiven
  | some v =>
      obtain ⟨hv, hnull⟩ := given?_eq_some_iff.mp hgiven
      simp [map_eq_error, hv, hnull]

/-! ## Configurations -/

theorem discordOfEntries_eq_ok_iff :
    discordOfEntries cx entries = .ok c ↔ Describes cx entries c ∧ c.isValid = true := by
  unfold discordOfEntries
  simp only [bind_eq_ok, overridesOf_eq_ok_iff, textOf_eq_ok_iff, defaultAlertOf_eq_ok_iff]
  constructor
  · rintro ⟨overrides, hoverrides, url, hurl, title, htitle, alert, halert, h⟩
    split at h
    · rename_i hvalid
      obtain rfl := Except.ok.inj h
      exact ⟨⟨hoverrides, hurl, htitle, halert⟩, hvalid⟩
    · cases h
  · rintro ⟨⟨hoverrides, hurl, htitle, halert⟩, hvalid⟩
    refine ⟨_, hoverrides, _, hurl, _, htitle, _, halert, ?_⟩
    rw [if_pos hvalid]
    rfl

theorem discordOf_eq_ok_iff : discordOf cx v = .ok c ↔ Accepts cx v c := by
  unfold discordOf
  cases hv : v.entries? cx.table with
  | none =>
      constructor
      · rintro ⟨⟩
      · rintro ⟨⟨entries, hentries, -⟩, -⟩
        simp [hv] at hentries
  | some entries =>
      simp only [discordOfEntries_eq_ok_iff, c.isValid_iff]
      constructor
      · rintro ⟨hdescribed, hurl, hgroups, hoverrides⟩
        exact ⟨⟨entries, hv, hdescribed⟩, hurl, hgroups, hoverrides⟩
      · rintro ⟨⟨entries', hentries, hdescribed⟩, hurl, hgroups, hoverrides⟩
        obtain rfl : entries = entries' := by simpa [hv] using hentries
        exact ⟨hdescribed, hurl, hgroups, hoverrides⟩

/-! ## Refusals -/

theorem missesText_of_error (h : discordOf cx v = .error .unwritable) : MissesText cx v := by
  unfold discordOf at h
  split at h
  · cases h
  · rename_i entries hv
    simp only [discordOfEntries, bind_eq_error] at h
    rcases h with hoverrides | ⟨overrides, hoverrides, h⟩
    · rcases overridesOf_eq_error hoverrides with ⟨hfault, -⟩ |
        ⟨w, before, item, after, hw, hitems, hbefore, hitem⟩
      · cases hfault
      · exact .override hv hw hitems hbefore (overrideOf_unwritable_iff.mp hitem)
    · have hmappings := areMappings_of_describesOverrides (overridesOf_eq_ok_iff.mp hoverrides)
      rcases h with hurl | ⟨url, -, htitle | ⟨title, -, halert | ⟨alert, -, hvalid⟩⟩⟩
      · exact .entry hv hmappings (.inl rfl) (textOf_eq_error_iff.mp hurl).2
      · exact .entry hv hmappings (.inr rfl) (textOf_eq_error_iff.mp htitle).2
      · obtain ⟨w, hw, hnull, hfault⟩ := defaultAlertOf_eq_error_iff.mp halert
        exact .alert hv hmappings hw hnull hfault
      · split at hvalid <;> cases hvalid

theorem error_of_missesText (h : MissesText cx v) : discordOf cx v = .error .unwritable := by
  unfold discordOf
  cases h with
  | @override entries _ _ _ _ hv hw hitems hbefore hitem =>
      have hoverrides : overridesOf cx entries = .error .unwritable := by
        rw [overridesOf_of_items hw hitems]
        exact mapM_of_error (fun u hu => overrideOf_of_mapping (hbefore u hu))
          (overrideOf_unwritable_iff.mpr hitem)
      rw [hv]
      unfold discordOfEntries
      simp only [hoverrides]
      rfl
  | entry hv hmappings hkey htext =>
      rw [hv]
      refine (overridesOf_of_areMappings hmappings).bind_eq_error fun overrides _ => ?_
      exact textOf_bind_unwritable hkey htext
  | alert hv hmappings hw hnull halert =>
      rw [hv]
      refine (overridesOf_of_areMappings hmappings).bind_eq_error fun overrides _ => ?_
      refine (textOf_unwritable "webhook-url").bind_eq_error fun url _ => ?_
      refine (textOf_unwritable "title").bind_eq_error fun title _ => ?_
      rw [defaultAlertOf_eq_error_iff.mpr ⟨_, hw, hnull, halert⟩]
      rfl

theorem refuses_of_error {fault : Fault} (h : discordOf cx v = .error (.settings fault)) :
    Refuses cx v fault := by
  have hnone : ∀ c, ¬Accepts cx v c := by
    intro c hc
    rw [discordOf_eq_ok_iff.mpr hc] at h
    cases h
  unfold discordOf at h
  split at h
  · rename_i hv
    obtain rfl : Fault.discordNotMapping = fault := by simpa using h
    exact .notMapping hv
  · rename_i entries hv
    simp only [discordOfEntries, bind_eq_error] at h
    rcases h with hoverrides | ⟨overrides, hoverrides, h⟩
    · rcases overridesOf_eq_error hoverrides with ⟨hfault, w, hw, hblank, hitems⟩ |
        ⟨w, before, item, after, hw, hitems, hbefore, hitem⟩
      · obtain rfl : fault = .overridesNotList := by simpa using hfault
        exact .overridesNotList hv hw hblank hitems
      · obtain ⟨hmapping, text, htext, rfl⟩ := overrideOf_settings_iff.mp hitem
        exact .itemNotMapping hv hw hitems hbefore hmapping htext
    · have hmappings := areMappings_of_describesOverrides (overridesOf_eq_ok_iff.mp hoverrides)
      rcases h with hurl | ⟨url, -, htitle | ⟨title, -, halert | ⟨alert, halert, hvalid⟩⟩⟩
      · cases (textOf_eq_error_iff.mp hurl).1
      · cases (textOf_eq_error_iff.mp htitle).1
      · obtain ⟨w, hw, hnull, hfault⟩ := defaultAlertOf_eq_error_iff.mp halert
        exact .badAlert hv hmappings hw hnull hfault
      · split at hvalid
        · cases hvalid
        · obtain rfl : Fault.invalidDiscord = fault := by
            simpa [throw, throwThe, MonadExceptOf.throw] using hvalid
          exact .unusable hv hmappings (defaultAlertOf_eq_ok_iff.mp halert) hnone

/-- An item before the first that is no mapping is read, if no text is missing. -/
theorem exists_override (hwritten : ¬MissesText cx v) (hv : v.entries? cx.table = some entries)
    (hw : Value.lookup "overrides" entries = some w) {before after : List Value}
    (hitems : w.items? cx.table = some (before ++ after))
    (hbefore : ∀ u ∈ before, (u.entries? cx.table).isSome = true) {u : Value} (hu : u ∈ before) :
    ∃ o, overrideOf cx u = .ok o := by
  cases hresult : overrideOf cx u with
  | ok o => exact ⟨o, rfl⟩
  | error f =>
      obtain rfl := overrideOf_of_mapping (hbefore u hu) f hresult
      obtain ⟨first, rest, rfl⟩ := List.append_of_mem hu
      have hsplit : w.items? cx.table = some (first ++ u :: (rest ++ after)) := by
        simpa using hitems
      have hfirst : ∀ x ∈ first, (x.entries? cx.table).isSome = true := by
        intro x hx
        exact hbefore x (by simp [hx])
      have hlacks := overrideOf_unwritable_iff.mp hresult
      exact absurd (.override hv hw hsplit hfirst hlacks) hwritten

/-- What comes before the default alert is read, if no text is missing. -/
theorem exists_parts (hwritten : ¬MissesText cx v) (hv : v.entries? cx.table = some entries)
    (hmappings : AreMappings cx (Value.lookup "overrides" entries)) :
    ∃ overrides url title, overridesOf cx entries = .ok overrides ∧
      textOf cx "webhook-url" entries = .ok url ∧ textOf cx "title" entries = .ok title := by
  obtain ⟨url, hurl⟩ := exists_textOf fun h => hwritten (.entry hv hmappings (.inl rfl) h)
  obtain ⟨title, htitle⟩ := exists_textOf fun h => hwritten (.entry hv hmappings (.inr rfl) h)
  cases hoverrides : overridesOf cx entries with
  | ok overrides => exact ⟨overrides, url, title, rfl, hurl, htitle⟩
  | error f =>
      obtain rfl := overridesOf_of_areMappings hmappings f hoverrides
      rcases overridesOf_eq_error hoverrides with ⟨hfault, -⟩ |
        ⟨w, before, item, after, hw, hitems, hbefore, hitem⟩
      · cases hfault
      · have hlacks := overrideOf_unwritable_iff.mp hitem
        exact absurd (.override hv hw hitems hbefore hlacks) hwritten

theorem error_of_refuses (hwritten : ¬MissesText cx v) {fault : Fault}
    (h : Refuses cx v fault) : discordOf cx v = .error (.settings fault) := by
  unfold discordOf
  cases h with
  | notMapping hv => rw [hv]
  | @overridesNotList entries w hv hw hblank hitems =>
      have hoverrides : overridesOf cx entries = .error (.settings .overridesNotList) := by
        simp [overridesOf, hw, Option.filter, hblank, hitems]
      simp only [hv, discordOfEntries, hoverrides]
      rfl
  | @itemNotMapping entries w item before after text hv hw hitems hbefore hitem htext =>
      have hread : ∀ u ∈ before,
          FailsWith (· = .settings (.overrideNotMapping text)) (overrideOf cx u) := by
        intro u hu f hf
        obtain ⟨o, ho⟩ := exists_override hwritten hv hw hitems hbefore hu
        rw [ho] at hf
        cases hf
      have hrefused := overrideOf_settings_iff.mpr ⟨hitem, text, htext, rfl⟩
      have hoverrides := overridesOf_of_items hw hitems
      rw [mapM_of_error hread hrefused] at hoverrides
      simp only [hv, discordOfEntries, hoverrides]
      rfl
  | @badAlert entries w _ hv hmappings hw hnull halert =>
      obtain ⟨overrides, url, title, hoverrides, hurl, htitle⟩ :=
        exists_parts hwritten hv hmappings
      have hdefault := defaultAlertOf_eq_error_iff.mpr ⟨w, hw, hnull, halert⟩
      simp only [hv, discordOfEntries, hoverrides, hurl, htitle, hdefault]
      rfl
  | @unusable entries alert hv hmappings halert hnone =>
      obtain ⟨overrides, url, title, hoverrides, hurl, htitle⟩ :=
        exists_parts hwritten hv hmappings
      have hdefault := defaultAlertOf_eq_ok_iff.mpr halert
      have hinvalid : ¬(Discord.Config.mk url overrides title alert).isValid = true := by
        intro hvalid
        apply hnone ⟨url, overrides, title, alert⟩
        apply discordOf_eq_ok_iff.mp
        simp only [discordOf, hv, discordOfEntries_eq_ok_iff]
        refine ⟨⟨?_, ?_, ?_, halert⟩, hvalid⟩
        · exact overridesOf_eq_ok_iff.mp hoverrides
        · exact textOf_eq_ok_iff.mp hurl
        · exact textOf_eq_ok_iff.mp htitle
      simp only [hv, discordOfEntries, hoverrides, hurl, htitle, hdefault, Bind.bind, Except.bind,
        if_neg hinvalid]
      rfl

theorem discordOf_fails (cx : Value.Context) (v : Value) :
    FailsWith (IsEntryFault (v.HoldsLongIn cx.table)) (discordOf cx v) := by
  unfold discordOf
  split
  · exact .error (isEntryFault_settings _)
  · rename_i entries hv
    exact discordOfEntries_fails (.of_entries id hv)

/-- A value is accepted exactly as the configuration that it describes, if that can be used.
Any other value is refused for the first thing that is wrong with it, exactly if no text is
missing before; and only an integer that is too long has none. -/
theorem discordOf_accepts_or_refuses (cx : Value.Context) (v : Value) :
    (∀ c, discordOf cx v = .ok c ↔ Accepts cx v c) ∧
      ((∀ f, discordOf cx v = .error f ↔
        ∃ fault, f = .settings fault ∧ Refuses cx v fault) ↔ ¬MissesText cx v) ∧
      (MissesText cx v → v.HoldsLongIn cx.table) := by
  refine ⟨fun c => discordOf_eq_ok_iff, ?_, ?_⟩
  · constructor
    · intro hlaw hmisses
      obtain ⟨fault, hfault, -⟩ := (hlaw .unwritable).mp (error_of_missesText hmisses)
      cases hfault
    · intro hwritten f
      constructor
      · intro h
        rcases discordOf_fails cx v f h with ⟨fault, rfl⟩ | ⟨rfl, -⟩
        · exact ⟨fault, rfl, refuses_of_error h⟩
        · exact absurd (missesText_of_error h) hwritten
      · rintro ⟨fault, rfl, hrefuses⟩
        exact error_of_refuses hwritten hrefuses
  · intro hmisses
    rcases discordOf_fails cx v _ (error_of_missesText hmisses) with ⟨fault, hfault⟩ | ⟨-, hlong⟩
    · cases hfault
    · exact hlong

/-- A title of 4301 digits before a default alert that is no mapping. -/
def longTitle : Value := .mapping [(.text "webhook-url", .text "http://h/"),
  (.text "title", .int (Nat.pow 10 4300)), (.text "default-alert", .list [])]

/-- A title that cannot become a text ends the reading, where the default alert is what is
wrong. -/
theorem discordOf_longTitle :
    Refuses {} longTitle (.alertNotMapping "[]") ∧ discordOf {} longTitle = .error .unwritable := by
  constructor
  · apply Refuses.badAlert (w := .list []) rfl
    · rintro w ⟨⟩
    · rfl
    · simp
    · rfl
  · decide +kernel

end Settings

end AlertRelay
