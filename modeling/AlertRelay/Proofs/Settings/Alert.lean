import Mathlib.Data.List.Basic
import AlertRelay.Proofs.Settings.Entries
import AlertRelay.Proofs.Settings.Faults

/-!
# Which settings of an alert are accepted

Four keys of an alert have a kind of value.  An alert is accepted if it is a mapping in which each
of them is missing, null or of its kind, and then has just these values; otherwise it is refused
for the first key in their order that is not.  The description may be any value that has a text.
-/

namespace AlertRelay.Settings

variable {cx : Value.Context} {entries entries' : List (Value × Value)} {v w : Value} {a : Alert}
  {key text : String} {f : LoadFault}

/-! ## Kinds of values -/

inductive Kind where
  | truth
  | integer
  deriving DecidableEq, Repr

namespace Kind

/-- Whether an entry may have a value.  A truth value is no integer. -/
def fits : Kind → Option Value → Bool
  | _, none | _, some .null | truth, some (.bool _) | integer, some (.int _) => true
  | _, some _ => false

def fault : Kind → String → String → Fault
  | truth => .notBoolean
  | integer => .notInteger

end Kind

/-- The keys whose values have a kind, in the order in which they are looked at. -/
def kinds : List (String × Kind) :=
  [("enabled", .truth), ("failure-threshold", .integer), ("success-threshold", .integer),
    ("send-on-resolved", .truth)]

def firstMisfit? (entries : List (Value × Value)) : Option (String × Kind) :=
  kinds.find? fun e => !e.2.fits (Value.lookup e.1 entries)

/-! ## What a mapping describes -/

/-- A field is unset if its entry is missing or null, and else set to the value that is written
there. -/
inductive IsSetting (write : α → Value) : Option Value → Option α → Prop
  | missing : IsSetting write none none
  | null : IsSetting write (some .null) none
  | given (x : α) : IsSetting write (some (write x)) (some x)

/-- The description is the text of its value, as it is shown. -/
inductive IsDescription (cx : Value.Context) : Option Value → Option Text.Spelled → Prop
  | missing : IsDescription cx none none
  | null : IsDescription cx (some .null) none
  | shown {v : Value} {s : Text.Spelled} (hnull : v ≠ .null) (hs : v.display? cx = some s) :
      IsDescription cx (some v) (some s)

structure DescribesAlert (cx : Value.Context) (entries : List (Value × Value)) (a : Alert) :
    Prop where
  enabled : IsSetting .bool (Value.lookup "enabled" entries) a.enabled
  failureThreshold : IsSetting .int (Value.lookup "failure-threshold" entries) a.failureThreshold
  successThreshold : IsSetting .int (Value.lookup "success-threshold" entries) a.successThreshold
  description : IsDescription cx (Value.lookup "description" entries) a.description
  sendOnResolved : IsSetting .bool (Value.lookup "send-on-resolved" entries) a.sendOnResolved
  channel : a.channel = .discord
  triggered : a.triggered = false

def AcceptsAlert (cx : Value.Context) (v : Value) (a : Alert) : Prop :=
  ∃ entries, v.entries? cx.table = some entries ∧ DescribesAlert cx entries a

/-! ## What is wrong with a value -/

/-- A value is no mapping, or the value of the first key that has the wrong kind is named. -/
inductive RefusesAlert (cx : Value.Context) (v : Value) : Fault → Prop
  | notMapping {text : String} (hv : v.entries? cx.table = none)
      (htext : v.literal? cx = some text) : RefusesAlert cx v (.alertNotMapping text)
  | misfit {entries : List (Value × Value)} {key text : String} {kind : Kind} {w : Value}
      (hv : v.entries? cx.table = some entries) (hfirst : firstMisfit? entries = some (key, kind))
      (hw : Value.lookup key entries = some w) (htext : w.literal? cx = some text) :
      RefusesAlert cx v (kind.fault key text)

def LacksDescription (cx : Value.Context) (entries : List (Value × Value)) : Prop :=
  ∃ w, Value.lookup "description" entries = some w ∧ w ≠ .null ∧ w.display? cx = none

/-- A text is asked for that does not exist: that of a value which is wrong, or that of the
description, which is asked for before the last key is looked at. -/
inductive MissesAlertText (cx : Value.Context) (v : Value) : Prop
  | notMapping (hv : v.entries? cx.table = none) (htext : v.literal? cx = none)
  | misfit {entries : List (Value × Value)} {key : String} {kind : Kind} {w : Value}
      (hv : v.entries? cx.table = some entries) (hfirst : firstMisfit? entries = some (key, kind))
      (hw : Value.lookup key entries = some w) (htext : w.literal? cx = none)
  | description {entries : List (Value × Value)} (hv : v.entries? cx.table = some entries)
      (hfirst : ∀ e, firstMisfit? entries = some e → e.1 = "send-on-resolved")
      (htext : LacksDescription cx entries)

/-! ## Fields -/

theorem isSetting_iff {write : α → Value} {o : Option Value} {x : Option α} :
    IsSetting write o x ↔
      (o = none ∨ o = some .null) ∧ x = none ∨ ∃ y, o = some (write y) ∧ x = some y := by
  constructor
  · rintro (_ | _ | y)
    · exact .inl ⟨.inl rfl, rfl⟩
    · exact .inl ⟨.inr rfl, rfl⟩
    · exact .inr ⟨y, rfl, rfl⟩
  · rintro (⟨rfl | rfl, rfl⟩ | ⟨y, rfl, rfl⟩)
    · exact .missing
    · exact .null
    · exact .given y

theorem bool?_eq_ok_iff {b : Option Bool} :
    bool? cx entries key = .ok b ↔ IsSetting .bool (Value.lookup key entries) b := by
  unfold bool? given?
  cases Value.lookup key entries with
  | none => simp [isSetting_iff, eq_comm]
  | some w => cases w <;> simp [isSetting_iff, refuse_ne_ok.symm, eq_comm]

theorem int?_eq_ok_iff {i : Option Int} :
    int? cx entries key = .ok i ↔ IsSetting .int (Value.lookup key entries) i := by
  unfold int? given?
  cases Value.lookup key entries with
  | none => simp [isSetting_iff, eq_comm]
  | some w => cases w <;> simp [isSetting_iff, refuse_ne_ok.symm, eq_comm]

theorem bool?_eq_error_iff :
    bool? cx entries key = .error f ↔
      Kind.truth.fits (Value.lookup key entries) = false ∧ ∃ w, Value.lookup key entries = some w ∧
        (refuse cx w (Kind.truth.fault key) : Except LoadFault Alert) = .error f := by
  unfold bool? given?
  cases Value.lookup key entries with
  | none => simp [Kind.fits]
  | some w => cases w <;> simp [Kind.fits, Kind.fault, refuse_eq_error_iff]

theorem int?_eq_error_iff :
    int? cx entries key = .error f ↔
      Kind.integer.fits (Value.lookup key entries) = false ∧
        ∃ w, Value.lookup key entries = some w ∧
        (refuse cx w (Kind.integer.fault key) : Except LoadFault Alert) = .error f := by
  unfold int? given?
  cases Value.lookup key entries with
  | none => simp [Kind.fits]
  | some w => cases w <;> simp [Kind.fits, Kind.fault, refuse_eq_error_iff]

theorem exists_isSetting_bool_iff {o : Option Value} :
    (∃ b, IsSetting .bool o b) ↔ Kind.truth.fits o = true := by
  cases o with
  | none => simp [isSetting_iff, Kind.fits]
  | some w => cases w <;> simp [isSetting_iff, Kind.fits]

theorem exists_isSetting_int_iff {o : Option Value} :
    (∃ i, IsSetting .int o i) ↔ Kind.integer.fits o = true := by
  cases o with
  | none => simp [isSetting_iff, Kind.fits]
  | some w => cases w <;> simp [isSetting_iff, Kind.fits]

theorem description?_eq_ok_iff {s : Option Text.Spelled} :
    description? cx entries = .ok s ↔
      IsDescription cx (Value.lookup "description" entries) s := by
  unfold description?
  cases hgiven : given? "description" entries with
  | none =>
      rcases given?_eq_none_iff.mp hgiven with hw | hw <;> rw [hw]
      · constructor
        · rintro ⟨⟩
          exact .missing
        · rintro ⟨⟩
          rfl
      · constructor
        · rintro ⟨⟩
          exact .null
        · rintro (_ | _ | ⟨hnull, -⟩)
          · rfl
          · exact absurd rfl hnull
  | some w =>
      obtain ⟨hw, hnull⟩ := given?_eq_some_iff.mp hgiven
      simp only [hw, displayOf, bind_eq_ok]
      constructor
      · rintro ⟨text, htext, hpure⟩
        obtain rfl := Except.ok.inj hpure
        cases hs : w.display? cx with
        | none => simp [hs] at htext
        | some s =>
            obtain rfl : s = text := by simpa [hs] using htext
            exact .shown hnull hs
      · rintro (_ | _ | ⟨-, hs⟩)
        · exact absurd rfl hnull
        · exact ⟨_, by rw [hs], rfl⟩

theorem description?_eq_error_iff :
    description? cx entries = .error f ↔ f = .unwritable ∧ LacksDescription cx entries := by
  unfold description? LacksDescription
  cases hgiven : given? "description" entries with
  | none =>
      constructor
      · rintro ⟨⟩
      · rintro ⟨-, w, hw, hnull, -⟩
        simp [given?_eq_some_iff.mpr ⟨hw, hnull⟩] at hgiven
  | some w =>
      obtain ⟨hw, hnull⟩ := given?_eq_some_iff.mp hgiven
      cases hs : w.display? cx with
      | none => simpa [displayOf, hs, hw, hnull, Bind.bind, Except.bind] using eq_comm
      | some s => simp [displayOf, hs, hw, Bind.bind, Except.bind, Pure.pure, Except.pure]

theorem exists_isDescription_iff :
    (∃ s, IsDescription cx (Value.lookup "description" entries) s) ↔
      ¬LacksDescription cx entries := by
  have hresult : (∃ s, description? cx entries = .ok s) ↔
      ¬description? cx entries = .error .unwritable := by
    cases hs : description? cx entries with
    | ok s => simp
    | error f => simpa using (description?_eq_error_iff.mp hs).1
  simpa [description?_eq_ok_iff, description?_eq_error_iff] using hresult

/-! ## Alerts -/

theorem alertOf_eq_ok_iff : alertOf cx v = .ok a ↔ AcceptsAlert cx v a := by
  unfold alertOf AcceptsAlert
  cases hv : v.entries? cx.table with
  | none => simp [refuse_ne_ok]
  | some entries =>
      simp only [bind_eq_ok, bool?_eq_ok_iff, int?_eq_ok_iff, description?_eq_ok_iff,
        Option.some.injEq, exists_eq_left']
      constructor
      · rintro ⟨enabled, henabled, failures, hfailures, successes, hsuccesses, description,
          hdescription, resolved, hresolved, hpure⟩
        obtain rfl := Except.ok.inj hpure
        exact ⟨henabled, hfailures, hsuccesses, hdescription, hresolved, rfl, rfl⟩
      · intro h
        refine ⟨_, h.enabled, _, h.failureThreshold, _, h.successThreshold, _, h.description, _,
          h.sendOnResolved, ?_⟩
        obtain ⟨channel, enabled, failures, successes, description, resolved, triggered⟩ := a
        obtain rfl : channel = .discord := h.channel
        obtain rfl : triggered = false := h.triggered
        rfl

/-- A mapping is refused for its first misfit, unless that is the last key and the description
before it has no text. -/
theorem alertOf_eq_error_iff (hv : v.entries? cx.table = some entries) :
    alertOf cx v = .error f ↔
      (∃ key kind w, firstMisfit? entries = some (key, kind) ∧
        Value.lookup key entries = some w ∧
        (refuse cx w (kind.fault key) : Except LoadFault Alert) = .error f ∧
        (key = "send-on-resolved" → ¬LacksDescription cx entries)) ∨
      (f = .unwritable ∧ LacksDescription cx entries ∧
        ∀ e, firstMisfit? entries = some e → e.1 = "send-on-resolved") := by
  unfold alertOf
  simp only [hv, bind_eq_error, bool?_eq_ok_iff, int?_eq_ok_iff, description?_eq_ok_iff,
    bool?_eq_error_iff, int?_eq_error_iff, description?_eq_error_iff, Pure.pure, Except.pure,
    reduceCtorEq, and_false, exists_false, or_false, exists_and_right, exists_isSetting_bool_iff,
    exists_isSetting_int_iff, exists_isDescription_iff]
  -- what is asked for in turn is decided by the first of the keys that does not fit
  cases henabled : Kind.truth.fits (Value.lookup "enabled" entries) with
  | false => simp [firstMisfit?, kinds, henabled]
  | true =>
      cases hfailures : Kind.integer.fits (Value.lookup "failure-threshold" entries) with
      | false => simp [firstMisfit?, kinds, henabled, hfailures]
      | true =>
          cases hsuccesses : Kind.integer.fits (Value.lookup "success-threshold" entries) with
          | false => simp [firstMisfit?, kinds, henabled, hfailures, hsuccesses]
          | true =>
              have hfirst : firstMisfit? entries =
                  if Kind.truth.fits (Value.lookup "send-on-resolved" entries) then none
                  else some ("send-on-resolved", .truth) := by
                cases hresolved : Kind.truth.fits (Value.lookup "send-on-resolved" entries) <;>
                  simp [firstMisfit?, kinds, henabled, hfailures, hsuccesses, hresolved]
              rw [hfirst]
              by_cases hlacks : LacksDescription cx entries <;>
                cases hresolved : Kind.truth.fits (Value.lookup "send-on-resolved" entries) <;>
                simp [hlacks]

theorem alertOf_of_notMapping (hv : v.entries? cx.table = none) :
    alertOf cx v = refuse cx v .alertNotMapping := by
  unfold alertOf
  rw [hv]

theorem missesText_or_refuses (h : alertOf cx v = .error f) :
    f = .unwritable ∧ MissesAlertText cx v ∨
      ∃ fault, f = .settings fault ∧ RefusesAlert cx v fault := by
  cases hv : v.entries? cx.table with
  | none =>
      rw [alertOf_of_notMapping hv] at h
      rcases refuse_eq_error_iff.mp h with ⟨rfl, htext⟩ | ⟨text, htext, rfl⟩
      · exact .inl ⟨rfl, .notMapping hv htext⟩
      · exact .inr ⟨_, rfl, .notMapping hv htext⟩
  | some entries =>
      rcases (alertOf_eq_error_iff hv).mp h with ⟨key, kind, w, hfirst, hw, hrefused, -⟩ |
        ⟨rfl, hlacks, hfirst⟩
      · rcases refuse_eq_error_iff.mp hrefused with ⟨rfl, htext⟩ | ⟨text, htext, rfl⟩
        · exact .inl ⟨rfl, .misfit hv hfirst hw htext⟩
        · exact .inr ⟨_, rfl, .misfit hv hfirst hw htext⟩
      · exact .inl ⟨rfl, .description hv hfirst hlacks⟩

theorem error_of_missesAlertText (h : MissesAlertText cx v) :
    alertOf cx v = .error .unwritable := by
  cases h with
  | notMapping hv htext =>
      rw [alertOf_of_notMapping hv]
      exact refuse_eq_error_iff.mpr (.inl ⟨rfl, htext⟩)
  | @misfit entries key kind w hv hfirst hw htext =>
      apply (alertOf_eq_error_iff hv).mpr
      have hrefused : (refuse cx w (kind.fault key) : Except LoadFault Alert) =
          .error .unwritable := refuse_eq_error_iff.mpr (.inl ⟨rfl, htext⟩)
      by_cases hlast : key = "send-on-resolved" ∧ LacksDescription cx entries
      · obtain ⟨rfl, hlacks⟩ := hlast
        refine .inr ⟨rfl, hlacks, fun e he => ?_⟩
        rw [hfirst] at he
        obtain rfl := Option.some.inj he
        rfl
      · exact .inl ⟨key, kind, w, hfirst, hw, hrefused, fun hkey hlacks => hlast ⟨hkey, hlacks⟩⟩
  | description hv hfirst hlacks =>
      exact (alertOf_eq_error_iff hv).mpr (.inr ⟨rfl, hlacks, hfirst⟩)

theorem error_of_refusesAlert (hwritten : ¬MissesAlertText cx v) {fault : Fault}
    (h : RefusesAlert cx v fault) : alertOf cx v = .error (.settings fault) := by
  cases h with
  | notMapping hv htext =>
      rw [alertOf_of_notMapping hv]
      exact refuse_eq_error_iff.mpr (.inr ⟨_, htext, rfl⟩)
  | @misfit entries key text kind w hv hfirst hw htext =>
      apply (alertOf_eq_error_iff hv).mpr
      have hrefused : (refuse cx w (kind.fault key) : Except LoadFault Alert) =
          .error (.settings (kind.fault key text)) :=
        refuse_eq_error_iff.mpr (.inr ⟨text, htext, rfl⟩)
      refine .inl ⟨key, kind, w, hfirst, hw, hrefused, fun hlast hlacks => ?_⟩
      apply hwritten
      refine .description hv (fun e he => ?_) hlacks
      rw [hfirst] at he
      obtain rfl := Option.some.inj he
      exact hlast

theorem firstMisfit?_of_describesAlert (h : DescribesAlert cx entries a) :
    firstMisfit? entries = none := by
  have henabled := exists_isSetting_bool_iff.mp ⟨_, h.enabled⟩
  have hfailures := exists_isSetting_int_iff.mp ⟨_, h.failureThreshold⟩
  have hsuccesses := exists_isSetting_int_iff.mp ⟨_, h.successThreshold⟩
  have hresolved := exists_isSetting_bool_iff.mp ⟨_, h.sendOnResolved⟩
  simp [firstMisfit?, kinds, henabled, hfailures, hsuccesses, hresolved]

/-- If no text is missing, an alert is read exactly from a mapping without a misfit. -/
theorem exists_alertOf_iff (hwritten : ¬MissesAlertText cx v) :
    (∃ a, alertOf cx v = .ok a) ↔
      ∃ entries, v.entries? cx.table = some entries ∧ firstMisfit? entries = none := by
  constructor
  · rintro ⟨a, ha⟩
    obtain ⟨entries, hv, hdescribes⟩ := alertOf_eq_ok_iff.mp ha
    exact ⟨entries, hv, firstMisfit?_of_describesAlert hdescribes⟩
  · rintro ⟨entries, hv, hnone⟩
    cases hresult : alertOf cx v with
    | ok a => exact ⟨a, rfl⟩
    | error f =>
        rcases (alertOf_eq_error_iff hv).mp hresult with ⟨key, kind, w, hfirst, -⟩ |
          ⟨-, hlacks, hfirst⟩
        · simp [hnone] at hfirst
        · exact absurd (.description hv hfirst hlacks) hwritten

/-! ## Other keys -/

theorem bool?_congr (h : Value.lookup key entries = Value.lookup key entries') :
    bool? cx entries key = bool? cx entries' key := by
  simp only [bool?, given?_congr h]

theorem int?_congr (h : Value.lookup key entries = Value.lookup key entries') :
    int? cx entries key = int? cx entries' key := by
  simp only [int?, given?_congr h]

theorem description?_congr
    (h : Value.lookup "description" entries = Value.lookup "description" entries') :
    description? cx entries = description? cx entries' := by
  simp only [description?, given?_congr h]

/-- An alert is read from these keys alone. -/
theorem alertOf_congr (hv : v.entries? cx.table = some entries)
    (hw : w.entries? cx.table = some entries')
    (h : ∀ key ∈ "description" :: kinds.map Prod.fst,
      Value.lookup key entries = Value.lookup key entries') :
    alertOf cx v = alertOf cx w := by
  unfold alertOf
  simp only [hv, hw, bool?_congr (h "enabled" (by simp [kinds])),
    int?_congr (h "failure-threshold" (by simp [kinds])),
    int?_congr (h "success-threshold" (by simp [kinds])),
    description?_congr (h "description" (by simp)),
    bool?_congr (h "send-on-resolved" (by simp [kinds]))]

/-! ## Outcomes -/

/-- A value is read as exactly the alert that it describes.  That a mapping without a misfit is
read and any other value is refused for what is wrong first is the case exactly if no text is
missing, and only an integer that is too long has none.  No other key plays a part. -/
theorem alertOf_accepts_or_refuses (cx : Value.Context) (v : Value) :
    (∀ a, alertOf cx v = .ok a ↔ AcceptsAlert cx v a) ∧
      ((((∃ a, alertOf cx v = .ok a) ↔
          ∃ entries, v.entries? cx.table = some entries ∧ firstMisfit? entries = none) ∧
        ∀ f, alertOf cx v = .error f ↔
          ∃ fault, f = .settings fault ∧ RefusesAlert cx v fault) ↔
        ¬MissesAlertText cx v) ∧
      (MissesAlertText cx v → v.HoldsLongIn cx.table) ∧
      ∀ w entries entries', v.entries? cx.table = some entries →
        w.entries? cx.table = some entries' →
        (∀ key ∈ "description" :: kinds.map Prod.fst,
          Value.lookup key entries = Value.lookup key entries') →
        alertOf cx v = alertOf cx w := by
  refine ⟨fun a => alertOf_eq_ok_iff, ?_, ?_, fun w entries entries' => alertOf_congr⟩
  · constructor
    · rintro ⟨-, hlaw⟩ hmisses
      obtain ⟨fault, hfault, -⟩ := (hlaw .unwritable).mp (error_of_missesAlertText hmisses)
      cases hfault
    · intro hwritten
      refine ⟨exists_alertOf_iff hwritten, fun f => ⟨fun h => ?_, ?_⟩⟩
      · rcases missesText_or_refuses h with ⟨-, hmisses⟩ | hrefuses
        · exact absurd hmisses hwritten
        · exact hrefuses
      · rintro ⟨fault, rfl, hrefuses⟩
        exact error_of_refusesAlert hwritten hrefuses
  · intro hmisses
    rcases alertOf_fails id _ (error_of_missesAlertText hmisses) with ⟨fault, hfault⟩ | ⟨-, hlong⟩
    · cases hfault
    · exact hlong

/-- A description of 4301 digits before a key whose value is no truth value. -/
def longDescription : Value := .mapping [(.text "description", .int (Nat.pow 10 4300)),
  (.text "send-on-resolved", .text "maybe")]

/-- A description that cannot become a text ends the reading, where the last key is what is
wrong. -/
theorem alertOf_longDescription :
    RefusesAlert {} longDescription (.notBoolean "send-on-resolved" "'maybe'") ∧
      alertOf {} longDescription = .error .unwritable := by
  constructor
  · show RefusesAlert {} longDescription (Kind.truth.fault "send-on-resolved" "'maybe'")
    exact .misfit (w := .text "maybe") rfl rfl rfl rfl
  · decide +kernel

end AlertRelay.Settings
