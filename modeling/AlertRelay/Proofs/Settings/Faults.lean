import AlertRelay.Proofs.Settings.Loading
import AlertRelay.Proofs.Value.Text

/-!
# What the settings of a document fail with

Entries are refused with a fault of the settings, unless an integer in them is too
long for the text that it has to be part of.
-/

namespace AlertRelay.Settings

open AlertRelay.Text

def LoadFault.IsReported (f : LoadFault) : Prop := ∃ fault, f = .settings fault

/-- A fault of settings in which an integer may be too long. -/
def IsEntryFault (long : Prop) (f : LoadFault) : Prop := f.IsReported ∨ f = .unwritable ∧ long

theorem isEntryFault_settings {long : Prop} (fault : Fault) :
    IsEntryFault long (.settings fault) :=
  .inl ⟨fault, rfl⟩

/-- An integer that is too long, in the values of entries, is one that is spoken of. -/
def Covers (long : Prop) (table : SharedTable) (entries : List (Value × Value)) : Prop :=
  ∀ e ∈ entries, e.2.HoldsLongIn table → long

variable {long : Prop} {table : SharedTable} {cx : Value.Context}

/-! ## Parts of values -/

theorem mem_of_lookup {key : String} {entries : List (Value × Value)} {v : Value}
    (h : Value.lookup key entries = some v) : ∃ e ∈ entries, e.2 = v := by
  obtain ⟨e, he, hv⟩ := Option.map_eq_some_iff.mp h
  exact ⟨e, List.mem_of_find?_eq_some he, hv⟩

theorem mem_of_given {key : String} {entries : List (Value × Value)} {v : Value}
    (h : given? key entries = some v) : ∃ e ∈ entries, e.2 = v := by
  simp only [given?] at h
  split at h
  · simp at h
  · simp at h
  · rename_i w _ hw
    obtain rfl := Option.some.inj h
    exact mem_of_lookup hw

theorem Covers.of_given {key : String} {entries : List (Value × Value)} {v : Value}
    (hc : Covers long table entries) (h : given? key entries = some v) :
    v.HoldsLongIn table → long := by
  obtain ⟨e, he, rfl⟩ := mem_of_given h
  exact hc e he

theorem Covers.of_lookup {key : String} {entries : List (Value × Value)} {p : Value → Bool}
    {v : Value} (hc : Covers long table entries)
    (h : (Value.lookup key entries).filter p = some v) : v.HoldsLongIn table → long := by
  obtain ⟨e, he, rfl⟩ := mem_of_lookup (Option.filter_eq_some_iff.mp h).1
  exact hc e he

theorem Covers.of_entries {v : Value} {entries : List (Value × Value)}
    (hv : v.HoldsLongIn table → long) (h : v.entries? table = some entries) :
    Covers long table entries := by
  intro e he hlong
  apply hv
  rcases hlong with hlong | htable
  · simp only [Value.entries?] at h
    split at h
    · rename_i own hown
      obtain rfl := Option.some.inj h
      exact Value.holdsLong_resolved (hown ▸ .value he hlong)
    · simp at h
  · exact .inr htable

theorem holdsLongIn_of_items {v w : Value} {items : List Value}
    (h : v.items? table = some items) (hw : w ∈ items) (hlong : w.HoldsLongIn table) :
    v.HoldsLongIn table := by
  rcases hlong with hlong | htable
  · simp only [Value.items?] at h
    split at h
    · rename_i own hown
      obtain rfl := Option.some.inj h
      exact Value.holdsLong_resolved (hown ▸ .item hw hlong)
    · simp at h
  · exact .inr htable

theorem mem_setEntry {key v : Value} {entries : List (Value × Value)} {e : Value × Value}
    (he : e ∈ Value.setEntry key v entries) : e ∈ entries ∨ e.2 = v := by
  induction entries with
  | nil => exact .inr (by simp_all [Value.setEntry])
  | cons own rest ih =>
      simp only [Value.setEntry] at he
      split at he
      · rcases List.mem_cons.mp he with rfl | hrest
        · exact .inr rfl
        · exact .inl (by simp [hrest])
      · rcases List.mem_cons.mp he with rfl | hrest
        · exact .inl (by simp)
        · exact (ih hrest).imp_left fun h => by simp [h]

theorem Covers.overlay {entries : List (Value × Value)} {key : String} {value : Option Spelled}
    (hc : Covers long table entries) (htable : (∃ p ∈ table, p.2.HoldsLong) → long) :
    Covers long table (overlay key value entries) := by
  cases value with
  | none => exact hc
  | some s =>
      intro e he hlong
      rcases mem_setEntry he with hown | htext
      · exact hc e hown hlong
      · rcases hlong with hlong | hlong
        · rw [htext] at hlong
          cases hlong with
          | self hself => simp [Value.IsLong] at hself
        · exact htable hlong

/-! ## Texts -/

theorem literalOf_fails {v : Value} (hv : v.HoldsLongIn cx.table → long) :
    FailsWith (IsEntryFault long) (literalOf cx v) := by
  simp only [literalOf]
  split
  · exact .ok _
  · rename_i hnone
    exact .error (.inr ⟨rfl, hv (Value.literal?_eq_none hnone)⟩)

theorem displayOf_fails {v : Value} (hv : v.HoldsLongIn cx.table → long) :
    FailsWith (IsEntryFault long) (displayOf cx v) := by
  simp only [displayOf]
  split
  · exact .ok _
  · rename_i hnone
    exact .error (.inr ⟨rfl, hv (Value.display?_eq_none hnone)⟩)

theorem refuse_fails {v : Value} (fault : String → Fault) (hv : v.HoldsLongIn cx.table → long) :
    FailsWith (IsEntryFault long) (refuse cx v fault : Except LoadFault α) :=
  .bind (literalOf_fails hv) fun literal _ => .error (isEntryFault_settings (fault literal))

theorem refuse_eq_error_iff {v : Value} {fault : String → Fault} {f : LoadFault} :
    (refuse cx v fault : Except LoadFault α) = .error f ↔
      (f = .unwritable ∧ v.literal? cx = none) ∨
        ∃ text, v.literal? cx = some text ∧ f = .settings (fault text) := by
  unfold refuse literalOf
  cases htext : v.literal? cx with
  | none => simpa [Bind.bind, Except.bind] using eq_comm
  | some text =>
      simpa [Bind.bind, Except.bind, throw, throwThe, MonadExceptOf.throw] using eq_comm

theorem refuse_ne_ok {v : Value} {fault : String → Fault} {a : α} :
    refuse cx v fault ≠ .ok a := by
  unfold refuse literalOf
  cases v.literal? cx <;>
    simp [Bind.bind, Except.bind, throw, throwThe, MonadExceptOf.throw]

variable {entries : List (Value × Value)}

theorem textOf_fails (key : String) (hc : Covers long cx.table entries) :
    FailsWith (IsEntryFault long) (textOf cx key entries) := by
  simp only [textOf]
  split
  · exact .ok _
  · rename_i v hv
    exact displayOf_fails (hc.of_lookup hv)

/-! ## Alerts -/

theorem bool?_fails (key : String) (hc : Covers long cx.table entries) :
    FailsWith (IsEntryFault long) (bool? cx entries key) := by
  simp only [bool?]
  split
  · exact .ok _
  · exact .ok _
  · rename_i v _ hv
    exact refuse_fails _ (hc.of_given hv)

theorem int?_fails (key : String) (hc : Covers long cx.table entries) :
    FailsWith (IsEntryFault long) (int? cx entries key) := by
  simp only [int?]
  split
  · exact .ok _
  · exact .ok _
  · rename_i v _ hv
    exact refuse_fails _ (hc.of_given hv)

theorem description?_fails (hc : Covers long cx.table entries) :
    FailsWith (IsEntryFault long) (description? cx entries) := by
  simp only [description?]
  split
  · exact .ok _
  · rename_i v hv
    exact .bind (displayOf_fails (hc.of_given hv)) fun _ _ => .pure _

theorem alertOf_fails {v : Value} (hv : v.HoldsLongIn cx.table → long) :
    FailsWith (IsEntryFault long) (alertOf cx v) := by
  simp only [alertOf]
  split
  · exact refuse_fails _ hv
  · rename_i entries hentries
    have hc := Covers.of_entries hv hentries
    exact .bind (bool?_fails _ hc) fun _ _ => .bind (int?_fails _ hc) fun _ _ =>
      .bind (int?_fails _ hc) fun _ _ => .bind (description?_fails hc) fun _ _ =>
        .bind (bool?_fails _ hc) fun _ _ => .pure _

theorem defaultAlertOf_fails (hc : Covers long cx.table entries) :
    FailsWith (IsEntryFault long) (defaultAlertOf cx entries) := by
  simp only [defaultAlertOf]
  split
  · exact .ok _
  · rename_i v hv
    exact .map (alertOf_fails (hc.of_given hv))

/-! ## The Discord channel -/

theorem overrideOf_fails {v : Value} (hv : v.HoldsLongIn cx.table → long) :
    FailsWith (IsEntryFault long) (overrideOf cx v) := by
  simp only [overrideOf]
  split
  · exact refuse_fails _ hv
  · rename_i entries hentries
    have hc := Covers.of_entries hv hentries
    exact .bind (textOf_fails _ hc) fun _ _ => .bind (textOf_fails _ hc) fun _ _ => .pure _

theorem overridesOf_fails (hc : Covers long cx.table entries) :
    FailsWith (IsEntryFault long) (overridesOf cx entries) := by
  simp only [overridesOf]
  split
  · exact .ok _
  · rename_i v hv
    split
    · exact .error (isEntryFault_settings _)
    · rename_i items hitems
      exact .mapM fun w hw => overrideOf_fails fun hlong =>
        hc.of_lookup hv (holdsLongIn_of_items hitems hw hlong)

theorem discordOfEntries_fails (hc : Covers long cx.table entries) :
    FailsWith (IsEntryFault long) (discordOfEntries cx entries) :=
  .bind (overridesOf_fails hc) fun _ _ => .bind (textOf_fails _ hc) fun _ _ =>
    .bind (textOf_fails _ hc) fun _ _ => .bind (defaultAlertOf_fails hc) fun _ _ =>
      .ite (.pure _) (.error (isEntryFault_settings _))

/-! ## Documents -/

theorem alertingEntries_ends {top : List (Value × Value)} (hc : Covers long table top) :
    Ends (IsEntryFault long) (Covers long table) (alertingEntries table top) := by
  simp only [alertingEntries]
  split
  · exact .ok (by simp [Covers])
  · rename_i v hv
    split
    · exact .error (isEntryFault_settings _)
    · rename_i entries hentries
      exact .ok (.of_entries (hc.of_lookup hv) hentries)

theorem discordEntries_ends {alerting : List (Value × Value)}
    (hc : Covers long table alerting) :
    Ends (IsEntryFault long) (fun r => Covers long table (r.getD []))
      (discordEntries table alerting) := by
  simp only [discordEntries]
  split
  · exact .ok (by simp [Covers])
  · rename_i v hv
    split
    · exact .error (isEntryFault_settings _)
    · rename_i entries hentries
      exact .ok (.of_entries (hc.of_given hv) hentries)

theorem discordSettings_fails (env : Environment) {top : List (Value × Value)}
    (hc : Covers long cx.table top) (htable : (∃ p ∈ cx.table, p.2.HoldsLong) → long) :
    FailsWith (IsEntryFault long) (discordSettings env cx top) := by
  have halerting := alertingEntries_ends hc
  refine .bind halerting.1 fun alerting hok => ?_
  have hdiscord := discordEntries_ends (halerting.2 alerting hok)
  refine .bind hdiscord.1 fun entries hok => .ite (.map ?_) (.pure _)
  exact discordOfEntries_fails (((hdiscord.2 entries hok).overlay htable).overlay htable)

theorem logLevelNamed_fails (name : Spelled) :
    FailsWith (IsEntryFault long) (logLevelNamed name) := by
  simp only [logLevelNamed]
  split
  · exact .ok _
  · exact .error (isEntryFault_settings _)

/-- Entries are refused with a fault of the settings, or for an integer in them that is
too long. -/
theorem ofEntries_fails (cx : Value.Context) (env : Environment) {top : List (Value × Value)}
    (hc : Covers long cx.table top) (htable : (∃ p ∈ cx.table, p.2.HoldsLong) → long) :
    FailsWith (IsEntryFault long) (ofEntries env cx top) :=
  .bind (discordSettings_fails env hc htable) fun _ _ =>
    .bind (.bind (textOf_fails _ hc) fun _ _ => .pure _) fun _ _ =>
      .bind (logLevelNamed_fails _) fun _ _ => .pure _

theorem documentEntries_ends (path : Spelled) (doc : Document) :
    Ends LoadFault.IsReported
      (fun r => Covers (doc.root.HoldsLongIn doc.table) r.2 r.1 ∧
        ((∃ p ∈ r.2, p.2.HoldsLong) → doc.root.HoldsLongIn doc.table))
      (documentEntries path doc) := by
  simp only [documentEntries]
  split
  · exact .ok ⟨by simp [Covers], by simp⟩
  · split
    · exact .error ⟨_, rfl⟩
    · rename_i entries hentries
      exact .ok ⟨.of_entries id hentries, .inr⟩

end AlertRelay.Settings
