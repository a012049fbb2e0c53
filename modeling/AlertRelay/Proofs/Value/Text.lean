import AlertRelay.Value.Text

/-!
# Values without a text

A value has no text only if an integer in it is too long to be written.
-/

namespace AlertRelay.Value

open AlertRelay.Number

/-- A value with a property stands in a value. -/
inductive Holds (P : Value → Prop) : Value → Prop where
  | self {v : Value} (h : P v) : Holds P v
  | item {v : Value} {items : List Value} (hv : v ∈ items) (h : Holds P v) :
      Holds P (list items)
  | first {k v : Value} (h : Holds P k) : Holds P (pair k v)
  | second {k v : Value} (h : Holds P v) : Holds P (pair k v)
  | member {m : Value} {members : List Value} (hm : m ∈ members) (h : Holds P m) :
      Holds P (set members)
  | key {e : Value × Value} {entries : List (Value × Value)} (he : e ∈ entries)
      (h : Holds P e.1) : Holds P (mapping entries)
  | value {e : Value × Value} {entries : List (Value × Value)} (he : e ∈ entries)
      (h : Holds P e.2) : Holds P (mapping entries)

/-- Such a value stands in a value or in a shared container. -/
def HoldsIn (P : Value → Prop) (table : SharedTable) (v : Value) : Prop :=
  v.Holds P ∨ ∃ p ∈ table, p.2.Holds P

/-- Whether a value is an integer that is too long to be written. -/
def IsLong (v : Value) : Prop := ∃ i, v = int i ∧ isWritable i = false

abbrev HoldsLong (v : Value) : Prop := v.Holds IsLong

abbrev HoldsLongIn (table : SharedTable) (v : Value) : Prop := v.HoldsIn IsLong table

/-- What stands behind a reference stands in a shared container. -/
theorem Holds.of_resolved {P : Value → Prop} (hnull : ¬P null) {table : SharedTable} {v : Value}
    (h : (v.resolved table).Holds P) : v.HoldsIn P table := by
  cases v with
  | shared n =>
      simp only [resolved] at h
      cases hn : table.lookup n with
      | none =>
          rw [hn] at h
          cases h with
          | self hself => exact absurd hself hnull
      | some w =>
          rw [hn] at h
          obtain ⟨before, after, rfl, -⟩ := List.lookup_eq_some_iff.mp hn
          exact .inr ⟨(n, w), by simp, h⟩
  | _ => exact .inl h

/-! ## Literals -/

variable {residues : Residues} {ofShared : Nat → Option String}

theorem bind_eq_none {x : Option α} {f : α → Option β} :
    x >>= f = none ↔ x = none ∨ ∃ a, x = some a ∧ f a = none := by
  cases x <;> simp

mutual

theorem literalWith_eq_none {v : Value} (h : literalWith residues ofShared v = none) :
    HoldsLong v ∨ ∃ n, ofShared n = none := by
  cases v with
  | int i =>
      simp only [literalWith, integerText?] at h
      split at h
      · simp at h
      · rename_i hlong
        exact .inl (.self ⟨i, rfl, by simpa using hlong⟩)
  | list items =>
      simp only [literalWith, bind_eq_none] at h
      obtain hitems | ⟨s, -, hpure⟩ := h
      · exact (literalsWith_eq_none hitems).imp_left fun ⟨v, hv, hlong⟩ => .item hv hlong
      · simp at hpure
  | pair k v =>
      simp only [literalWith, bind_eq_none] at h
      obtain hk | ⟨s, -, hv | ⟨t, -, hpure⟩⟩ := h
      · exact (literalWith_eq_none hk).imp_left .first
      · exact (literalWith_eq_none hv).imp_left .second
      · simp at hpure
  | set members =>
      simp only [literalWith, bind_eq_none] at h
      obtain hmembers | ⟨s, -, hpure⟩ := h
      · exact (literalsWith_eq_none hmembers).imp_left fun ⟨m, hm, hlong⟩ => .member hm hlong
      · simp at hpure
  | mapping entries =>
      simp only [literalWith, bind_eq_none] at h
      obtain hentries | ⟨s, -, hpure⟩ := h
      · exact (entriesWith_eq_none hentries).imp_left
          fun ⟨e, he, hlong⟩ => hlong.elim (.key he) (.value he)
      · simp at hpure
  | shared n => exact .inr ⟨n, h⟩
  | null => simp [literalWith] at h
  | bool b => simp [literalWith] at h
  | float x => simp [literalWith] at h
  | stray n => simp [literalWith] at h
  | text s => simp [literalWith] at h
  | bytes bs => simp [literalWith] at h
  | date d => simp [literalWith] at h
  | timestamp t => simp [literalWith] at h

theorem literalsWith_eq_none {items : List Value}
    (h : literalsWith residues ofShared items = none) :
    (∃ v ∈ items, HoldsLong v) ∨ ∃ n, ofShared n = none := by
  cases items with
  | nil => simp [literalsWith] at h
  | cons v rest =>
      simp only [literalsWith, bind_eq_none] at h
      obtain hv | ⟨s, -, hrest | ⟨t, -, hpure⟩⟩ := h
      · exact (literalWith_eq_none hv).imp_left fun hlong => ⟨v, by simp, hlong⟩
      · exact (literalsWith_eq_none hrest).imp_left fun ⟨w, hw, hlong⟩ =>
          ⟨w, by simp [hw], hlong⟩
      · simp at hpure

theorem entriesWith_eq_none {entries : List (Value × Value)}
    (h : entriesWith residues ofShared entries = none) :
    (∃ e ∈ entries, HoldsLong e.1 ∨ HoldsLong e.2) ∨ ∃ n, ofShared n = none := by
  cases entries with
  | nil => simp [entriesWith] at h
  | cons e rest =>
      simp only [entriesWith, bind_eq_none] at h
      obtain hk | ⟨s, -, hv | ⟨t, -, hrest | ⟨u, -, hpure⟩⟩⟩ := h
      · exact (literalWith_eq_none hk).imp_left fun hlong => ⟨e, by simp, .inl hlong⟩
      · exact (literalWith_eq_none hv).imp_left fun hlong => ⟨e, by simp, .inr hlong⟩
      · exact (entriesWith_eq_none hrest).imp_left fun ⟨w, hw, hlong⟩ =>
          ⟨w, by simp [hw], hlong⟩
      · simp at hpure

end

theorem holdsLong_resolved {table : SharedTable} {v : Value}
    (h : (v.resolved table).HoldsLong) : v.HoldsLongIn table :=
  Holds.of_resolved (by simp [IsLong]) h

theorem sharedLiteral_eq_none {cx : Context} {depth : Nat} {inside : List Nat} {n : Nat}
    (h : sharedLiteral cx depth inside n = none) : ∃ p ∈ cx.table, HoldsLong p.2 := by
  induction depth generalizing inside n with
  | zero => simp [sharedLiteral] at h
  | succ depth ih =>
      simp only [sharedLiteral] at h
      split at h
      · simp at h
      · rcases literalWith_eq_none h with hlong | ⟨m, hm⟩
        · rcases holdsLong_resolved hlong with hshared | htable
          · cases hshared with
            | self hself => simp [IsLong] at hself
          · exact htable
        · exact ih hm

theorem literal?_eq_none {cx : Context} {v : Value} (h : v.literal? cx = none) :
    HoldsLongIn cx.table v :=
  (literalWith_eq_none h).imp_right fun ⟨_, hn⟩ => sharedLiteral_eq_none hn

/-- A value without a display text holds an integer that is too long. -/
theorem display?_eq_none {cx : Context} {v : Value} (h : v.display? cx = none) :
    HoldsLongIn cx.table v := by
  simp only [display?] at h
  split at h
  · simp at h
  · simp at h
  · simp at h
  · exact literal?_eq_none (by simpa using h)

end AlertRelay.Value
