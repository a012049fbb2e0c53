import AlertRelay.Proofs.Settings.Loading
import AlertRelay.Proofs.Text.Spelled

/-!
# Entries of a mapping

What is found under a name, and how setting an entry changes it.
-/

namespace AlertRelay

open AlertRelay.Text

namespace Value

theorem sameKey_text_iff {k : Value} {s : Spelled} : k.sameKey (text s) = true ↔ k = text s := by
  cases k with
  | float x => cases x <;> simp [sameKey, asInt?]
  | _ => simp [sameKey, asInt?]

theorem lookup_setEntry (key name : String) (v : Value) (entries : List (Value × Value)) :
    lookup name (setEntry (text (.whole key)) v entries) =
      if name = key then some v else lookup name entries := by
  induction entries with
  | nil =>
      by_cases hname : name = key
      · simp [setEntry, lookup, sameKey, hname]
      · simp [setEntry, lookup, sameKey, hname, Ne.symm hname]
  | cons entry entries ih =>
      obtain ⟨k, w⟩ := entry
      simp only [setEntry]
      by_cases hk : k.sameKey (text (.whole key)) = true
      · obtain rfl := sameKey_text_iff.mp hk
        by_cases hname : name = key
        · simp [lookup, sameKey, hname]
        · simp [lookup, sameKey, hname, Ne.symm hname]
      · rw [if_neg hk]
        by_cases hhead : k.sameKey (text (.whole name)) = true
        · have hname : name ≠ key := by
            rintro rfl
            exact hk hhead
          simp [lookup, hhead, hname]
        · simpa [lookup, hhead] using ih

end Value

namespace Settings

variable {table : SharedTable} {entries entries' : List (Value × Value)}

theorem lookup_overlay (key name : String) (value : Option Spelled)
    (entries : List (Value × Value)) :
    Value.lookup name (overlay key value entries) =
      if name = key then value.map .text <|> Value.lookup name entries
      else Value.lookup name entries := by
  cases value with
  | none => simp [overlay]
  | some s =>
      rw [overlay, Value.lookup_setEntry]
      simp

theorem isEmpty_overlay (key : String) (value : Option Spelled)
    (entries : List (Value × Value)) :
    (overlay key value entries).isEmpty = (value.isNone && entries.isEmpty) := by
  cases value with
  | none => simp [overlay]
  | some s =>
      cases entries with
      | nil => rfl
      | cons entry entries =>
          obtain ⟨k, v⟩ := entry
          simp only [overlay, Value.setEntry]
          split <;> simp

theorem given?_eq_some_iff {key : String} {v : Value} :
    given? key entries = some v ↔ Value.lookup key entries = some v ∧ v ≠ .null := by
  cases hw : Value.lookup key entries with
  | none => simp [given?, hw]
  | some w =>
      by_cases hnull : w = .null
      · subst hnull
        simp only [given?, hw]
        constructor
        · simp
        · rintro ⟨hv, hne⟩
          exact absurd (Option.some.inj hv).symm hne
      · have hgiven : given? key entries = some w := by
          cases w <;> simp_all [given?]
        rw [hgiven]
        constructor
        · intro hv
          exact ⟨hv, Option.some.inj hv ▸ hnull⟩
        · exact And.left

theorem given?_eq_none_iff {key : String} :
    given? key entries = none ↔
      Value.lookup key entries = none ∨ Value.lookup key entries = some .null := by
  cases hw : Value.lookup key entries with
  | none => simp [given?, hw]
  | some w => cases w <;> simp [given?, hw]

theorem given?_congr {key : String} (h : Value.lookup key entries = Value.lookup key entries') :
    given? key entries = given? key entries' := by
  simp only [given?, h]

theorem entries?_of_isBlank {v : Value} (hblank : v.isBlank = true)
    (h : v.entries? table = some entries) : entries = [] := by
  cases v <;> simp_all [Value.isBlank, Value.entries?, Value.resolved]

end Settings

end AlertRelay
