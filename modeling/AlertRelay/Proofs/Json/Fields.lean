import Mathlib.Data.List.Basic
import AlertRelay.Json.Basic

/-!
# Fields that are set

Setting fields one after the other is a merge: every key keeps the place where it was first
named and has the value that it was last given.
-/

namespace AlertRelay.Json

variable {κ α β : Type} [DecidableEq κ]

/-! ## One field -/

theorem lookup_setField (key name : κ) (value : α) (fields : List (κ × α)) :
    (setField key value fields).lookup name =
      if name = key then some value else fields.lookup name := by
  by_cases hn : name = key
  · subst hn
    induction fields with
    | nil => simp [setField]
    | cons field fields ih =>
        obtain ⟨k, v⟩ := field
        by_cases hk : k = name
        · simp [setField, hk]
        · have hne : (name == k) = false := by simpa using Ne.symm hk
          simpa [setField, hk, List.lookup_cons, hne] using ih
  · have hne : (name == key) = false := by simpa using hn
    induction fields with
    | nil => simp [setField, List.lookup_cons, hn, hne]
    | cons field fields ih =>
        obtain ⟨k, v⟩ := field
        by_cases hk : k = key
        · simp [setField, hk, List.lookup_cons, hn, hne]
        · cases hname : name == k <;> simp_all [setField, List.lookup_cons]

theorem setField_eq_self {key : κ} {value : α} {fields : List (κ × α)}
    (h : fields.lookup key = some value) : setField key value fields = fields := by
  induction fields with
  | nil => simp at h
  | cons field fields ih =>
      obtain ⟨k, v⟩ := field
      by_cases hk : k = key
      · have hv : v = value := by simpa [List.lookup_cons, hk] using h
        simp [setField, hk, hv]
      · have hne : (key == k) = false := by simpa using Ne.symm hk
        have hrest : fields.lookup key = some value := by simpa [List.lookup_cons, hne] using h
        simp [setField, hk, ih hrest]

theorem keys_setField_of_mem {key : κ} {fields : List (κ × α)} (value : α)
    (h : key ∈ fields.map Prod.fst) :
    (setField key value fields).map Prod.fst = fields.map Prod.fst := by
  induction fields with
  | nil => simp at h
  | cons field fields ih =>
      obtain ⟨k, v⟩ := field
      by_cases hk : k = key
      · simp [setField, hk]
      · have hrest : key ∈ fields.map Prod.fst := by
          rw [List.map_cons, List.mem_cons] at h
          exact h.resolve_left (Ne.symm hk)
        simp [setField, hk, ih hrest]

theorem setField_of_not_mem {key : κ} {fields : List (κ × α)} (value : α)
    (h : key ∉ fields.map Prod.fst) : setField key value fields = fields ++ [(key, value)] := by
  induction fields with
  | nil => rfl
  | cons field fields ih =>
      obtain ⟨k, v⟩ := field
      rw [List.map_cons, List.mem_cons, not_or] at h
      simp [setField, Ne.symm h.1, ih h.2]

theorem lookup_map (g : α → β) (name : κ) (fields : List (κ × α)) :
    (fields.map fun (key, value) => (key, g value)).lookup name = (fields.lookup name).map g := by
  induction fields with
  | nil => rfl
  | cons field fields ih =>
      obtain ⟨key, value⟩ := field
      simp only [List.map_cons, List.lookup_cons]
      cases name == key <;> simp [ih]

theorem setField_map (g : α → β) (name : κ) (value : α) (fields : List (κ × α)) :
    setField name (g value) (fields.map fun (key, value) => (key, g value)) =
      (setField name value fields).map fun (key, value) => (key, g value) := by
  induction fields with
  | nil => rfl
  | cons field fields ih =>
      obtain ⟨key, old⟩ := field
      by_cases hkey : key = name <;> simp_all [setField]

theorem mem_of_lookup {key : κ} {value : α} {fields : List (κ × α)}
    (h : fields.lookup key = some value) : (key, value) ∈ fields := by
  obtain ⟨before, after, hsplit, -⟩ := List.lookup_eq_some_iff.mp h
  rw [hsplit]
  simp

theorem filter_of_keys {names : List κ} {fields : List (κ × α)}
    (h : ∀ field ∈ fields, field.1 ∉ names) :
    fields.filter (fun (key, _) => !names.contains key) = fields := by
  rw [List.filter_eq_self]
  intro field hfield
  simpa using h field hfield

/-! ## Distinct keys -/

theorem lookup_of_not_mem {key : κ} {fields : List (κ × α)}
    (h : key ∉ fields.map Prod.fst) : fields.lookup key = none := by
  rw [List.lookup_eq_none_iff]
  intro field hfield
  rw [bne_iff_ne]
  rintro rfl
  exact h (List.mem_map_of_mem hfield)

theorem lookup_of_mem {fields : List (κ × α)} (h : (fields.map Prod.fst).Nodup)
    {field : κ × α} (hfield : field ∈ fields) : fields.lookup field.1 = some field.2 := by
  obtain ⟨before, after, rfl⟩ := List.append_of_mem hfield
  rw [List.map_append, List.map_cons, List.nodup_append] at h
  obtain ⟨-, -, hdisjoint⟩ := h
  rw [List.lookup_eq_some_iff]
  refine ⟨before, after, rfl, fun other hother => ?_⟩
  have hne := hdisjoint other.1 (List.mem_map_of_mem hother) field.1 (by simp)
  simpa using Ne.symm hne

theorem lookup_perm {fields others : List (κ × α)} (h : (fields.map Prod.fst).Nodup)
    (hperm : fields.Perm others) (key : κ) : fields.lookup key = others.lookup key := by
  have h' : (others.map Prod.fst).Nodup := (hperm.map Prod.fst).nodup_iff.mp h
  by_cases hkey : key ∈ fields.map Prod.fst
  · obtain ⟨field, hfield, rfl⟩ := List.mem_map.mp hkey
    rw [lookup_of_mem h hfield, lookup_of_mem h' (hperm.mem_iff.mp hfield)]
  · rw [lookup_of_not_mem hkey, lookup_of_not_mem (mt (hperm.map Prod.fst).mem_iff.mpr hkey)]

theorem eq_of_lookups {fields others : List (κ × α)} (hnodup : (fields.map Prod.fst).Nodup)
    (hkeys : fields.map Prod.fst = others.map Prod.fst)
    (hvalues : ∀ key, fields.lookup key = others.lookup key) : fields = others := by
  induction fields generalizing others with
  | nil => exact (List.map_eq_nil_iff.mp hkeys.symm).symm
  | cons field fields ih =>
      cases others with
      | nil => simp at hkeys
      | cons other others =>
          obtain ⟨key, v⟩ := field
          obtain ⟨key', w⟩ := other
          rw [List.map_cons, List.map_cons, List.cons.injEq] at hkeys
          obtain ⟨rfl, hrest⟩ := hkeys
          rw [List.map_cons, List.nodup_cons] at hnodup
          obtain rfl : v = w := by simpa using hvalues key
          have hsame (name : κ) : fields.lookup name = others.lookup name := by
            by_cases hname : name = key
            · rw [hname, lookup_of_not_mem hnodup.1, lookup_of_not_mem (hrest ▸ hnodup.1)]
            · have hne : (name == key) = false := by simpa using hname
              simpa [List.lookup_cons, hne] using hvalues name
          rw [ih hnodup.2 hrest hsame]

theorem setFields_of_nodup {fields updates : List (κ × α)}
    (h : ((fields ++ updates).map Prod.fst).Nodup) :
    setFields fields updates = fields ++ updates := by
  induction updates generalizing fields with
  | nil => simp [setFields]
  | cons update updates ih =>
      have hnew : update.1 ∉ fields.map Prod.fst := by
        rw [List.map_append, List.nodup_append] at h
        exact fun hmem => h.2.2 _ hmem _ (by simp) rfl
      have hnext := @ih (fields ++ [update]) (by simpa using h)
      rw [List.append_assoc, List.singleton_append] at hnext
      rw [← hnext, ← setField_of_not_mem update.2 hnew]
      rfl

/-! ## First mentions -/

theorem nodup_eraseDups (keys : List κ) : keys.eraseDups.Nodup := by
  match keys with
  | [] => simp
  | key :: keys =>
      rw [List.eraseDups_cons, List.nodup_cons, List.mem_eraseDups]
      exact ⟨by simp, nodup_eraseDups _⟩
termination_by keys.length
decreasing_by exact Nat.lt_succ_of_le (List.length_filter_le _ _)

theorem eraseDups_filter_eraseDups (p : κ → Bool) (keys : List κ) :
    (keys.eraseDups.filter p).eraseDups = (keys.filter p).eraseDups := by
  match keys with
  | [] => simp
  | key :: keys =>
      have ih (q : κ → Bool) := eraseDups_filter_eraseDups q
        (keys.filter fun k => !k == key)
      rw [List.eraseDups_cons]
      by_cases hp : p key
      · have hcomm : (fun k => (!k == key) && p k) = fun k => p k && !k == key := by
          funext k
          exact Bool.and_comm _ _
        rw [List.filter_cons_of_pos hp, List.filter_cons_of_pos hp, List.eraseDups_cons,
          List.eraseDups_cons, List.filter_filter, List.filter_filter, hcomm, ih,
          List.filter_filter]
        congr 3
        funext k
        cases p k <;> cases k == key <;> rfl
      · have hsame : (fun k => p k && !k == key) = p := by
          funext k
          cases hk : k == key with
          | false => simp
          | true => simp [eq_of_beq hk, hp]
        rw [List.filter_cons_of_neg hp, List.filter_cons_of_neg hp, ih, List.filter_filter, hsame]
termination_by keys.length
decreasing_by exact Nat.lt_succ_of_le (List.length_filter_le _ _)

theorem eraseDups_append_eraseDups (before keys : List κ) :
    (before ++ keys.eraseDups).eraseDups = (before ++ keys).eraseDups := by
  rw [List.eraseDups_append, List.eraseDups_append, List.removeAll, List.removeAll,
    eraseDups_filter_eraseDups]

theorem eraseDups_append_of_mem {keys : List κ} {key : κ} (h : key ∈ keys) :
    (keys ++ [key]).eraseDups = keys.eraseDups := by
  have hdrop : [key].removeAll keys = [] := by
    rw [List.removeAll, List.filter_cons_of_neg (by simpa using h), List.filter_nil]
  rw [List.eraseDups_append, hdrop, List.eraseDups_nil, List.append_nil]

theorem eraseDups_append_of_not_mem {keys : List κ} {key : κ} (h : key ∉ keys) :
    (keys ++ [key]).eraseDups = keys.eraseDups ++ [key] := by
  have hkeep : [key].removeAll keys = [key] := by
    rw [List.removeAll, List.filter_cons_of_pos (by simpa using h), List.filter_nil]
  rw [List.eraseDups_append, hkeep]
  rfl

theorem removeAll_congr {keys others : List κ} (h : ∀ key, key ∈ keys ↔ key ∈ others)
    (l : List κ) : l.removeAll keys = l.removeAll others := by
  have helem (key : κ) : List.elem key keys = List.elem key others := by
    rw [Bool.eq_iff_iff, List.elem_iff, List.elem_iff]
    exact h key
  simp only [List.removeAll, helem]

/-! ## Merges -/

/-- Whether fields are what sources are merged to: the keys in the order of their first
mentions, each with its last value. -/
structure IsMerge (sources fields : List (κ × α)) : Prop where
  keys : fields.map Prod.fst = (sources.map Prod.fst).eraseDups
  values : ∀ key, fields.lookup key = sources.reverse.lookup key

variable {sources fields : List (κ × α)}

theorem IsMerge.mem_keys (h : IsMerge sources fields) (key : κ) :
    key ∈ fields.map Prod.fst ↔ key ∈ sources.map Prod.fst := by
  rw [h.keys, List.mem_eraseDups]

theorem IsMerge.setField (h : IsMerge sources fields) (key : κ) (value : α) :
    IsMerge (sources ++ [(key, value)]) (setField key value fields) := by
  constructor
  · rw [List.map_append, List.map_singleton]
    by_cases hkey : key ∈ sources.map Prod.fst
    · rw [eraseDups_append_of_mem hkey, ← h.keys,
        keys_setField_of_mem value ((h.mem_keys key).mpr hkey)]
    · rw [eraseDups_append_of_not_mem hkey, ← h.keys,
        setField_of_not_mem value (mt (h.mem_keys key).mp hkey), List.map_append,
        List.map_singleton]
  · intro name
    rw [lookup_setField, h.values, List.reverse_append, List.reverse_singleton,
      List.singleton_append, List.lookup_cons]
    by_cases hname : name = key
    · simp [hname]
    · have hne : (name == key) = false := by simpa using hname
      simp [hname, hne]

theorem IsMerge.setFields (h : IsMerge sources fields) (updates : List (κ × α)) :
    IsMerge (sources ++ updates) (setFields fields updates) := by
  induction updates generalizing sources fields with
  | nil => rwa [List.append_nil]
  | cons update updates ih =>
      have hrest := ih (h.setField update.1 update.2)
      rwa [List.append_assoc] at hrest

theorem isMerge_setFields (updates : List (κ × α)) :
    IsMerge updates (Json.setFields [] updates) :=
  have hempty : IsMerge ([] : List (κ × α)) [] := ⟨rfl, fun _ => rfl⟩
  hempty.setFields updates

theorem IsMerge.nodup (h : IsMerge sources fields) : (fields.map Prod.fst).Nodup := by
  rw [h.keys]
  exact nodup_eraseDups _

/-- A merge has no field of its own. -/
theorem IsMerge.mem_sources (h : IsMerge sources fields) {field : κ × α}
    (hfield : field ∈ fields) : field ∈ sources := by
  have hlookup := lookup_of_mem h.nodup hfield
  rw [h.values] at hlookup
  exact List.mem_reverse.mp (mem_of_lookup hlookup)

/-- There is only one merge of the same sources. -/
theorem IsMerge.unique {others : List (κ × α)} (h : IsMerge sources fields)
    (h' : IsMerge sources others) : fields = others :=
  eq_of_lookups h.nodup (h.keys.trans h'.keys.symm) fun key =>
    (h.values key).trans (h'.values key).symm

/-- A part of the sources may have been merged by itself before. -/
theorem IsMerge.of_merged {before part merged after : List (κ × α)}
    (hpart : IsMerge part merged) (h : IsMerge (before ++ merged ++ after) fields) :
    IsMerge (before ++ part ++ after) fields := by
  constructor
  · have hsplit (keys : List κ) : (keys ++ after.map Prod.fst).eraseDups =
        keys.eraseDups ++ ((after.map Prod.fst).removeAll keys).eraseDups :=
      List.eraseDups_append
    have hmem (key : κ) : key ∈ before.map Prod.fst ++ (part.map Prod.fst).eraseDups ↔
        key ∈ before.map Prod.fst ++ part.map Prod.fst := by
      rw [List.mem_append, List.mem_append, List.mem_eraseDups]
    rw [h.keys, List.map_append, List.map_append, List.map_append, List.map_append, hpart.keys,
      hsplit, hsplit, eraseDups_append_eraseDups, removeAll_congr hmem]
  · have hreverse (key : κ) : merged.reverse.lookup key = merged.lookup key :=
      (lookup_perm hpart.nodup (List.reverse_perm merged).symm key).symm
    intro key
    rw [h.values]
    simp only [List.reverse_append, List.lookup_append, hreverse, hpart.values]

end AlertRelay.Json
