import AlertRelay.Proofs.Value.Text

/-!
# Literals in different processes

Each process draws for itself in which order it shows some sets.  Nothing else in a
literal depends on the process: whether there is one, whether it opens with a bracket, and
all of it if no such set stands in the value.
-/

namespace AlertRelay.Value

variable {residues residues' : Residues} {ofShared ofShared' : Nat → Option String}
  {table : SharedTable}

/-- Whether a value is a set with a member whose place is drawn. -/
def IsDrawn (v : Value) : Prop := ∃ members, v = set members ∧ ∃ m ∈ members, residue? m = none

theorem residueIn_congr {m : Value} (h : residue? m ≠ none) :
    residueIn residues m = residueIn residues' m := by
  obtain ⟨i, hi⟩ := Option.ne_none_iff_exists'.mp h
  simp only [residueIn, hi, Option.getD_some]

/-! ## Values without such sets -/

mutual

theorem literalWith_congr {v : Value} (h : ¬v.Holds IsDrawn) :
    literalWith residues ofShared v = literalWith residues' ofShared v := by
  cases v with
  | list items =>
      have hitems := literalsWith_congr fun v hv hdrawn => h (.item hv hdrawn)
      simp only [literalWith, hitems]
  | pair k v =>
      have hk := literalWith_congr fun hdrawn => h (.first hdrawn)
      have hv := literalWith_congr fun hdrawn => h (.second hdrawn)
      simp only [literalWith, hk, hv]
  | set members =>
      have hmembers := literalsWith_congr fun m hm hdrawn => h (.member hm hdrawn)
      have hplaces : members.map (residueIn residues) = members.map (residueIn residues') :=
        List.map_congr_left fun m hm =>
          residueIn_congr fun hnone => h (.self ⟨members, rfl, m, hm, hnone⟩)
      simp only [literalWith, hmembers, setLiteral, hplaces]
  | mapping entries =>
      have hentries := entriesWith_congr fun e he =>
          ⟨fun hdrawn => h (.key he hdrawn), fun hdrawn => h (.value he hdrawn)⟩
      simp only [literalWith, hentries]
  | _ => rfl

theorem literalsWith_congr {items : List Value} (h : ∀ v ∈ items, ¬v.Holds IsDrawn) :
    literalsWith residues ofShared items = literalsWith residues' ofShared items := by
  cases items with
  | nil => rfl
  | cons v rest =>
      obtain ⟨hv, hrest⟩ := List.forall_mem_cons.mp h
      simp only [literalsWith, literalWith_congr hv, literalsWith_congr hrest]

theorem entriesWith_congr {entries : List (Value × Value)}
    (h : ∀ e ∈ entries, ¬e.1.Holds IsDrawn ∧ ¬e.2.Holds IsDrawn) :
    entriesWith residues ofShared entries = entriesWith residues' ofShared entries := by
  cases entries with
  | nil => rfl
  | cons e rest =>
      obtain ⟨⟨hk, hv⟩, hrest⟩ := List.forall_mem_cons.mp h
      simp only [entriesWith, literalWith_congr hk, literalWith_congr hv, entriesWith_congr hrest]

end

theorem sharedLiteral_congr (residues residues' : Residues)
    (htable : ∀ p ∈ table, ¬p.2.Holds IsDrawn) (depth : Nat) (inside : List Nat) (n : Nat) :
    sharedLiteral ⟨table, residues⟩ depth inside n =
      sharedLiteral ⟨table, residues'⟩ depth inside n := by
  induction depth generalizing inside n with
  | zero => rfl
  | succ depth ih =>
      have hcontainer : ¬((shared n).resolved table).Holds IsDrawn := by
        intro hdrawn
        rcases hdrawn.of_resolved (by simp [IsDrawn]) with hshared | ⟨p, hp, hdrawn⟩
        · cases hshared with
          | self hself => simp [IsDrawn] at hself
        · exact htable p hp hdrawn
      simp only [sharedLiteral, funext (ih (n :: inside))]
      split
      · rfl
      · exact literalWith_congr hcontainer

theorem literal?_congr (residues residues' : Residues) {v : Value}
    (h : ¬v.HoldsIn IsDrawn table) :
    v.literal? ⟨table, residues⟩ = v.literal? ⟨table, residues'⟩ := by
  obtain ⟨hv, htable⟩ := not_or.mp h
  have hshared := sharedLiteral_congr residues residues'
    (fun p hp hdrawn => htable ⟨p, hp, hdrawn⟩) (table.length + 1) []
  simp only [literal?, funext hshared]
  exact literalWith_congr hv

/-! ## Which values have a literal -/

theorem isSome_bind_congr {x y : Option α} {f g : α → Option β} (hx : x.isSome = y.isSome)
    (hf : ∀ a b, (f a).isSome = (g b).isSome) : (x >>= f).isSome = (y >>= g).isSome := by
  cases x with
  | none =>
      cases y with
      | none => rfl
      | some b => simp at hx
  | some a =>
      cases y with
      | none => simp at hx
      | some b => exact hf a b

mutual

theorem isSome_literalWith (hshared : ∀ n, (ofShared n).isSome = (ofShared' n).isSome)
    (v : Value) :
    (literalWith residues ofShared v).isSome = (literalWith residues' ofShared' v).isSome := by
  cases v with
  | list items =>
      simp only [literalWith]
      exact isSome_bind_congr (isSome_literalsWith hshared items) fun _ _ => rfl
  | pair k v =>
      simp only [literalWith]
      exact isSome_bind_congr (isSome_literalWith hshared k) fun _ _ =>
        isSome_bind_congr (isSome_literalWith hshared v) fun _ _ => rfl
  | set members =>
      simp only [literalWith]
      exact isSome_bind_congr (isSome_literalsWith hshared members) fun _ _ => rfl
  | mapping entries =>
      simp only [literalWith]
      exact isSome_bind_congr (isSome_entriesWith hshared entries) fun _ _ => rfl
  | shared n => exact hshared n
  | _ => rfl

theorem isSome_literalsWith (hshared : ∀ n, (ofShared n).isSome = (ofShared' n).isSome)
    (items : List Value) :
    (literalsWith residues ofShared items).isSome =
      (literalsWith residues' ofShared' items).isSome := by
  cases items with
  | nil => rfl
  | cons v rest =>
      simp only [literalsWith]
      exact isSome_bind_congr (isSome_literalWith hshared v) fun _ _ =>
        isSome_bind_congr (isSome_literalsWith hshared rest) fun _ _ => rfl

theorem isSome_entriesWith (hshared : ∀ n, (ofShared n).isSome = (ofShared' n).isSome)
    (entries : List (Value × Value)) :
    (entriesWith residues ofShared entries).isSome =
      (entriesWith residues' ofShared' entries).isSome := by
  cases entries with
  | nil => rfl
  | cons e rest =>
      simp only [entriesWith]
      exact isSome_bind_congr (isSome_literalWith hshared e.1) fun _ _ =>
        isSome_bind_congr (isSome_literalWith hshared e.2) fun _ _ =>
          isSome_bind_congr (isSome_entriesWith hshared rest) fun _ _ => rfl

end

theorem isSome_sharedLiteral (depth : Nat) (inside : List Nat) (n : Nat) :
    (sharedLiteral ⟨table, residues⟩ depth inside n).isSome =
      (sharedLiteral ⟨table, residues'⟩ depth inside n).isSome := by
  induction depth generalizing inside n with
  | zero => rfl
  | succ depth ih =>
      simp only [sharedLiteral]
      split
      · rfl
      · exact isSome_literalWith (ih (n :: inside)) _

theorem isSome_literal? (table : SharedTable) (residues residues' : Residues) (v : Value) :
    (v.literal? ⟨table, residues⟩).isSome = (v.literal? ⟨table, residues'⟩).isSome :=
  isSome_literalWith (isSome_sharedLiteral (table.length + 1) []) v

/-! ## How literals open -/

/-- Whether a text opens with a bracket. -/
def Opens (text : String) : Prop := ∃ c rest, text.toList = c :: rest ∧ c ∈ ['[', '(', '\x7b']

/-- Two literals are one, or both open with a bracket. -/
def OpenAlike (x y : Option String) : Prop :=
  ∀ s t, x = some s → y = some t → s = t ∨ Opens s ∧ Opens t

theorem OpenAlike.refl (x : Option String) : OpenAlike x x := by
  intro s t hs ht
  exact .inl (Option.some.inj (hs.symm.trans ht))

theorem openAlike_bind {x y : Option α} {f g : α → Option String}
    (hf : ∀ a s, x = some a → f a = some s → Opens s)
    (hg : ∀ a s, y = some a → g a = some s → Opens s) : OpenAlike (x >>= f) (y >>= g) := by
  intro s t hs ht
  obtain ⟨a, ha, hs⟩ := Option.bind_eq_some_iff.mp hs
  obtain ⟨b, hb, ht⟩ := Option.bind_eq_some_iff.mp ht
  exact .inr ⟨hf a s ha hs, hg b t hb ht⟩

theorem opens_list (text : String) : Opens ("[" ++ text) := ⟨'[', text.toList, by simp, by simp⟩

theorem opens_pair (text : String) : Opens ("(" ++ text) := ⟨'(', text.toList, by simp, by simp⟩

theorem opens_entries (text : String) : Opens ("\x7b" ++ text) :=
  ⟨'\x7b', text.toList, by simp, by simp⟩

theorem opens_setLiteral (members : List Value) {literals : List String} (h : literals ≠ []) :
    Opens (setLiteral residues members literals) := by
  have hne : literals.isEmpty = false := by simpa using h
  simp only [setLiteral, hne, Bool.false_eq_true, if_false, String.append_assoc]
  exact opens_entries _

theorem literalsWith_cons_ne_nil {v : Value} {items : List Value} {literals : List String}
    (h : literalsWith residues ofShared (v :: items) = some literals) : literals ≠ [] := by
  simp only [literalsWith] at h
  obtain ⟨s, -, h⟩ := Option.bind_eq_some_iff.mp h
  obtain ⟨ss, -, h⟩ := Option.bind_eq_some_iff.mp h
  obtain rfl : s :: ss = literals := Option.some.inj h
  exact List.cons_ne_nil s ss

theorem openAlike_literalWith (hshared : ∀ n, OpenAlike (ofShared n) (ofShared' n)) (v : Value) :
    OpenAlike (literalWith residues ofShared v) (literalWith residues' ofShared' v) := by
  cases v with
  | list items =>
      simp only [literalWith]
      refine openAlike_bind (fun a s _ h => ?_) (fun a s _ h => ?_) <;>
      · obtain rfl := Option.some.inj h
        rw [String.append_assoc]
        exact opens_list _
  | pair k v =>
      simp only [literalWith]
      refine openAlike_bind (fun a s _ h => ?_) (fun a s _ h => ?_) <;>
      · obtain ⟨b, -, h⟩ := Option.bind_eq_some_iff.mp h
        obtain rfl := Option.some.inj h
        rw [String.append_assoc, String.append_assoc, String.append_assoc]
        exact opens_pair _
  | set members =>
      cases members with
      | nil => exact .refl (some "set()")
      | cons m members =>
          simp only [literalWith]
          refine openAlike_bind (fun a s ha h => ?_) (fun a s ha h => ?_) <;>
          · obtain rfl := Option.some.inj h
            exact opens_setLiteral _ (literalsWith_cons_ne_nil ha)
  | mapping entries =>
      simp only [literalWith]
      refine openAlike_bind (fun a s _ h => ?_) (fun a s _ h => ?_) <;>
      · obtain rfl := Option.some.inj h
        rw [String.append_assoc]
        exact opens_entries _
  | shared n => exact hshared n
  | _ => exact .refl _

theorem openAlike_sharedLiteral (depth : Nat) (inside : List Nat) (n : Nat) :
    OpenAlike (sharedLiteral ⟨table, residues⟩ depth inside n)
      (sharedLiteral ⟨table, residues'⟩ depth inside n) := by
  induction depth generalizing inside n with
  | zero => exact .refl _
  | succ depth ih =>
      simp only [sharedLiteral]
      split
      · exact .refl _
      · exact openAlike_literalWith (ih (n :: inside)) _

/-- What two processes write for one value: nothing, the same, or texts that open with a
bracket, for a value in which a set stands whose order is drawn. -/
theorem literal?_cases (table : SharedTable) (residues residues' : Residues) (v : Value) :
    (v.literal? ⟨table, residues⟩ = none ∧ v.literal? ⟨table, residues'⟩ = none) ∨
      ∃ s t, v.literal? ⟨table, residues⟩ = some s ∧ v.literal? ⟨table, residues'⟩ = some t ∧
        (s = t ∨ v.HoldsIn IsDrawn table ∧ Opens s ∧ Opens t) := by
  have hsome := isSome_literal? table residues residues' v
  cases hs : v.literal? ⟨table, residues⟩ with
  | none =>
      rw [hs, Option.isSome_none] at hsome
      exact .inl ⟨rfl, Option.not_isSome_iff_eq_none.mp (by simp [← hsome])⟩
  | some s =>
      rw [hs, Option.isSome_some] at hsome
      obtain ⟨t, ht⟩ := Option.isSome_iff_exists.mp hsome.symm
      refine .inr ⟨s, t, rfl, ht, ?_⟩
      by_cases hsame : s = t
      · exact .inl hsame
      by_cases hdrawn : v.HoldsIn IsDrawn table
      · have hopen := openAlike_literalWith (openAlike_sharedLiteral (table.length + 1) []) v s t hs
          ht
        exact .inr ⟨hdrawn, hopen.resolve_left hsame⟩
      · have hlost := literal?_congr residues residues' hdrawn
        rw [hs, ht] at hlost
        exact absurd (Option.some.inj hlost) hsame

end AlertRelay.Value
