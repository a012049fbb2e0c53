/-!
# Computations that may fail

What the result of a computation says about its parts, and what a computation
can fail with.
-/

namespace AlertRelay

variable {ε α β : Type} {x : Except ε α} {f : α → Except ε β}

/-! ## Results -/

theorem bind_eq_ok {b : β} : x >>= f = .ok b ↔ ∃ a, x = .ok a ∧ f a = .ok b := by
  cases x <;> simp [Bind.bind, Except.bind]

theorem bind_eq_error {e : ε} :
    x >>= f = .error e ↔ x = .error e ∨ ∃ a, x = .ok a ∧ f a = .error e := by
  cases x <;> simp [Bind.bind, Except.bind]

theorem map_eq_ok {g : α → β} {b : β} : g <$> x = .ok b ↔ ∃ a, x = .ok a ∧ g a = b := by
  cases x <;> simp [Functor.map, Except.map]

theorem map_eq_error {g : α → β} {e : ε} : g <$> x = .error e ↔ x = .error e := by
  cases x <;> simp [Functor.map, Except.map]

/-! ## Faults -/

/-- Whatever a computation fails with has a property. -/
def FailsWith (E : ε → Prop) (x : Except ε α) : Prop := ∀ e, x = .error e → E e

namespace FailsWith

variable {E F : ε → Prop}

theorem ok (a : α) : FailsWith E (.ok a : Except ε α) := by
  intro e h
  simp at h

theorem pure (a : α) : FailsWith E (Pure.pure a : Except ε α) := ok a

theorem error {e : ε} (he : E e) : FailsWith E (.error e : Except ε α) := by
  intro e' h
  obtain rfl := Except.error.inj h
  exact he

theorem bind (hx : FailsWith E x) (hf : ∀ a, x = .ok a → FailsWith E (f a)) :
    FailsWith E (x >>= f) := by
  intro e h
  rcases bind_eq_error.mp h with hleft | ⟨a, ha, hright⟩
  · exact hx e hleft
  · exact hf a ha e hright

theorem map {g : α → β} (hx : FailsWith E x) : FailsWith E (g <$> x) :=
  fun e h => hx e (map_eq_error.mp h)

theorem mono (hx : FailsWith E x) (hEF : ∀ e, E e → F e) : FailsWith F x :=
  fun e h => hEF e (hx e h)

theorem ite {c : Prop} [Decidable c] {y : Except ε α} (hx : FailsWith E x) (hy : FailsWith E y) :
    FailsWith E (if c then x else y) := by
  split
  · exact hx
  · exact hy

theorem mapM {g : α → Except ε β} {xs : List α} (h : ∀ a ∈ xs, FailsWith E (g a)) :
    FailsWith E (xs.mapM g) := by
  induction xs with
  | nil => exact pure []
  | cons a xs ih =>
      rw [List.mapM_cons]
      refine bind (h a (by simp)) fun b _ => ?_
      exact bind (ih fun c hc => h c (by simp [hc])) fun bs _ => pure (b :: bs)

theorem foldlM {g : β → α → Except ε β} {xs : List α} (h : ∀ b, ∀ a ∈ xs, FailsWith E (g b a))
    (b : β) : FailsWith E (xs.foldlM g b) := by
  induction xs generalizing b with
  | nil => exact pure b
  | cons a xs ih =>
      rw [List.foldlM_cons]
      exact bind (h b a (by simp)) fun b' _ => ih (fun b c hc => h b c (by simp [hc])) b'

end FailsWith

/-! ## Faults and results -/

/-- A computation fails with faults of one property and has results of another. -/
def Ends (E : ε → Prop) (P : α → Prop) (x : Except ε α) : Prop :=
  FailsWith E x ∧ ∀ a, x = .ok a → P a

namespace Ends

variable {E : ε → Prop} {P : α → Prop} {Q : β → Prop}

theorem ok {a : α} (ha : P a) : Ends E P (.ok a : Except ε α) := by
  refine ⟨.ok a, fun b hb => ?_⟩
  obtain rfl := Except.ok.inj hb
  exact ha

theorem pure {a : α} (ha : P a) : Ends E P (Pure.pure a : Except ε α) := ok ha

theorem error {e : ε} (he : E e) : Ends E P (.error e : Except ε α) :=
  ⟨.error he, fun _ h => by simp at h⟩

theorem bind (hx : FailsWith E x) (hf : ∀ a, x = .ok a → Ends E Q (f a)) :
    Ends E Q (x >>= f) := by
  refine ⟨.bind hx fun a ha => (hf a ha).1, fun b hb => ?_⟩
  obtain ⟨a, ha, hb⟩ := bind_eq_ok.mp hb
  exact (hf a ha).2 b hb

theorem andThen (hx : Ends E P x) (hf : ∀ a, P a → Ends E Q (f a)) : Ends E Q (x >>= f) :=
  bind hx.1 fun a ha => hf a (hx.2 a ha)

theorem ite {c : Prop} [Decidable c] {y : Except ε α} (hx : Ends E P x) (hy : Ends E P y) :
    Ends E P (if c then x else y) := by
  split
  · exact hx
  · exact hy

theorem mono {R : α → Prop} (hx : Ends E P x) (hPR : ∀ a, P a → R a) : Ends E R x :=
  ⟨hx.1, fun a ha => hPR a (hx.2 a ha)⟩

end Ends

/-! ## Two computations -/

/-- Two computations fail with faults that are related, or have results that are. -/
inductive Related {α' : Type} (E : ε → ε → Prop) (R : α → α' → Prop) :
    Except ε α → Except ε α' → Prop where
  | ok {a : α} {a' : α'} (h : R a a') : Related E R (.ok a) (.ok a')
  | error {e e' : ε} (h : E e e') : Related E R (.error e) (.error e')

namespace Related

variable {α' β' : Type} {E : ε → ε → Prop} {R : α → α' → Prop} {S : β → β' → Prop}
  {y : Except ε α'} {g : α' → Except ε β'}

theorem refl {R : α → α → Prop} (hE : ∀ e, E e e) (hR : ∀ a, R a a) (x : Except ε α) :
    Related E R x x := by
  cases x with
  | ok a => exact .ok (hR a)
  | error e => exact .error (hE e)

theorem bind (hx : Related E R x y)
    (hf : ∀ a b, x = .ok a → y = .ok b → R a b → Related E S (f a) (g b)) :
    Related E S (x >>= f) (y >>= g) := by
  cases hx with
  | ok h => exact hf _ _ rfl rfl h
  | error h => exact .error h

theorem map {k : α → β} {k' : α' → β'} (hx : Related E R x y)
    (hk : ∀ a b, R a b → S (k a) (k' b)) : Related E S (k <$> x) (k' <$> y) := by
  cases hx with
  | ok h => exact .ok (hk _ _ h)
  | error h => exact .error h

end Related

end AlertRelay
