import Mathlib.Data.List.Basic

/-!
# Runs step by step

A run takes one step after the other and notes what each of them gives, which is settled by
the state that the steps before it lead to.  What is written once and kept is settled by the
state in which a step of some kind is taken first.
-/

namespace AlertRelay

variable {σ α ω : Type}

/-! ## Outputs -/

theorem getElem?_outputs (step : σ → α → ω × σ) (run : σ → List α → List ω)
    (hrun : ∀ s x steps, run s (x :: steps) = (step s x).1 :: run (step s x).2 steps)
    {s : σ} {steps : List α} {i : Nat} {x : α} (hx : steps[i]? = some x) :
    (run s steps)[i]? = some (step ((steps.take i).foldl (fun s x => (step s x).2) s) x).1 := by
  induction steps generalizing s i with
  | nil => simp at hx
  | cons y steps ih =>
      rw [hrun]
      cases i with
      | zero =>
          have hy : y = x := by simpa using hx
          simp [hy]
      | succ i =>
          have hrest : steps[i]? = some x := by simpa using hx
          simpa using ih hrest

/-! ## First steps of a kind -/

variable (next : σ → α → σ) (isOne : α → Bool)

/-- The state in which a step of a kind is taken first. -/
def firstState? (s : σ) (steps : List α) : Option σ :=
  (steps.findIdx? isOne).map fun i => (steps.take i).foldl next s

theorem firstState?_cons (s : σ) (x : α) (steps : List α) :
    firstState? next isOne s (x :: steps) =
      if isOne x then some s else firstState? next isOne (next s x) steps := by
  simp only [firstState?, List.findIdx?_cons]
  split
  · rfl
  · rw [Option.map_map]
    rfl

theorem isSome_firstState? (s : σ) (steps : List α) :
    (firstState? next isOne s steps).isSome = steps.any isOne := by
  simp [firstState?]

/-- Up to a step of the kind, the first such state is that of the first step of the kind,
which comes before it or is itself. -/
theorem exists_firstState {isOne : α → Bool} (s : σ) {steps : List α} {i : Nat} {x : α}
    (hx : steps[i]? = some x) (hone : isOne x = true) :
    ∃ j ≤ i, steps.findIdx? isOne = some j ∧
      firstState? next isOne s (steps.take i) =
        if i = j then none else some ((steps.take j).foldl next s) := by
  have hsome : (steps.findIdx? isOne).isSome := by
    rw [List.findIdx?_isSome, List.any_eq_true]
    exact ⟨x, List.mem_of_getElem? hx, hone⟩
  obtain ⟨j, hj⟩ := Option.isSome_iff_exists.mp hsome
  have hle : j ≤ i := by
    by_contra hlt
    obtain ⟨hlen, -, hbefore⟩ := List.findIdx?_eq_some_iff_getElem.mp hj
    obtain ⟨hi, hget⟩ := List.getElem?_eq_some_iff.mp hx
    exact hbefore i (by omega) (by rw [hget]; exact hone)
  refine ⟨j, hle, hj, ?_⟩
  simp only [firstState?, List.findIdx?_take, hj]
  by_cases hij : i = j
  · simp [hij]
  · have hlt : j < i := by omega
    simp [hij, hlt, List.take_take, Nat.min_eq_left hle]

end AlertRelay
