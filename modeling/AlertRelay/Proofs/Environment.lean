import AlertRelay.Environment
import AlertRelay.Proofs.Text.Spelled

/-!
# Names of variables

Every text of characters alone is a name, and it names a variable of its own.  With halves of
pairs it depends on the halves: each has to stand for a byte.
-/

namespace AlertRelay

open AlertRelay.Text

variable {a b : String} {s t : Spelled}

@[simp] theorem sameName_whole : sameName (.whole a) (.whole b) = decide (a = b) := by
  rw [Bool.eq_iff_iff, sameName, beq_iff_eq, Spelled.bytes?_whole_inj, decide_eq_true_iff]

@[simp] theorem sameName_self (s : Spelled) : sameName s s = true := by simp [sameName]

@[simp] theorem isName_whole (a : String) : isName (.whole a) = true := by
  simp [isName, Spelled.bytes?_whole]

/-- A text is a name if each of its points stands for bytes. -/
theorem isName_iff : isName s = true ↔ ∀ p ∈ s.points, p.bytes?.isSome := by
  have hpoints (points : List Point) :
      (points.mapM Point.bytes?).isSome ↔ ∀ p ∈ points, p.bytes?.isSome := by
    induction points with
    | nil => simp
    | cons p points ih =>
        rw [List.forall_mem_cons, ← ih]
        cases hp : p.bytes? <;> cases hrest : points.mapM Point.bytes? <;>
          simp [List.mapM_cons, hp, hrest]
  rw [isName, Spelled.bytes?, Option.isSome_map, hpoints]

namespace Environment

variable {env : Environment} {name : Spelled} {value : Option Spelled}

theorem assign_of_sameName (h : sameName s name = true) : env.assign name value s = value :=
  if_pos h

theorem assign_of_not_sameName (h : sameName s name = false) :
    env.assign name value s = env s := by
  simp [assign, h]

end Environment

end AlertRelay
