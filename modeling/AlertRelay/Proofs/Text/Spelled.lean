import Mathlib.Data.List.Basic
import AlertRelay.Proofs.Text.Utf8
import AlertRelay.Text.Point

/-!
# Texts point by point

A text of characters alone is told by them, and by the bytes that it stands for.
-/

namespace AlertRelay.Text

/-! ## Halves that follow one another -/

theorem joinPoints_pair (high low : Fin 1024) (rest : List Point) :
    joinPoints (.half false high :: .half true low :: rest) =
      .char (Char.ofNat (0x10000 + high * 1024 + low)) :: joinPoints rest := by
  rw [joinPoints]

theorem joinPoints_cons {p : Point} {rest : List Point}
    (h : (∀ high, p ≠ .half false high) ∨ ∀ low more, rest ≠ .half true low :: more) :
    joinPoints (p :: rest) = p :: joinPoints rest := by
  rw [joinPoints]
  rintro high low more rfl rfl
  rcases h with h | h
  · exact h high rfl
  · exact h low more rfl

@[simp] theorem joinPoints_map_char (s : List Char) :
    joinPoints (s.map .char) = s.map .char := by
  induction s with
  | nil => rfl
  | cons c s ih => rw [List.map_cons, joinPoints_cons (.inl (by simp)), ih]

/-- A low half in front is one that was there. -/
theorem joinPoints_eq_low_cons_iff {s more : List Point} {low : Fin 1024} :
    joinPoints s = .half true low :: more ↔
      ∃ rest, s = .half true low :: rest ∧ joinPoints rest = more := by
  constructor
  · intro h
    unfold joinPoints at h
    split at h
    · simp at h
    · simp at h
    · rename_i p rest _
      obtain ⟨rfl, hrest⟩ := List.cons.inj h
      exact ⟨rest, rfl, hrest⟩
  · rintro ⟨rest, rfl, rfl⟩
    exact joinPoints_cons (.inl (by simp))

theorem joinPoints_cons_congr (p : Point) {s t : List Point} (h : joinPoints s = joinPoints t) :
    joinPoints (p :: s) = joinPoints (p :: t) := by
  by_cases hs : ∃ low more, s = .half true low :: more
  · obtain ⟨low, more, rfl⟩ := hs
    obtain ⟨rest, rfl, hrest⟩ :=
      joinPoints_eq_low_cons_iff.mp (h.symm.trans (joinPoints_eq_low_cons_iff.mpr ⟨more, rfl, rfl⟩))
    by_cases hp : ∃ high, p = .half false high
    · obtain ⟨high, rfl⟩ := hp
      rw [joinPoints_pair, joinPoints_pair, hrest]
    · rw [not_exists] at hp
      rw [joinPoints_cons (.inl hp), joinPoints_cons (.inl hp), h]
  · have ht : ¬∃ low more, t = .half true low :: more := by
      rintro ⟨low, more, rfl⟩
      obtain ⟨rest, rfl, -⟩ :=
        joinPoints_eq_low_cons_iff.mp (h.trans (joinPoints_eq_low_cons_iff.mpr ⟨more, rfl, rfl⟩))
      exact hs ⟨low, rest, rfl⟩
    simp only [not_exists] at hs ht
    rw [joinPoints_cons (.inr hs), joinPoints_cons (.inr ht), h]

namespace Spelled

variable {s t u : Spelled} {a b : String}

@[ext] theorem ext (h : s.points = t.points) : s = t := by
  cases s
  cases t
  exact congrArg _ h

@[simp] theorem points_whole (a : String) : (whole a).points = a.toList.map .char := rfl

@[simp] theorem points_ofChars (s : List Char) : (ofChars s).points = s.map .char := rfl

@[simp] theorem points_append (s t : Spelled) : (s ++ t).points = s.points ++ t.points := rfl

theorem map_char_inj {s t : List Char} : s.map Point.char = t.map Point.char ↔ s = t :=
  (List.map_injective_iff.mpr fun _ _ => Point.char.inj).eq_iff

@[simp] theorem whole_inj : whole a = whole b ↔ a = b := by
  rw [Spelled.ext_iff, points_whole, points_whole, map_char_inj, String.toList_inj]

theorem whole_append (a b : String) : whole (a ++ b) = whole a ++ whole b := by
  ext1
  simp

@[simp] theorem append_empty (s : Spelled) : s ++ whole "" = s := by
  ext1
  simp

@[simp] theorem empty_append (s : Spelled) : whole "" ++ s = s := by
  ext1
  simp

theorem append_assoc (s t u : Spelled) : s ++ t ++ u = s ++ (t ++ u) := by
  ext1
  simp

@[simp] theorem append_right_inj (s : Spelled) : s ++ t = s ++ u ↔ t = u := by
  simp [Spelled.ext_iff]

@[simp] theorem append_left_inj (u : Spelled) : s ++ u = t ++ u ↔ s = t := by
  simp [Spelled.ext_iff]

theorem eq_empty_iff : s = whole "" ↔ s.points = [] := by
  simp [Spelled.ext_iff]

theorem points_join (between : Spelled) (texts : List Spelled) :
    (join between texts).points = between.points.intercalate (texts.map points) := by
  induction texts with
  | nil => rfl
  | cons s texts ih =>
      cases texts with
      | nil => simp [join]
      | cons t texts =>
          simp only [List.map_cons] at ih ⊢
          rw [List.intercalate_cons_cons, ← ih]
          rfl

theorem join_empty_cons (s : Spelled) (texts : List Spelled) :
    join (whole "") (s :: texts) = s ++ join (whole "") texts := by
  cases texts <;> simp [join]

theorem join_empty_append (texts others : List Spelled) :
    join (whole "") (texts ++ others) = join (whole "") texts ++ join (whole "") others := by
  induction texts with
  | nil => exact (empty_append _).symm
  | cons s texts ih =>
      rw [List.cons_append, join_empty_cons, join_empty_cons, ih, append_assoc]

/-! ## Texts without halves -/

@[simp] theorem whole?_whole (a : String) : (whole a).whole? = some a := by
  have hchars (s : List Char) : (s.map Point.char).mapM Point.char? = some s := by
    induction s with
    | nil => rfl
    | cons c s ih => simp [List.mapM_cons, Point.char?, ih]
  simp [whole?, hchars]

theorem whole?_eq_some_iff : s.whole? = some a ↔ s = whole a := by
  refine ⟨fun h => ?_, fun h => h ▸ whole?_whole a⟩
  have hchars {points : List Point} {chars : List Char}
      (h : points.mapM Point.char? = some chars) : points = chars.map .char := by
    induction points generalizing chars with
    | nil =>
        obtain rfl : [] = chars := by simpa using h
        rfl
    | cons p points ih =>
        obtain ⟨c, hc, rest, hrest, rfl⟩ := by
          simpa [List.mapM_cons, Option.bind_eq_some_iff] using h
        cases p with
        | half isLow bits => simp [Point.char?] at hc
        | char d =>
            obtain rfl : d = c := by simpa [Point.char?] using hc
            rw [ih hrest, List.map_cons]
  obtain ⟨chars, hmap, rfl⟩ := Option.map_eq_some_iff.mp h
  ext1
  simpa using hchars hmap

theorem isWhole_iff : s.isWhole = true ↔ ∃ a, s = whole a := by
  have hchars (points : List Point) (h : ∀ p ∈ points, p.isHalf = false) :
      ∃ chars : List Char, points = chars.map .char := by
    induction points with
    | nil => exact ⟨[], rfl⟩
    | cons p points ih =>
        obtain ⟨chars, rfl⟩ := ih fun q hq => h q (List.mem_cons_of_mem _ hq)
        cases p with
        | half isLow bits => exact absurd (h _ List.mem_cons_self) (by simp [Point.isHalf])
        | char c => exact ⟨c :: chars, rfl⟩
  constructor
  · intro h
    obtain ⟨chars, hpoints⟩ := hchars s.points (by simpa [isWhole] using h)
    refine ⟨String.ofList chars, ?_⟩
    ext1
    simpa using hpoints
  · rintro ⟨a, rfl⟩
    simp [isWhole, Point.isHalf]

@[simp] theorem isWhole_whole (a : String) : (whole a).isWhole = true := isWhole_iff.mpr ⟨a, rfl⟩

@[simp] theorem isWhole_append : (s ++ t).isWhole = (s.isWhole && t.isWhole) := by
  simp [isWhole]

/-- The text with each high half joined to a low one that follows it. -/
def joined (s : Spelled) : Spelled := ⟨joinPoints s.points⟩

@[simp] theorem joined_whole (a : String) : (whole a).joined = whole a :=
  Spelled.ext (joinPoints_map_char a.toList)

theorem joined_of_isWhole (h : s.isWhole = true) : s.joined = s := by
  obtain ⟨a, rfl⟩ := isWhole_iff.mp h
  exact joined_whole a

@[simp] theorem shown_whole (a : String) : (whole a).shown = a := by
  simp [shown, unjoined, Point.char?, Function.comp_def]

/-! ## Bytes -/

theorem bytes?_whole (a : String) :
    (whole a).bytes? = some (a.toList.flatMap String.utf8EncodeChar) := by
  have hchars (s : List Char) :
      (s.map Point.char).mapM Point.bytes? = some (s.map String.utf8EncodeChar) := by
    induction s with
    | nil => rfl
    | cons c s ih => simp [List.mapM_cons, Point.bytes?, ih]
  simp [bytes?, hchars, List.flatMap]

theorem bytes?_whole_inj : (whole a).bytes? = (whole b).bytes? ↔ a = b := by
  refine ⟨fun h => ?_, fun h => h ▸ rfl⟩
  rw [bytes?_whole, bytes?_whole, Option.some_inj] at h
  have hchars := congrArg Utf8.strict? h
  rw [Utf8.strict?_eq_some_iff.mpr rfl, Utf8.strict?_eq_some_iff.mpr rfl] at hchars
  exact String.toList_inj.mp (Option.some.inj hchars)

end Spelled

end AlertRelay.Text
