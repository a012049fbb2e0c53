import Mathlib.Data.List.Basic
import AlertRelay.Text.Utf8

/-!
# Which bytes are UTF-8

The strict reader accepts bytes just when they are the encoding of a text, and
then gives that text.
-/

namespace AlertRelay.Text.Utf8

/-! ## The bytes of a character -/

theorem toNat_ofNat {n : Nat} (h : n.isValidChar) : (Char.ofNat n).toNat = n := by
  rw [Char.ofNat, dif_pos h]
  rfl

theorem utf8EncodeChar_eq (c : Char) :
    String.utf8EncodeChar c =
      if c.toNat ≤ 0x7f then [UInt8.ofNat c.toNat]
      else if c.toNat ≤ 0x7ff then
        [UInt8.ofNat (c.toNat / 64 % 0x20 + 0xc0), UInt8.ofNat (c.toNat % 64 + 0x80)]
      else if c.toNat ≤ 0xffff then
        [UInt8.ofNat (c.toNat / 4096 % 0x10 + 0xe0), UInt8.ofNat (c.toNat / 64 % 64 + 0x80),
          UInt8.ofNat (c.toNat % 64 + 0x80)]
      else
        [UInt8.ofNat (c.toNat / 262144 % 8 + 0xf0), UInt8.ofNat (c.toNat / 4096 % 64 + 0x80),
          UInt8.ofNat (c.toNat / 64 % 64 + 0x80), UInt8.ofNat (c.toNat % 64 + 0x80)] := rfl

theorem toNat_bounds (c : Char) : c.toNat < 0xd800 ∨ 0xdfff < c.toNat ∧ c.toNat < 0x110000 :=
  c.valid

/-! ## First bytes -/

theorem lead_one {b : Nat} (h : b < 0x80) : lead b = .whole (Char.ofNat b) := by
  simp [lead, h]

theorem lead_two {b : Nat} (h : 0xC2 ≤ b) (h' : b < 0xE0) :
    lead b = .opens ⟨1, 0x80, 0xBF, b - 0xC0⟩ := by
  simp [lead, show ¬b < 0x80 by omega, show ¬b < 0xC2 by omega, h']

theorem lead_three {b : Nat} (h : 0xE0 ≤ b) (h' : b < 0xF0) :
    lead b = .opens ⟨2, if b = 0xE0 then 0xA0 else 0x80, if b = 0xED then 0x9F else 0xBF,
      b - 0xE0⟩ := by
  by_cases hlow : b = 0xE0
  · subst hlow
    rfl
  by_cases hhigh : b = 0xED
  · subst hhigh
    rfl
  simp [lead, show ¬b < 0x80 by omega, show ¬b < 0xC2 by omega, show ¬b < 0xE0 by omega, hlow,
    hhigh, h']

theorem lead_four {b : Nat} (h : 0xF0 ≤ b) (h' : b ≤ 0xF4) :
    lead b = .opens ⟨3, if b = 0xF0 then 0x90 else 0x80, if b = 0xF4 then 0x8F else 0xBF,
      b - 0xF0⟩ := by
  by_cases hlow : b = 0xF0
  · subst hlow
    rfl
  by_cases hhigh : b = 0xF4
  · subst hhigh
    rfl
  simp [lead, show ¬b < 0x80 by omega, show ¬b < 0xC2 by omega, show ¬b < 0xE0 by omega,
    show b ≠ 0xE0 by omega, show b ≠ 0xED by omega, show ¬b < 0xF0 by omega, hlow, hhigh,
    show b < 0xF4 by omega]

theorem lead_fault {b : Nat} (h : 0x80 ≤ b ∧ b < 0xC2 ∨ 0xF4 < b) : lead b = .fault := by
  rcases h with ⟨hlow, hhigh⟩ | hhigh
  · simp [lead, show ¬b < 0x80 by omega, hhigh]
  · simp [lead, show ¬b < 0x80 by omega, show ¬b < 0xC2 by omega, show ¬b < 0xE0 by omega,
      show b ≠ 0xE0 by omega, show b ≠ 0xED by omega, show ¬b < 0xF0 by omega,
      show b ≠ 0xF0 by omega, show b ≠ 0xF4 by omega, show ¬b < 0xF4 by omega]

/-! ## Reading what is encoded -/

theorem decodeFrom_some_cons {p : Unfinished} {b : Nat} (hlow : p.low ≤ b) (hhigh : b ≤ p.high)
    (hbyte : p.high < 256) (bs : List UInt8) :
    decodeFrom (some p) (UInt8.ofNat b :: bs) =
      if p.owed ≤ 1 then some (Char.ofNat (p.extend b)) :: decodeFrom none bs
      else decodeFrom (some ⟨p.owed - 1, 0x80, 0xBF, p.extend b⟩) bs := by
  have hb : (UInt8.ofNat b).toNat = b := by simp; omega
  simp only [decodeFrom, hb, hlow, hhigh, and_self, if_true]

theorem decodeFrom_none_cons {b : Nat} {p : Unfinished} (hlead : lead b = .opens p) (hb : b < 256)
    (bs : List UInt8) :
    decodeFrom none (UInt8.ofNat b :: bs) = decodeFrom (some p) bs := by
  have hbyte : (UInt8.ofNat b).toNat = b := by simp; omega
  simp only [decodeFrom, hbyte, hlead]

theorem decodeFrom_two {a b : Nat} (ha : 0xC2 ≤ a) (ha' : a < 0xE0) (hb : 0x80 ≤ b)
    (hb' : b ≤ 0xBF) (bs : List UInt8) :
    decodeFrom none (UInt8.ofNat a :: UInt8.ofNat b :: bs) =
      some (Char.ofNat ((a - 0xC0) * 64 + (b - 0x80))) :: decodeFrom none bs := by
  rw [decodeFrom_none_cons (lead_two ha ha') (by omega), decodeFrom_some_cons hb hb' (by simp)]
  rfl

theorem decodeFrom_three {a b c : Nat} (ha : 0xE0 ≤ a) (ha' : a < 0xF0)
    (hb : (if a = 0xE0 then 0xA0 else 0x80) ≤ b) (hb' : b ≤ if a = 0xED then 0x9F else 0xBF)
    (hc : 0x80 ≤ c) (hc' : c ≤ 0xBF) (bs : List UInt8) :
    decodeFrom none (UInt8.ofNat a :: UInt8.ofNat b :: UInt8.ofNat c :: bs) =
      some (Char.ofNat (((a - 0xE0) * 64 + (b - 0x80)) * 64 + (c - 0x80))) ::
        decodeFrom none bs := by
  have hbyte : (if a = 0xED then 0x9F else 0xBF) < 256 := by split <;> omega
  rw [decodeFrom_none_cons (lead_three ha ha') (by omega), decodeFrom_some_cons hb hb' hbyte,
    if_neg (by simp), decodeFrom_some_cons hc hc' (by simp)]
  rfl

theorem decodeFrom_four {a b c d : Nat} (ha : 0xF0 ≤ a) (ha' : a ≤ 0xF4)
    (hb : (if a = 0xF0 then 0x90 else 0x80) ≤ b) (hb' : b ≤ if a = 0xF4 then 0x8F else 0xBF)
    (hc : 0x80 ≤ c) (hc' : c ≤ 0xBF) (hd : 0x80 ≤ d) (hd' : d ≤ 0xBF) (bs : List UInt8) :
    decodeFrom none (UInt8.ofNat a :: UInt8.ofNat b :: UInt8.ofNat c :: UInt8.ofNat d :: bs) =
      some (Char.ofNat ((((a - 0xF0) * 64 + (b - 0x80)) * 64 + (c - 0x80)) * 64 + (d - 0x80))) ::
        decodeFrom none bs := by
  have hbyte : (if a = 0xF4 then 0x8F else 0xBF) < 256 := by split <;> omega
  rw [decodeFrom_none_cons (lead_four ha ha') (by omega), decodeFrom_some_cons hb hb' hbyte,
    if_neg (by simp), decodeFrom_some_cons hc hc' (by simp), if_neg (by simp),
    decodeFrom_some_cons hd hd' (by simp)]
  rfl

theorem decodeFrom_utf8EncodeChar (c : Char) (rest : List UInt8) :
    decodeFrom none (String.utf8EncodeChar c ++ rest) = some c :: decodeFrom none rest := by
  have hbounds := toNat_bounds c
  have hc : Char.ofNat c.toNat = c := Char.ofNat_toNat c
  rw [utf8EncodeChar_eq]
  generalize c.toNat = n at hbounds hc ⊢
  split
  · have hbyte : (UInt8.ofNat n).toNat = n := by simp; omega
    simp [decodeFrom, hbyte, lead_one (show n < 0x80 by omega), hc]
  split
  · have hn : (n / 64 % 0x20 + 0xc0 - 0xC0) * 64 + (n % 64 + 0x80 - 0x80) = n := by omega
    simp only [List.cons_append, List.nil_append]
    rw [decodeFrom_two (by omega) (by omega) (by omega) (by omega), hn, hc]
  split
  · have hn : ((n / 4096 % 0x10 + 0xe0 - 0xE0) * 64 + (n / 64 % 64 + 0x80 - 0x80)) * 64 +
        (n % 64 + 0x80 - 0x80) = n := by omega
    simp only [List.cons_append, List.nil_append]
    rw [decodeFrom_three (by omega) (by omega) (by split <;> omega) (by split <;> omega)
      (by omega) (by omega), hn, hc]
  · have hn : (((n / 262144 % 8 + 0xf0 - 0xF0) * 64 + (n / 4096 % 64 + 0x80 - 0x80)) * 64 +
        (n / 64 % 64 + 0x80 - 0x80)) * 64 + (n % 64 + 0x80 - 0x80) = n := by omega
    simp only [List.cons_append, List.nil_append]
    rw [decodeFrom_four (by omega) (by omega) (by split <;> omega) (by split <;> omega)
      (by omega) (by omega) (by omega) (by omega), hn, hc]

theorem decode_flatMap_utf8EncodeChar (text : List Char) :
    decode (text.flatMap String.utf8EncodeChar) = text.map some := by
  induction text with
  | nil => rfl
  | cons c text ih =>
      rw [List.flatMap_cons, decode, decodeFrom_utf8EncodeChar, List.map_cons]
      exact congrArg _ ih

/-! ## Encoding what is read -/

/-- A character that is open is closed by bytes in its range. -/
theorem decodeFrom_some_clean {p : Unfinished} {bs : List UInt8}
    (h : none ∉ decodeFrom (some p) bs) :
    ∃ b rest, bs = b :: rest ∧ p.low ≤ b.toNat ∧ b.toNat ≤ p.high ∧
      if p.owed ≤ 1 then none ∉ decodeFrom none rest
      else none ∉ decodeFrom (some ⟨p.owed - 1, 0x80, 0xBF, p.extend b.toNat⟩) rest := by
  cases bs with
  | nil => simp [decodeFrom] at h
  | cons b rest =>
      refine ⟨b, rest, rfl, ?_⟩
      simp only [decodeFrom] at h
      split at h
      · rename_i hrange
        refine ⟨hrange.1, hrange.2, ?_⟩
        by_cases howed : p.owed ≤ 1
        · rw [if_pos howed] at h ⊢
          simpa using h
        · rw [if_neg howed] at h ⊢
          exact h
      · split at h <;> simp at h

theorem ofNat_eq {b : UInt8} {n : Nat} (h : n = b.toNat) : UInt8.ofNat n = b := by
  rw [h, UInt8.ofNat_toNat]

theorem exists_char_two {a b : UInt8} (ha : 0xC2 ≤ a.toNat) (ha' : a.toNat < 0xE0)
    (hb : 0x80 ≤ b.toNat) (hb' : b.toNat ≤ 0xBF) : ∃ c, String.utf8EncodeChar c = [a, b] := by
  have hvalid : ((a.toNat - 0xC0) * 64 + (b.toNat - 0x80)).isValidChar := by
    simp only [Nat.isValidChar]
    omega
  refine ⟨Char.ofNat ((a.toNat - 0xC0) * 64 + (b.toNat - 0x80)), ?_⟩
  rw [utf8EncodeChar_eq, toNat_ofNat hvalid, if_neg (by omega), if_pos (by omega),
    ofNat_eq (b := a) (by omega), ofNat_eq (b := b) (by omega)]

theorem exists_char_three {a b c : UInt8} (ha : 0xE0 ≤ a.toNat) (ha' : a.toNat < 0xF0)
    (hb : (if a.toNat = 0xE0 then 0xA0 else 0x80) ≤ b.toNat)
    (hb' : b.toNat ≤ if a.toNat = 0xED then 0x9F else 0xBF)
    (hc : 0x80 ≤ c.toNat) (hc' : c.toNat ≤ 0xBF) :
    ∃ x, String.utf8EncodeChar x = [a, b, c] := by
  have hlow : 0x80 ≤ b.toNat ∧ (a.toNat = 0xE0 → 0xA0 ≤ b.toNat) := by split at hb <;> omega
  have hhigh : b.toNat ≤ 0xBF ∧ (a.toNat = 0xED → b.toNat ≤ 0x9F) := by split at hb' <;> omega
  have hvalid :
      (((a.toNat - 0xE0) * 64 + (b.toNat - 0x80)) * 64 + (c.toNat - 0x80)).isValidChar := by
    simp only [Nat.isValidChar]
    omega
  refine ⟨Char.ofNat (((a.toNat - 0xE0) * 64 + (b.toNat - 0x80)) * 64 + (c.toNat - 0x80)), ?_⟩
  rw [utf8EncodeChar_eq, toNat_ofNat hvalid, if_neg (by omega), if_neg (by omega),
    if_pos (by omega), ofNat_eq (b := a) (by omega), ofNat_eq (b := b) (by omega),
    ofNat_eq (b := c) (by omega)]

theorem exists_char_four {a b c d : UInt8} (ha : 0xF0 ≤ a.toNat) (ha' : a.toNat ≤ 0xF4)
    (hb : (if a.toNat = 0xF0 then 0x90 else 0x80) ≤ b.toNat)
    (hb' : b.toNat ≤ if a.toNat = 0xF4 then 0x8F else 0xBF)
    (hc : 0x80 ≤ c.toNat) (hc' : c.toNat ≤ 0xBF) (hd : 0x80 ≤ d.toNat) (hd' : d.toNat ≤ 0xBF) :
    ∃ x, String.utf8EncodeChar x = [a, b, c, d] := by
  have hlow : 0x80 ≤ b.toNat ∧ (a.toNat = 0xF0 → 0x90 ≤ b.toNat) := by split at hb <;> omega
  have hhigh : b.toNat ≤ 0xBF ∧ (a.toNat = 0xF4 → b.toNat ≤ 0x8F) := by split at hb' <;> omega
  have hvalid : ((((a.toNat - 0xF0) * 64 + (b.toNat - 0x80)) * 64 + (c.toNat - 0x80)) * 64 +
      (d.toNat - 0x80)).isValidChar := by
    simp only [Nat.isValidChar]
    omega
  refine ⟨Char.ofNat ((((a.toNat - 0xF0) * 64 + (b.toNat - 0x80)) * 64 + (c.toNat - 0x80)) * 64 +
    (d.toNat - 0x80)), ?_⟩
  rw [utf8EncodeChar_eq, toNat_ofNat hvalid, if_neg (by omega), if_neg (by omega),
    if_neg (by omega), ofNat_eq (b := a) (by omega), ofNat_eq (b := b) (by omega),
    ofNat_eq (b := c) (by omega), ofNat_eq (b := d) (by omega)]

theorem exists_char_of_clean {b : UInt8} {bs : List UInt8}
    (h : none ∉ decodeFrom none (b :: bs)) :
    ∃ c rest, b :: bs = String.utf8EncodeChar c ++ rest := by
  have hbyte : b.toNat < 256 := b.toNat_lt
  by_cases hone : b.toNat < 0x80
  · have hvalid : b.toNat.isValidChar := .inl (by omega)
    refine ⟨Char.ofNat b.toNat, bs, ?_⟩
    rw [utf8EncodeChar_eq, toNat_ofNat hvalid, if_pos (by omega), UInt8.ofNat_toNat]
    rfl
  by_cases hfault : b.toNat < 0xC2 ∨ 0xF4 < b.toNat
  · simp only [decodeFrom, lead_fault (b := b.toNat) (by omega)] at h
    simp at h
  have hopen {p : Unfinished} (hlead : lead b.toNat = .opens p) :
      none ∉ decodeFrom (some p) bs := by
    simpa only [decodeFrom, hlead] using h
  by_cases htwo : b.toNat < 0xE0
  · have hclean := hopen (lead_two (by omega) htwo)
    obtain ⟨b₂, rest, rfl, hlow, hhigh, -⟩ := decodeFrom_some_clean hclean
    obtain ⟨c, hc⟩ := exists_char_two (a := b) (by omega) htwo hlow hhigh
    exact ⟨c, rest, by rw [hc]; rfl⟩
  by_cases hthree : b.toNat < 0xF0
  · have hclean := hopen (lead_three (by omega) hthree)
    obtain ⟨b₂, rest, rfl, hlow, hhigh, hrest⟩ := decodeFrom_some_clean hclean
    rw [if_neg (by simp)] at hrest
    obtain ⟨b₃, rest, rfl, hlow₃, hhigh₃, -⟩ := decodeFrom_some_clean hrest
    obtain ⟨c, hc⟩ := exists_char_three (a := b) (by omega) hthree hlow hhigh hlow₃ hhigh₃
    exact ⟨c, rest, by rw [hc]; rfl⟩
  · have hclean := hopen (lead_four (by omega) (by omega))
    obtain ⟨b₂, rest, rfl, hlow, hhigh, hrest⟩ := decodeFrom_some_clean hclean
    rw [if_neg (by simp)] at hrest
    obtain ⟨b₃, rest, rfl, hlow₃, hhigh₃, hrest⟩ := decodeFrom_some_clean hrest
    rw [if_neg (by simp)] at hrest
    obtain ⟨b₄, rest, rfl, hlow₄, hhigh₄, -⟩ := decodeFrom_some_clean hrest
    obtain ⟨c, hc⟩ := exists_char_four (a := b) (by omega) (by omega) hlow hhigh hlow₃ hhigh₃
      hlow₄ hhigh₄
    exact ⟨c, rest, by rw [hc]; rfl⟩

theorem exists_text_of_clean {bs : List UInt8} (h : none ∉ decode bs) :
    ∃ text : List Char, bs = text.flatMap String.utf8EncodeChar := by
  induction hn : bs.length using Nat.strongRecOn generalizing bs with
  | ind n ih =>
      cases bs with
      | nil => exact ⟨[], rfl⟩
      | cons b bs =>
          obtain ⟨c, rest, hbs⟩ := exists_char_of_clean h
          have hsize : (String.utf8EncodeChar c).length = c.utf8Size :=
            String.length_utf8EncodeChar c
          have hpos := c.utf8Size_pos
          have hlength : rest.length < n := by
            rw [← hn, hbs, List.length_append]
            omega
          have hclean : none ∉ decode rest := by
            rw [decode, hbs, decodeFrom_utf8EncodeChar] at h
            simpa [decode] using h
          obtain ⟨text, htext⟩ := ih rest.length hlength hclean rfl
          exact ⟨c :: text, by rw [hbs, htext, List.flatMap_cons]⟩

/-! ## The strict reader -/

theorem mapM_id_eq_some {α : Type} {xs : List (Option α)} {ys : List α}
    (h : xs.mapM id = some ys) : xs = ys.map some := by
  induction xs generalizing ys with
  | nil =>
      obtain rfl : [] = ys := by simpa using h
      rfl
  | cons x xs ih =>
      obtain ⟨y, rfl, zs, hzs, rfl⟩ := by
        simpa [List.mapM_cons, Option.bind_eq_some_iff] using h
      rw [ih hzs, List.map_cons]

theorem mapM_id_map_some {α : Type} (ys : List α) : (ys.map some).mapM id = some ys := by
  induction ys with
  | nil => rfl
  | cons y ys ih => simp [List.mapM_cons, ih]

/-- Bytes are read as a text exactly when they are its encoding. -/
theorem strict?_eq_some_iff {bs : List UInt8} {text : List Char} :
    strict? bs = some text ↔ bs = text.flatMap String.utf8EncodeChar := by
  constructor
  · intro h
    have hdecode := mapM_id_eq_some h
    have hclean : none ∉ decode bs := by simp [hdecode]
    obtain ⟨text', rfl⟩ := exists_text_of_clean hclean
    rw [decode_flatMap_utf8EncodeChar] at hdecode
    rw [List.map_injective_iff.mpr (fun _ _ h => Option.some.inj h) hdecode]
  · rintro rfl
    rw [strict?, decode_flatMap_utf8EncodeChar, mapM_id_map_some]

end AlertRelay.Text.Utf8
