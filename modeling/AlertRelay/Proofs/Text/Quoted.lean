import AlertRelay.Proofs.Json.Lines

/-!
# What quoted texts tell

A quoted text stays on its line, and it tells where it ends: whatever follows it, what is
quoted can be read again, one point after the other up to the closing mark.
-/

namespace AlertRelay.Text

/-! ## Points -/

/-- A point by the hexadecimal digits of its number. -/
def hexPoint? (width : Nat) (s : List Char) : Option (Point × List Char) := do
  let n ← Json.hexNumber? (s.take width)
  return (← Point.ofNat? n, s.drop width)

/-- The first point between quotation marks, and what follows it. -/
def unescape? : List Char → Option (Point × List Char)
  | '\\' :: 'x' :: rest => hexPoint? 2 rest
  | '\\' :: 'u' :: rest => hexPoint? 4 rest
  | '\\' :: 'U' :: rest => hexPoint? 8 rest
  | '\\' :: 't' :: rest => some (.char '\t', rest)
  | '\\' :: 'n' :: rest => some (.char '\n', rest)
  | '\\' :: 'r' :: rest => some (.char '\r', rest)
  | '\\' :: c :: rest => some (.char c, rest)
  | c :: rest => some (.char c, rest)
  | [] => none

variable {mark c : Char} {p q : Point} {s t : List Point} {r r' : List Char}

theorem length_hexDigits (width n : Nat) : (hexDigits width n).length = width := by
  induction width generalizing n with
  | zero => rfl
  | succ width ih => simp [hexDigits, ih]

theorem hexPoint?_hexDigits {width : Nat} (h : p.toNat < 16 ^ width) :
    hexPoint? width (hexDigits width p.toNat ++ r) = some (p, r) := by
  have htake : (hexDigits width p.toNat ++ r).take width = hexDigits width p.toNat :=
    List.take_left' (length_hexDigits width _)
  have hdrop : (hexDigits width p.toNat ++ r).drop width = r :=
    List.drop_left' (length_hexDigits width _)
  simp [hexPoint?, htake, hdrop, Json.hexNumber?_hexDigits, Nat.mod_eq_of_lt h, Json.ofNat?_toNat]

theorem Point.toNat_lt (p : Point) : p.toNat < 0x110000 := by
  cases p with
  | char c =>
      rcases c.valid with h | h
      · exact Nat.lt_trans h (by decide)
      · exact h.2
  | half isLow bits => cases isLow <;> simp only [Point.toNat] <;> omega

theorem unescape?_numberEscape (p : Point) :
    unescape? (numberEscape p.toNat ++ r) = some (p, r) := by
  rw [numberEscape]
  split
  · rename_i hbyte
    exact hexPoint?_hexDigits hbyte
  · split
    · rename_i hunit
      exact hexPoint?_hexDigits hunit
    · exact hexPoint?_hexDigits (Nat.lt_trans p.toNat_lt (by decide))

def IsMark (c : Char) : Prop := c = singleMark ∨ c = doubleMark

/-- A character is read from its quoted form whatever follows. -/
theorem unescape?_quotedChar (hmark : IsMark mark) (c : Char) :
    unescape? (quotedChar mark c ++ r) = some (.char c, r) := by
  simp only [quotedChar, Bool.or_eq_true, beq_iff_eq]
  split_ifs with hescaped htab hfeed hreturn hprintable
  · rcases hescaped with rfl | rfl
    · rcases hmark with rfl | rfl <;> rfl
    · rfl
  · rw [htab]
    rfl
  · rw [hfeed]
    rfl
  · rw [hreturn]
    rfl
  · rw [not_or] at hescaped
    simp only [List.cons_append, List.nil_append]
    unfold unescape?
    split <;> simp_all
  · exact unescape?_numberEscape (.char c)

theorem unescape?_quotedPoint (hmark : IsMark mark) (p : Point) :
    unescape? (quotedPoint mark p ++ r) = some (p, r) := by
  cases p with
  | char c => exact unescape?_quotedChar hmark c
  | half isLow bits => exact unescape?_numberEscape _

theorem quotedPoint_cut (hmark : IsMark mark)
    (h : quotedPoint mark p ++ r = quotedPoint mark q ++ r') : p = q ∧ r = r' := by
  have hread := unescape?_quotedPoint hmark p (r := r)
  rw [h, unescape?_quotedPoint hmark q] at hread
  simpa [eq_comm] using hread

theorem lineFeed_not_mem_hexDigits (width n : Nat) : '\n' ∉ hexDigits width n :=
  fun h => absurd (Json.isAsciiLine_hexDigits width n '\n' h).1 (by decide)

theorem numberEscape_cases (n : Nat) : ∃ rest, numberEscape n = '\\' :: rest ∧ '\n' ∉ rest := by
  simp only [numberEscape]
  split_ifs <;> exact ⟨_, rfl, by simp [lineFeed_not_mem_hexDigits]⟩

/-- A point stands for itself, or else a backslash comes first. -/
theorem quotedPoint_cases (hmark : IsMark mark) (p : Point) :
    (∃ c, quotedPoint mark p = [c] ∧ c ≠ mark ∧ c ≠ '\n') ∨
      ∃ rest, quotedPoint mark p = '\\' :: rest ∧ '\n' ∉ rest := by
  cases p with
  | half isLow bits => exact .inr (numberEscape_cases _)
  | char c =>
      simp only [quotedPoint, quotedChar, Bool.or_eq_true, beq_iff_eq]
      split_ifs with hescaped htab hfeed hreturn hprintable
      · refine .inr ⟨[c], rfl, ?_⟩
        rcases hescaped with rfl | rfl
        · rcases hmark with rfl | rfl <;> decide
        · decide
      · exact .inr ⟨['t'], rfl, by decide⟩
      · exact .inr ⟨['n'], rfl, by decide⟩
      · exact .inr ⟨['r'], rfl, by decide⟩
      · exact .inl ⟨c, rfl, fun hc => hescaped (.inl hc), hfeed⟩
      · exact .inr (numberEscape_cases _)

/-- No quoted point begins like the closing mark. -/
theorem quotedPoint_ne_mark (hmark : IsMark mark) : quotedPoint mark p ++ r ≠ mark :: r' := by
  rcases quotedPoint_cases hmark p with ⟨c, hplain, hne, -⟩ | ⟨rest, hescape, -⟩
  · rw [hplain]
    exact fun h => hne (List.cons.inj h).1
  · rw [hescape]
    intro h
    rw [← (List.cons.inj h).1] at hmark
    exact absurd hmark (by simp [IsMark, singleMark, doubleMark])

theorem lineFeed_not_mem_quotedPoint (hmark : IsMark mark) (p : Point) :
    '\n' ∉ quotedPoint mark p := by
  rcases quotedPoint_cases hmark p with ⟨c, hplain, -, hne⟩ | ⟨rest, hescape, hrest⟩
  · rw [hplain, List.mem_singleton]
    exact Ne.symm hne
  · rw [hescape, List.mem_cons, not_or]
    exact ⟨by decide, hrest⟩

/-! ## Texts -/

theorem isMark_quotationMark (s : List Point) : IsMark (quotationMark s) := by
  rw [quotationMark]
  split
  · exact .inr rfl
  · exact .inl rfl

theorem flatMap_quotedPoint_cut (hmark : IsMark mark)
    (h : s.flatMap (quotedPoint mark) ++ mark :: r = t.flatMap (quotedPoint mark) ++ mark :: r') :
    s = t ∧ r = r' := by
  induction s generalizing t with
  | nil =>
      cases t with
      | nil => exact ⟨rfl, (List.cons.inj h).2⟩
      | cons q t =>
          rw [List.flatMap_cons, List.append_assoc] at h
          exact absurd h.symm (quotedPoint_ne_mark hmark)
  | cons p s ih =>
      cases t with
      | nil =>
          rw [List.flatMap_cons, List.append_assoc] at h
          exact absurd h (quotedPoint_ne_mark hmark)
      | cons q t =>
          rw [List.flatMap_cons, List.flatMap_cons, List.append_assoc, List.append_assoc] at h
          obtain ⟨rfl, hrest⟩ := quotedPoint_cut hmark h
          obtain ⟨rfl, rfl⟩ := ih hrest
          exact ⟨rfl, rfl⟩

/-- A quoted text tells what it quotes, and where it ends. -/
theorem quotedPoints_cut (h : quotedPoints s ++ r = quotedPoints t ++ r') : s = t ∧ r = r' := by
  simp only [quotedPoints, List.cons_append, List.append_assoc, List.nil_append] at h
  obtain ⟨hmark, hrest⟩ := List.cons.inj h
  rw [← hmark] at hrest
  exact flatMap_quotedPoint_cut (isMark_quotationMark s) hrest

theorem map_quotedPoints_cut {r r' : List Point}
    (h : (quotedPoints s).map .char ++ r = (quotedPoints t).map .char ++ r') :
    s = t ∧ r = r' := by
  -- one of the quoted texts begins with the other, so what comes in between is characters
  have hcut {s t : List Point} {between : List Point}
      (h : (quotedPoints t).map Point.char = (quotedPoints s).map Point.char ++ between) :
      s = t ∧ between = [] := by
    obtain ⟨first, rest, hsplit, hfirst, rfl⟩ := List.map_eq_append_iff.mp h
    obtain rfl := Spelled.map_char_inj.mp hfirst
    have hquoted : quotedPoints t ++ [] = quotedPoints s ++ rest := by simpa using hsplit
    obtain ⟨rfl, rfl⟩ := quotedPoints_cut hquoted
    exact ⟨rfl, rfl⟩
  rcases List.append_eq_append_iff.mp h with ⟨between, hlonger, hrest⟩ | ⟨between, hlonger, hrest⟩
  · obtain ⟨rfl, rfl⟩ := hcut hlonger
    exact ⟨rfl, by simpa using hrest⟩
  · obtain ⟨rfl, rfl⟩ := hcut hlonger
    exact ⟨rfl, by simpa using hrest.symm⟩

theorem lineFeed_not_mem_quotedPoints (s : List Point) : '\n' ∉ quotedPoints s := by
  have hmark := isMark_quotationMark s
  have hne : '\n' ≠ quotationMark s := by
    rcases hmark with h | h <;> rw [h] <;> decide
  simp only [quotedPoints, List.cons_append, List.mem_cons, List.mem_append, List.mem_flatMap,
    List.not_mem_nil, or_false]
  rintro (h | ⟨c, -, hc⟩ | h)
  · exact hne h
  · exact lineFeed_not_mem_quotedPoint hmark c hc
  · exact hne h

/-! ## Halves by their numbers -/

theorem Spelled.escaped_append (s t : Spelled) : (s ++ t).escaped = s.escaped ++ t.escaped := by
  rw [escaped, Spelled.points_append, List.flatMap_append, String.ofList_append]
  rfl

end AlertRelay.Text
