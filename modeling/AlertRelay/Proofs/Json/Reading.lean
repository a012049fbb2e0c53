import AlertRelay.Proofs.Json.Numbers
import AlertRelay.Proofs.Text.Spelled

/-!
# Reading what is rendered

A value whose floats are finite is read back from its text, in either style and whatever
follows the text.  Strings are read back point by point, also the characters above `\uffff` that
are written as a pair of escapes; only two halves that follow one another come back joined.
-/

namespace AlertRelay.Json

open AlertRelay.Text AlertRelay.Number

/-! ## Escapes -/

theorem hexValue?_hexDigit : ∀ n < 16, hexValue? (hexDigit n) = some n := by
  decide

theorem hexNumber?_hexDigits (width n : Nat) :
    hexNumber? (hexDigits width n) = some (n % 16 ^ width) := by
  induction width generalizing n with
  | zero => simp [hexDigits, hexNumber?, Nat.mod_one]
  | succ width ih =>
      have hlast := hexValue?_hexDigit (n % 16) (Nat.mod_lt n (by decide))
      have hbefore := ih (n / 16)
      simp only [hexNumber?] at hbefore ⊢
      have hsplit : n % 16 ^ (width + 1) = n / 16 % 16 ^ width * 16 + n % 16 := by
        rw [Nat.pow_succ', Nat.mod_mul]
        omega
      rw [hexDigits, List.foldlM_append, hbefore, hsplit]
      simp [hlast]

theorem ofNat?_toNat (p : Point) : Point.ofNat? p.toNat = some p := by
  cases p with
  | char c =>
      have hvalid : c.toNat.isValidChar := c.valid
      simp only [Point.toNat, Point.ofNat?, if_pos hvalid, Char.ofNat_toNat]
  | half isLow bits =>
      have hbits := bits.isLt
      cases isLow with
      | false =>
          have hinvalid : ¬(0xd800 + bits.val).isValidChar := by
            simp only [Nat.isValidChar]
            omega
          have hrange : 0xd800 ≤ 0xd800 + bits.val ∧ 0xd800 + bits.val < 0xdc00 := by omega
          simp [Point.toNat, Point.ofNat?, hinvalid, hrange]
      | true =>
          have hinvalid : ¬(0xdc00 + bits.val).isValidChar := by
            simp only [Nat.isValidChar]
            omega
          have hrange : 0xdc00 ≤ 0xdc00 + bits.val ∧ 0xdc00 + bits.val < 0xe000 := by omega
          simp [Point.toNat, Point.ofNat?, hinvalid, hrange]

variable {rest : List Char}

theorem readPoints_unitEscape {p : Point} (hp : p.toNat < 0x10000) :
    readPoints (unitEscape p.toNat ++ rest) =
      (readPoints rest).map fun (ps, r) => (p :: ps, r) := by
  have hdigits : hexNumber? (hexDigits 4 p.toNat) = some p.toNat := by
    rw [hexNumber?_hexDigits, Nat.mod_eq_of_lt (by omega)]
  simp only [hexDigits, List.nil_append, List.cons_append] at hdigits
  simp only [unitEscape, hexDigits, List.nil_append, List.cons_append, readPoints, hdigits]
  cases readPoints rest <;> simp [ofNat?_toNat]

theorem readPoints_letterEscape {letter c : Char} (hletter : letter ≠ 'u')
    (hc : letterEscapes.lookup letter = some c) :
    readPoints ('\\' :: letter :: rest) =
      (readPoints rest).map fun (ps, r) => (.char c :: ps, r) := by
  rw [readPoints.eq_def]
  simp only [Char.reduceEq, if_false, if_true]
  split
  · rename_i heq
    exact absurd (List.cons.inj heq).1 hletter
  · rename_i heq
    obtain ⟨rfl, rfl⟩ := List.cons.inj heq
    rw [hc]
    cases readPoints rest <;> rfl
  · rename_i heq
    simp at heq

theorem readPoints_plain {c : Char} (hmark : c ≠ '\x22') (hslash : c ≠ '\\')
    (hc : 0x20 ≤ c.toNat) :
    readPoints (c :: rest) = (readPoints rest).map fun (ps, r) => (.char c :: ps, r) := by
  rw [readPoints.eq_def]
  simp only [hmark, hslash, if_false, Nat.not_lt.mpr hc]
  cases readPoints rest <;> rfl

/-! ## Points -/

/-- A text that is read as one point, or as the two halves that are joined to it. -/
def Spells (text : List Char) (p : Point) : Prop :=
  ∃ ps : List Point, (∀ more, joinPoints (ps ++ more) = joinPoints (p :: more)) ∧
    ∀ rest, readPoints (text ++ rest) = (readPoints rest).map fun (qs, r) => (ps ++ qs, r)

theorem spells_of_point {text : List Char} {p : Point}
    (h : ∀ rest, readPoints (text ++ rest) = (readPoints rest).map fun (qs, r) => (p :: qs, r)) :
    Spells text p :=
  ⟨[p], fun _ => rfl, h⟩

theorem spells_numberEscape (c : Char) : Spells (numberEscape c.toNat) (.char c) := by
  rw [numberEscape]
  split
  · rename_i hsmall
    exact spells_of_point fun rest => readPoints_unitEscape (p := .char c) hsmall
  · rename_i hlarge
    have hvalid : c.toNat < 0x110000 := by
      rcases c.valid with h | h
      · exact Nat.lt_trans h (by decide)
      · exact h.2
    obtain ⟨high, hhigh⟩ : ∃ high : Fin 1024, (c.toNat - 0x10000) / 0x400 = high :=
      ⟨⟨_, by omega⟩, rfl⟩
    obtain ⟨low, hlow⟩ : ∃ low : Fin 1024, (c.toNat - 0x10000) % 0x400 = low :=
      ⟨⟨_, by omega⟩, rfl⟩
    rw [hhigh, hlow]
    refine ⟨[.half false high, .half true low], fun more => ?_, fun rest => ?_⟩
    · have hnumber : 0x10000 + high * 1024 + low = c.toNat := by omega
      rw [joinPoints_cons (.inl (by simp)), List.cons_append, List.cons_append, List.nil_append,
        joinPoints_pair, hnumber, Char.ofNat_toNat]
    · have hfirst : (Point.half false high).toNat < 0x10000 := by
        simp only [Point.toNat]
        omega
      have hsecond : (Point.half true low).toNat < 0x10000 := by
        simp only [Point.toNat]
        omega
      rw [List.append_assoc]
      refine (readPoints_unitEscape hfirst).trans ?_
      rw [← Point.toNat, readPoints_unitEscape hsecond, Option.map_map]
      rfl

theorem spells_escapedChar (asciiOnly : Bool) (c : Char) :
    Spells (escapedChar asciiOnly c) (.char c) := by
  have hletter {letter : Char} (hu : letter ≠ 'u') (hc : letterEscapes.lookup letter = some c) :
      Spells ['\\', letter] (.char c) :=
    spells_of_point fun rest => readPoints_letterEscape hu hc
  simp only [escapedChar, beq_iff_eq]
  split_ifs with hmark hslash _ _ _ _ _ hnumber
  any_goals
    subst c
    exact hletter (by decide) rfl
  · exact spells_numberEscape c
  · have hc : 0x20 ≤ c.toNat := by
      simp only [Bool.or_eq_true, decide_eq_true_eq, not_or, Nat.not_lt] at hnumber
      exact hnumber.1
    exact spells_of_point fun rest => readPoints_plain hmark hslash hc

theorem spells_escapedPoint (asciiOnly : Bool) (p : Point) :
    Spells (escapedPoint asciiOnly p) p := by
  cases p with
  | char c => exact spells_escapedChar asciiOnly c
  | half isLow bits =>
      have hsmall : (Point.half isLow bits).toNat < 0x10000 := by
        cases isLow <;> simp only [Point.toNat] <;> omega
      exact spells_of_point fun rest => readPoints_unitEscape hsmall

/-! ## Strings -/

theorem readPoints_renderText (asciiOnly : Bool) (s : List Point) (rest : List Char) :
    ∃ ps, joinPoints ps = joinPoints s ∧
      readPoints (s.flatMap (escapedPoint asciiOnly) ++ '\x22' :: rest) = some (ps, rest) := by
  induction s with
  | nil => exact ⟨[], rfl, by simp [readPoints.eq_def]⟩
  | cons p s ih =>
      obtain ⟨qs, hqs, hread⟩ := ih
      obtain ⟨ps, hjoin, hspell⟩ := spells_escapedPoint asciiOnly p
      refine ⟨ps ++ qs, ?_, ?_⟩
      · rw [hjoin, joinPoints_cons_congr p hqs]
      · rw [List.flatMap_cons, List.append_assoc, hspell, hread]
        rfl

/-- A string is read back from what stands behind its opening mark, with its halves joined. -/
theorem readText_renderText (asciiOnly : Bool) (s : Spelled) (rest : List Char) :
    readText (s.points.flatMap (escapedPoint asciiOnly) ++ '\x22' :: rest) =
      some (s.joined, rest) := by
  obtain ⟨ps, hjoin, hread⟩ := readPoints_renderText asciiOnly s.points rest
  simp [readText, hread, hjoin, Spelled.joined]

/-! ## Ends of words -/

/-- Whether what follows a word cannot be part of it. -/
def EndsWord (rest : List Char) : Prop := ∀ c ∈ rest.head?, isWordChar c = false

/-! ## Blanks -/

theorem skipBlanks_cons {c : Char} (hc : isBlank c = false) :
    skipBlanks (c :: rest) = c :: rest := by
  simp [skipBlanks, hc]

theorem skipBlanks_append {blanks : List Char} (h : ∀ c ∈ blanks, isBlank c = true) :
    skipBlanks (blanks ++ rest) = skipBlanks rest :=
  List.dropWhile_append_of_pos h

section Gaps

variable {blanks : List Char} (hblanks : ∀ c ∈ blanks, isBlank c = true) (steps : Nat)
  (s : List Char)

include hblanks

theorem readValue_append_blanks : readValue steps (blanks ++ s) = readValue steps s := by
  cases steps with
  | zero => rfl
  | succ steps => simp only [readValue, skipBlanks_append hblanks]

theorem readItems_append_blanks : readItems steps (blanks ++ s) = readItems steps s := by
  cases steps with
  | zero => rfl
  | succ steps => simp only [readItems, readValue_append_blanks hblanks]

theorem readFields_append_blanks : readFields steps (blanks ++ s) = readFields steps s := by
  cases steps with
  | zero => rfl
  | succ steps => simp only [readFields, skipBlanks_append hblanks]

end Gaps

/-! ## Values -/

mutual

/-- Whether every float in a value is a finite number. -/
def IsFinite : Json → Prop
  | float x => x.IsFinite
  | array items => AreFiniteItems items
  | object fields => AreFiniteFields fields
  | null | bool _ | int _ | text _ => True

def AreFiniteItems : List Json → Prop
  | [] => True
  | v :: rest => IsFinite v ∧ AreFiniteItems rest

def AreFiniteFields : List (Spelled × Json) → Prop
  | [] => True
  | (_, v) :: rest => IsFinite v ∧ AreFiniteFields rest

end

mutual

/-- A value with the halves of its texts joined. -/
def joined : Json → Json
  | text s => text s.joined
  | array items => array (joinedItems items)
  | object fields => object (joinedFields fields)
  | null => null
  | bool b => bool b
  | int i => int i
  | float x => float x

def joinedItems : List Json → List Json
  | [] => []
  | v :: rest => joined v :: joinedItems rest

def joinedFields : List (Spelled × Json) → List (Spelled × Json)
  | [] => []
  | (k, v) :: rest => (k.joined, joined v) :: joinedFields rest

end

mutual

theorem joined_of_isWhole : ∀ {v : Json}, v.isWhole = true → v.joined = v
  | text _, h => congrArg text (Spelled.joined_of_isWhole h)
  | array _, h => congrArg array (joinedItems_of_areWhole h)
  | object _, h => congrArg object (joinedFields_of_areWhole h)
  | null, _ => rfl
  | bool _, _ => rfl
  | int _, _ => rfl
  | float _, _ => rfl

theorem joinedItems_of_areWhole :
    ∀ {items : List Json}, areWholeItems items = true → joinedItems items = items
  | [], _ => rfl
  | v :: rest, h => by
      obtain ⟨hv, hrest⟩ : v.isWhole = true ∧ areWholeItems rest = true := by
        simpa [areWholeItems] using h
      rw [joinedItems, joined_of_isWhole hv, joinedItems_of_areWhole hrest]

theorem joinedFields_of_areWhole :
    ∀ {fields : List (Spelled × Json)}, areWholeFields fields = true → joinedFields fields = fields
  | [], _ => rfl
  | (k, v) :: rest, h => by
      obtain ⟨⟨hk, hv⟩, hrest⟩ :
          (k.isWhole = true ∧ v.isWhole = true) ∧ areWholeFields rest = true := by
        simpa [areWholeFields] using h
      rw [joinedFields, Spelled.joined_of_isWhole hk, joined_of_isWhole hv,
        joinedFields_of_areWhole hrest]

end

theorem not_isWordChar_of_isBlank {c : Char} (h : isBlank c = true) : isWordChar c = false := by
  simp only [isBlank, Bool.or_eq_true, beq_iff_eq] at h
  rcases h with ((rfl | rfl) | rfl) | rfl <;> decide

theorem readValue_word (word : List Char) {v : Json} (hword : IsWord word)
    (hv : scalar? word = some v) (hrest : EndsWord rest) (steps : Nat) :
    readValue (steps + 1) (word ++ rest) = some (v, rest) := by
  obtain ⟨hne, hall⟩ := hword
  have htake : (word ++ rest).takeWhile isWordChar = word := by
    rw [List.takeWhile_append_of_pos hall]
    cases rest with
    | nil => simp
    | cons c rest => simp [hrest c rfl]
  have hdrop : (word ++ rest).dropWhile isWordChar = rest := by
    rw [List.dropWhile_append_of_pos hall]
    cases rest with
    | nil => simp
    | cons c rest => simp [hrest c rfl]
  obtain ⟨c, more, rfl⟩ := List.exists_cons_of_ne_nil hne
  have hc : isWordChar c = true := hall c (by simp)
  have hskip : skipBlanks (c :: more ++ rest) = c :: more ++ rest := by
    apply skipBlanks_cons
    cases hblank : isBlank c with
    | false => rfl
    | true => simp [not_isWordChar_of_isBlank hblank] at hc
  simp only [readValue, hskip]
  split
  · rename_i heq
    obtain ⟨rfl, -⟩ := List.cons.inj heq
    exact absurd hc (by decide)
  · rename_i heq
    obtain ⟨rfl, -⟩ := List.cons.inj heq
    exact absurd hc (by decide)
  · rename_i heq
    obtain ⟨rfl, -⟩ := List.cons.inj heq
    exact absurd hc (by decide)
  · rw [htake, hdrop, hv]
    rfl

variable {style : Style}

theorem readValue_text (s : Spelled) (steps : Nat) :
    readValue (steps + 1) (renderText style.asciiOnly s ++ rest) = some (text s.joined, rest) := by
  have hread := readText_renderText style.asciiOnly s rest
  simp only [renderText, List.cons_append, List.append_assoc, List.nil_append, readValue,
    skipBlanks_cons (c := '\x22') (by decide), hread]
  rfl

/-! ## Containers -/

/-- Whether a text begins with what may begin an item of an array. -/
def OpensItem (s : List Char) : Prop :=
  ∃ c more, s = c :: more ∧ isBlank c = false ∧ c ≠ ']'

theorem IsWord.opensItem {word : List Char} (h : IsWord word) : OpensItem word := by
  obtain ⟨c, more, rfl⟩ := List.exists_cons_of_ne_nil h.1
  have hc : isWordChar c = true := h.2 c (by simp)
  refine ⟨c, more, rfl, ?_, ?_⟩
  · cases hblank : isBlank c with
    | false => rfl
    | true => simp [not_isWordChar_of_isBlank hblank] at hc
  · rintro rfl
    exact absurd hc (by decide)

theorem OpensItem.append {s : List Char} (h : OpensItem s) (rest : List Char) :
    OpensItem (s ++ rest) := by
  obtain ⟨c, more, rfl, hblank, hc⟩ := h
  exact ⟨c, more ++ rest, rfl, hblank, hc⟩

theorem opensItem_render (style : Style) {v : Json} (hv : v.IsFinite) :
    OpensItem (render style v) := by
  cases v with
  | null => exact ⟨'n', _, rfl, by decide, by decide⟩
  | bool b =>
      cases b with
      | false => exact ⟨'f', _, rfl, by decide, by decide⟩
      | true => exact ⟨'t', _, rfl, by decide, by decide⟩
  | int i => exact (isWord_integerText i).opensItem
  | float x =>
      simp only [IsFinite] at hv
      exact (isWord_renderFloat hv).opensItem
  | text s => exact ⟨'\x22', _, rfl, by decide, by decide⟩
  | array items => exact ⟨'[', _, rfl, by decide, by decide⟩
  | object fields => exact ⟨'\x7b', _, rfl, by decide, by decide⟩

theorem opensItem_renderItems (style : Style) {v : Json} (hv : v.IsFinite)
    (items : List Json) :
    OpensItem (renderItems style (v :: items)) := by
  cases items with
  | nil => exact opensItem_render style hv
  | cons w items =>
      simp only [renderItems, List.append_assoc]
      exact (opensItem_render style hv).append _

section Steps

variable {s more : List Char} {steps : Nat} {v : Json} {items : List Json} {key : Spelled}
  {fields : List (Spelled × Json)}

theorem readValue_items (hs : OpensItem s) (hitems : readItems steps s = some (items, rest)) :
    readValue (steps + 1) ('[' :: s) = some (array items, rest) := by
  obtain ⟨c, more, rfl, hblank, hc⟩ := hs
  simp only [readValue, skipBlanks_cons (c := '[') (by decide), skipBlanks_cons hblank]
  split
  · rename_i heq
    exact absurd (List.cons.inj heq).1 hc
  · rw [hitems]
    rfl

theorem readItems_last (hv : readValue steps s = some (v, ']' :: rest)) :
    readItems (steps + 1) s = some ([v], rest) := by
  rw [readItems, hv]
  rfl

theorem readItems_more (hv : readValue steps s = some (v, ',' :: more))
    (hitems : readItems steps more = some (items, rest)) :
    readItems (steps + 1) s = some (v :: items, rest) := by
  rw [readItems, hv]
  simp [skipBlanks_cons (c := ',') (by decide), hitems]

theorem readValue_fields (hfields : readFields steps ('\x22' :: s) = some (fields, rest)) :
    readValue (steps + 1) ('\x7b' :: '\x22' :: s) = some (object fields, rest) := by
  simp only [readValue, skipBlanks_cons (c := '\x7b') (by decide),
    skipBlanks_cons (c := '\x22') (by decide)]
  simp [hfields]

theorem readFields_last (hv : readValue steps s = some (v, '\x7d' :: rest)) :
    readFields (steps + 1) (renderText style.asciiOnly key ++ ':' :: s) =
      some ([(key.joined, v)], rest) := by
  have hread := readText_renderText style.asciiOnly key (':' :: s)
  simp only [renderText, List.cons_append, List.append_assoc, List.nil_append, readFields,
    skipBlanks_cons (c := '\x22') (by decide)]
  simp [hread, hv, skipBlanks_cons (c := ':') (by decide),
    skipBlanks_cons (c := '\x7d') (by decide)]

theorem readFields_more (hv : readValue steps s = some (v, ',' :: more))
    (hfields : readFields steps more = some (fields, rest)) :
    readFields (steps + 1) (renderText style.asciiOnly key ++ ':' :: s) =
      some ((key.joined, v) :: fields, rest) := by
  have hread := readText_renderText style.asciiOnly key (':' :: s)
  simp only [renderText, List.cons_append, List.append_assoc, List.nil_append, readFields,
    skipBlanks_cons (c := '\x22') (by decide)]
  simp [hread, hv, hfields, skipBlanks_cons (c := ':') (by decide),
    skipBlanks_cons (c := ',') (by decide)]

theorem endsWord_cons {c : Char} (hc : isWordChar c = false) : EndsWord (c :: rest) := by
  intro d hd
  obtain rfl : c = d := by simpa using hd
  exact hc

end Steps

/-! ## Reading back -/

mutual

/-- A value is read back from its text if enough steps are allowed and the text goes on with
nothing that could be part of a word. -/
theorem readValue_render (hgap : ∀ c ∈ style.gap, isBlank c = true) {v : Json}
    (hv : v.IsFinite) {steps : Nat} (hsteps : (render style v).length ≤ steps)
    {rest : List Char} (hrest : EndsWord rest) :
    readValue steps (render style v ++ rest) = some (v.joined, rest) := by
  obtain ⟨c, more, hopens, -, -⟩ := opensItem_render style hv
  obtain ⟨steps, rfl⟩ : ∃ n, steps = n + 1 := by
    refine Nat.exists_eq_succ_of_ne_zero ?_
    rintro rfl
    simp [hopens] at hsteps
  cases v with
  | null => exact readValue_word "null".toList (isWord_of_all (by decide) rfl) rfl hrest steps
  | bool b =>
      cases b with
      | false =>
          exact readValue_word "false".toList (isWord_of_all (by decide) rfl) rfl hrest steps
      | true =>
          exact readValue_word "true".toList (isWord_of_all (by decide) rfl) rfl hrest steps
  | int i =>
      exact readValue_word _ (isWord_integerText i) (scalar?_of_number? (number?_integerText i))
        hrest steps
  | float x =>
      simp only [IsFinite] at hv
      exact readValue_word _ (isWord_renderFloat hv) (scalar?_of_number? (number?_renderFloat hv))
        hrest steps
  | text s => exact readValue_text s steps
  | array items =>
      cases items with
      | nil => rfl
      | cons v items =>
          simp only [render, List.length_cons, List.length_append, List.length_nil] at hsteps
          simp only [IsFinite] at hv
          have hitems : readItems steps (renderItems style (v :: items) ++ ']' :: rest) =
              some (joinedItems (v :: items), rest) :=
            readItems_renderItems hgap hv (by omega)
          simp only [AreFiniteItems] at hv
          have hopen := (opensItem_renderItems style hv.1 items).append (']' :: rest)
          simpa [render, joined] using readValue_items hopen hitems
  | object fields =>
      cases fields with
      | nil => rfl
      | cons field fields =>
          obtain ⟨key, v⟩ := field
          simp only [render, List.length_cons, List.length_append, List.length_nil] at hsteps
          simp only [IsFinite] at hv
          have hfields : readFields steps (renderFields style ((key, v) :: fields) ++
              '\x7d' :: rest) = some (joinedFields ((key, v) :: fields), rest) :=
            readFields_renderFields hgap hv (by omega)
          cases fields <;>
            simp only [render, renderFields, renderText, List.cons_append,
              List.append_assoc] at hfields ⊢ <;>
            exact readValue_fields hfields
termination_by steps

theorem readItems_renderItems (hgap : ∀ c ∈ style.gap, isBlank c = true) {v : Json}
    {items : List Json} (hitems : AreFiniteItems (v :: items)) {steps : Nat}
    (hsteps : (renderItems style (v :: items)).length < steps) {rest : List Char} :
    readItems steps (renderItems style (v :: items) ++ ']' :: rest) =
      some (joinedItems (v :: items), rest) := by
  obtain ⟨steps, rfl⟩ : ∃ n, steps = n + 1 := Nat.exists_eq_succ_of_ne_zero (by omega)
  simp only [AreFiniteItems] at hitems
  cases items with
  | nil =>
      simp only [renderItems] at hsteps ⊢
      exact readItems_last (readValue_render hgap hitems.1 (by omega) (endsWord_cons (by decide)))
  | cons w items =>
      simp only [renderItems, List.length_append, List.length_cons] at hsteps
      have hmore : readItems steps (renderItems style (w :: items) ++ ']' :: rest) =
          some (joinedItems (w :: items), rest) :=
        readItems_renderItems hgap hitems.2 (by omega)
      rw [← readItems_append_blanks hgap] at hmore
      simp only [renderItems, List.cons_append, List.append_assoc]
      exact readItems_more (readValue_render hgap hitems.1 (by omega) (endsWord_cons (by decide)))
        hmore
termination_by steps

theorem readFields_renderFields (hgap : ∀ c ∈ style.gap, isBlank c = true) {key : Spelled}
    {v : Json} {fields : List (Spelled × Json)}
    (hfields : AreFiniteFields ((key, v) :: fields)) {steps : Nat}
    (hsteps : (renderFields style ((key, v) :: fields)).length < steps) {rest : List Char} :
    readFields steps (renderFields style ((key, v) :: fields) ++ '\x7d' :: rest) =
      some (joinedFields ((key, v) :: fields), rest) := by
  obtain ⟨steps, rfl⟩ : ∃ n, steps = n + 1 := Nat.exists_eq_succ_of_ne_zero (by omega)
  simp only [AreFiniteFields] at hfields
  cases fields with
  | nil =>
      simp only [renderFields, List.length_append, List.length_cons] at hsteps
      have hv : readValue steps (render style v ++ '\x7d' :: rest) =
          some (v.joined, '\x7d' :: rest) :=
        readValue_render hgap hfields.1 (by omega) (endsWord_cons (by decide))
      rw [← readValue_append_blanks hgap] at hv
      simp only [renderFields, List.cons_append, List.append_assoc]
      exact readFields_last hv
  | cons field fields =>
      obtain ⟨other, w⟩ := field
      simp only [renderFields, List.length_append, List.length_cons] at hsteps
      have hmore : readFields steps (renderFields style ((other, w) :: fields) ++
          '\x7d' :: rest) = some (joinedFields ((other, w) :: fields), rest) :=
        readFields_renderFields hgap hfields.2 (by omega)
      rw [← readFields_append_blanks hgap] at hmore
      simp only [renderFields, List.cons_append, List.append_assoc]
      refine readFields_more ?_ hmore
      rw [readValue_append_blanks hgap]
      exact readValue_render hgap hfields.1 (by omega) (endsWord_cons (by decide))
termination_by steps

end

/-- A text that is rendered stands for the value that it was rendered from, with halves
joined. -/
theorem read_render (hgap : ∀ c ∈ style.gap, isBlank c = true) {v : Json}
    (hv : v.IsFinite) : read (render style v) = some v.joined := by
  have hend : EndsWord [] := by simp [EndsWord]
  have hread := readValue_render hgap hv (Nat.le_refl _) hend
  rw [List.append_nil] at hread
  simp [read, hread, skipBlanks]

end AlertRelay.Json
