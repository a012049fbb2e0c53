import AlertRelay.Charset.Chinese
import AlertRelay.Charset.Japanese
import AlertRelay.Charset.Korean
import AlertRelay.Charset.Page.Iso

/-!
# Sets that shift

Some sets use the lower half of the bytes for several sets of characters in turn.
In one family an escape sequence puts a set into one of three places, and bytes are
read by the set in the place in use; in another two escapes lead to pairs and back.
-/

namespace AlertRelay.Charset.Shifting

/-! ## Places -/

/-- A set that can be put into a place: the mark that names it, whether its codes are
pairs, and the characters of a code. -/
structure Plane where
  mark : Char
  isPair : Bool
  chars? : Nat → Option (List Char)

def ascii : Plane := ⟨'B', false, fun n => if n < 0x80 then some [Char.ofNat n] else none⟩

def ofTable (mark : Char) (t : Table) : Plane := ⟨mark, true, fun n => (t.char? n).map ([·])⟩

/-- The Japanese single letters: ASCII with two signs changed, and those of half the
width. -/
def romanLetters : Plane :=
  ⟨'J', false, fun n =>
    if n = 0x5c then some ['¥']
    else if n = 0x7e then some ['‾']
    else ascii.chars? n⟩

def halfWidthLetters : Plane :=
  ⟨'I', false, fun n => (Japanese.halfWidth? (UInt8.ofNat (n + 0x80))).map ([·])⟩

/-- The upper halves of two pages, which have a place only for single shifts. -/
def westernPage : Plane := ⟨'A', false, fun _ => none⟩

def greekPage : Plane := ⟨'F', false, fun _ => none⟩

def japanese : Plane := ofTable 'B' Jis.basic

def oldJapanese : Plane := ofTable '@' Jis.basic

def supplement : Plane := ofTable 'D' Jis.supplement

def korean : Plane := ofTable 'C' Korean.basic

def chinese : Plane := ofTable 'A' Gb.basic

def firstPlane (mark : Char) (isSecondEdition : Bool) : Plane :=
  ⟨mark, true, Japanese.firstPlane? isSecondEdition⟩

def secondPlane : Plane := ofTable 'P' Jis.secondPlane

/-! ## The family with escape sequences -/

/-- A member of the family: the sets it knows beside ASCII, whether it has a place for
single shifts, whether two control characters shift between the other places, and
whether it takes the mark of a revision in front of an escape sequence. -/
structure Family where
  planes : List Plane
  hasSingleShift : Bool
  hasLockingShift : Bool
  hasRevisions : Bool

/-- What stands in the three places, which of the first two is in use, and whether an
unknown escape sequence goes on. -/
structure Places where
  g0 : Plane
  g1 : Plane
  g2 : Plane
  isShifted : Bool
  isEscape : Bool

def Places.start : Places := ⟨ascii, ascii, ascii, false, false⟩

/-- The plane with a mark. -/
def Family.plane? (f : Family) (isPair : Bool) (mark : UInt8) : Option Plane :=
  (ascii :: f.planes).find? fun p => p.isPair == isPair && p.mark.toNat == mark.toNat

def endsEscape (b : UInt8) : Bool := (0x41 ≤ b.toNat && b.toNat ≤ 0x5a) || b == 0x40

/-- How many bytes an escape sequence has whose first is the given number of bytes
away: `none` if it does not end in time, zero if it is longer than sixteen. -/
def escapeLength? (hasRevisions : Bool) (passed : Nat) : List UInt8 → Option Nat
  | bs =>
    if 16 ≤ passed then some 0
    else
      match bs with
      | [] => none
      | b :: rest =>
          if endsEscape b then some (passed + 1)
          else
            match rest with
            | c :: d :: more =>
                if hasRevisions && b == 0x26 && c == 0x40 then
                  escapeLength? hasRevisions (passed + 3) more
                else escapeLength? hasRevisions (passed + 1) (c :: d :: more)
            | [c] =>
                if hasRevisions && b == 0x26 && c == 0x40 then
                  if 16 ≤ passed + 3 then some 0 else none
                else escapeLength? hasRevisions (passed + 1) [c]
            | [] => escapeLength? hasRevisions (passed + 1) []

/-- The bytes of an escape sequence put a set into a place. -/
def Family.designate (f : Family) (s : Places) (sequence : List UInt8) : Step Places :=
  let taken := sequence.length
  let put := fun (isPair : Bool) (mark : UInt8) (change : Plane → Places) =>
    match f.plane? isPair mark with
    | some p => Step.chars [] taken (change p)
    | none => Step.fault taken
  let g0 := fun p => { s with g0 := p }
  let g1 := fun p => { s with g1 := p }
  let g2 := fun p => { s with g2 := p }
  match sequence with
  | [_, 0x24, mark] => put true mark g0
  | [_, 0x28, mark] => put false mark g0
  | [_, 0x29, mark] => put false mark g1
  | [_, 0x2e, mark] => if f.hasSingleShift then put false mark g2 else .fault taken
  | [_, 0x24, 0x28, mark] => put true mark g0
  | [_, 0x24, 0x29, mark] => put true mark g1
  | [_, 0x26, 0x40, 0x1b, 0x24, 0x42] => if f.hasRevisions then put true 0x42 g0 else .fault taken
  | _ => .fault taken

/-- The character that a single shift takes from its place. -/
def singleShifted (s : Places) (b : UInt8) : Step Places :=
  let char? : Option Char :=
    if s.g2.mark = 'A' then
      if b.toNat < 0x80 then some (Char.ofNat (b.toNat + 0x80)) else none
    else if s.g2.mark = 'F' then pageChar? Page.iso7 (b ^^^ 0x80)
    else asciiByte? b
  if ['A', 'F', 'B'].contains s.g2.mark then
    match char? with
    | some c => .chars [c] 3 s
    | none => .fault 3
  else .refuse .badShift

/-- Bytes read by the set in use. -/
def planeStep (s : Places) (a : UInt8) (rest : List UInt8) : Step Places :=
  let plane := if s.isShifted then s.g1 else s.g0
  let taken := if plane.isPair then 2 else 1
  match plane.isPair, rest with
  | true, [] => .short
  | true, b :: _ =>
      match plane.chars? (pairCode a b) with
      | some cs => .chars cs taken s
      | none => .fault taken
  | false, _ =>
      match plane.chars? a.toNat with
      | some cs => .chars cs taken s
      | none => .fault taken

/-- The second bytes of the escape sequences that put a set into a place. -/
def startsSequence (b : UInt8) : Bool := [0x28, 0x29, 0x24, 0x2e, 0x26].contains b

def Family.escapeStep (f : Family) (s : Places) (rest : List UInt8) : Step Places :=
  match rest with
  | [] => .short
  | b :: more =>
      if startsSequence b then
        match escapeLength? f.hasRevisions 1 rest with
        | none => .short
        | some 0 => .fault 1
        | some n => f.designate s ((0x1b :: rest).take n)
      else if f.hasSingleShift && b == 0x4e then
        match more with
        | [] => .short
        | c :: _ => singleShifted s c
      else .chars ['\x1b'] 1 { s with isEscape := true }

def Family.step (f : Family) (s : Places) : List UInt8 → Step Places
  | [] => .short
  | a :: rest =>
      if s.isEscape then
        .chars [Char.ofNat a.toNat] 1 { s with isEscape := !endsEscape a }
      else if a = 0x1b then f.escapeStep s rest
      else if a = 0x0f ∧ f.hasLockingShift then .chars [] 1 { s with isShifted := false }
      else if a = 0x0e ∧ f.hasLockingShift then .chars [] 1 { s with isShifted := true }
      else if a = 0x0a then .chars ['\n'] 1 { s with isShifted := false }
      else if a.toNat < 0x20 then .chars [Char.ofNat a.toNat] 1 s
      else if 0x80 ≤ a.toNat then .fault 1
      else planeStep s a rest

def family (name : String) (aliases : List String) (f : Family) : Charset :=
  { name, aliases, read := readWith f.step .start }

/-- A Japanese member, which has no locking shift. -/
def japaneseFamily (name : String) (aliases : List String) (planes : List Plane)
    (hasSingleShift : Bool) : Charset :=
  family name aliases ⟨planes, hasSingleShift, false, true⟩

/-! ## Two escapes -/

/-- A tilde leads to pairs and back; a pair of tildes is one, and a tilde hides the end
of a line. -/
def tildeStep (inPairs : Bool) : List UInt8 → Step Bool
  | [] => .short
  | a :: rest =>
      if a = 0x7e then
        match rest with
        | [] => .short
        | b :: _ =>
            if b = 0x7e ∧ !inPairs then .chars ['~'] 2 false
            else if b = 0x7b ∧ !inPairs then .chars [] 2 true
            else if b = 0x0a ∧ !inPairs then .chars [] 2 false
            else if b = 0x7d ∧ inPairs then .chars [] 2 false
            else .fault 1
      else if 0x80 ≤ a.toNat then .fault 1
      else if inPairs then
        match rest with
        | [] => .short
        | b :: _ => .ofChar? true 2 (Gb.basic.char? (pairCode a b))
      else .chars [Char.ofNat a.toNat] 1 false

/-! ## The sets -/

def charsets : List Charset :=
  [japaneseFamily "iso2022_jp" ["csiso2022jp", "iso2022jp", "iso_2022_jp"]
      [japanese, romanLetters, oldJapanese] false,
    japaneseFamily "iso2022_jp_1" ["iso2022jp_1", "iso_2022_jp_1"]
      [japanese, supplement, romanLetters, oldJapanese] false,
    japaneseFamily "iso2022_jp_2" ["iso2022jp_2", "iso_2022_jp_2"]
      [japanese, supplement, korean, chinese, romanLetters, oldJapanese, westernPage, greekPage]
      true,
    japaneseFamily "iso2022_jp_2004" ["iso2022jp_2004", "iso_2022_jp_2004"]
      [japanese, firstPlane 'Q' true, secondPlane] false,
    japaneseFamily "iso2022_jp_3" ["iso2022jp_3", "iso_2022_jp_3"]
      [japanese, firstPlane 'O' false, secondPlane] false,
    japaneseFamily "iso2022_jp_ext" ["iso2022jp_ext", "iso_2022_jp_ext"]
      [japanese, supplement, romanLetters, halfWidthLetters, oldJapanese] false,
    family "iso2022_kr" ["csiso2022kr", "iso2022kr", "iso_2022_kr"] ⟨[korean], false, true, false⟩,
    { name := "hz", aliases := ["hz_gb", "hz_gb_2312", "hzgb"], read := readWith tildeStep false }]

end AlertRelay.Charset.Shifting
