import AlertRelay.Charset.Double
import AlertRelay.Charset.Korean.Basic

/-!
# Korean character sets

The Korean set has the syllables in common use.  One extension lists all others in
their order, one spells a syllable by its letters in the bits of a pair, and the set
itself may spell one by four pairs.
-/

namespace AlertRelay.Charset.Korean

def common? (a b : UInt8) : Option Char := (highCode? a b).bind basic.char?

/-! ## Syllables -/

/-- The letters that begin, and those that end a syllable. -/
def initials : List Char := "ㄱㄲㄴㄷㄸㄹㅁㅂㅃㅅㅆㅇㅈㅉㅊㅋㅌㅍㅎ".toList

def finals : List Char := "ㄱㄲㄳㄴㄵㄶㄷㄹㄺㄻㄼㄽㄾㄿㅀㅁㅂㅄㅅㅆㅇㅈㅊㅋㅌㅍㅎ".toList

/-- The syllable of an initial, a vowel and a final, where zero is no final. -/
def syllable (initial vowel final : Nat) : Char :=
  Char.ofNat (0xac00 + initial * 588 + vowel * 28 + final)

/-- A letter by the second byte of its pair. -/
def letter (b : UInt8) : Char := Char.ofNat (0x3131 + (b.toNat - 0xa1))

/-- The syllable that three letters spell. -/
def spelled? (x y z : UInt8) : Option Char :=
  let isLetter := fun (b : UInt8) => 0xa1 ≤ b.toNat && b.toNat ≤ 0xbe
  let initial := if isLetter x then initials.idxOf? (letter x) else none
  let vowel := if 0xbf ≤ y.toNat ∧ y.toNat ≤ 0xd3 then some (y.toNat - 0xbf) else none
  let final :=
    if z = 0xd4 then some 0
    else if isLetter z then (finals.idxOf? (letter z)).map (· + 1)
    else none
  match initial, vowel, final with
  | some i, some v, some f => some (syllable i v f)
  | _, _, _ => none

def commonStep : Unit → List UInt8 → Step Unit
  | _, [] => .short
  | _, a :: rest =>
      if a.toNat < 0x80 then .chars [Char.ofNat a.toNat] 1 ()
      else
        match rest with
        | [] => .short
        | b :: rest =>
            if a = 0xa4 ∧ b = 0xd4 then
              match rest with
              | p :: x :: q :: y :: r :: z :: _ =>
                  if p = 0xa4 ∧ q = 0xa4 ∧ r = 0xa4 then .ofChar? () 8 (spelled? x y z)
                  else .fault 1
              | _ => .short
            else .ofChar? () 2 (common? a b)

/-! ## The extended set -/

/-- The syllables of the common set, in increasing order. -/
def syllables : List Nat := basic.inRange 0xac00 0xd7a3

/-- The number of a pair among those that the extension uses. -/
def extensionNumber? (a b : UInt8) : Option Nat :=
  let n := b.toNat
  let trail :=
    if 0x41 ≤ n ∧ n ≤ 0x5a then some (n - 0x41)
    else if 0x61 ≤ n ∧ n ≤ 0x7a then some (n - 0x61 + 26)
    else if 0x81 ≤ n ∧ n ≤ 0xfe then some (n - 0x81 + 52)
    else none
  match trail with
  | none => none
  | some t =>
      if 0x81 ≤ a.toNat ∧ a.toNat ≤ 0xa0 then some ((a.toNat - 0x81) * 178 + t)
      else if 0xa1 ≤ a.toNat ∧ a.toNat ≤ 0xc6 ∧ t < 84 then some (5696 + (a.toNat - 0xa1) * 84 + t)
      else none

/-- The syllables that the common set left out. -/
def leftOut? (a b : UInt8) : Option Char :=
  match extensionNumber? a b with
  | none => none
  | some n => if n < 8822 then some (Char.ofNat (nthBeside syllables 0xac00 n)) else none

def extended? (a b : UInt8) : Option (List Char) := ((common? a b).or (leftOut? a b)).map ([·])

/-! ## The combining set -/

/-- What five bits stand for: nothing, a filler, or a letter by its number. -/
inductive Jamo where
  | fill
  | letter (n : Nat)
  deriving DecidableEq, Repr

def initial? (n : Nat) : Option Jamo :=
  if n = 1 then some .fill else if 2 ≤ n ∧ n ≤ 20 then some (.letter (n - 2)) else none

def vowel? (n : Nat) : Option Jamo :=
  if n = 2 then some .fill
  else if 3 ≤ n ∧ n ≤ 29 ∧ 2 ≤ n % 8 then some (.letter (n - 3 - 2 * (n / 8)))
  else none

def final? (n : Nat) : Option Jamo :=
  if n = 1 then some .fill
  else if 2 ≤ n ∧ n ≤ 17 then some (.letter (n - 1))
  else if 19 ≤ n ∧ n ≤ 29 then some (.letter (n - 2))
  else none

/-- The syllable or the letter in the bits of a pair. -/
def combined? (a b : UInt8) : Option Char :=
  let bits := pairCode a b
  match initial? (bits / 1024 % 32), vowel? (bits / 32 % 32), final? (bits % 32) with
  | some .fill, some .fill, some .fill => some '\u3000'
  | some .fill, some .fill, some (.letter f) => finals[f - 1]?
  | some .fill, some (.letter v), some .fill => some (Char.ofNat (0x314f + v))
  | some (.letter i), some .fill, some .fill => initials[i]?
  | some (.letter i), some (.letter v), some .fill => some (syllable i v 0)
  | some (.letter i), some (.letter v), some (.letter f) => some (syllable i v f)
  | _, _, _ => none

/-- The signs and ideographs of the common set, two rows to a first byte. -/
def combinedSign? (a b : UInt8) : Option Char :=
  let n := b.toNat
  let isTrail := (0x31 ≤ n && n < 0x7f) || (0x91 ≤ n && n < 0xff)
  let isLetter := a = 0xda ∧ 0xa1 ≤ n ∧ n ≤ 0xd3
  if a.toNat < 0xd9 ∨ a = 0xdf ∨ 0xf9 < a.toNat ∨ isTrail = false ∨ isLetter then none
  else
    let trail := if n < 0x91 then n - 0x31 else n - 0x43
    let row := (if a.toNat < 0xe0 then 2 * a.toNat - 0x1b2 else 2 * a.toNat - 0x197) + trail / 94
    basic.char? ((row + 0x21) * 256 + (trail % 94 + 0x21))

def combining? (a b : UInt8) : Option (List Char) :=
  (if a.toNat < 0xd8 then combined? a b else combinedSign? a b).map ([·])

/-! ## The sets -/

def charsets : List Charset :=
  [{ name := "euc_kr"
     aliases :=
       ["euckr", "korean", "ks_c_5601", "ks_c_5601_1987", "ks_x_1001", "ksc5601", "ksx1001",
         "x_mac_korean"]
     read := readWith commonStep () },
    pairSet "cp949" ["949", "ms949", "uhc"] asciiByte? extended?,
    pairSet "johab" ["cp1361", "ms1361"] asciiByte? combining?]

end AlertRelay.Charset.Korean
