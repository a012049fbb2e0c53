import AlertRelay.Charset.Double
import AlertRelay.Charset.Jis.Basic
import AlertRelay.Charset.Jis.Extension
import AlertRelay.Charset.Jis.Supplement
import AlertRelay.Charset.Jis.Vendor

/-!
# Japanese character sets

The Japanese set is sent in two ways: with high bits, where two further bytes lead
to single and to triple codes, or shifted, so that the bytes between the single
letters are the first of a pair.  Both exist for the set in common use and for the
two editions of the extended one.
-/

namespace AlertRelay.Charset.Japanese

/-- The letters of half the width, one byte each. -/
def halfWidth? (b : UInt8) : Option Char :=
  if 0xa1 ≤ b.toNat ∧ b.toNat ≤ 0xdf then some (Char.ofNat (0xff61 + (b.toNat - 0xa1))) else none

/-! ## The extended set -/

/-- The codes that the second edition of the extended set added. -/
def laterCodes : List Nat :=
  [0x2e21, 0x2f7e, 0x4f54, 0x4f7e, 0x7427, 0x7e7a, 0x7e7b, 0x7e7c, 0x7e7d, 0x7e7e]

/-- The first plane of an edition of the extended set.  The codes that it lacks are
known, and read as the replacement character. -/
def firstPlane? (isSecondEdition : Bool) (code : Nat) : Option (List Char) :=
  if !isSecondEdition && laterCodes.contains code then some [Text.Utf8.replacement]
  else
    match (Jis.firstPlane.char? code).or (Jis.basic.char? code) with
    | some c => some [c]
    | none => (Jis.pairs.find? fun (n, _) => n == code).map fun (_, letter, mark) => [letter, mark]

/-- The second plane of an edition; one ideograph changed. -/
def secondPlane? (isSecondEdition : Bool) (code : Nat) : Option Char :=
  if !isSecondEdition && code == 0x7d3b then some '\u9b1d' else Jis.secondPlane.char? code

/-! ## High bits -/

/-- One step where a byte leads to a half-wide letter and another to three bytes. -/
def extendedStep (two : Nat → Option (List Char)) (three : Nat → Option Char) :
    Unit → List UInt8 → Step Unit
  | _, [] => .short
  | _, a :: rest =>
      if a.toNat < 0x80 then .chars [Char.ofNat a.toNat] 1 ()
      else if a = 0x8f then
        match rest with
        | b :: c :: _ => .ofChar? () 3 ((highCode? b c).bind three)
        | _ => .short
      else
        match rest with
        | [] => .short
        | b :: _ =>
            if a = 0x8e then .ofChar? () 2 (halfWidth? b)
            else .ofChars? () 2 ((highCode? a b).bind two)

def extendedSet (name : String) (aliases : List String) (two : Nat → Option (List Char))
    (three : Nat → Option Char) : Charset :=
  { name, aliases, read := readWith (extendedStep two three) () }

/-- An edition with high bits, where the tilde is a wide one. -/
def extendedEdition (name : String) (aliases : List String) (isSecondEdition : Bool) : Charset :=
  extendedSet name aliases
    (fun code => if code = 0x2232 then some ['～'] else firstPlane? isSecondEdition code)
    fun code => (secondPlane? isSecondEdition code).or (Jis.supplement.char? code)

/-! ## Shifted -/

/-- The row and cell of a shifted pair, both from zero. -/
def unshift? (a b : UInt8) : Option (Nat × Nat) :=
  let isLead := (0x81 ≤ a.toNat && a.toNat ≤ 0x9f) || (0xe0 ≤ a.toNat && a.toNat ≤ 0xfc)
  let isTrail := 0x40 ≤ b.toNat && b.toNat ≠ 0x7f && b.toNat ≤ 0xfc
  if isLead && isTrail then
    let lead := if a.toNat < 0xe0 then a.toNat - 0x81 else a.toNat - 0xc1
    let trail := if b.toNat < 0x80 then b.toNat - 0x40 else b.toNat - 0x41
    some (2 * lead + trail / 94, trail % 94)
  else none

/-- The code of a row and a cell. -/
def rowCode (row cell : Nat) : Nat := (row + 0x21) * 256 + (cell + 0x21)

def shiftedOne? (b : UInt8) : Option Char := (asciiByte? b).or (halfWidth? b)

def shiftedPair? (a b : UInt8) : Option (List Char) :=
  (unshift? a b).bind fun (row, cell) => (Jis.basic.char? (rowCode row cell)).map ([·])

/-- The row of the second plane where the shifted rows behind the first plane lead. -/
def secondPlaneRow (row : Nat) : Nat :=
  if 0x67 ≤ row then row + 0x07 - 0x21
  else if 0x63 ≤ row ∨ row = 0x5f then row - 0x37 - 0x21
  else row - 0x3d - 0x21

def shiftedEditionPair? (isSecondEdition : Bool) (a b : UInt8) : Option (List Char) :=
  (unshift? a b).bind fun (row, cell) =>
    if row < 94 then
      let code := rowCode row cell
      if code = 0x2140 then some ['\\'] else firstPlane? isSecondEdition code
    else (secondPlane? isSecondEdition (rowCode (secondPlaneRow row) cell)).map ([·])

/-- The single bytes of the editions: ASCII with two signs changed. -/
def editionOne? (b : UInt8) : Option Char :=
  if b = 0x5c then some '¥' else if b = 0x7e then some '‾' else shiftedOne? b

/-- The single bytes of a vendor's set. -/
def vendorOne? (b : UInt8) : Option Char :=
  if b = 0x80 then some '\x80'
  else if b = 0xa0 then some '\uf8f0'
  else if 0xfd ≤ b.toNat then some (Char.ofNat (0xf8f1 + (b.toNat - 0xfd)))
  else shiftedOne? b

/-- The pairs of a vendor's set, with a range for private use. -/
def vendorPair? (a b : UInt8) : Option (List Char) :=
  (unshift? a b).bind fun (row, cell) =>
    if 94 ≤ row ∧ row < 114 then some [Char.ofNat (0xe000 + (row - 94) * 94 + cell)]
    else
      let code := rowCode row cell
      ((Jis.vendor.char? code).or (Jis.basic.char? code)).map ([·])

/-! ## The sets -/

def charsets : List Charset :=
  [extendedSet "euc_jp" ["eucjp", "u_jis", "ujis"] (fun code => (Jis.basic.char? code).map ([·]))
      Jis.supplement.char?,
    extendedEdition "euc_jis_2004" ["euc_jis2004", "eucjis2004", "jisx0213"] true,
    extendedEdition "euc_jisx0213" ["eucjisx0213"] false,
    pairSet "shift_jis" ["csshiftjis", "s_jis", "shiftjis", "sjis", "x_mac_japanese"] shiftedOne?
      shiftedPair?,
    pairSet "shift_jis_2004" ["s_jis_2004", "shiftjis2004", "sjis_2004"] editionOne?
      (shiftedEditionPair? true),
    pairSet "shift_jisx0213" ["s_jisx0213", "shiftjisx0213", "sjisx0213"] editionOne?
      (shiftedEditionPair? false),
    pairSet "cp932" ["932", "ms932", "ms_kanji", "mskanji"] vendorOne? vendorPair?]

end AlertRelay.Charset.Japanese
