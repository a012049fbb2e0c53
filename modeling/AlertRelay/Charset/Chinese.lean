import AlertRelay.Charset.Big5.Basic
import AlertRelay.Charset.Big5.HongKong
import AlertRelay.Charset.Double
import AlertRelay.Charset.Gb.Basic
import AlertRelay.Charset.Gb.Extension

/-!
# Chinese character sets

The national set and its two extensions, and the set for traditional ideographs
with what a vendor and Hong Kong added.  The first extension of the national set
lists the ideographs that were left out, in their order; the second gives a code
of four bytes to every other character.
-/

namespace AlertRelay.Charset.Chinese

/-! ## The national set -/

def national? (a b : UInt8) : Option Char := (highCode? a b).bind Gb.basic.char?

/-- The ideographs of the national set, in increasing order. -/
def ideographs : List Nat := Gb.basic.inRange 0x4e00 0x9fa5

/-- The number of a pair among those that the first extension uses for ideographs. -/
def extensionNumber? (a b : UInt8) : Option Nat :=
  let trail := if b.toNat < 0x80 then b.toNat - 0x40 else b.toNat - 0x41
  if b.toNat < 0x40 ∨ b.toNat = 0x7f ∨ b.toNat = 0xff then none
  else if 0x81 ≤ a.toNat ∧ a.toNat ≤ 0xa0 then some ((a.toNat - 0x81) * 190 + trail)
  else if 0xaa ≤ a.toNat ∧ a.toNat ≤ 0xfe ∧ b.toNat ≤ 0xa0 then
    some (6080 + (a.toNat - 0xaa) * 96 + trail)
  else none

/-- The ideographs that the national set left out. -/
def leftOut? (a b : UInt8) : Option Char :=
  match extensionNumber? a b with
  | none => none
  | some n => if n < 14139 then some (Char.ofNat (nthBeside ideographs 0x4e00 n)) else none

def extended? (a b : UInt8) : Option Char :=
  (Gb.signs.char? (pairCode a b)).or ((national? a b).or (leftOut? a b))

/-! ## Four bytes -/

def private? (code : Nat) : Option Char :=
  (Gb.privateRuns.find? fun (first, _, count) => first ≤ code && code < first + count).map
    fun (first, char, _) => Char.ofNat (char + (code - first))

def full? (a b : UInt8) : Option Char :=
  let code := pairCode a b
  (Gb.laterSigns.char? code).or ((private? code).or (extended? a b))

/-- The character with a number among those of four bytes. -/
def long? (n : Nat) : Option Char :=
  if n < 39420 then
    (Gb.longRuns.reverse.find? fun (first, _) => first ≤ n).map fun (first, char) =>
      Char.ofNat (char + (n - first))
  else if 189000 ≤ n ∧ n < 189000 + 0x100000 then some (Char.ofNat (0x10000 + (n - 189000)))
  else none

def fullStep : Unit → List UInt8 → Step Unit
  | _, [] => .short
  | _, a :: rest =>
      if a.toNat < 0x80 then .chars [Char.ofNat a.toNat] 1 ()
      else
        match rest with
        | [] => .short
        | b :: rest =>
            if 0x30 ≤ b.toNat ∧ b.toNat ≤ 0x39 then
              match rest with
              | c :: d :: _ =>
                  if 0x81 ≤ a.toNat ∧ a ≠ 0xff ∧ 0x81 ≤ c.toNat ∧ c ≠ 0xff ∧ 0x30 ≤ d.toNat ∧
                      d.toNat ≤ 0x39 then
                    .ofChar? () 4 (long? ((((a.toNat - 0x81) * 10 + (b.toNat - 0x30)) * 126 +
                      (c.toNat - 0x81)) * 10 + (d.toNat - 0x30)))
                  else .fault 1
              | _ => .short
            else .ofChar? () 2 (full? a b)

/-! ## Traditional ideographs -/

def traditional? (a b : UInt8) : Option Char := Big5.basic.char? (pairCode a b)

def vendor? (a b : UInt8) : Option Char :=
  (Big5.vendor.char? (pairCode a b)).or (traditional? a b)

/-- The letters with a mark for which Hong Kong has codes. -/
def marked : List (Nat × List Char) :=
  [(0x8862, ['\u00ca', '\u0304']), (0x8864, ['\u00ca', '\u030c']), (0x88a3, ['\u00ea', '\u0304']),
    (0x88a5, ['\u00ea', '\u030c'])]

/-- Hong Kong replaces the last signs and keeps all else. -/
def hongKong? (a b : UInt8) : Option (List Char) :=
  let code := pairCode a b
  match Big5.hongKong.char? code with
  | some c => some [c]
  | none =>
      match marked.find? fun (n, _) => n == code with
      | some (_, cs) => some cs
      | none =>
          if 0xc6a1 ≤ code ∧ code ≤ 0xc8fe then none else (traditional? a b).map ([·])

/-! ## The sets -/

/-- A pair as the list of its one character. -/
def single (two : UInt8 → UInt8 → Option Char) (a b : UInt8) : Option (List Char) :=
  (two a b).map ([·])

def charsets : List Charset :=
  [pairSet "gb2312"
      ["chinese", "csiso58gb231280", "euc_cn", "euccn", "eucgb2312_cn", "gb2312_1980",
        "gb2312_80", "iso_ir_58", "x_mac_simp_chinese"] asciiByte? (single national?),
    pairSet "gbk" ["936", "cp936", "ms936"] asciiByte? (single extended?),
    { name := "gb18030", aliases := ["gb18030_2000"], read := readWith fullStep () },
    pairSet "big5" ["big5_tw", "csbig5", "x_mac_trad_chinese"] asciiByte? (single traditional?),
    pairSet "cp950" ["950", "ms950"] asciiByte? (single vendor?),
    pairSet "big5hkscs" ["big5_hkscs", "hkscs"] asciiByte? hongKong?]

end AlertRelay.Charset.Chinese
