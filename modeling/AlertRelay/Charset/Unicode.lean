import AlertRelay.Charset.Basic
import AlertRelay.Text.Point

/-!
# Encodings of the universal set

The universal set is sent in units of one, two or four bytes, of which the larger
ones come in two orders, or in ASCII alone.  A mark in front may tell the order; where
no order is agreed on, it has to.
-/

namespace AlertRelay.Charset.Unicode

open AlertRelay.Text

/-! ## One byte -/

/-- The mark of the encoding in single bytes. -/
def mark : List UInt8 := [0xef, 0xbb, 0xbf]

def readBytes (bs : List UInt8) : Reading := (Utf8.decode bs).map (·.map .char)

/-- Bytes behind a mark, if there is one.  What may yet become the mark gives nothing. -/
def readMarked (bs : List UInt8) : Reading :=
  if bs.length < 3 && bs.isPrefixOf mark then []
  else if mark.isPrefixOf bs then readBytes (bs.drop 3)
  else readBytes bs

/-! ## Two bytes -/

def unit (bigEndian : Bool) (a b : UInt8) : Nat :=
  if bigEndian then a.toNat * 256 + b.toNat else b.toNat * 256 + a.toNat

/-- The characters of units, given a high half that waits for its low half.  A half on
its own is one fault; so is a byte left over at the end. -/
def readUnits (bigEndian : Bool) (high : Option Nat) : List UInt8 → Reading
  | a :: b :: rest =>
      let n := unit bigEndian a b
      let lost : Reading := if high.isSome then [none] else []
      if 0xd800 ≤ n ∧ n < 0xdc00 then lost ++ readUnits bigEndian (some n) rest
      else if 0xdc00 ≤ n ∧ n < 0xe000 then
        match high with
        | some h =>
            some (.char (Char.ofNat (0x10000 + (h - 0xd800) * 0x400 + (n - 0xdc00)))) ::
              readUnits bigEndian none rest
        | none => none :: readUnits bigEndian none rest
      else lost ++ some (.char (Char.ofNat n)) :: readUnits bigEndian none rest
  | [_] => [none]
  | [] => if high.isSome then [none] else []

/-! ## Four bytes -/

def readWords (bigEndian : Bool) : List UInt8 → Reading
  | a :: b :: c :: d :: rest =>
      let n :=
        if bigEndian then unit true a b * 65536 + unit true c d
        else unit false c d * 65536 + unit false a b
      (if n.isValidChar then some (.char (Char.ofNat n)) else none) :: readWords bigEndian rest
  | [] => []
  | _ => [none]

/-! ## Marks -/

/-- Units behind a mark of so many bytes.  Fewer bytes than the mark has are a
fault like any other. -/
def readBehindMark (little big : List UInt8) (read : Bool → List UInt8 → Reading)
    (bs : List UInt8) : Except Fault Reading :=
  if little.isPrefixOf bs then .ok (read false (bs.drop little.length))
  else if big.isPrefixOf bs then .ok (read true (bs.drop big.length))
  else if bs.length < little.length then .ok (read false bs)
  else .error .unmarked

/-- The strict reading, in which units without a mark have the usual order. -/
def strictBehindMark? (little big : List UInt8) (read : Bool → List UInt8 → Reading)
    (bs : List UInt8) : Option (List Point) :=
  let r :=
    if little.isPrefixOf bs then read false (bs.drop little.length)
    else if big.isPrefixOf bs then read true (bs.drop big.length)
    else read false bs
  r.mapM id

def markedSet (name : String) (aliases : List String) (little big : List UInt8)
    (read : Bool → List UInt8 → Reading) : Charset where
  name := name
  aliases := aliases
  read := readBehindMark little big read
  strict? := strictBehindMark? little big read

/-! ## ASCII alone -/

def sixBits? (b : UInt8) : Option Nat :=
  let n := b.toNat
  if 0x41 ≤ n ∧ n ≤ 0x5a then some (n - 0x41)
  else if 0x61 ≤ n ∧ n ≤ 0x7a then some (n - 0x61 + 26)
  else if 0x30 ≤ n ∧ n ≤ 0x39 then some (n - 0x30 + 52)
  else if n = 0x2b then some 62
  else if n = 0x2f then some 63
  else none

/-- What is open behind a plus sign: bits that do not make a unit yet, and a high half
that waits for its low half. -/
structure Shifted where
  count : Nat
  bits : Nat
  high : Option (Fin 1024)
  deriving DecidableEq, Repr

def Shifted.start : Shifted := ⟨0, 0, none⟩

/-- A unit of two bytes in its place, and what is open after it. -/
def Shifted.put (s : Shifted) (n : Nat) : Reading × Shifted :=
  match s.high, Point.ofNat? n with
  | some h, some (.half true low) =>
      ([some (.char (Char.ofNat (0x10000 + h * 1024 + low)))], { s with high := none })
  | high, p =>
      let before : Reading := (high.map fun h => some (.half false h)).toList
      match p with
      | some (.half false h) => (before, { s with high := some h })
      | p => (before ++ [p], { s with high := none })

/-- Six more bits; sixteen make a unit. -/
def Shifted.extend (s : Shifted) (n : Nat) : Reading × Shifted :=
  let bits := s.bits * 64 + n
  let count := s.count + 6
  if 16 ≤ count then
    let left := count - 16
    { s with count := left, bits := bits % Nat.pow 2 left }.put (bits / Nat.pow 2 left)
  else ([], { s with count, bits })

/-- Whether the open bits could not be left over. -/
def Shifted.isBroken (s : Shifted) : Bool := 6 ≤ s.count || s.bits != 0

def plain (b : UInt8) : Option Point :=
  if b.toNat < 0x80 then some (.char (Char.ofNat b.toNat)) else none

/-- Bytes outside of the shift, or behind a plus sign. -/
def readSevenBits : Option Shifted → List UInt8 → Reading
  | none, [] => []
  | some s, [] => if s.high.isSome || s.isBroken then [none] else []
  | none, [b] => if b = 0x2b then [] else [plain b]
  | none, b :: c :: rest =>
      if b = 0x2b then
        if c = 0x2d then some (.char '+') :: readSevenBits none rest
        else if (sixBits? c).isNone then none :: readSevenBits none rest
        else readSevenBits (some .start) (c :: rest)
      else plain b :: readSevenBits none (c :: rest)
  | some s, b :: rest =>
      match sixBits? b with
      | some n =>
          let (points, s) := s.extend n
          points ++ readSevenBits (some s) rest
      | none =>
          if s.isBroken then none :: readSevenBits none rest
          else
            let lost : Reading :=
              if b.toNat < 0x80 then (s.high.map fun h => some (.half false h)).toList else []
            let own : Reading := if b = 0x2d then [] else [plain b]
            lost ++ own ++ readSevenBits none rest

/-! ## The encodings -/

def utf8 : Charset :=
  { name := "utf_8"
    aliases := ["cp65001", "u8", "utf", "utf8", "utf8_ucs2", "utf8_ucs4"]
    read := fun bs => .ok (readBytes bs) }

def charsets : List Charset :=
  [utf8,
    { name := "utf_8_sig", aliases := [], read := fun bs => .ok (readMarked bs) },
    { name := "utf_16_le", aliases := ["unicodelittleunmarked", "utf_16le"],
      read := fun bs => .ok (readUnits false none bs) },
    { name := "utf_16_be", aliases := ["unicodebigunmarked", "utf_16be"],
      read := fun bs => .ok (readUnits true none bs) },
    markedSet "utf_16" ["u16", "utf16"] [0xff, 0xfe] [0xfe, 0xff] (readUnits · none),
    { name := "utf_32_le", aliases := ["utf_32le"], read := fun bs => .ok (readWords false bs) },
    { name := "utf_32_be", aliases := ["utf_32be"], read := fun bs => .ok (readWords true bs) },
    markedSet "utf_32" ["u32", "utf32"] [0xff, 0xfe, 0, 0] [0, 0, 0xfe, 0xff] readWords,
    { name := "utf_7", aliases := ["u7", "unicode_1_1_utf_7", "utf7"],
      read := fun bs => .ok (readSevenBits none bs) }]

end AlertRelay.Charset.Unicode
