import AlertRelay.Charset.Unicode
import AlertRelay.Text.Punycode

/-!
# Escaped text

Some names of character sets stand for ways to write a text in the code of programs:
bytes stand for themselves, and a backslash gives others by number.  Two more stand for
the ASCII form of labels, and a few for codings that are not of text in bytes.
-/

namespace AlertRelay.Charset.Escaped

open AlertRelay.Text

/-! ## Numbers -/

def hexDigit? (b : UInt8) : Option Nat :=
  let n := b.toNat
  if 0x30 ≤ n ∧ n ≤ 0x39 then some (n - 0x30)
  else if 0x41 ≤ n ∧ n ≤ 0x46 then some (n - 0x41 + 10)
  else if 0x61 ≤ n ∧ n ≤ 0x66 then some (n - 0x61 + 10)
  else none

def octalDigit? (b : UInt8) : Option Nat :=
  if 0x30 ≤ b.toNat ∧ b.toNat ≤ 0x37 then some (b.toNat - 0x30) else none

/-- The digits at the front, at most so many. -/
def leadingDigits (digit? : UInt8 → Option Nat) : Nat → List UInt8 → List Nat
  | 0, _ => []
  | _, [] => []
  | limit + 1, b :: rest =>
      match digit? b with
      | some d => d :: leadingDigits digit? limit rest
      | none => []

def ofDigits (base : Nat) (digits : List Nat) : Nat := digits.foldl (fun n d => n * base + d) 0

/-- What an escape stands for, and how many bytes behind it are taken; `none` is a
fault. -/
abbrev Escape := Option (List Point) × Nat

/-- A number of so many digits; fewer, or a number without a point, are a fault. -/
def numbered (length : Nat) (rest : List UInt8) : Escape :=
  let digits := leadingDigits hexDigit? length rest
  if digits.length = length then ((Point.ofNat? (ofDigits 16 digits)).map ([·]), length)
  else (none, digits.length)

def point (n : Nat) : Point := .char (Char.ofNat n)

/-! ## Escapes -/

/-- A character by its name.  No name is known here. -/
def named (rest : List UInt8) : Escape :=
  match rest with
  | 0x7b :: more =>
      let name := more.takeWhile (· != 0x7d)
      if name.length = more.length then (none, rest.length)
      else if name.isEmpty then (none, 1)
      else (none, name.length + 2)
  | _ => (none, 0)

/-- The characters behind a backslash that stand for one other. -/
def shortEscapes : List (Char × Char) :=
  [('\\', '\\'), ('\x27', '\x27'), ('\x22', '\x22'), ('a', '\x07'), ('b', '\x08'), ('f', '\x0c'),
    ('n', '\n'), ('r', '\r'), ('t', '\t'), ('v', '\x0b')]

def escape (b : UInt8) (rest : List UInt8) : Escape :=
  match shortEscapes.find? fun (c, _) => c.toNat == b.toNat with
  | some (_, c) => (some [.char c], 0)
  | none =>
      if b = 0x0a then (some [], 0)
      else if b = 0x78 then numbered 2 rest
      else if b = 0x75 then numbered 4 rest
      else if b = 0x55 then numbered 8 rest
      else if b = 0x4e then named rest
      else
        match leadingDigits octalDigit? 3 (b :: rest) with
        | [] => (some [point 0x5c, point b.toNat], 0)
        | digits => (some [point (ofDigits 8 digits)], digits.length - 1)

/-- What stands behind a backslash where only numbers of four and eight digits are
escapes. -/
def rawEscape (b : UInt8) (rest : List UInt8) : Escape :=
  if b = 0x75 then numbered 4 rest
  else if b = 0x55 then numbered 8 rest
  else (some [point 0x5c, point b.toNat], 0)

/-- Bytes with escapes; a backslash at the end is what `last` says. -/
def readEscaped (escape : UInt8 → List UInt8 → Escape) (last : Option Point) (bs : List UInt8) :
    Reading :=
  match bs with
  | [] => []
  | b :: rest =>
      if b = 0x5c then
        match rest with
        | [] => [last]
        | c :: more =>
            let (points?, taken) := escape c more
            let points : Reading :=
              match points? with
              | some points => points.map some
              | none => [none]
            points ++ readEscaped escape last (more.drop taken)
      else some (point b.toNat) :: readEscaped escape last rest
termination_by bs.length
decreasing_by all_goals simp only [List.length_drop, List.length_cons]; omega

/-! ## Labels -/

def lowerByte (b : UInt8) : Char :=
  Char.ofNat (if 0x41 ≤ b.toNat ∧ b.toNat ≤ 0x5a then b.toNat + 0x20 else b.toNat)

/-- The bytes in front of the last hyphen, and those behind it. -/
def splitLabel (bs : List UInt8) : List UInt8 × List UInt8 :=
  let digits := (bs.reverse.takeWhile (· != 0x2d)).reverse
  (bs.take (bs.length - digits.length - 1), digits)

/-- The points of a text in the ASCII form of labels, as far as it can be read. -/
def readLabel (bs : List UInt8) : Except Fault Reading :=
  let (front, digits) := splitLabel bs
  if digits.any (0x80 ≤ ·.toNat) then .error .beyondAscii
  else
    let ascii := front.map fun b => if b.toNat < 0x80 then b.toNat else 0xfffd
    let start : Punycode.Reading := { Punycode.Reading.start [] with text := ascii }
    let codes := (start.digits (digits.map lowerByte)).text
    .ok ((codes.filterMap Point.ofNat?).map some)

def strictLabel? (bs : List UInt8) : Option (List Point) :=
  if bs.any (0x80 ≤ ·.toNat) then none
  else
    let (front, digits) := splitLabel bs
    let mark := if front.length + digits.length < bs.length then ['-'] else []
    let text := front.map (fun b => Char.ofNat b.toNat) ++ mark ++ digits.map lowerByte
    (Punycode.decode? text).map fun codes => codes.filterMap Point.ofNat?

/-! ## The sets -/

/-- A name of something that cannot read bytes as text. -/
def refusing (name : String) (aliases : List String) (f : Fault) : Charset where
  name := name
  aliases := aliases
  read := fun _ => .error f
  strict? := fun _ => none

def charsets : List Charset :=
  [{ name := "unicode_escape", aliases := [],
      read := fun bs => .ok (readEscaped escape none bs) },
    { name := "raw_unicode_escape", aliases := [],
      read := fun bs => .ok (readEscaped rawEscape (some (point 0x5c)) bs) },
    refusing "rot_13" ["rot13"] .betweenTexts,
    refusing "hex_codec" ["hex"] .betweenBytes,
    refusing "base64_codec" ["base64", "base_64"] .betweenBytes,
    refusing "bz2_codec" ["bz2"] .betweenBytes,
    refusing "zlib_codec" ["zip", "zlib"] .betweenBytes,
    refusing "uu_codec" ["uu"] .betweenBytes,
    refusing "quopri_codec" ["quopri", "quoted_printable", "quotedprintable"] .betweenBytes,
    refusing "undefined" [] .strictOnly,
    { name := "punycode", aliases := [], read := readLabel, strict? := strictLabel? },
    { refusing "idna" [] .strictOnly with strict? := fun bs => (Utf8.strict? bs).map (·.map .char) }]

end AlertRelay.Charset.Escaped
