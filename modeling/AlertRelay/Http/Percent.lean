/-!
# Percent encoding

A character outside of a set of safe ones is written as its UTF-8 bytes, each
as a percent sign and two hexadecimal digits.  The percent sign itself is always
safe, so what is encoded already stays as it is.
-/

namespace AlertRelay.Http

def upperHexDigit (n : Nat) : Char :=
  if n < 10 then Char.ofNat (0x30 + n) else Char.ofNat (0x41 + (n - 10))

def percentByte (b : UInt8) : List Char :=
  ['%', upperHexDigit (b.toNat / 16), upperHexDigit (b.toNat % 16)]

/-- A character as its percent-encoded bytes. -/
def percentChar (c : Char) : List Char := (String.utf8EncodeChar c).flatMap percentByte

/-- The letters, digits and marks that are safe everywhere. -/
def isUnreserved (c : Char) : Bool :=
  ('A' ≤ c && c ≤ 'Z') || ('a' ≤ c && c ≤ 'z') || ('0' ≤ c && c ≤ '9') ||
    c == '-' || c == '.' || c == '_' || c == '~'

/-- Whether a character is printable ASCII and none of the given ones. -/
def isSafeExcept (unsafeMarks : List Char) (c : Char) : Bool :=
  0x21 ≤ c.toNat && c.toNat < 0x7f && !unsafeMarks.contains c

def percentEncode (isSafe : Char → Bool) (s : List Char) : List Char :=
  s.flatMap fun c => if isUnreserved c || isSafe c then [c] else percentChar c

/-! ## The safe characters of each part -/

def isFragmentSafe : Char → Bool := isSafeExcept ['\x22', '<', '>', '\x60']

def isQuerySafe : Char → Bool := isSafeExcept ['\x22', '#', '<', '>']

def isPathSafe : Char → Bool :=
  isSafeExcept ['\x22', '#', '<', '>', '?', '\x60', '\x7b', '\x7d']

def isUserSafe : Char → Bool :=
  isSafeExcept ['\x22', '#', '<', '>', '?', '\x60', '\x7b', '\x7d', '/', ';', '=', '@', '[',
    '\\', ']', '^', '|']

def isHostSafe (c : Char) : Bool := "!$&\x27()*+,;=\x22\x60\x7b\x7d%|\\".toList.contains c

end AlertRelay.Http
