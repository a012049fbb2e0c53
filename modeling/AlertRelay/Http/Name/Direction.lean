import AlertRelay.Http.Name.Marks

/-!
# Direction of writing

A label with letters that are written from right to left is held to rules that
keep its parts in place wherever it is shown.
-/

namespace AlertRelay.Http.Name

def rightToLeftRuns : Runs :=
  [(0x5d0, 0x5ea, 1), (0x5ef, 0x5f4, 1), (0x620, 0x63f, 1), (0x641, 0x64a, 1), (0x66e, 0x66f, 1),
    (0x671, 0x674, 1), (0x679, 0x6d3, 1), (0x6d5, 0x6d5, 1), (0x6e5, 0x6e6, 1), (0x6ee, 0x6ef, 1),
    (0x6fa, 0x6ff, 1), (0x710, 0x710, 1), (0x712, 0x72f, 1), (0x74d, 0x7a5, 1), (0x7b1, 0x7b1, 1),
    (0x7c0, 0x7ea, 1), (0x7f4, 0x7f5, 1), (0x800, 0x815, 1), (0x81a, 0x81a, 1), (0x824, 0x824, 1),
    (0x828, 0x828, 1), (0x840, 0x858, 1), (0x860, 0x86a, 1), (0x870, 0x887, 1), (0x889, 0x88e, 1),
    (0x8a0, 0x8c9, 1), (0xfe73, 0xfe73, 1), (0x10800, 0x10805, 1), (0x10808, 0x10808, 1),
    (0x1080a, 0x10835, 1), (0x10837, 0x10838, 1), (0x1083c, 0x1083c, 1), (0x1083f, 0x10855, 1),
    (0x10860, 0x10876, 1), (0x10880, 0x1089e, 1), (0x108e0, 0x108f2, 1), (0x108f4, 0x108f5, 1),
    (0x10900, 0x10915, 1), (0x10920, 0x10939, 1), (0x10980, 0x109b7, 1), (0x109be, 0x109bf, 1),
    (0x10a00, 0x10a00, 1), (0x10a10, 0x10a13, 1), (0x10a15, 0x10a17, 1), (0x10a19, 0x10a35, 1),
    (0x10a60, 0x10a7c, 1), (0x10a80, 0x10a9c, 1), (0x10ac0, 0x10ac7, 1), (0x10ac9, 0x10ae4, 1),
    (0x10b00, 0x10b35, 1), (0x10b40, 0x10b55, 1), (0x10b60, 0x10b72, 1), (0x10b80, 0x10b91, 1),
    (0x10c00, 0x10c48, 1), (0x10cc0, 0x10cf2, 1), (0x10d00, 0x10d23, 1), (0x10e80, 0x10ea9, 1),
    (0x10eb0, 0x10eb1, 1), (0x10f00, 0x10f1c, 1), (0x10f27, 0x10f27, 1), (0x10f30, 0x10f45, 1),
    (0x10f70, 0x10f81, 1), (0x10fb0, 0x10fc4, 1), (0x10fe0, 0x10ff6, 1), (0x1e800, 0x1e8c4, 1),
    (0x1e922, 0x1e943, 1), (0x1e94b, 0x1e94b, 1), (0x1e950, 0x1e959, 1)]

/-- The characters that take their direction from those around them. -/
def neutralRuns : Runs :=
  [(0xb7, 0xb7, 1), (0x2b9, 0x2ba, 1), (0x2c6, 0x2cf, 1), (0x2ec, 0x2ec, 1), (0x375, 0x375, 1),
    (0x2e2f, 0x2e2f, 1), (0x30fb, 0x30fb, 1), (0xa67f, 0xa67f, 1), (0xa717, 0xa71f, 1),
    (0xa788, 0xa788, 1)]

def nextIs (p : Char → Bool) (s : List Char) : Bool :=
  match s with
  | [] => false
  | c :: _ => p c

def isIndicDigit (c : Char) : Bool := '\u0660' ≤ c && c ≤ '\u0669'

def isPersianDigit (c : Char) : Bool := '\u06f0' ≤ c && c ≤ '\u06f9'

def isRightToLeft (c : Char) : Bool := rightToLeftRuns.has c

/-- Whether a digit goes with letters from right to left. -/
def isArabicDigit (c : Char) : Bool :=
  isIndicDigit c || (0x10d30 ≤ c.toNat && c.toNat ≤ 0x10d39)

def isEuropeanDigit (c : Char) : Bool := ('0' ≤ c && c ≤ '9') || isPersianDigit c

/-- The marks that count as letters from left to right. -/
def letterlikeMarks : List Nat := [0xcbf, 0xcc6, 0x11a07, 0x11a08, 0x11c3f]

/-- Whether a mark has the direction of its letter. -/
def followsLetter (c : Char) : Bool := isNonspacing c && !letterlikeMarks.contains c.toNat

/-- Whether a character has no direction of its own. -/
def isUndirected (c : Char) : Bool :=
  followsLetter c || neutralRuns.has c || ['-', '\u200c', '\u200d'].contains c

/-- A label with letters from right to left begins with one, ends with one or
with a digit, and has no letters of the other direction and digits of one kind
only. -/
def directionFits (label : List Char) : Bool :=
  let isTurned := fun c => isRightToLeft c || isArabicDigit c
  if label.any isTurned then
    nextIs isRightToLeft label &&
      label.all (fun c => isTurned c || isEuropeanDigit c || isUndirected c) &&
      nextIs (fun c => isTurned c || isEuropeanDigit c)
        (label.reverse.dropWhile followsLetter) &&
      !(label.any isEuropeanDigit && label.any isArabicDigit)
  else true

end AlertRelay.Http.Name
