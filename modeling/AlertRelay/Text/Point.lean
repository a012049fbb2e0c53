/-!
# Code points

A text is a row of code points.  Most of them are characters.  Others are halves of
pairs: numbers that stand for no character unless a high half is followed by a low one.
A text that is spelled by numbers may hold halves, and so may one that was made from
bytes that are not in UTF-8: each byte beyond ASCII is then a low half of its own.
-/

namespace AlertRelay.Text

/-- A character, or a half of a pair with its ten bits. -/
inductive Point where
  | char (c : Char)
  | half (isLow : Bool) (bits : Fin 1024)
  deriving DecidableEq, Repr, Inhabited

namespace Point

def ofNat? (n : Nat) : Option Point :=
  if n.isValidChar then some (.char (Char.ofNat n))
  else if h : 0xd800 ≤ n ∧ n < 0xdc00 then some (.half false ⟨n - 0xd800, by omega⟩)
  else if h : 0xdc00 ≤ n ∧ n < 0xe000 then some (.half true ⟨n - 0xdc00, by omega⟩)
  else none

def toNat : Point → Nat
  | .char c => c.toNat
  | .half false bits => 0xd800 + bits
  | .half true bits => 0xdc00 + bits

def char? : Point → Option Char
  | .char c => some c
  | .half _ _ => none

def isHalf : Point → Bool
  | .char _ => false
  | .half _ _ => true

/-- The bytes of a point: those of a character in UTF-8, and the byte that a low half
stands for.  Other halves stand for no bytes. -/
def bytes? : Point → Option (List UInt8)
  | .char c => some (String.utf8EncodeChar c)
  | .half true bits =>
      if 0x80 ≤ bits.val ∧ bits.val < 0x100 then some [UInt8.ofNat bits.val] else none
  | .half false _ => none

end Point

/-- The points with each high half joined to a low one that follows it. -/
def joinPoints : List Point → List Point
  | [] => []
  | .half false high :: .half true low :: rest =>
      .char (Char.ofNat (0x10000 + high * 1024 + low)) :: joinPoints rest
  | p :: rest => p :: joinPoints rest

/-! ## Texts -/

/-- A text as a program holds it, point by point. -/
structure Spelled where
  points : List Point
  deriving DecidableEq, Repr, Inhabited

namespace Spelled

/-- A text of characters alone. -/
def whole (s : String) : Spelled := ⟨s.toList.map .char⟩

instance : Coe String Spelled := ⟨whole⟩

instance : Append Spelled := ⟨fun s t => ⟨s.points ++ t.points⟩⟩

/-- Texts are in the order of the numbers of their points. -/
instance : LT Spelled := ⟨fun s t => s.points.map Point.toNat < t.points.map Point.toNat⟩

instance : DecidableRel (fun s t : Spelled => s < t) :=
  fun s t => inferInstanceAs (Decidable (s.points.map Point.toNat < t.points.map Point.toNat))

def ofChars (s : List Char) : Spelled := ⟨s.map .char⟩

/-- The text itself, unless it holds halves of pairs. -/
def whole? (s : Spelled) : Option String := (s.points.mapM Point.char?).map String.ofList

def isWhole (s : Spelled) : Bool := !s.points.any (·.isHalf)

/-- The text with the replacement character for each half. -/
def unjoined (s : Spelled) : String := String.ofList (s.points.map fun p => p.char?.getD '\ufffd')

/-- The characters that are seen: pairs are joined, and a half on its own is shown as the
replacement character. -/
def shown (s : Spelled) : String := unjoined ⟨joinPoints s.points⟩

/-- The bytes that the text stands for, if each of its halves stands for one. -/
def bytes? (s : Spelled) : Option (List UInt8) :=
  (s.points.mapM Point.bytes?).map List.flatten

/-- Texts one after the other, with another one between them. -/
def join (between : Spelled) : List Spelled → Spelled
  | [] => ""
  | [s] => s
  | s :: rest => s ++ between ++ join between rest

end Spelled

end AlertRelay.Text
