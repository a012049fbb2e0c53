import AlertRelay.Text.Point
import AlertRelay.Text.Utf8

/-!
# Character sets

A character set gives bytes their meaning.  Bytes are read step by step: each
step takes some of them and gives characters, or marks them as a fault.  What is
left when the bytes end within a character is one fault.  A lenient reader puts the
replacement character in the place of each fault.
-/

namespace AlertRelay

/-- Points and faults (`none`) in order. -/
abbrev Reading := List (Option Text.Point)

namespace Charset

/-! ## Steps -/

inductive Fault where
  /-- no byte order mark stands in front -/
  | unmarked
  /-- the set has no lenient reading -/
  | strictOnly
  /-- the name stands for a coding of text as text -/
  | betweenTexts
  /-- the name stands for a coding of bytes as bytes -/
  | betweenBytes
  /-- more bytes are left over than a character can have -/
  | overlong
  /-- a shift goes to a set that cannot be shifted to -/
  | badShift
  /-- digits that have to be ASCII are not -/
  | beyondAscii
  /-- the name holds a NUL -/
  | badName
  /-- the parts of a name are numbered and not numbered -/
  | mixedParts
  /-- the number of a part has too many digits -/
  | longNumber
  deriving DecidableEq, Repr

inductive Step (σ : Type) where
  | chars (cs : List Char) (taken : Nat) (next : σ)
  | fault (taken : Nat)
  /-- the bytes end too early -/
  | short
  | refuse (f : Fault)

/-- Reads bytes step by step; a step takes at least one.  At most eight may be left
over. -/
def readWith {σ : Type} (step : σ → List UInt8 → Step σ) (s : σ) (bs : List UInt8) :
    Except Fault Reading :=
  match bs with
  | [] => .ok []
  | b :: rest =>
      match step s (b :: rest) with
      | .chars cs taken next =>
          (readWith step next (rest.drop (taken - 1))).map (cs.map (some ∘ .char) ++ ·)
      | .fault taken => (readWith step s (rest.drop (taken - 1))).map (none :: ·)
      | .short => if rest.length < 8 then .ok [none] else .error .overlong
      | .refuse f => .error f
termination_by bs.length
decreasing_by all_goals simp only [List.length_drop, List.length_cons]; omega

/-- One character from so many bytes, or one faulty byte. -/
def Step.ofChar? {σ : Type} (s : σ) (taken : Nat) : Option Char → Step σ
  | some c => .chars [c] taken s
  | none => .fault 1

end Charset

/-! ## Sets -/

/-- A character set: its name, other names for it, and how it reads bytes.  As a rule
the bytes have a strict reading if the lenient one meets no fault. -/
structure Charset where
  name : String
  aliases : List String
  read : List UInt8 → Except Charset.Fault Reading
  strict? : List UInt8 → Option (List Text.Point) := fun bs =>
    match read bs with
    | .ok r => r.mapM id
    | .error _ => none

/-- The text of bytes, with a replacement character for each fault. -/
def Charset.decode (s : Charset) (bs : List UInt8) : Except Charset.Fault (List Text.Point) :=
  (s.read bs).map (·.map (·.getD (.char Text.Utf8.replacement)))

end AlertRelay
