/-!
# Base64

Bytes written in groups of four letters, six bits each.  Characters outside the
alphabet are skipped, and so is padding where none is due.  Padding that closes
a group ends the text.
-/

namespace AlertRelay.Text

def sixBits? (c : Char) : Option Nat :=
  if 'A' ≤ c ∧ c ≤ 'Z' then some (c.toNat - 0x41)
  else if 'a' ≤ c ∧ c ≤ 'z' then some (c.toNat - 0x61 + 26)
  else if '0' ≤ c ∧ c ≤ '9' then some (c.toNat - 0x30 + 52)
  else if c = '+' then some 62
  else if c = '/' then some 63
  else none

/-- The bytes of a text from inside a group on: `filled` letters of the group
have been read, of which the last left the bits `left`, and `pads` padding
marks have followed it. -/
def base64From (filled left pads : Nat) : List Char → Option (List UInt8)
  | [] => if filled = 0 then some [] else none
  | c :: rest =>
      if c = '=' then
        if filled < 2 then base64From filled left pads rest
        else if 4 ≤ filled + pads + 1 then some []
        else base64From filled left (pads + 1) rest
      else
        match sixBits? c with
        | none => base64From filled left pads rest
        | some n =>
            if filled = 0 then base64From 1 n 0 rest
            else if filled = 1 then
              (base64From 2 (n % 16) 0 rest).map (UInt8.ofNat (left * 4 + n / 16) :: ·)
            else if filled = 2 then
              (base64From 3 (n % 4) 0 rest).map (UInt8.ofNat (left * 16 + n / 4) :: ·)
            else (base64From 0 0 0 rest).map (UInt8.ofNat (left * 64 + n) :: ·)

/-- The bytes that a text stands for; a group that is left open has none. -/
def base64? (s : List Char) : Option (List UInt8) := base64From 0 0 0 s

end AlertRelay.Text
