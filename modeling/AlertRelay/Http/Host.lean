import AlertRelay.Http.Name.Label
import AlertRelay.Http.Percent
import AlertRelay.Text.Utf8

/-!
# Hosts

The host of a URL is a number address in decimal, a number address in
hexadecimal between brackets, or a name.  Addresses are checked and kept as they
are.  A name in ASCII is put in lower case and percent-encoded where necessary; any
other is encoded label by label.
-/

namespace AlertRelay.Http

open AlertRelay.Text

inductive HostFault where
  | badDecimalAddress (host : String)
  | badHexAddress (host : String)
  | badName (host : String)
  deriving DecidableEq, Repr

def isAsciiDigit (c : Char) : Bool := '0' ≤ c && c ≤ '9'

def lowerCase (c : Char) : Char :=
  if 'A' ≤ c ∧ c ≤ 'Z' then Char.ofNat (c.toNat + 32) else c

/-! ## Decimal addresses -/

/-- Whether a host has the form of a decimal address: four runs of digits
between dots. -/
def isDecimalForm (s : List Char) : Bool :=
  let parts := s.splitOn '.'
  parts.length == 4 && parts.all fun p => !p.isEmpty && p.all isAsciiDigit

/-- One of the four numbers: at most three digits, no leading zero, below 256. -/
def isOctet (s : List Char) : Bool :=
  s.all isAsciiDigit && 1 ≤ s.length && s.length ≤ 3 && (s == ['0'] || s.head? != some '0') &&
    s.foldl (fun n c => n * 10 + (c.toNat - 0x30)) 0 ≤ 255

def isDecimalAddress (s : List Char) : Bool :=
  let parts := s.splitOn '.'
  parts.length == 4 && parts.all isOctet

/-! ## Hexadecimal addresses -/

def isHexGroup (s : List Char) : Bool :=
  1 ≤ s.length && s.length ≤ 4 &&
    s.all fun c => isAsciiDigit c || ('a' ≤ c && c ≤ 'f') || ('A' ≤ c && c ≤ 'F')

/-- The groups of an address; a decimal address at the end counts as two. -/
def hexGroups? (s : List Char) : Option (List (List Char)) :=
  let parts := s.splitOn ':'
  match parts.getLast? with
  | none => none
  | some last =>
      if last.contains '.' then
        if isDecimalAddress last then some (parts.dropLast ++ [['0'], ['0']]) else none
      else some parts

/-- Eight groups, of which one run may be left out between two colons. -/
def isGroupList (parts : List (List Char)) : Bool :=
  let inner := (parts.drop 1).dropLast
  let before := parts.takeWhile (fun p => !p.isEmpty)
  match (inner.filter (·.isEmpty)).length with
  | 0 => parts.length == 8 && parts.all isHexGroup
  | 1 =>
      let startsOpen := parts.head? == some []
      let endsOpen := parts.getLast? == some []
      let high := if startsOpen then [] else before
      let rest := if startsOpen then parts.drop 1 else parts.drop before.length
      let low := rest.drop 1
      let low := if endsOpen then low.dropLast else low
      (!startsOpen || rest.head? == some []) && (!endsOpen || low.isEmpty) &&
        high.all isHexGroup && low.all isHexGroup && high.length + low.length < 8
  | _ => false

/-- An address in hexadecimal, with a zone behind a percent sign or without. -/
def isHexAddress (s : List Char) : Bool :=
  let address := s.takeWhile (· != '%')
  let zone := s.drop address.length
  let zoneOk := zone.isEmpty || (2 ≤ zone.length && !(zone.drop 1).contains '%')
  let colons := address.count ':'
  zoneOk && !s.contains '/' && 2 ≤ colons &&
    match hexGroups? address with
    | none => false
    | some parts => parts.length ≤ 9 && isGroupList parts

/-! ## Hosts -/

/-- The host as it stands in a normalised URL, without brackets. -/
def normalHost (host : List Char) : Except HostFault (List Char) :=
  if host.isEmpty then .ok []
  else if isDecimalForm host then
    if isDecimalAddress host then .ok host else .error (.badDecimalAddress (String.ofList host))
  else if host.head? == some '[' && host.getLast? == some ']' then
    let inner := (host.drop 1).dropLast
    if isHexAddress inner then .ok inner else .error (.badHexAddress (String.ofList host))
  else if host.all fun c => c.toNat < 0x80 then
    .ok (percentEncode isHostSafe (host.map lowerCase))
  else
    match Name.asciiName? host with
    | some name => .ok name
    | none => .error (.badName (String.ofList host))

end AlertRelay.Http
