import AlertRelay.Charset.Basic

/-!
# Tables of characters

Most sets are tables: runs of characters with the code of the first.  Of two runs
that hold a code the first one counts.  A replacement character in a run stands for
no character.
-/

namespace AlertRelay.Charset

abbrev Table := List (Nat × String)

/-- What the first run with a code says of it. -/
def Table.entry? (t : Table) (code : Nat) : Option Char :=
  match t.find? fun (first, chars) => first ≤ code && code < first + chars.length with
  | none => none
  | some (first, chars) => chars.toList[code - first]?

def Table.char? (t : Table) (code : Nat) : Option Char :=
  (t.entry? code).filter (· != Text.Utf8.replacement)

/-! ## Pages -/

/-- The control characters of the upper half. -/
def controls : Table :=
  [(0x80, "\x80\x81\x82\x83\x84\x85\x86\x87\x88\x89\x8a\x8b\x8c\x8d\x8e\x8f"),
    (0x90, "\x90\x91\x92\x93\x94\x95\x96\x97\x98\x99\x9a\x9b\x9c\x9d\x9e\x9f")]

/-- The upper half of the first set of one byte. -/
def latin : Table :=
  [(0xa0, "\xa0¡¢£¤¥¦§¨©ª«¬\xad®¯°±²³´µ¶·¸¹º»¼½¾¿ÀÁÂÃÄÅÆÇÈÉÊËÌÍÎÏÐÑÒÓÔÕÖ×ØÙÚÛÜÝÞß"),
    (0xe0, "àáâãäåæçèéêëìíîïðñòóôõö÷øùúûüýþÿ")] ++ controls

/-- A byte in a page.  Of the lower half, what the table does not mention is ASCII. -/
def pageChar? (t : Table) (b : UInt8) : Option Char :=
  if b.toNat < 0x80 ∧ (t.entry? b.toNat).isNone then some (Char.ofNat b.toNat)
  else t.char? b.toNat

def page (name : String) (aliases : List String) (t : Table) : Charset :=
  { name, aliases, read := fun bs => .ok (bs.map fun b => (pageChar? t b).map .char) }

end AlertRelay.Charset
