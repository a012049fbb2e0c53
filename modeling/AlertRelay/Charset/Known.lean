import AlertRelay.Charset.Escaped
import AlertRelay.Charset.Page.Console
import AlertRelay.Charset.Page.Desktop
import AlertRelay.Charset.Page.Mainframe
import AlertRelay.Charset.Page.Network
import AlertRelay.Charset.Page.Windows
import AlertRelay.Charset.Shifting

/-!
# Known character sets

A name is looked up without regard to case and to what stands between its words.
-/

namespace AlertRelay.Charset

def ascii : Charset :=
  page "ascii"
    ["646", "ansi_x3.4_1968", "ansi_x3.4_1986", "ansi_x3_4_1968", "cp367", "csascii", "ibm367",
      "iso646_us", "iso_646.irv_1991", "iso_ir_6", "us", "us_ascii"] []

def latin1 : Charset :=
  page "latin_1"
    ["8859", "charmap", "cp819", "csisolatin1", "ibm819", "iso8859", "iso8859_1", "iso_8859_1",
      "iso_8859_1_1987", "iso_ir_100", "l1", "latin", "latin1"] latin

def known : List Charset :=
  Unicode.charsets ++ [ascii, latin1] ++ Page.isoPages ++ Page.windowsPages ++ Page.consolePages ++
    Page.desktopPages ++ Page.mainframePages ++ Page.networkPages ++ Japanese.charsets ++
    Chinese.charsets ++ Korean.charsets ++ Shifting.charsets ++ Escaped.charsets

/-! ## Names -/

def isWordChar (c : Char) : Bool :=
  ('0' ≤ c && c ≤ '9') || ('a' ≤ c && c ≤ 'z') || c == '.'

def lower (c : Char) : Char := if 'A' ≤ c ∧ c ≤ 'Z' then Char.ofNat (c.toNat + 32) else c

/-- A name in lower case, its words joined by single underscores. -/
def normalName (name : List Char) : List Char :=
  let words := (name.map lower).splitOnP fun c => !isWordChar c
  ['_'].intercalate (words.filter fun w => !w.isEmpty)

/-- Whether a set has a name.  For its other names a dot is as good as an underscore. -/
def hasName (s : Charset) (name : List Char) : Bool :=
  let underscored := String.ofList (name.map fun c => if c == '.' then '_' else c)
  let name := String.ofList name
  s.name == name || s.aliases.contains name || s.aliases.contains underscored

def named? (name : String) : Option Charset :=
  known.find? (hasName · (normalName name.toList))

end AlertRelay.Charset
