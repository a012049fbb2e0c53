import AlertRelay.Text.Point

/-!
# Words of a command line

A command line is split into words at blanks.  Between quotation marks blanks are
part of a word, and so is any point behind a backslash; between single marks a
backslash is a point like any other, and between double ones it only escapes
itself and the mark.  A line that ends inside of marks or behind a backslash ends
there with the word as far as it goes.
-/

namespace AlertRelay.Text

/-- Where the reader of a command line is. -/
inductive WordState where
  | between
  | inWord
  | quoted (mark : Char)
  /-- behind a backslash, perhaps between marks -/
  | escaped (mark : Option Char)
  deriving DecidableEq, Repr

def isWordBlank (p : Point) : Bool :=
  p == .char ' ' || p == .char '\t' || p == .char '\r' || p == .char '\n'

def isWordMark (c : Char) : Bool := c == '\x27' || c == '\x22'

/-- What a backslash and the point behind it stand for. -/
def unescaped (mark : Option Char) (p : Point) : List Point :=
  match mark with
  | none => [p]
  | some m => if p == .char '\\' || p == .char m then [p] else [.char '\\', p]

/-- The words of a line, given the word that is open. -/
def wordsFrom : WordState → List Point → List Point → List (List Point)
  | .between, _, [] => []
  | _, word, [] => [word]
  | .quoted mark, word, p :: rest =>
      if p == .char mark then wordsFrom .inWord word rest
      else if p == .char '\\' && mark == '\x22' then wordsFrom (.escaped (some mark)) word rest
      else wordsFrom (.quoted mark) (word ++ [p]) rest
  | .escaped none, word, p :: rest => wordsFrom .inWord (word ++ unescaped none p) rest
  | .escaped (some mark), word, p :: rest =>
      wordsFrom (.quoted mark) (word ++ unescaped (some mark) p) rest
  | state, word, p :: rest =>
      if isWordBlank p then
        if state = .between then wordsFrom .between [] rest
        else word :: wordsFrom .between [] rest
      else if p == .char '\\' then wordsFrom (.escaped none) word rest
      else
        match p.char?.filter isWordMark with
        | some mark => wordsFrom (.quoted mark) word rest
        | none => wordsFrom .inWord (word ++ [p]) rest

def words (line : Spelled) : List Spelled :=
  (wordsFrom .between [] line.points).map Spelled.mk

end AlertRelay.Text
