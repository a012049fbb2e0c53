/-!
# Punycode

A text beyond ASCII is written in ASCII alone: its ASCII characters as they
are, and after them, for each other character in increasing order, the number
of steps from the one before, where a step moves on by one place of the text or
by one character of the set.  The numbers have digits to the base 36, with a
limit at each place that tells the last digit of a number.
-/

namespace AlertRelay.Text.Punycode

/-! ## Numbers -/

/-- The limit at a place: smaller digits end the number. -/
def digitLimit (bias place : Nat) : Nat := min 26 (max 1 (36 * (place + 1) - bias))

theorem digitLimit_pos (bias place : Nat) : 1 ≤ digitLimit bias place := by
  unfold digitLimit
  omega

/-- How often a number is divided until it is small, and what is left. -/
def shrink (n : Nat) : Nat × Nat :=
  if 455 < n then
    let (times, rest) := shrink (n / 35)
    (times + 1, rest)
  else (0, n)
termination_by n
decreasing_by exact Nat.div_lt_self (by omega) (by omega)

/-- The bias for the next number, after one that was put into a text of the
given length. -/
def nextBias (steps length : Nat) (isFirst : Bool) : Nat :=
  let scaled := if isFirst then steps / 700 else steps / 2
  let (times, rest) := shrink (scaled + scaled / length)
  36 * times + 36 * rest / (rest + 38)

def digitChar (d : Nat) : Char :=
  if d < 26 then Char.ofNat (0x61 + d) else Char.ofNat (0x30 + (d - 26))

def digitOf? (c : Char) : Option Nat :=
  if 'a' ≤ c ∧ c ≤ 'z' then some (c.toNat - 0x61)
  else if '0' ≤ c ∧ c ≤ '9' then some (c.toNat - 0x30 + 26)
  else none

/-- The digits of a number from a place on, the lowest first. -/
def numberFrom (bias place n : Nat) : List Char :=
  let limit := digitLimit bias place
  if n < limit then [digitChar n]
  else
    digitChar (limit + (n - limit) % (36 - limit)) ::
      numberFrom bias (place + 1) ((n - limit) / (36 - limit))
termination_by n
decreasing_by
  have := digitLimit_pos bias place
  exact Nat.lt_of_le_of_lt (Nat.div_le_self _ _) (by omega)

/-! ## Writing -/

/-- What is written so far: the digits, the steps since the last number, the
bias, and how many characters have their place. -/
structure Writing where
  digits : List Char
  steps : Nat
  bias : Nat
  placed : Nat
  deriving DecidableEq, Repr

/-- One character of the text is passed while those of a given code get their
place. -/
def Writing.pass (ascii code : Nat) (w : Writing) (c : Char) : Writing :=
  if c.toNat < code then { w with steps := w.steps + 1 }
  else if c.toNat = code then
    ⟨w.digits ++ numberFrom w.bias 0 w.steps, 0,
      nextBias w.steps (w.placed + 1) (w.placed == ascii), w.placed + 1⟩
  else w

/-- The characters of each code get their place in turn; the first code is the
one after the last that was looked at. -/
def Writing.place (text : List Char) (ascii : Nat) : Nat → List Nat → Writing → Writing
  | _, [], w => w
  | next, code :: codes, w =>
      let w := text.foldl (Writing.pass ascii code)
        { w with steps := w.steps + (code - next) * (w.placed + 1) }
      Writing.place text ascii (code + 1) codes { w with steps := w.steps + 1 }

/-- The codes beyond ASCII of a text, each once, in increasing order. -/
def codesOf (text : List Char) : List Nat :=
  ((text.map Char.toNat).filter (0x80 ≤ ·)).mergeSort.eraseReps

def encode (text : List Char) : List Char :=
  let ascii := text.filter fun c => c.toNat < 0x80
  let written := Writing.place text ascii.length 0x80 (codesOf text) ⟨[], 0, 72, ascii.length⟩
  (if ascii.isEmpty then [] else ascii ++ ['-']) ++ written.digits

/-! ## Reading -/

/-- What is read so far: the codes of the text, the last code and the place after it,
the bias, and the number that is not complete. -/
structure Reading where
  text : List Nat
  code : Nat
  position : Nat
  bias : Nat
  isFirst : Bool
  number : Nat
  weight : Nat
  digitPlace : Nat
  deriving DecidableEq, Repr

def Reading.start (ascii : List Char) : Reading :=
  ⟨ascii.map Char.toNat, 0x80, 0, 72, true, 0, 1, 0⟩

/-- One more digit; the last of a number puts a code into the text.  A code beyond the
last one becomes the substitute, if there is one. -/
def Reading.digit (substitute : Option Nat) (r : Reading) (c : Char) : Option Reading :=
  match digitOf? c with
  | none => none
  | some d =>
      let limit := digitLimit r.bias r.digitPlace
      let number := r.number + d * r.weight
      if limit ≤ d then
        some { r with number, weight := r.weight * (36 - limit), digitPlace := r.digitPlace + 1 }
      else
        let places := r.text.length + 1
        let code := r.code + (r.position + number) / places
        let position := (r.position + number) % places
        match if code < 0x110000 then some code else substitute with
        | some code =>
            some ⟨r.text.take position ++ code :: r.text.drop position, code, position + 1,
              nextBias number places r.isFirst, false, 0, 1, 0⟩
        | none => none

/-- The ASCII characters of an encoded text, and its digits. -/
def split (encoded : List Char) : List Char × List Char :=
  let digits := (encoded.reverse.takeWhile (· != '-')).reverse
  (encoded.take (encoded.length - digits.length - 1), digits)

/-- The codes that an encoded text stands for, if its digits make whole numbers. -/
def decode? (encoded : List Char) : Option (List Nat) :=
  let (ascii, digits) := split encoded
  match digits.foldlM (Reading.digit none) (.start ascii) with
  | none => none
  | some r => if r.digitPlace = 0 then some r.text else none

/-- Digits as far as they make sense. -/
def Reading.digits (r : Reading) : List Char → Reading
  | [] => r
  | c :: rest =>
      match r.digit (some 0x3f) c with
      | some next => next.digits rest
      | none => r

end AlertRelay.Text.Punycode
