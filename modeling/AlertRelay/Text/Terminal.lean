/-!
# Texts for a terminal

A terminal takes some sequences of characters as commands: an escape, an opening
bracket, parameters, intermediate characters and a final one.  A text that is not
for a terminal is written without them.
-/

namespace AlertRelay.Text

def isParameter (c : Char) : Bool := '0' ≤ c && c ≤ '?'

def isIntermediate (c : Char) : Bool := ' ' ≤ c && c ≤ '/'

def isFinal (c : Char) : Bool := '@' ≤ c && c ≤ '~'

/-- The length of the command that a text begins with. -/
def commandLength? : List Char → Option Nat
  | '\x1b' :: '[' :: rest =>
      let parameters := rest.takeWhile isParameter
      let middle := (rest.drop parameters.length).takeWhile isIntermediate
      let n := parameters.length + middle.length
      if (rest[n]?).any isFinal then some (n + 3) else none
  | _ => none

/-- The characters that are part of no command, after some that are skipped. -/
def plainChars : Nat → List Char → List Char
  | _, [] => []
  | skip + 1, _ :: rest => plainChars skip rest
  | 0, c :: rest =>
      match commandLength? (c :: rest) with
      | some n => plainChars (n - 1) rest
      | none => c :: plainChars 0 rest

/-- A text without its commands to a terminal. -/
def plain (s : String) : String := String.ofList (plainChars 0 s.toList)

theorem plainChars_eq_self {s : List Char} (h : '\x1b' ∉ s) : plainChars 0 s = s := by
  induction s with
  | nil => rfl
  | cons c s ih =>
      have hc : commandLength? (c :: s) = none := by
        unfold commandLength?
        split
        · simp_all
        · rfl
      simp_all [plainChars]

end AlertRelay.Text
