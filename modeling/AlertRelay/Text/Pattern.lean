/-!
# Regular patterns

A pattern stands for a set of lists of characters.  Membership is decided one
character at a time: `derive c p` stands for what may follow `c` in a member
of `p`, and `accepts` asks whether nothing more is needed at the end.
-/

namespace AlertRelay.Text

inductive Pattern where
  | never
  | done
  | one (allowed : Char → Bool)
  | sequence (first second : Pattern)
  | either (left right : Pattern)
  | many (body : Pattern)

namespace Pattern

/-! ## Building patterns -/

/-- One pattern after another; what can never match is dropped at once, so
that derivatives stay small. -/
def andThen : Pattern → Pattern → Pattern
  | never, _ => never
  | done, q => q
  | p, never => sequence p never
  | p, q => sequence p q

def orElse : Pattern → Pattern → Pattern
  | never, q => q
  | p, never => p
  | p, q => either p q

def char (c : Char) : Pattern := one (· == c)

def oneOf (cs : String) : Pattern := one (cs.toList.contains ·)

def exactly (s : String) : Pattern :=
  s.toList.foldr (fun c p => sequence (char c) p) done

def optional (p : Pattern) : Pattern := either p done

def oneOrMore (p : Pattern) : Pattern := sequence p (many p)

def inOrder (ps : List Pattern) : Pattern := ps.foldr sequence done

def anyOf (ps : List Pattern) : Pattern := ps.foldr either never

def anyText (words : List String) : Pattern := anyOf (words.map exactly)

/-! ## Membership -/

/-- Whether the empty list is a member. -/
def nullable : Pattern → Bool
  | never => false
  | done => true
  | one _ => false
  | sequence p q => p.nullable && q.nullable
  | either p q => p.nullable || q.nullable
  | many _ => true

/-- What may follow the character in a member. -/
def derive (c : Char) : Pattern → Pattern
  | never => never
  | done => never
  | one allowed => if allowed c then done else never
  | sequence p q =>
      let rest := andThen (derive c p) q
      if p.nullable then orElse rest (derive c q) else rest
  | either p q => orElse (derive c p) (derive c q)
  | many p => andThen (derive c p) (many p)

/-- Whether the list of characters is a member. -/
def accepts (p : Pattern) (s : List Char) : Bool :=
  (s.foldl (fun q c => q.derive c) p).nullable

/-- Whether the list is a member, one line feed at its end left out of
account. -/
def acceptsLine (p : Pattern) (s : List Char) : Bool :=
  p.accepts s || (s.getLast? == some '\n' && p.accepts s.dropLast)

end Pattern

end AlertRelay.Text
