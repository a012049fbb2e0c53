import AlertRelay.Text.Point

/-!
# Similar words

How alike two words are: the longest block of points that both have is paired,
then the same is done on its left and on its right, and the paired points are
compared with all of them.
-/

namespace AlertRelay.Text

/-- The length of the longest start that two lists share. -/
def sharedStart : List Point → List Point → Nat
  | a :: as, b :: bs => if a = b then sharedStart as bs + 1 else 0
  | _, _ => 0

/-- A block of equal points: where it begins in either list, and its
length. -/
structure Block where
  left : Nat
  right : Nat
  length : Nat
  deriving DecidableEq, Repr

/-- The longest block that two lists share; of several the one furthest to the
left in the first list, and then in the second. -/
def longestBlock (a b : List Point) : Block :=
  let places := (List.range a.length).flatMap fun i => (List.range b.length).map fun j => (i, j)
  places.foldl (fun best (i, j) =>
    let n := sharedStart (a.drop i) (b.drop j)
    if best.length < n then ⟨i, j, n⟩ else best) ⟨0, 0, 0⟩

/-- The number of paired points.  Each step pairs one at least. -/
def pairedFrom : Nat → List Point → List Point → Nat
  | 0, _, _ => 0
  | steps + 1, a, b =>
      let block := longestBlock a b
      if block.length = 0 then 0
      else
        pairedFrom steps (a.take block.left) (b.take block.right) + block.length +
          pairedFrom steps (a.drop (block.left + block.length)) (b.drop (block.right + block.length))

def paired (a b : List Point) : Nat := pairedFrom (a.length + 1) a b

/-- A word and how alike it is to another: twice the paired points, and all points of
both. -/
structure Likeness where
  word : String
  twicePaired : Nat
  total : Nat
  deriving DecidableEq, Repr

def likeness (word : Spelled) (candidate : String) : Likeness :=
  let points := (Spelled.whole candidate).points
  ⟨candidate, 2 * paired points word.points, points.length + word.points.length⟩

/-- Whether three points of five or more are paired. -/
def Likeness.isClose (x : Likeness) : Bool := 3 * x.total ≤ 5 * x.twicePaired

/-- More alike, or as much and later in the alphabet. -/
def Likeness.precedes (x y : Likeness) : Bool :=
  let left := x.twicePaired * y.total
  let right := y.twicePaired * x.total
  right < left || (left == right && y.word ≤ x.word)

/-- At most three of the candidates that are close to a word, closest first. -/
def closeTo (word : Spelled) (candidates : List String) : List String :=
  let close := (candidates.map (likeness word)).filter (·.isClose)
  ((close.mergeSort Likeness.precedes).take 3).map (·.word)

end AlertRelay.Text
