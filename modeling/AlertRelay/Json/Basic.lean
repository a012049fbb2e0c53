import AlertRelay.Number.Binary64
import AlertRelay.Text.Point

/-!
# JSON values

The fields of an object keep their order.
-/

namespace AlertRelay

inductive Json where
  | null
  | bool (b : Bool)
  | int (i : Int)
  | float (x : Number.Binary64)
  | text (s : Text.Spelled)
  | array (items : List Json)
  | object (fields : List (Text.Spelled × Json))
  deriving Repr, Inhabited

namespace Json

variable {κ α : Type} [DecidableEq κ]

/-- Fields with one of them set: a key that is there keeps its place and takes
the new value, any other key goes to the end. -/
def setField (key : κ) (value : α) : List (κ × α) → List (κ × α)
  | [] => [(key, value)]
  | (k, v) :: rest => if k = key then (key, value) :: rest else (k, v) :: setField key value rest

def setFields (fields updates : List (κ × α)) : List (κ × α) :=
  updates.foldl (fun fs (k, v) => setField k v fs) fields

end Json

end AlertRelay
