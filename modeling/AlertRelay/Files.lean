import AlertRelay.Number.Integer
import AlertRelay.Text.Quoted
import AlertRelay.Text.Utf8

/-!
# Files

What paths lead to.  A tree of files and directories is seen from its root,
which is where relative paths begin; nothing is known about the directories
outside of the tree except that they are there.
-/

namespace AlertRelay

open AlertRelay.Number AlertRelay.Text

/-! ## Paths -/

def pathSegments (path : List Point) : List (List Point) := path.splitOn (.char '/')

def isIdle (segment : List Point) : Bool := segment.isEmpty || segment == [.char '.']

/-- What an absolute path begins with: one slash, or exactly two. -/
def pathRoot (path : List Point) : List Point :=
  match (path.takeWhile (· == .char '/')).length with
  | 0 => []
  | 2 => [.char '/', .char '/']
  | _ => [.char '/']

/-- A path without segments that stay where they are. -/
def normalPath (path : Spelled) : Spelled :=
  let body := [.char '/'].intercalate ((pathSegments path.points).filter fun s => !isIdle s)
  let all := pathRoot path.points ++ body
  if all.isEmpty then "." else ⟨all⟩

/-- A path as it is shown: bytes that are not in UTF-8 are replaced. -/
def readablePath (path : Spelled) : String :=
  match path.bytes? with
  | some bytes => String.ofList ((Utf8.decode bytes).map (·.getD Utf8.replacement))
  | none => path.shown

/-- Whether there can be a path: a NUL is in none, and every path stands for bytes. -/
def isPath (path : Spelled) : Bool := !path.points.contains (.char '\x00') && path.bytes?.isSome

/-! ## What a path leads to -/

inductive FileEntry where
  | file (bytes : List UInt8)
  | directory
  deriving DecidableEq, Repr, Inhabited

inductive FileFault where
  | notFound
  | denied
  | notDirectory
  | isDirectory
  | nameTooLong
  deriving DecidableEq, Repr, Inhabited

namespace FileFault

def number : FileFault → Nat
  | notFound => 2
  | denied => 13
  | notDirectory => 20
  | isDirectory => 21
  | nameTooLong => 36

def text : FileFault → String
  | notFound => "No such file or directory"
  | denied => "Permission denied"
  | notDirectory => "Not a directory"
  | isDirectory => "Is a directory"
  | nameTooLong => "File name too long"

/-- The fault as it is reported for a path. -/
def message (path : Spelled) (f : FileFault) : String :=
  "[Errno " ++ integerText f.number ++ "] " ++ f.text ++ ": " ++ quoted path

end FileFault

abbrev Files := Spelled → Except FileFault FileEntry

namespace Files

def isDirectory (files : Files) (path : Spelled) : Bool :=
  match files path with
  | .ok .directory => true
  | _ => false

def read (files : Files) (path : Spelled) : Except FileFault (List UInt8) :=
  match files path with
  | .ok (.file bytes) => .ok bytes
  | .ok .directory => .error .isDirectory
  | .error f => .error f

end Files

/-! ## Trees -/

/-- Files and directories by the names on the way to them; the directories on
the way need not be listed. -/
abbrev FileTree := List (List (List Point) × FileEntry)

namespace FileTree

/-- The tree with files and directories under the given paths. -/
def ofPaths (entries : List (Spelled × FileEntry)) : FileTree :=
  entries.map fun (path, entry) =>
    ((pathSegments path.points).filter fun s => !isIdle s, entry)

/-- A place on the way along a path: inside the tree, by its names, or
somewhere around it. -/
inductive Place where
  | inside (names : List (List Point))
  | outside
  deriving DecidableEq, Repr

/-- What is to be found under names inside the tree. -/
def entry? (tree : FileTree) (names : List (List Point)) : Option FileEntry :=
  if names.isEmpty then some .directory
  else
    match tree.lookup names with
    | some e => some e
    | none =>
        if tree.any fun (path, _) => names.isPrefixOf path then some .directory else none

def maxNameBytes : Nat := 255

def maxPathBytes : Nat := 4095

def byteLength (s : List Point) : Nat := (Spelled.bytes? ⟨s⟩).elim 0 List.length

def enter (tree : FileTree) (segment : List Point) : Place → Except FileFault Place
  | .outside =>
      if isIdle segment || segment == [.char '.', .char '.'] then .ok .outside
      else if maxNameBytes < byteLength segment then .error .nameTooLong
      else .error .notFound
  | .inside names =>
      match tree.entry? names with
      | none => .error .notFound
      | some (.file _) => .error .notDirectory
      | some .directory =>
          if isIdle segment then .ok (.inside names)
          else if segment == [.char '.', .char '.'] then
            .ok (if names.isEmpty then .outside else .inside names.dropLast)
          else if maxNameBytes < byteLength segment then .error .nameTooLong
          else if (tree.entry? (names ++ [segment])).isNone then .error .notFound
          else .ok (.inside (names ++ [segment]))

def files (tree : FileTree) : Files := fun path => do
  if path.points.isEmpty then .error .notFound
  else if maxPathBytes < byteLength path.points then .error .nameTooLong
  else
    let start : Place := if path.points.head? == some (.char '/') then .outside else .inside []
    match ← (pathSegments path.points).foldlM (fun place segment => tree.enter segment place) start with
    | .outside => .ok .directory
    | .inside names =>
        match tree.entry? names with
        | some e => .ok e
        | none => .error .notFound

end FileTree

end AlertRelay
