import AlertRelay.Http.Host
import AlertRelay.Number.Integer
import AlertRelay.Text.Quoted

/-!
# URLs

A URL is taken apart into scheme, user, host, port, path, query and fragment,
and each part is checked and brought to one form: lower case for scheme and
host, no port that the scheme implies, no dot segments in the path, and unsafe
characters percent-encoded.
-/

namespace AlertRelay.Http

open AlertRelay.Number AlertRelay.Text

structure Url where
  scheme : List Char
  user : List Char
  host : List Char
  port : Option Int
  path : List Char
  query : Option (List Char)
  fragment : Option (List Char)
  deriving DecidableEq, Repr

inductive UrlFault where
  | tooLong
  | controlCharacter (c : Char) (position : Nat)
  | host (fault : HostFault)
  | badPort (port : String)
  | pathWithoutSlash
  | pathOfTwoSlashes
  | pathOfColon
  deriving DecidableEq, Repr

def UrlFault.message : UrlFault → String
  | tooLong => "URL too long"
  | controlCharacter c position =>
      "Invalid non-printable ASCII character in URL, " ++ quoted (String.ofList [c]) ++
        " at position " ++ integerText position ++ "."
  | host (.badDecimalAddress h) => "Invalid IPv4 address: " ++ quoted h
  | host (.badHexAddress h) => "Invalid IPv6 address: " ++ quoted h
  | host (.badName h) => "Invalid IDNA hostname: " ++ quoted h
  | badPort port => "Invalid port: " ++ quoted port
  | pathWithoutSlash => "For absolute URLs, path must be empty or begin with '/'"
  | pathOfTwoSlashes => "Relative URLs cannot have a path starting with '//'"
  | pathOfColon => "Relative URLs cannot have a path starting with ':'"

/-- Whether a fault is met when a text has been taken apart. -/
def UrlFault.isOfParts : UrlFault → Bool
  | tooLong | controlCharacter _ _ => false
  | _ => true

namespace Url

/-! ## Taking a text apart -/

def isLetter (c : Char) : Bool := ('A' ≤ c && c ≤ 'Z') || ('a' ≤ c && c ≤ 'z')

def isSchemeChar (c : Char) : Bool :=
  isLetter c || isAsciiDigit c || c == '+' || c == '.' || c == '-'

/-- The scheme, which may be empty, and what follows its colon. -/
def splitScheme (s : List Char) : List Char × List Char :=
  let run := if (s.head?.any isLetter) then s.takeWhile isSchemeChar else []
  match s.drop run.length with
  | ':' :: rest => (run, rest)
  | _ => ([], s)

/-- What stands between two slashes and the path. -/
def splitAuthority (s : List Char) : List Char × List Char :=
  match s with
  | '/' :: '/' :: rest =>
      let run := rest.takeWhile fun c => c != '/' && c != '?' && c != '#'
      (run, rest.drop run.length)
  | _ => ([], s)

/-- What follows the first mark, if there is one, and what is before it. -/
def splitMark (mark : Char) (s : List Char) : List Char × Option (List Char) :=
  let run := s.takeWhile (· != mark)
  match s.drop run.length with
  | [] => (run, none)
  | _ :: rest => (run, some rest)

/-- The user before the last at sign, and what follows it. -/
def splitUser (s : List Char) : List Char × List Char :=
  match s.reverse.span (· != '@') with
  | (_, []) => ([], s)
  | (host, _ :: user) => (user.reverse, host.reverse)

/-- The host and the port; a host in brackets may have colons. -/
def splitHost (s : List Char) : List Char × List Char :=
  let bracketed : List Char :=
    if s.head? == some '[' then (s.reverse.dropWhile (· != ']')).reverse else []
  let host := if bracketed.isEmpty then s.takeWhile (· != ':') else bracketed
  match s.drop host.length with
  | ':' :: port => (host, port)
  | port => (host, port)

/-! ## One form -/

def impliedPorts : List (String × Int) :=
  [("ftp", 21), ("http", 80), ("https", 443), ("ws", 80), ("wss", 443)]

def normalPort (scheme port : List Char) : Except UrlFault (Option Int) :=
  if port.isEmpty then .ok none
  else
    match integer? .decimal port with
    | none => .error (.badPort (String.ofList port))
    | some n => .ok (if impliedPorts.lookup (String.ofList scheme) = some n then none else some n)

def dropDots (path : List Char) : List Char :=
  let segments := path.splitOn '/'
  let kept := segments.foldl (fun out segment =>
    if segment == ['.'] then out
    else if segment == ['.', '.'] then
      (if out == [] || out == [[]] then out else out.dropLast)
    else out ++ [segment]) []
  ['/'].intercalate kept

def isControl (c : Char) : Bool := c.toNat < 0x20 || c.toNat == 0x7f

def maxLength : Nat := 65536

/-- What the path may look like: behind a host it is empty or begins with a
slash, and on its own it must not be mistaken for anything else. -/
def checkPath (hasScheme hasAuthority : Bool) (path : List Char) : Except UrlFault Unit :=
  if hasAuthority && !path.isEmpty && path.head? != some '/' then .error .pathWithoutSlash
  else if !hasScheme && !hasAuthority && path.take 2 == ['/', '/'] then .error .pathOfTwoSlashes
  else if !hasScheme && !hasAuthority && path.head? == some ':' then .error .pathOfColon
  else .ok ()

def hostOf (host : List Char) : Except UrlFault (List Char) :=
  match normalHost host with
  | .ok h => .ok h
  | .error f => .error (.host f)

/-- The parts of a text that is free of control characters. -/
def ofParts (s : List Char) : Except UrlFault Url := do
  let (scheme, s) := splitScheme s
  let (authority, s) := splitAuthority s
  let (s, fragment) := splitMark '#' s
  let (path, query) := splitMark '?' s
  let (user, s) := splitUser authority
  let (host, port) := splitHost s
  let user := percentEncode isUserSafe user
  let host ← hostOf host
  let port ← normalPort scheme port
  let hasScheme := !scheme.isEmpty
  let hasAuthority := !user.isEmpty || !host.isEmpty || port.isSome
  checkPath hasScheme hasAuthority path
  let path := if hasScheme || hasAuthority then dropDots path else path
  return {
    scheme := scheme.map lowerCase, user, host, port
    path := percentEncode isPathSafe path
    query := query.map (percentEncode isQuerySafe)
    fragment := fragment.map (percentEncode isFragmentSafe) }

def parse (s : String) : Except UrlFault Url :=
  let cs := s.toList
  if maxLength < cs.length then .error .tooLong
  else
    match cs.find? isControl with
    | some c => .error (.controlCharacter c (cs.takeWhile (fun x => !isControl x)).length)
    | none => ofParts cs

/-! ## Halves of pairs -/

/-- Where the user of a text begins, and how long it is. -/
def userPlace (s : List Char) : Nat × Nat :=
  let rest := (splitScheme s).2
  let user := (splitUser (splitAuthority rest).1).1
  (s.length - rest.length + 2, user.length)

/-- Why a text that may hold halves of pairs is no URL.  A half has no form in a user or
behind the host; that of a user is met before the host is looked at. -/
def fault? (s : Spelled) : Option UrlFault :=
  let (start, length) := userPlace s.unjoined.toList
  let user := (s.points.drop start).take length
  match parse s.unjoined with
  | .ok _ => none
  | .error f => if f.isOfParts && user.any (·.isHalf) then none else some f

/-! ## Text -/

def authority (u : Url) : List Char :=
  (if u.user.isEmpty then [] else u.user ++ ['@']) ++
    (if u.host.contains ':' then '[' :: u.host ++ [']'] else u.host) ++
    (match u.port with
     | none => []
     | some n => ':' :: (integerText n).toList)

def behind (mark : Char) : Option (List Char) → List Char
  | none => []
  | some s => mark :: s

def text (u : Url) : String :=
  String.ofList (
    (if u.scheme.isEmpty then [] else u.scheme ++ [':']) ++
    (if u.authority.isEmpty then [] else '/' :: '/' :: u.authority) ++
    u.path ++ behind '?' u.query ++ behind '#' u.fragment)

end Url

end AlertRelay.Http
