import PathRouting.Text.Integer
import PathRouting.Url.Host

/-!
Base URLs. Of a URL only the scheme, the host and the port are kept: what an absolute URL has in
front of its path.

Main definition: `Base.parse`. A URL without a host is refused, also where it is well-formed.
-/

namespace PathRouting.Url

open PathRouting.Text

/-- What an absolute URL has in front of its path. The port is the one that the scheme stands for
where none is written. -/
structure Base where
  scheme : String
  host : String
  port : Option Nat
  deriving DecidableEq, Repr

namespace Base

/-! ### Schemes -/

/-- How what follows a scheme is read. -/
inductive Style where
  | file
  | wellKnown (port : Nat)
  | other
  deriving DecidableEq, Repr

/-- The style of a scheme. -/
def Style.ofScheme (scheme : String) : Style :=
  match scheme with
  | "http" | "ws" => .wellKnown 80
  | "https" | "wss" => .wellKnown 443
  | "ftp" => .wellKnown 21
  | "file" => .file
  | _ => .other

/-- The text without control characters and blanks at its ends, and without tabs and line ends. -/
def cleaned (cs : List Char) : List Char :=
  let outer := fun c : Char => decide (c.toNat ≤ 32)
  (((cs.dropWhile outer).reverse.dropWhile outer).reverse).filter fun c =>
    c ≠ '\t' && c ≠ '\n' && c ≠ '\r'

/-- The scheme in lower case and what follows the colon. -/
def splitScheme? (cs : List Char) : Option (String × List Char) :=
  let isSchemeChar := fun c : Char => c.isAlphanum || c = '+' || c = '-' || c = '.'
  match cs.takeWhile isSchemeChar, cs.dropWhile isSchemeChar with
  | c :: scheme, ':' :: rest =>
    if c.isAlpha then some (String.ofList ((c :: scheme).map Char.toLower), rest) else none
  | _, _ => none

/-! ### Authorities -/

/-- Whether the character separates parts of a path: in URLs of other schemes only a slash does. -/
def Style.isSlash (style : Style) (c : Char) : Bool :=
  c = '/' || (c = '\\' && style ≠ .other)

/-- Whether an authority ends before the character. -/
def Style.endsAuthority (style : Style) (c : Char) : Bool :=
  style.isSlash c || c = '?' || c = '#'

/-- What follows the user information of an authority, and whether a name or password was given. A
lone `@` is refused where something else than a host comes next. -/
def skipUser (style : Style) (cs : List Char) : Except Fault (Bool × List Char) :=
  let authority := cs.takeWhile fun c => !style.endsAuthority c
  let after := cs.dropWhile fun c => !style.endsAuthority c
  match pieces '@' authority with
  | [_] => .ok (false, cs)
  | ps =>
    let user := joinPieces ['@'] ps.dropLast
    let host := ps.getLastD []
    if user.isEmpty && host.isEmpty && !after.isEmpty then .error .emptyHost
    else .ok (!user.isEmpty && user ≠ [':'], host ++ after)

/-- The host at the start of a text, and what follows it. A colon ends it except in brackets. -/
def splitHost (style : Style) : (bracketed : Bool) → List Char → List Char × List Char
  | _, [] => ([], [])
  | bracketed, c :: rest =>
    if style.endsAuthority c || (c = ':' && !bracketed) then ([], c :: rest)
    else
      let (host, after) := splitHost style (c = '[' || (bracketed && c ≠ ']')) rest
      (c :: host, after)

/-- The greatest port. -/
def maxPort : Nat := 65535

/-- The port at the start of what follows a host. -/
def readPort (cs : List Char) : Except Fault (Option Nat) :=
  match cs with
  | ':' :: rest =>
    let digits := rest.takeWhile Char.isDigit
    let next := (rest.dropWhile Char.isDigit).head?
    match readDigits? digits with
    | none => if next.all (· ∈ ['/', '\\', '?', '#']) then .ok none else .error .invalidPort
    | some port =>
      if maxPort < port || !next.all (· ∈ ['/', '\\', '?', '#']) then .error .invalidPort
      else .ok (some port)
  | _ => .ok none

/-- The host and the port of the authority at the start of a text. The host may be empty where the
scheme is not a well-known one, if neither a user nor a port goes with it. -/
def readAuthority (style : Style) (cs : List Char) : Except Fault (String × Option Nat) := do
  let (hasUser, rest) ← skipUser style cs
  let (hostChars, after) := splitHost style false rest
  let host ←
    if style = .other then Host.parseOpaque hostChars
    else if hostChars.isEmpty then throw .emptyHost
    else Host.parse hostChars
  if host.isEmpty && after.head? = some ':' then throw .emptyHost
  let port ← readPort after
  if host.isEmpty && hasUser then throw .emptyHost
  return (host, port)

/-! ### Files -/

/-- Whether the text is a drive letter: a letter and a colon or a bar. -/
def isDrive : List Char → Bool
  | [letter, mark] => letter.isAlpha && (mark = ':' || mark = '|')
  | _ => false

/-- Whether the component stands for the one it is in, or, with two points, for the one before. -/
def isDots (count : Nat) (component : List Char) : Bool :=
  Percent.decodeBytes (Percent.utf8 (String.ofList component)) = List.replicate count 46

/-- Whether a drive letter comes first among the components that remain when points are resolved,
with `depth` components before those listed. -/
def startsWithDrive (depth : Nat) : List (List Char) → Bool
  | [] => false
  | component :: rest =>
    if isDots 2 component then startsWithDrive (depth - 1) rest
    else if isDots 1 component then startsWithDrive depth rest
    else (depth = 0 && isDrive component) || startsWithDrive (depth + 1) rest

/-- The components of the path at the start of a text. -/
def pathComponents (cs : List Char) : List (List Char) :=
  let path := cs.takeWhile fun c => c ≠ '?' && c ≠ '#'
  (pieces '/' (path.map fun c => if c = '\\' then '/' else c)).drop 1

/-- The host of a file. This computer is not named as a host, nor is it one if a drive follows. -/
def readFileHost (cs : List Char) : Except Fault String :=
  match cs with
  | a :: b :: rest =>
    if Style.file.isSlash a && Style.file.isSlash b then
      let hostChars := rest.takeWhile fun c => !Style.file.endsAuthority c
      let after := rest.dropWhile fun c => !Style.file.endsAuthority c
      if hostChars.isEmpty || isDrive hostChars then .error .noHost
      else
        match Host.parse hostChars with
        | .error fault => .error fault
        | .ok host =>
          if host = "localhost" || startsWithDrive 0 (pathComponents after) then .error .noHost
          else .ok host
    else .error .noHost
  | _ => .error .noHost

/-! ### Base URLs -/

/-- The base that a URL writes. -/
def parse (url : String) : Except Fault Base :=
  match splitScheme? (cleaned url.toList) with
  | none => .error .relativeWithoutBase
  | some (scheme, rest) =>
    match Style.ofScheme scheme with
    | .file => (readFileHost rest).map fun host => ⟨scheme, host, none⟩
    | .wellKnown known =>
      (readAuthority (.wellKnown known) (rest.dropWhile fun c => c = '/' || c = '\\')).map
        fun (host, port) => ⟨scheme, host, some (port.getD known)⟩
    | .other =>
      match dropLeading? ['/', '/'] rest with
      | none => .error .noHost
      | some authority => do
        let (host, port) ← readAuthority .other authority
        if host.isEmpty then throw .noHost
        return ⟨scheme, host, port⟩

end Base

end PathRouting.Url
