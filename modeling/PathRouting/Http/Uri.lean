import PathRouting.Text.Pieces

/-!
Request targets: a path such as `/books?page=2`, a whole URI such as `http://example.com/books`, an
authority alone such as `example.com:80`, or `*`.

Of a target only the host and the path are kept.
-/

namespace PathRouting.Http

open PathRouting.Text

/-- A request target: the host of its authority, if it has one, and its path. -/
structure Uri where
  host : Option String
  path : String
  deriving DecidableEq, Repr

namespace Uri

/-- The number of bytes that a target may have. -/
def maxBytes : Nat := 65534

/-- The number of characters that a scheme may have. -/
def maxScheme : Nat := 64

/-! ### Characters -/

/-- Whether the character may stand in a path as it is. Beyond ASCII every character may. -/
def isPathChar (c : Char) : Bool :=
  let n := c.toNat
  n = 0x21 || n = 0x22 || (0x24 ≤ n && n ≤ 0x3B) || n = 0x3D || (0x40 ≤ n && n ≤ 0x5F) || 0x61 ≤ n

/-- Whether the character may stand in a query as it is. Beyond ASCII every character may. -/
def isQueryChar (c : Char) : Bool :=
  let n := c.toNat
  n = 0x21 || (0x24 ≤ n && n ≤ 0x3B) || n = 0x3D || 0x3F ≤ n

/-- Whether the character may stand in a scheme. -/
def isSchemeChar (c : Char) : Bool :=
  c.isAlphanum || c ∈ ['+', '-', '.', '~']

/-- Whether the character may stand in an authority. A percent sign may as well, in some places. -/
def isAuthorityChar (c : Char) : Bool :=
  c.isAlphanum || c ∈ "!$&'()*+,-.:;=@[]_~".toList

/-! ### Parts -/

/-- What follows `http://` or `https://` in any case, or another scheme and `://`. Without a scheme
there is nothing to skip; a scheme that is too long is refused. -/
def afterScheme (cs : List Char) : Except Unit (Option (List Char)) :=
  let scheme := cs.takeWhile isSchemeChar
  match cs.dropWhile isSchemeChar with
  | ':' :: '/' :: '/' :: rest =>
    if cs.length ≤ 3 then .ok none
    else if maxScheme < scheme.length then .error ()
    else .ok (some rest)
  | _ => .ok none

/-- What was seen of an authority: the colons, and whether a percent sign came, since the last `@`
or closing bracket; which brackets came; and whether the last character was `@`. -/
structure AuthorityScan where
  colons : Nat := 0
  percent : Bool := false
  opened : Bool := false
  closed : Bool := false
  endsWithAt : Bool := false

/-- The number of colons in a row that an address in brackets with a port needs. -/
def maxColons : Nat := 8

/-- The scan after one more character, unless the character cannot stand there. -/
def AuthorityScan.step (s : AuthorityScan) (c : Char) : Option AuthorityScan :=
  let s := { s with endsWithAt := c = '@' }
  if c = ':' then if maxColons ≤ s.colons then none else some { s with colons := s.colons + 1 }
  else if c = '[' then if s.percent || s.opened then none else some { s with opened := true }
  else if c = ']' then
    if !s.opened || s.closed then none
    else some { s with closed := true, colons := 0, percent := false }
  else if c = '@' then some { s with colons := 0, percent := false }
  else if c = '%' then some { s with percent := true }
  else if isAuthorityChar c then some s
  else none

/-- Whether an authority may end here: brackets are closed, at most one colon is left for a port,
and neither an `@` nor a percent sign outside the user information is left over. -/
def AuthorityScan.mayEnd (s : AuthorityScan) : Bool :=
  s.opened == s.closed && s.colons ≤ 1 && !s.endsWithAt && !s.percent

/-- Whether the characters are an authority. -/
def isAuthority (cs : List Char) : Bool :=
  (cs.foldlM AuthorityScan.step {}).any AuthorityScan.mayEnd

/-- The host of an authority: what follows the last `@`, without the port. An address in brackets
keeps them. -/
def hostOf (authority : List Char) : List Char :=
  match (pieces '@' authority).getLastD [] with
  | '[' :: rest => '[' :: rest.takeWhile (· ≠ ']') ++ [']']
  | host => host.takeWhile (· ≠ ':')

/-- The path at the start of a text that goes on with a query and a fragment, if their characters
may stand there. An empty path is the root. -/
def pathOf? (cs : List Char) : Option (List Char) :=
  let path := cs.takeWhile fun c => c ≠ '?' && c ≠ '#'
  let rest := cs.dropWhile fun c => c ≠ '?' && c ≠ '#'
  let query :=
    match rest with
    | '?' :: more => more.takeWhile (· ≠ '#')
    | _ => []
  if path.all isPathChar && query.all isQueryChar then
    some (if path.isEmpty then ['/'] else path)
  else none

/-! ### Targets -/

/-- The target that consists of an authority alone. -/
def ofAuthority? (cs : List Char) : Option Uri :=
  if isAuthority cs then some ⟨some (String.ofList (hostOf cs)), ""⟩ else none

/-- The target that follows a scheme: an authority, and a path where there is one. -/
def ofHierarchy? (cs : List Char) : Option Uri :=
  let inAuthority := fun c => c ≠ '/' && c ≠ '?' && c ≠ '#'
  let authority := cs.takeWhile inAuthority
  if authority.isEmpty || !isAuthority authority then none
  else
    (pathOf? (cs.dropWhile inAuthority)).map fun path =>
      ⟨some (String.ofList (hostOf authority)), String.ofList path⟩

/-- The target that a text writes. -/
def ofText? (s : String) : Option Uri :=
  if maxBytes < s.utf8ByteSize then none
  else
    match s.toList with
    | [] => none
    | ['*'] => some ⟨none, "*"⟩
    | '/' :: rest => (pathOf? ('/' :: rest)).map fun path => ⟨none, String.ofList path⟩
    | cs =>
      match afterScheme cs with
      | .error () => none
      | .ok none => ofAuthority? cs
      | .ok (some rest) => ofHierarchy? rest

end Uri

end PathRouting.Http
