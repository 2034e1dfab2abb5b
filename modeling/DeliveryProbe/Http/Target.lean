/-! Request targets: what stands between the method and the version in the first line of an HTTP
request, in the four forms of RFC 9112, read from text and written in normal form. -/
namespace DeliveryProbe
namespace Http

structure PathAndQuery where
  path : List Char
  query : Option (List Char)
  deriving DecidableEq, Repr

inductive Target where
  | origin (resource : PathAndQuery)
  | absolute (scheme authority : List Char) (resource : PathAndQuery)
  | authorityOnly (authority : List Char)
  | asterisk
  deriving DecidableEq, Repr

namespace Target

/-- The characters of a path. Quotes and braces ought to be escaped, but are let through. -/
def isPathChar (c : Char) : Bool := '!' ≤ c && c ≤ '~' && !"#<>?`".toList.contains c

def isQueryChar (c : Char) : Bool := '!' ≤ c && c ≤ '~' && !"\"#<>".toList.contains c

def isSchemeChar (c : Char) : Bool := c.isAlphanum || "+-.~".toList.contains c

def isAuthorityChar (c : Char) : Bool := c.isAlphanum || "!$&'()*+,-.:;=@[]_~".toList.contains c

def endsAuthority (c : Char) : Bool := c = '/' || c = '?' || c = '#'

def readQuery (s : List Char) : Option (List Char) :=
  let query := s.takeWhile (· ≠ '#')
  if query.all isQueryChar then some query else none

def readPath (s : List Char) : Option PathAndQuery :=
  let path := s.takeWhile fun c => c ≠ '?' && c ≠ '#'
  if path.all isPathChar then
    match s.dropWhile fun c => c ≠ '?' && c ≠ '#' with
    | '?' :: rest => (readQuery rest).map fun query => { path, query := some query }
    | _ => some { path, query := none }
  else none

/-- What an authority has shown so far. Colons and percent signs are those of the part that may be
the host: a user's and those of a bracketed address are forgotten. -/
structure AuthorityScan where
  colons : Nat
  opened : Bool
  closed : Bool
  percent : Bool
  atSign : Bool
  deriving DecidableEq, Repr

def maxColons : Nat := 8

def AuthorityScan.start : AuthorityScan :=
  { colons := 0, opened := false, closed := false, percent := false, atSign := false }

def AuthorityScan.step (a : AuthorityScan) (c : Char) : Option AuthorityScan :=
  let a := { a with atSign := c = '@' }
  if c = ':' then if maxColons ≤ a.colons then none else some { a with colons := a.colons + 1 }
  else if c = '[' then if a.percent || a.opened then none else some { a with opened := true }
  else if c = ']' then
    if !a.opened || a.closed then none else some { a with closed := true, colons := 0, percent := false }
  else if c = '@' then some { a with colons := 0, percent := false }
  else if c = '%' then some { a with percent := true }
  else if isAuthorityChar c then some a
  else none

/-- Whether an authority can end here: brackets in pairs, at most one colon in front of a port, and
a host after a user. -/
def AuthorityScan.complete (a : AuthorityScan) : Bool :=
  a.opened == a.closed && a.colons ≤ 1 && !a.atSign && !a.percent

def readAuthority (s : List Char) : Option (List Char × List Char) :=
  let authority := s.takeWhile fun c => !endsAuthority c
  match authority.foldlM AuthorityScan.step .start with
  | some scan => if scan.complete then some (authority, s.dropWhile fun c => !endsAuthority c) else none
  | none => none

def maxScheme : Nat := 64

/-- The two schemes of the web are written small; all others stay as they are. -/
def normalScheme (scheme : List Char) : List Char :=
  let small := scheme.map Char.toLower
  if small = "http".toList ∨ small = "https".toList then small else scheme

def readScheme (s : List Char) : Option (List Char × List Char) :=
  let scheme := s.takeWhile isSchemeChar
  match s.dropWhile isSchemeChar with
  | ':' :: '/' :: '/' :: rest => some (normalScheme scheme, rest)
  | _ => none

def readAbsolute (scheme rest : List Char) : Option Target :=
  if maxScheme < scheme.length then none
  else
    match readAuthority rest with
    | some ([], _) => none
    | some (authority, rest) => (readPath rest).map (Target.absolute scheme authority)
    | none => none

def readConnect (s : List Char) : Option Target :=
  match readAuthority s with
  | some (authority, []) => some (.authorityOnly authority)
  | _ => none

def maxBytes : Nat := 65534

def read? (text : String) : Option Target :=
  if maxBytes < text.utf8ByteSize then none
  else
    match text.toList with
    | [] => none
    | ['*'] => some .asterisk
    | '/' :: s => (readPath ('/' :: s)).map .origin
    | s =>
      match readScheme s with
      | some (scheme, rest) => readAbsolute scheme rest
      | none => readConnect s

def queryText (resource : PathAndQuery) : List Char :=
  match resource.query with
  | some query => '?' :: query
  | none => []

def pathText (resource : PathAndQuery) : List Char :=
  (if resource.path.isEmpty then ['/'] else resource.path) ++ queryText resource

def toChars : Target → List Char
  | .origin resource => pathText resource
  | .absolute scheme authority resource => scheme ++ "://".toList ++ authority ++ pathText resource
  | .authorityOnly authority => authority
  | .asterisk => ['*']

def text (t : Target) : String := String.ofList t.toChars

end Target
end Http
end DeliveryProbe
