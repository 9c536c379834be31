/-!
# Request targets

The address of an API server and the target of a request are URIs in the strict
form that HTTP carries.  A URI is a single slash or star, a path with an
optional query, an authority alone, or a scheme and an authority with an
optional path.  A fragment is dropped.  Nothing is decoded, and only the schemes
`http` and `https` are written in small letters.
-/

namespace FleetGate

/-- A request target. -/
structure Uri where
  /-- The scheme. -/
  scheme : Option String
  /-- The host with what may stand around it. -/
  authority : Option String
  /-- The path, which may be empty when there is no scheme. -/
  path : String
  /-- What follows a question mark. -/
  query : Option String
deriving DecidableEq, Repr, Inhabited

namespace Uri

/-- Why a text is no URI. -/
inductive Flaw where
  /-- There is no text. -/
  | empty
  /-- The text is too long. -/
  | tooLong
  /-- The scheme is too long. -/
  | schemeTooLong
  /-- A character that may not stand where it does. -/
  | badCharacter
  /-- Brackets, colons or percent signs that make no authority. -/
  | badAuthority
  /-- An authority that is missing, or one with a path but no scheme. -/
  | badForm
deriving DecidableEq, Repr

/-- What is said of a text that is no URI. -/
def Flaw.message : Flaw → String
  | .empty => "empty string"
  | .tooLong => "uri too long"
  | .schemeTooLong => "scheme too long"
  | .badCharacter => "invalid uri character"
  | .badAuthority => "invalid authority"
  | .badForm => "invalid format"

/-- Whether a byte may stand in an authority. -/
def isUriChar (c : Char) : Bool := c.isAlphanum || "!#$&\x27()*+,-./:;=?@[]_~".toList.contains c

/-- What has been seen of an authority. -/
structure Seen where
  /-- Colons since the last sign that ends a part. -/
  colons : Nat := 0
  /-- Whether a bracket was opened. -/
  opened : Bool := false
  /-- Whether a bracket was closed. -/
  closed : Bool := false
  /-- Whether a percent sign was seen since the last sign that ends a part. -/
  percent : Bool := false

/-- The length of the authority at the front, if it is well formed.  User names may
have percent signs and colons.  A host may have neither outside brackets, apart
from the one colon of a port. -/
def scanAuthority (seen : Seen) (before : Option Char) (length : Nat) :
    List Char → Except Flaw Nat
  | [] => finish
  | c :: cs =>
      if c == '/' || c == '?' || c == '#' then finish
      else if c == ':' then
        if 8 ≤ seen.colons then .error .badAuthority
        else scanAuthority { seen with colons := seen.colons + 1 } c (length + 1) cs
      else if c == '[' then
        if seen.percent || seen.opened then .error .badAuthority
        else scanAuthority { seen with opened := true } c (length + 1) cs
      else if c == ']' then
        if !seen.opened || seen.closed then .error .badAuthority
        else scanAuthority ⟨0, seen.opened, true, false⟩ c (length + 1) cs
      else if c == '@' then
        scanAuthority { seen with colons := 0, percent := false } c (length + 1) cs
      else if c == '%' then scanAuthority { seen with percent := true } c (length + 1) cs
      else if isUriChar c then scanAuthority seen c (length + 1) cs
      else .error .badCharacter
where
  /-- Whether the authority may end here. -/
  finish : Except Flaw Nat :=
    if seen.opened != seen.closed || 1 < seen.colons || before == some '@' || seen.percent then
      .error .badAuthority
    else .ok length

/-- Whether a character may stand in a path. -/
def isPathChar (c : Char) : Bool :=
  let n := c.toNat
  n == 0x21 || (0x24 ≤ n && n ≤ 0x3b) || n == 0x3d || (0x40 ≤ n && n ≤ 0x5f) ||
    (0x61 ≤ n && n ≤ 0x7a) || n == 0x7c || (0x7e ≤ n && n != 0x7f) || c == '"' || c == '\x7b' || c == '\x7d'

/-- Whether a character may stand in a query. -/
def isQueryChar (c : Char) : Bool :=
  let n := c.toNat
  n == 0x21 || (0x24 ≤ n && n ≤ 0x3b) || n == 0x3d || (0x3f ≤ n && n != 0x7f)

/-- A path and a query, without the fragment. -/
def pathAndQuery (cs : List Char) : Except Flaw (String × Option String) :=
  let cs := cs.takeWhile (· != '#')
  let path := cs.takeWhile (· != '?')
  let query := cs.drop path.length
  if !path.all isPathChar || !(query.drop 1).all isQueryChar then .error .badCharacter
  else
    .ok (String.ofList path,
      if query.isEmpty then none else some (String.ofList (query.drop 1)))

/-- Whether a character may stand in a scheme. -/
def isSchemeChar (c : Char) : Bool := c.isAlphanum || "+-.~".toList.contains c

/-- The scheme at the front with what follows the two slashes after it, if the text
begins with a scheme.  The marks after a scheme alone are none. -/
def opening (cs : List Char) : Except Flaw (Option (String × List Char)) :=
  let name := cs.takeWhile isSchemeChar
  match cs.drop name.length with
  | ':' :: '/' :: '/' :: rest =>
      let small := String.ofList (name.map Char.toLower)
      if name.isEmpty && rest.isEmpty then .ok none
      else if small == "http" || small == "https" then .ok (some (small, rest))
      else if 64 < name.length then .error .schemeTooLong
      else .ok (some (String.ofList name, rest))
  | _ => .ok none

/-- The longest text that is a URI, in bytes. -/
def maxLength : Nat := 65534

/-- The URI of a text that is not a single character and does not begin with a slash. -/
def parseFull (cs : List Char) : Except Flaw Uri := do
  match ← opening cs with
  | none =>
      let length ← scanAuthority {} none 0 cs
      if length == cs.length then pure ⟨none, some (String.ofList cs), "", none⟩
      else throw .badForm
  | some (name, rest) =>
      if rest.isEmpty then throw .empty
      let length ← scanAuthority {} none 0 rest
      if length == 0 then throw .badForm
      let (path, query) ← pathAndQuery (rest.drop length)
      pure ⟨some name, some (String.ofList (rest.take length)),
        if path.isEmpty then "/" else path, query⟩

/-- The URI of a text. -/
def parse (s : String) : Except Flaw Uri :=
  if maxLength < s.utf8ByteSize then .error .tooLong
  else match s.toList with
    | [] => .error .empty
    | ['/'] => .ok ⟨none, none, "/", none⟩
    | ['*'] => .ok ⟨none, none, "*", none⟩
    | [c] =>
        if c == '?' || c == '#' then .error .badCharacter
        else parseFull [c]
    | '/' :: cs => (pathAndQuery ('/' :: cs)).map fun (path, query) => ⟨none, none, path, query⟩
    | cs => parseFull cs

/-- The URI of a text, if it is one. -/
def parse? (s : String) : Option Uri := (parse s).toOption

/-- The text of a URI. -/
def text (u : Uri) : String :=
  (match u.scheme with | some s => s ++ "://" | none => "") ++ u.authority.getD "" ++ u.path ++
    (match u.query with | some q => "?" ++ q | none => "")

end Uri

end FleetGate
