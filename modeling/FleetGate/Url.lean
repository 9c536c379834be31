import FleetGate.Url.Host

/-!
# URLs

Addresses of services and of token endpoints are URLs as browsers read them.
Reading is lenient: blanks around the text and line ends inside it are dropped,
backslashes count as slashes in schemes that have rules, dot segments are taken
away, and characters that may not stand in a part are percent-encoded.
`Url.parse` gives the parts in their normal form, and `Url.text` writes them.

The schemes with rules are `http`, `https`, `ws`, `wss`, `ftp` and `file`.
-/

namespace FleetGate

/-- A host with what may stand around it. -/
structure Url.Authority where
  /-- The user name and the password, up to the sign after them. -/
  userInfo : List Char
  /-- The host. -/
  host : List Char
  /-- The port, unless it is the usual one. -/
  port : Option Nat
deriving DecidableEq, Repr, Inhabited

/-- The path of a URL. -/
inductive Url.UrlPath where
  /-- Segments, each after a slash. -/
  | segments (parts : List (List Char))
  /-- A text that is not divided. -/
  | rootless (text : List Char)
deriving DecidableEq, Repr, Inhabited

/-- A URL in its normal form. -/
structure Url where
  /-- The scheme, in small letters. -/
  scheme : String
  /-- The authority, if there is one. -/
  authority : Option Url.Authority
  /-- The path. -/
  path : Url.UrlPath
  /-- What follows a question mark. -/
  query : Option (List Char)
  /-- What follows a number sign. -/
  fragment : Option (List Char)
deriving DecidableEq, Repr, Inhabited

namespace Url

/-- The usual port of a scheme. -/
def usualPort? : String → Option Nat
  | "http" | "ws" => some 80
  | "https" | "wss" => some 443
  | "ftp" => some 21
  | _ => none

/-- Whether a scheme has rules of its own. -/
def isSpecial (scheme : String) : Bool := (usualPort? scheme).isSome || scheme == "file"

/-- The characters that count: none of the blanks and controls at either end, and
no tab or line end. -/
def cleaned (s : String) : List Char :=
  let edge (c : Char) : Bool := c.toNat ≤ 0x20
  (((s.toList.dropWhile edge).reverse.dropWhile edge).reverse).filter fun c =>
    c != '\t' && c != '\n' && c != '\r'

/-- The scheme at the front and what follows its colon. -/
def splitScheme? (cs : List Char) : Option (String × List Char) :=
  let isPart (c : Char) : Bool := c.isAlphanum || c == '+' || c == '-' || c == '.'
  match cs, cs.dropWhile isPart with
  | c :: _, ':' :: rest =>
      if c.isAlpha then some (String.ofList ((cs.takeWhile isPart).map Char.toLower), rest)
      else none
  | _, _ => none

/-- Whether a character ends the authority. -/
def endsAuthority (special : Bool) (c : Char) : Bool :=
  c == '/' || c == '?' || c == '#' || (special && c == '\\')

/-- The user name and password of an authority, encoded, and what follows them. -/
def splitUserInfo (special : Bool) (cs : List Char) : Except Flaw (List Char × List Char) :=
  let whole := cs.takeWhile fun c => !endsAuthority special c
  let host := (whole.reverse.takeWhile (· != '@')).reverse
  if !whole.contains '@' then .ok ([], cs)
  else
    let front := whole.take (whole.length - host.length - 1)
    let rest := cs.drop (whole.length - host.length)
    if front.isEmpty then
      match rest with
      | c :: _ => if endsAuthority special c then .error .emptyHost else .ok ([], rest)
      | [] => .ok ([], rest)
    else
      let name := percentEncode inUserInfo (front.takeWhile (· != ':'))
      let password := percentEncode inUserInfo ((front.dropWhile (· != ':')).drop 1)
      let info := name ++ (if password.isEmpty then [] else ':' :: password)
      .ok (if info.isEmpty then [] else info ++ ['@'], rest)

/-- The host at the front, up to a colon that is not in brackets. -/
def takeHost (special : Bool) : Bool → List Char → List Char × List Char
  | _, [] => ([], [])
  | inside, c :: cs =>
      if (c == ':' && !inside) || endsAuthority special c then ([], c :: cs)
      else
        let inside := if c == '[' then true else if c == ']' then false else inside
        let (host, rest) := takeHost special inside cs
        (c :: host, rest)

/-- The port after a colon. -/
def takePort (special : Bool) (scheme : String) (cs : List Char) :
    Except Flaw (Option Nat × List Char) :=
  let ds := cs.takeWhile Char.isDigit
  let rest := cs.dropWhile Char.isDigit
  let n := Numeric.digitsValue ds
  if 65535 < n then .error .badPort
  else if rest.head?.any fun c => !(endsAuthority special c || c == '\\') then .error .badPort
  else if ds.isEmpty || usualPort? scheme == some n then .ok (none, rest)
  else .ok (some n, rest)

/-- The authority at the front. -/
def takeAuthority (scheme : String) (cs : List Char) :
    Except Flaw (Authority × List Char) := do
  let special := isSpecial scheme
  let (info, cs) ← splitUserInfo special cs
  let (raw, rest) := takeHost special false cs
  if special && raw.isEmpty then throw .emptyHost
  let host ← if special then specialHost raw else plainHost raw
  match rest with
  | ':' :: rest =>
      if host.isEmpty then throw .emptyHost
      let (port, rest) ← takePort special scheme rest
      pure (⟨info, host, port⟩, rest)
  | rest =>
      if host.isEmpty && !info.isEmpty then throw .emptyHost
      pure (⟨info, host, none⟩, rest)

/-- Whether a segment stays where it is. -/
def isSingleDot (segment : List Char) : Bool :=
  [".", "%2e"].contains (String.ofList (segment.map Char.toLower))

/-- Whether a segment goes up. -/
def isDoubleDot (segment : List Char) : Bool :=
  ["..", ".%2e", "%2e.", "%2e%2e"].contains (String.ofList (segment.map Char.toLower))

/-- Whether a segment names a drive: a letter and a colon or a bar. -/
def isDrive : List Char → Bool
  | [letter, c] => letter.isAlpha && (c == ':' || c == '|')
  | _ => false

/-- Puts segments after others, following the dots.  Those before are in reverse.  No dots
go up from a drive.  In the scheme `file` a drive in front is written with a colon. -/
def resolveDots (file : Bool) (before : List (List Char)) :
    List (List Char) → List (List Char)
  | [] => before.reverse
  | segment :: segments =>
      let ended (before : List (List Char)) : List (List Char) :=
        if segments.isEmpty then [] :: before else before
      if isDoubleDot segment then
        resolveDots file (ended (if before.head?.any isDrive then before else before.tail)) segments
      else if isSingleDot segment then resolveDots file (ended before) segments
      else if file && before.isEmpty && isDrive segment then
        resolveDots file [segment.take 1 ++ [':']] segments
      else resolveDots file (percentEncode inPath segment :: before) segments

/-- The segments of a path without its first slash. -/
def segmentsOf (scheme : String) (cs : List Char) : List (List Char) :=
  let cs := if isSpecial scheme then cs.map fun c => if c == '\\' then '/' else c else cs
  resolveDots (scheme == "file") [] (splitOnChar '/' cs)

/-- Whether a character is a slash in a scheme. -/
def isSlash (special : Bool) (c : Char) : Bool := c == '/' || (special && c == '\\')

/-- The path, the query and the fragment, raw. -/
def splitTail (cs : List Char) : List Char × Option (List Char) × Option (List Char) :=
  let path := cs.takeWhile fun c => c != '?' && c != '#'
  let rest := cs.drop path.length
  let fragment := (rest.dropWhile (· != '#')).tail
  let hasFragment := rest.contains '#'
  let query := match rest with
    | '?' :: rest => some (rest.takeWhile (· != '#'))
    | _ => none
  (path, query, if hasFragment then some fragment else none)

/-- The path after an authority. -/
def pathAfterAuthority (scheme : String) : List Char → List (List Char)
  | [] => if isSpecial scheme then [[]] else []
  | c :: cs => segmentsOf scheme (if isSlash (isSpecial scheme) c then cs else c :: cs)

/-- The host and the path of a URL of the scheme `file`.  A drive may stand where the host
does.  There is no host in front of a drive, and no empty segment in front of others. -/
def parseFile (cs : List Char) : Except Flaw (List Char × List (List Char)) := do
  let (host, rest) ← match cs with
    | a :: b :: rest =>
        let name := rest.takeWhile fun c => !isSlash true c
        if !(isSlash true a && isSlash true b) then pure ([], cs)
        else if name.isEmpty || isDrive name then pure ([], rest)
        else
          let host ← specialHost name
          pure (if host == "localhost".toList then [] else host, rest.drop name.length)
    | cs => pure ([], cs)
  let path := pathAfterAuthority "file" rest
  let trimmed := path.dropWhile (·.isEmpty)
  pure (if path.head?.any isDrive then [] else host, if trimmed.isEmpty then [[]] else trimmed)

/-- The URL of a text. -/
def parse (s : String) : Except Flaw Url := do
  match splitScheme? (cleaned s) with
  | none => throw .relative
  | some (scheme, rest) =>
      let special := isSpecial scheme
      let (body, query, fragment) := splitTail rest
      let query := query.map (percentEncode (inQuery special))
      let fragment := fragment.map (percentEncode inFragment)
      if scheme == "file" then
        let (host, path) ← parseFile body
        pure ⟨scheme, some ⟨[], host, none⟩, .segments path, query, fragment⟩
      else if special then
        let (authority, path) ← takeAuthority scheme (body.dropWhile (isSlash true))
        pure ⟨scheme, some authority, .segments (pathAfterAuthority scheme path), query, fragment⟩
      else match body with
        | '/' :: '/' :: rest =>
            let (authority, path) ← takeAuthority scheme rest
            pure ⟨scheme, some authority, .segments (pathAfterAuthority scheme path), query, fragment⟩
        | '/' :: rest => pure ⟨scheme, none, .segments (segmentsOf scheme rest), query, fragment⟩
        | body => pure ⟨scheme, none, .rootless (percentEncode (fun _ => false) body), query, fragment⟩

/-- The characters of a URL. -/
def chars (u : Url) : List Char :=
  let authority := match u.authority with
    | some a => ['/', '/'] ++ a.userInfo ++ a.host ++
        (match a.port with | some p => ':' :: (toString p).toList | none => [])
    | none => match u.path with
      -- Without an authority two slashes at the front would start one.
      | .segments ([] :: _ :: _) => ['/', '.']
      | _ => []
  let path := match u.path with
    | .segments parts => parts.flatMap ('/' :: ·)
    | .rootless text => text
  u.scheme.toList ++ [':'] ++ authority ++ path ++
    (match u.query with | some q => '?' :: q | none => []) ++
    (match u.fragment with | some f => '#' :: f | none => [])

/-- The text of a URL. -/
def text (u : Url) : String := String.ofList u.chars

end Url

end FleetGate
