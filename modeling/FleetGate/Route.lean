import FleetGate.Certificate
import FleetGate.Connection
import FleetGate.Files
import FleetGate.Http
import FleetGate.Text.Base64
import FleetGate.Url.Host

/-!
# Routes to API servers

A client hands its requests to a service at hand, or sends them to a server.  On the
way to a server a request gets the server's address, whose path is put before its own,
and the credentials of the client.

Of several credentials a name with a password counts before a token, and a token
before the file of one.  A file is read once, when the route is made.

A route to a server cannot be made if the connection asks for a proxy, if the
certificates of its authorities or its own identity are no certificates, if the name
to expect is no name of a server, or if a credential cannot be had.
-/

namespace FleetGate

open Text

/-- What a client shows a server to be let in. -/
inductive Authorization where
  /-- Nothing. -/
  | none
  /-- The value of a header. -/
  | header (value : String)
  /-- A value that no header can hold, so no request can be sent. -/
  | unsendable
deriving DecidableEq, Repr, Inhabited

/-- Where the requests of a client go. -/
inductive Route where
  /-- To a service at hand. -/
  | atHand
  /-- To the server at an address. -/
  | server (address : Uri) (authorization : Authorization)
deriving DecidableEq, Repr, Inhabited

/-- What keeps a client from being made. -/
inductive ClientFlaw where
  /-- The connection cannot be used. -/
  | unusable (reason : String)
  /-- The client would break down over a value that it takes for granted. -/
  | breakdown (reason : String)
deriving DecidableEq, Repr, Inhabited

namespace Route

/-! ## Credentials -/

/-- What credentials show.  A token that no header can hold breaks the client down
when it is given, and keeps requests from being sent when it comes from a file. -/
def authorize (fs : Files) (c : Credentials) : Except ClientFlaw Authorization :=
  if c.provider.isSome then .error (.unusable "identity providers are not supported")
  else match c.username, c.password with
    | some username, some password => .ok (.header (HttpRequest.basic username password))
    | _, _ => match c.token with
      | some token =>
          if isHeaderValue token then .ok (.header (HttpRequest.bearer token))
          else .error (.breakdown "the token is no header value")
      | none => match c.tokenFile with
        | some path => match fs.read path with
          | .error e => .error (.unusable ("failed to read token file: " ++ e.message))
          | .ok token =>
              .ok (if isHeaderValue token then .header (HttpRequest.bearer token) else .unsendable)
        | none =>
            if c.exec.isSome then .error (.unusable "credential programs are not supported")
            else .ok .none

/-! ## Certificates -/

/-- A text from base 64 or else from a file, if it can be had. -/
def load? (fs : Files) (data path : Option String) : Option String :=
  match data with
  | some data => (Base64.decode? data.toList).bind Utf8.decode?
  | none => path.bind fun path => (fs.read path).toOption

/-- The text with a line end. -/
def endLine (text : String) : String := if text.endsWith "\n" then text else text ++ "\n"

/-- The key and the certificate of credentials, if both can be had. -/
def identity? (fs : Files) (c : Credentials) : Option String := do
  let certificate ← load? fs c.clientCertificateData c.clientCertificate
  let key ← load? fs c.clientKeyData c.clientKey
  pure (endLine key ++ endLine certificate)

/-- Whether characters are a label of a server's name. -/
def isLabel (label : List Char) : Bool :=
  !label.isEmpty && label.length ≤ 63 && label.head? != some '-' && label.getLast? != some '-' &&
    label.all fun c => c.isAlphanum || c == '-' || c == '_'

/-- Whether a text is the name of a server or an address. -/
def isServerName (s : String) : Bool :=
  let labels := (s.splitOn ".").map String.toList
  let named := if labels.getLast? == some [] then labels.dropLast else labels
  let isName := s.length ≤ 253 && named.all isLabel &&
    !((named.getLast?.getD []).all Char.isDigit)
  let isAddress := labels.length == 4 && labels.all fun part =>
    !part.isEmpty && part.all Char.isDigit && (part.length == 1 || part.head? != some '0') &&
      ((Numeric.readNat? (String.ofList part)).any (· < 256))
  isName || isAddress || (Url.longAddress? s.toList).isSome

/-! ## Making routes -/

/-- Why a server cannot be reached over a connection, if so. -/
def flaw? (fs : Files) (c : Connection) : Option String :=
  if c.proxy.isSome then some "proxies are not supported"
  else if (c.authorities.getD []).any (!Certificate.isAuthority ·) then
    some "an authority has no certificate"
  else if (identity? fs c.credentials).any (!Certificate.isIdentity ·) then
    some "the identity has no certificate or no key"
  else if c.tlsServerName.any (!isServerName ·) then some "the server has no such name"
  else none

/-- The route over a connection. -/
def ofConnection (fs : Files) (c : Connection) : Except ClientFlaw Route :=
  if c.proxy.isSome then .error (.unusable "proxies are not supported")
  else match authorize fs c.credentials with
    | .error e => .error e
    | .ok authorization => match flaw? fs c with
      | some reason => .error (.unusable reason)
      | none => .ok (.server c.address authorization)

/-! ## Requests on their way -/

/-- The path of a request below an address. -/
def joinPath (base target : Uri) : Uri :=
  if target.path.isEmpty then base
  else
    let front := String.ofList (base.path.toList.reverse.dropWhile (· == '/')).reverse
    { base with path := front ++ target.path, query := target.query }

/-- The request as it leaves a client, or why it cannot. -/
def prepare (r : HttpRequest) : Route → Except String HttpRequest
  | .atHand => .ok { r with target := { r.target with scheme := none, authority := none } }
  | .server address authorization =>
      if address.scheme.isNone || address.authority.isNone then
        .error "the address names no server"
      else
        let r := { r with target := joinPath address r.target }
        match authorization with
        | .none => .ok r
        | .header value => .ok (r.setHeader "authorization" value)
        | .unsendable => .error "the token is no header value"

end Route

end FleetGate
