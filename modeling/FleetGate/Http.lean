import FleetGate.Method
import FleetGate.Text.Base64
import FleetGate.Text.Utf8
import FleetGate.Uri

/-!
# Requests and replies

What travels between a client and an API server.  A body is a list of bytes,
unless it could not be read at all.  Names of headers are written in small
letters, and each stands at most once.
-/

namespace FleetGate

open Text

/-- The body of a request. -/
inductive Body where
  /-- Bytes, of which there may be none. -/
  | bytes (content : List UInt8)
  /-- A body that breaks off, and why. -/
  | unreadable (reason : String)
deriving DecidableEq, Repr, Inhabited

/-- A request. -/
structure HttpRequest where
  /-- The method. -/
  method : Method
  /-- The target. -/
  target : Uri
  /-- The headers. -/
  headers : List (String × String) := []
  /-- The body. -/
  body : Body := .bytes []
deriving DecidableEq, Repr, Inhabited

/-- A reply. -/
structure HttpReply where
  /-- The status code. -/
  status : Nat
  /-- The body. -/
  body : List UInt8
deriving DecidableEq, Repr, Inhabited

/-- Whether a text may be the value of a header.  Control characters other than the tab
may not stand in one. -/
def isHeaderValue (s : String) : Bool :=
  s.toList.all fun c => (' ' ≤ c && c != '\x7f') || c == '\t'

namespace HttpRequest

/-- A header of a request. -/
def header? (name : String) (r : HttpRequest) : Option String :=
  (r.headers.find? (·.1 == name)).map (·.2)

/-- The request with a header, in place of the one that it may have. -/
def setHeader (name value : String) (r : HttpRequest) : HttpRequest :=
  { r with headers := (name, value) :: r.headers.filter (·.1 != name) }

/-- The value of a header that shows a token. -/
def bearer (token : String) : String := "Bearer " ++ token

/-- The value of a header that shows a name with a password. -/
def basic (username password : String) : String :=
  "Basic " ++ String.ofList (Base64.encode (Utf8.encode (username ++ ":" ++ password)))

/-- The request of a method and a target, if the target is one. -/
def ofText? (method : Method) (target : String) (body : List UInt8) : Option HttpRequest :=
  (Uri.parse? target).map fun u => ⟨method, u, [], .bytes body⟩

end HttpRequest

namespace HttpReply

/-- A reply with a text. -/
def ofText (status : Nat) (text : String) : HttpReply := ⟨status, Utf8.encode text⟩

/-- The text of a reply, if its bytes are well formed. -/
def text? (r : HttpReply) : Option String := Utf8.decode? r.body

end HttpReply

end FleetGate
