import FleetGate.Api.Shape
import FleetGate.FleetError
import FleetGate.Http
import FleetGate.Json.Printer

/-!
# Calling an API server

A call sends a request and waits for the reply.  A reply with a status from 400
to 599 is a failure, which the server describes in the body: a status word, a
code and perhaps a reason and a message.  A body that describes nothing is quoted
as it is.
-/

namespace FleetGate.Api

open Json (Draft)

/-- Sends a request and waits for the reply. -/
abbrev Call (m : Type → Type) := HttpRequest → m (Except CallError HttpReply)

/-- The shape of a description of a failure. -/
def statusShape : Shape :=
  .parts [("status", true, .text), ("message", false, .text), ("reason", false, .text),
    ("code", true, .word16)]

/-- The failure that a description of this shape describes. -/
def statusOf (j : Json) : ApiStatus :=
  ⟨(((j.field? "code").bind Json.int?).getD 0).toNat, textField "reason" j, textField "message" j⟩

/-- A description of a failure. -/
def status : Wanted ApiStatus := fun draft => (statusShape.wanted draft).map statusOf

/-- The reason that is given for a body that describes nothing. -/
def unknownReason : String := "Failed to parse error data"

/-- The failure that a text describes. -/
def describedFailure? (text : String) : Option ApiStatus := (Draft.readText status text).toOption

/-- The failure that a reply reports. -/
def failureOf (status : Nat) (text : String) : ApiStatus :=
  (describedFailure? text).getD ⟨status, unknownReason, Text.quoted text⟩

/-- Whether a status code reports a failure. -/
def isFailure (status : Nat) : Bool := 400 ≤ status && status < 600

/-- The text of a reply that reports no failure. -/
def textOf (reply : HttpReply) : Except CallError String :=
  match reply.text? with
  | none => .error (.undecodable "the reply is not text")
  | some text =>
      if isFailure reply.status then .error (.status (failureOf reply.status text)) else .ok text

variable {m : Type → Type} [Monad m]

/-- Asks for a text. -/
def text (call : Call m) (r : HttpRequest) : m (Except CallError String) := do
  match ← call r with
  | .error e => pure (.error e)
  | .ok reply => pure (textOf reply)

/-- What is wanted of a text. -/
def decode {α : Type} (form : Wanted α) (text : String) : Except CallError α :=
  match Draft.readText form text with
  | .ok a => .ok a
  | .error _ => .error (.undecodable "the reply is not what was asked for")

/-- Asks for what is wanted. -/
def value {α : Type} (call : Call m) (form : Wanted α) (r : HttpRequest) :
    m (Except CallError α) := do
  match ← text call r with
  | .error e => pure (.error e)
  | .ok text => pure (decode form text)

/-- Asks for what is wanted at a path. -/
def get {α : Type} (call : Call m) (form : Wanted α) (target : String) :
    m (Except CallError α) :=
  match HttpRequest.ofText? .get target [] with
  | none => pure (.error .unaskable)
  | some r => value call form r

/-- Sends a value to a path and asks for one back. -/
def post {α : Type} (call : Call m) (form : Wanted α) (target : String) (body : Json) :
    m (Except CallError α) :=
  match HttpRequest.ofText? .post target (Text.Utf8.encode body.render) with
  | none => pure (.error .unaskable)
  | some r => value call form (r.setHeader "content-type" "application/json")

end FleetGate.Api
