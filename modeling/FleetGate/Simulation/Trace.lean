import FleetGate.Connection
import FleetGate.Simulation.World
import FleetGate.Url.Percent

/-!
# Traces

A trace shows what has reached a simulated server: every request but those of discovery,
and how often discovery was begun.  Of reviews it shows what they ask.  Times and
credentials are shown on demand, and nothing is shown that is as usual.
-/

namespace FleetGate.Simulation

/-- What a trace shows beside the requests. -/
structure TraceOptions where
  /-- Whether it shows times. -/
  times : Bool := false
  /-- Whether it shows credentials. -/
  credentials : Bool := false
deriving DecidableEq, Repr, Inhabited

/-- The text of a body. -/
def bodyText : Body → String
  | .bytes content => Text.Utf8.decodeLossy content
  | .unreadable _ => ""

/-- A text, unless it is empty. -/
def unlessEmpty (s : String) : Option Json := if s.isEmpty then none else some (.str s)

/-- A value of a form as it was before it was encoded. -/
def formValue (s : String) : String :=
  Text.Utf8.decodeLossy (Url.percentDecode (Text.Utf8.encode (s.replace "+" " ")))

/-- The version from which changes are asked for. -/
def versionIn (query : String) : String :=
  let key := "resourceVersion="
  ((query.splitOn "&").find? (·.startsWith key)).elim "" fun part =>
    formValue (part.drop key.length).toString

/-- What a request asks. -/
def questionIn (r : HttpRequest) : List (String × Option Json) :=
  if World.listens r then [("watch", some (.str (versionIn (r.target.query.getD ""))))]
  else if Server.isAccessReview r then [("review", some (Server.attributesOf r.body))]
  else if Server.isTokenReview r then [("token_review", some (Server.questionOf r.body))]
  else [("body", unlessEmpty (bodyText r.body)),
    ("query", unlessEmpty (r.target.query.getD ""))]

/-- What a trace shows of a request. -/
def Arrival.report (options : TraceOptions) (a : Arrival) : Json :=
  let r := a.request
  let agent := (r.header? "user-agent").getD ""
  Json.objectOf (questionIn r ++ [
    ("method", some (.str r.method.name)), ("path", some (.str r.target.path)),
    ("user_agent", if agent == ClientConfig.defaultUserAgent then none else some (.str agent)),
    ("at_ms", if options.times then some (.int a.time) else none),
    ("authorization", if options.credentials then
      some (.str (Text.trim ((r.header? "authorization").getD ""))) else none)])

/-- Whether a request begins discovery. -/
def Arrival.beginsDiscovery (a : Arrival) : Bool :=
  a.request.method == .get && a.request.target.path == "/apis"

/-- Items, unless there are none. -/
def unlessNone (items : List Json) : Option Json :=
  if items.isEmpty then none else some (.arr items)

/-- What has reached the server, and how often discovery was begun. -/
def World.trace (options : TraceOptions) (w : World) : List (String × Option Json) :=
  let all := w.arrivals.reverse
  let shown := all.filter fun a => World.listens a.request || !w.server.isDiscovery a.request
  let begun := all.countP Arrival.beginsDiscovery
  [("sent", unlessNone (shown.map (Arrival.report options))),
    ("apis", if begun == 0 then none else some (.int begun))]

end FleetGate.Simulation
