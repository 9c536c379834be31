import FleetGate.Gate
import FleetGate.Report.Failures
import FleetGate.Report.Settings
import FleetGate.Simulation.Trace

/-!
# A gate by a script

A gate whose kinds and validators follow a script stands in front of a service that
gives every request its own body back.  A log keeps what the validators were asked and
what went through.
-/

namespace FleetGate.Simulation

/-- What a scripted gate has seen. -/
structure GateLog where
  /-- The names of the validators that were asked, and about what. -/
  validated : List (String × Subject) := []
  /-- What went through. -/
  forwarded : List HttpRequest := []
deriving Inhabited

/-- A validator by a script. -/
structure ScriptedValidator where
  /-- Its name. -/
  name : String
  /-- The fields of a subject that it refuses.  Without them it refuses nothing. -/
  conditions? : Option (Fields Json)
  /-- What it says when it refuses. -/
  refusal : Subject → AccessError

/-- What a validator is asked about. -/
def subjectReport (s : Subject) : Json :=
  Json.object [("gvr", Report.ofGvr s.gvr), ("gvk", Report.ofGvk s.gvk), ("verb", .str s.verb),
    ("namespace", .ofText? s.ns?), ("name", .ofText? s.name?),
    ("subresource", .ofText? s.subresource?),
    ("body", .ofText? (s.body?.map Text.Utf8.decodeLossy))]

/-- The fields of a subject that a script may ask for. -/
def subjectField (key : String) (s : Subject) : Json :=
  if key == "resource" then .str s.gvr.resource
  else ((subjectReport s).field? key).getD .null

namespace ScriptedValidator

/-- Whether a validator refuses a subject. -/
def refuses (s : Subject) (v : ScriptedValidator) : Bool :=
  v.conditions?.any fun conditions => conditions.all fun (key, j) => subjectField key s == j

/-- The validator at work. -/
def validator (v : ScriptedValidator) : Validator (StateM GateLog) where
  name := v.name
  check s := do
    modify fun log => { log with validated := log.validated ++ [(v.name, s)] }
    return if v.refuses s then .error (v.refusal s) else .ok ()

end ScriptedValidator

/-- The kind of a resource by a script.  One that is not in it is not found. -/
def scriptedKind (kinds : List (Gvr × Except AccessError Gvk)) (r : Gvr) :
    Except AccessError Gvk :=
  match kinds.find? (·.1 == r) with
  | some (_, kind) => kind
  | none => .error (.resourceNotFound r)

/-- The service behind the gate.  Some of it is broken. -/
def givesBack (r : HttpRequest) : StateM GateLog (Except CallError String) := do
  modify fun log => { log with forwarded := log.forwarded ++ [r] }
  return if r.target.path.endsWith "/broken" then .error (.service "connection reset")
    else .ok (bodyText r.body)

/-- What comes of a request at a gate. -/
def passReport : Except CallError String → Json
  | .ok text => Json.object [("ok", .str text)]
  | .error (.refused e) => Report.ofAccessError e
  | .error (.service reason) => Report.failure "Service" reason
  | .error e => Report.failure "Service" e.message

/-- What a gate makes of a request. -/
def gateReport (policy : Policy (StateM GateLog)) (r : HttpRequest) : Json :=
  let (result, log) := (policy.guard ⟨pure (.ok ()), givesBack⟩ r).run {}
  Json.object [("result", passReport result),
    ("validated", .arr (log.validated.map fun (name, s) =>
      Json.object [("validator", .str name), ("request", subjectReport s)])),
    ("forwarded", .arr (log.forwarded.map fun r => Json.object [("method", .str r.method.name),
      ("path", .str r.target.path), ("body", .str (bodyText r.body))]))]

end FleetGate.Simulation
