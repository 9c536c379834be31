import FleetGate.Session
import FleetGate.Simulation.World

/-!
# A desk to run sessions at

Someone at a desk runs a session and edits files while it serves: as soon as a provider
is ready, the next edit is made.  If that touches a file that is watched, the session
reloads.  When there are no more edits, the session is interrupted.  No server is within
reach of the desk.
-/

namespace FleetGate.Simulation

/-- An edit of files. -/
structure Edit where
  /-- The files that are written, and the directories that are made. -/
  written : List (String × Option String)
  /-- A file to which a newline is added. -/
  touched? : Option String
deriving Repr, Inhabited

/-- What is at a desk. -/
structure Desk where
  /-- What there is around the gate. -/
  env : Environment
  /-- The edits to come. -/
  edits : List Edit
  /-- The providers that were ready, the last first. -/
  ready : List Provider := []
deriving Inhabited

namespace Desk

/-- The files after an edit. -/
def edited (e : Edit) (fs : Files) : Files :=
  let fs := e.written.foldl (fun fs (path, content) => fs.put path content) fs
  match e.touched? with
  | some path => fs.append path "\n"
  | none => fs

/-- Whether an edit touches one of some files. -/
def touches (e : Edit) (fs : Files) (watched : List String) : Bool :=
  let places := (e.written.map (·.1) ++ e.touched?.toList).map fs.place
  watched.any fun path => places.contains (fs.place path)

/-- Makes the next edit, and says what the session hears of it. -/
def next (p : Provider) (d : Desk) : Signal × Desk :=
  match d.edits with
  | [] => (.interrupt, d)
  | e :: edits =>
      let fs := d.env.files
      (if touches e fs (p.watchedFiles d.env) then .reload else .interrupt,
        { d with edits := edits, env := { d.env with files := edited e fs } })

instance : Network (StateM Desk) where
  now := pure 0
  waitUntil _ := pure ()
  send _ := pure (.error unreachable)
  listen _ := pure (.error unreachable)

/-- What a session at a desk works with. -/
def surroundings : Surroundings (StateM Desk) where
  environment := do return (← get).env
  announce p := modify fun d => { d with ready := p :: d.ready }
  serve _ := do
    let p ← get
    StateT.lift (modifyGet (next p))
  dismiss _ := pure ()

/-- Runs a session to its end. -/
def run [Config.Complaint] (line : CommandLine) (d : Desk) : Option SessionEnd × Desk :=
  (Session.run surroundings line (d.edits.length + 1)).run d

end Desk

end FleetGate.Simulation
