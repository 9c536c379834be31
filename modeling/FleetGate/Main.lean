import FleetGate.Session

/-!
# The program

The outermost layer: it reads the command line, the variables and the files, and runs a
session with them.  A round sees the files as they were when it began, and the next
round begins when a watched file has changed.

This program has no transport of its own, so a server is never within its reach.
-/

namespace FleetGate.Main

/-- What is said in place of every reply. -/
def noTransport : String := "there is no transport"

instance : Network IO where
  now := IO.monoMsNow
  waitUntil time := do
    let now ← IO.monoMsNow
    if now < time then IO.sleep (time - now).toUInt32
  send _ := return .error noTransport
  listen _ := return .error noTransport

/-! ## Files -/

/-- The content of a file, if it can be read. -/
def contentOf? (path : String) : IO (Option String) := do
  try return some (← IO.FS.readFile path) catch _ => return none

/-- Adds what stands at a path: a file, or a directory with the files in it. -/
def addPath (fs : Files) (path : String) : IO Files := do
  let cwd ← IO.currentDir
  let place := cwd / path
  if ← place.isDir then
    let mut fs := fs.put path none
    for entry in ← place.readDir do
      if let some content ← contentOf? entry.path.toString then
        fs := fs.put (Path.join path entry.fileName) (some content)
    return fs
  else match ← contentOf? place.toString with
    | some content => return fs.put path (some content)
    | none => return fs

/-- The variables that are looked at. -/
def variableNames : List String :=
  ["KUBECONFIG", "HOME", "KUBERNETES_SERVICE_HOST", "KUBERNETES_SERVICE_PORT",
    "KUBE_CLIENT_QPS", "KUBE_CLIENT_BURST", "CLUSTER_STATE_POLL_INTERVAL_MS",
    "CLUSTER_STATE_DEBOUNCE_WINDOW_MS", CommandLine.logVariable] ++
    ValueOption.all.filterMap ValueOption.envName?

/-- The variables as they are now. -/
def processVariables : IO (String → Option String) := do
  let values ← variableNames.mapM fun name => return (name, ← IO.getEnv name)
  return fun name => (values.find? (·.1 == name)).bind (·.2)

variable [Config.Complaint]

/-- Reads everything that a session asks for.  What one file says may lead to another. -/
partial def gather (line : CommandLine) (env : Environment) (known : List String) :
    IO Environment := do
  match (line.sources env).filter fun path => !known.contains path with
  | [] => return env
  | fresh =>
      let files ← fresh.foldlM addPath env.files
      gather line { env with files := files } (known ++ fresh)

/-- What there is around the gate now. -/
def environment (line : CommandLine) : IO Environment := do
  let cwd ← IO.currentDir
  gather line (.ofVariables ⟨cwd.toString, []⟩ (← processVariables)) []

/-! ## Serving -/

/-- How long it is from one look at the files to the next, in milliseconds. -/
def pause : Nat := 500

/-- Whether a file is not as it was. -/
def hasChanged (fs : Files) (path : String) : IO Bool := do
  return (← contentOf? path) != (fs.read path).toOption

/-- Serves a provider until a call for a reload can be taken.  One is left for every file that has
changed. -/
partial def serve (env : Environment) (box : IO.Ref Mailbox) : StateT Provider IO Signal := do
  Provider.runTo (do box.modify Mailbox.leave; return true) (← IO.monoMsNow) 1000
  for path in (← get).watchedFiles env do
    if ← hasChanged env.files path then box.modify Mailbox.leave
  match (← box.get).take? with
  | some rest =>
      box.set rest
      return .reload
  | none =>
      IO.sleep pause.toUInt32
      serve env box

/-- The line of the log that says that a provider is ready. -/
def readyLine (json : Bool) (p : Provider) : String :=
  let message := "Cluster provider ready"
  if json then
    (Json.object [("level", .str "INFO"), ("fields", Json.object [("message", .str message),
      ("strategy", .str p.strategy), ("parameter", .str p.parameter),
      ("targets", .str (Text.quotedList p.targets)),
      ("default_target", .str p.defaultTarget)])]).render
  else
    "INFO " ++ message ++ " strategy=" ++ Text.quoted p.strategy ++ " parameter=" ++
      Text.quoted p.parameter ++ " targets=" ++ Text.quotedList p.targets ++
      " default_target=" ++ p.defaultTarget

/-- What a session works with. -/
def surroundings (line : CommandLine) : Surroundings IO where
  environment := environment line
  announce p := IO.eprintln (readyLine line.logJson p)
  serve env := do
    let box ← IO.mkRef {}
    serve env box
  dismiss _ := pure ()

/-- Runs rounds until the session ends. -/
partial def rounds (line : CommandLine) : IO SessionEnd := do
  match ← Session.round (surroundings line) line with
  | some ending => return ending
  | none => rounds line

/-- Runs what a command line asks for, and says with which code to exit. -/
def runCommand : Command → IO Nat
  | .version => do
      IO.print CommandLine.versionText
      return 0
  | .help => do
      IO.print CommandLine.helpText
      return 0
  | .run line => do
      let ending ← rounds line
      match ending with
      | .failed reason => IO.eprintln ("Error: " ++ reason)
      | .brokeDown reason => IO.eprintln reason
      | .interrupted => pure ()
      return ending.exitCode

end FleetGate.Main

/-- Reads the command line and runs it. -/
def main (args : List String) : IO UInt32 := do
  let _ : FleetGate.Config.Complaint := ⟨fun _ => "the text is no TOML"⟩
  match FleetGate.Command.read (← FleetGate.Main.processVariables) args with
  | .error misuse =>
      IO.eprintln ("error: " ++ misuse.message ++ "\n\n" ++ FleetGate.CommandLine.helpText)
      return 2
  | .ok command => return (← FleetGate.Main.runCommand command).toUInt32
