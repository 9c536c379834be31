import FleetGate.CommandLine
import FleetGate.Provider

/-!
# Sessions

A session serves one provider after another.  In every round the configuration is read
anew and the command line is applied to it, a provider is made and announced, and it is
served until something asks for a reload or the session is interrupted.  Then the
provider is closed, and only then does the next round begin.

A session ends when it is interrupted, or when a round has no provider to serve.

Whatever watches for a provider does not reload by itself.  It leaves a call in a mailbox, in which
there is room for one.  A session takes a reload from there.
-/

namespace FleetGate

/-- What ends the serving of a provider. -/
inductive Signal where
  /-- Something has changed. -/
  | reload
  /-- The session is to end. -/
  | interrupt
deriving DecidableEq, Repr, Inhabited

/-- The calls for a reload that wait while a provider is served. -/
structure Mailbox where
  /-- How many there are. -/
  calls : Nat := 0
deriving DecidableEq, Repr, Inhabited

namespace Mailbox

/-- How many calls may wait. -/
def capacity : Nat := 1

/-- Leaves a call, which is dropped if there is no room for it. -/
def leave (b : Mailbox) : Mailbox := if b.calls < capacity then ⟨b.calls + 1⟩ else b

/-- Takes a call, if one waits. -/
def take? (b : Mailbox) : Option Mailbox :=
  match b.calls with
  | 0 => none
  | calls + 1 => some ⟨calls⟩

end Mailbox

/-- How a session ends. -/
inductive SessionEnd where
  /-- It was interrupted. -/
  | interrupted
  /-- There was no provider. -/
  | failed (reason : String)
  /-- The program broke down. -/
  | brokeDown (reason : String)
deriving DecidableEq, Repr, Inhabited

/-- The exit code of a session. -/
def SessionEnd.exitCode : SessionEnd → Nat
  | .interrupted => 0
  | .failed _ => 1
  | .brokeDown _ => 101

/-- What a session works with. -/
structure Surroundings (m : Type → Type) where
  /-- What there is around the gate now. -/
  environment : m Environment
  /-- Says that a provider is ready. -/
  announce : Provider → m Unit
  /-- Serves a provider until a signal comes. -/
  serve : Environment → StateT Provider m Signal
  /-- Says that a provider was closed. -/
  dismiss : Provider → m Unit

namespace Session

/-- The end of a session whose configuration cannot be loaded. -/
def notLoaded (e : ConfigError) : SessionEnd :=
  .failed ("Failed to load configuration: " ++ e.message)

/-- The end of a session whose provider cannot be made. -/
def notMade : FleetError → SessionEnd
  | .breakdown reason => .brokeDown reason
  | e => .failed ("Failed to create cluster provider: " ++ e.message)

variable {m : Type → Type} [Monad m] [Network m] [Config.Complaint]

/-- The provider of a round, made from what there is around the gate now. -/
def make (line : CommandLine) (env : Environment) : m (Except SessionEnd Provider) := do
  match line.settings env.files with
  | .error e => pure (.error (notLoaded e))
  | .ok settings =>
      return (← Provider.create ProviderRegistry.standard env settings
        ValidatorRegistry.standard.values).mapError notMade

/-- A round.  It comes to the end of the session, or to none if there is another round. -/
def round (s : Surroundings m) (line : CommandLine) : m (Option SessionEnd) := do
  let env ← s.environment
  match ← make line env with
  | .error e => pure (some e)
  | .ok p =>
      s.announce p
      let now ← Clock.now
      let (signal, p) ← (s.serve env).run (p.startWatching env now)
      s.dismiss p.close
      pure (match signal with
        | .reload => none
        | .interrupt => some .interrupted)

/-- So many rounds at most.  There is no end yet if they are all over and the session is
to go on. -/
def run (s : Surroundings m) (line : CommandLine) : Nat → m (Option SessionEnd)
  | 0 => pure none
  | limit + 1 => do
      match ← round s line with
      | some e => pure (some e)
      | none => run s line limit

end Session

/-! ## What a session reads -/

/-- The files that a kubeconfig names. -/
def Kubeconfig.files (k : Kubeconfig) : List String :=
  (k.clusters.filterMap (·.entry)).filterMap (·.authority) ++
    (k.users.filterMap (·.entry)).flatMap fun u =>
      [u.clientCertificate, u.clientKey, u.tokenFile].filterMap id

/-- The files in which a pod finds what it needs to reach its own cluster. -/
def Connection.podFiles : List String :=
  ["namespace", "ca.crt", "token"].map (accountDir ++ "/" ++ ·)

/-- The files and directories that a session reads, as far as what is known of them
tells. -/
def CommandLine.sources [Config.Complaint] (line : CommandLine) (env : Environment) : List String :=
  line.config.toList ++ line.configDir.toList ++
    match line.settings env.files with
    | .error _ => []
    | .ok s =>
        let named := match Kubeconfig.read env s.kubeconfigPath with
          | .ok k => k.files
          | .error _ => []
        KubeconfigFiles.candidates s.kubeconfigPath env.kubeconfigs env.home ++ named ++
          s.hubs.filterMap (·.2.authorityFile) ++
          (if env.runsInCluster then Connection.podFiles else [])

end FleetGate
