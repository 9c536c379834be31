import FleetGate.Files

/-!
# Kubeconfig files

Which files make up the kubeconfig is settled by three things: an explicit path,
which stands alone; a list of paths between colons from the environment; and
otherwise the usual file in the home directory.  Of these the files that exist
are watched, each once.

A change of a watched file counts when its data or its name changes.
-/

namespace FleetGate.KubeconfigFiles

/-- Whether two paths are the same, component by component. -/
def samePath (p q : String) : Bool :=
  let startsHere (p : String) : Bool := (Path.split p).head? == some "."
  Path.isAbsolute p == Path.isAbsolute q && startsHere p == startsHere q &&
    Path.components p == Path.components q

/-- The paths of a list between colons, without empty ones. -/
def splitList (list : String) : List String :=
  ((list.splitOn ":").filter (!·.isEmpty))

/-- The usual file in a home directory. -/
def homeFile (home : String) : String := Path.join (Path.join home ".kube") "config"

/-- The files that may make up the kubeconfig. -/
def candidates (explicit env home : Option String) : List String :=
  match explicit, env.filter (!·.isEmpty), home with
  | some path, _, _ => [path]
  | none, some list, _ => splitList list
  | none, none, some home => [homeFile home]
  | none, none, none => []

/-- The paths without those that came before. -/
def distinct (paths : List String) : List String :=
  (paths.foldl (fun seen p => if seen.any (samePath p) then seen else p :: seen) []).reverse

/-- The files to watch. -/
def watched (fs : Files) (explicit env home : Option String) : List String :=
  distinct ((candidates explicit env home).filter fs.isFile)

/-- What happened to a file, by the parts of its name. -/
abbrev Event := List String

/-- The event of a dotted name. -/
def Event.ofName (name : String) : Event := name.splitOn "."

/-- Whether something that happened to a file calls for a reload. -/
def isReload : Event → Bool
  | ["modify", "any"] => true
  | "modify" :: "data" :: _ => true
  | "modify" :: "name" :: _ => true
  | _ => false

end FleetGate.KubeconfigFiles
