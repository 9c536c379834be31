import FleetGate.Environment
import FleetGate.Kubeconfig
import FleetGate.KubeconfigFiles
import FleetGate.Text.Quoted

/-!
# Reading kubeconfigs

A file may hold several documents, each of them a kubeconfig, and a kubeconfig may be
spread over several files.  They are merged in order: of two entries with one name the
first stands, and what one does not say the next may.

A document that is no YAML, or in which a key stands twice, cannot be parsed.  One that
is YAML but no kubeconfig has a wrong structure.  A relative path in a file is found from
where the file is.

Without a path the files of the environment's list are read, and if that names none, the
usual file in the home directory.
-/

namespace FleetGate.Kubeconfig

/-- Why documents cannot be merged. -/
def mismatch (what : String) : String :=
  "kubeconfigs with mismatching " ++ what ++ " cannot be merged"

/-- Entries and those of others whose names are new. -/
def addNew {α : Type} (entries others : List (Named α)) : List (Named α) :=
  entries ++ others.filter fun o => !entries.any (·.name == o.name)

/-- Whether two texts are both there and differ. -/
def differ (a b : Option String) : Bool := a.isSome && b.isSome && a != b

/-- One kubeconfig after another. -/
def merge (k next : Kubeconfig) : Except String Kubeconfig :=
  if differ k.kind next.kind then .error (mismatch "kind")
  else if differ k.apiVersion next.apiVersion then .error (mismatch "api version")
  else .ok {
    clusters := addNew k.clusters next.clusters
    users := addNew k.users next.users
    contexts := addNew k.contexts next.contexts
    current := k.current.or next.current
    kind := k.kind.or next.kind
    apiVersion := k.apiVersion.or next.apiVersion
    preferences := k.preferences.or next.preferences
    extensions := k.extensions.or next.extensions }

/-! ## Documents -/

/-- What is said of a text that is no YAML. -/
def notYaml : String := "failed to parse kubeconfig YAML"

/-- What is said of a document that is no kubeconfig. -/
def notKubeconfig : String := "the structure of the parsed kubeconfig is invalid"

/-- The kubeconfig of a document. -/
def ofDocument (node : Yaml.Node) : Except String Kubeconfig :=
  match Yaml.Value.ofNode? node with
  | none => .error notYaml
  | some v => match ofValue? v with
      | some k => .ok k
      | none => .error notKubeconfig

/-- The text without a byte order mark. -/
def withoutMark (text : String) : String :=
  match text.toList with
  | '\ufeff' :: rest => String.ofList rest
  | _ => text

/-- The kubeconfigs of a text.  What is wrong first is said. -/
def ofText (text : String) : Except String (List Kubeconfig) := do
  let (nodes, whole) := Yaml.Node.documents (withoutMark text)
  let kubeconfigs ← nodes.mapM ofDocument
  if whole then pure kubeconfigs else throw notYaml

/-! ## Files -/

/-- A path seen from a directory. -/
def locate (dir : String) (path : Option String) : Option String := path.map (Path.join dir)

/-- The kubeconfig with its paths seen from a directory. -/
def located (dir : String) (k : Kubeconfig) : Kubeconfig :=
  { k with
    clusters := k.clusters.map fun c =>
      { c with entry := c.entry.map fun e => { e with authority := locate dir e.authority } }
    users := k.users.map fun u =>
      { u with entry := u.entry.map fun e => { e with
        clientCertificate := locate dir e.clientCertificate
        clientKey := locate dir e.clientKey
        tokenFile := locate dir e.tokenFile } } }

/-- Merges kubeconfigs in order. -/
def mergeAll : List Kubeconfig → Except String Kubeconfig
  | [] => .ok {}
  | k :: ks => ks.foldlM merge k

/-- The kubeconfig of a file. -/
def readFile (fs : Files) (path : String) : Except String Kubeconfig :=
  match fs.read path with
  | .error e =>
      .error ("failed to read kubeconfig from \x27" ++ Text.quoted path ++ "\x27: " ++ e.message)
  | .ok text => do
      let documents ← ofText text
      mergeAll (match Path.parent? path with
        | some dir => documents.map (located dir)
        | none => documents)

/-- The kubeconfig of several files. -/
def readFiles (fs : Files) (k : Kubeconfig) : List String → Except String Kubeconfig
  | [] => .ok k
  | path :: paths => do
      let next ← readFile fs path
      readFiles fs (← merge k next) paths

/-- The kubeconfig of an environment. -/
def readDefault (env : Environment) : Except String Kubeconfig :=
  match KubeconfigFiles.splitList (env.kubeconfigs.getD "") with
  | [] => match env.home with
      | none => .error "failed to find the path of kubeconfig"
      | some home => readFile env.files (KubeconfigFiles.homeFile home)
  | paths => readFiles env.files {} paths

/-- The kubeconfig of a path, or of an environment. -/
def read (env : Environment) (path : Option String) : Except String Kubeconfig :=
  match path with
  | some path => readFile env.files path
  | none => readDefault env

end FleetGate.Kubeconfig
