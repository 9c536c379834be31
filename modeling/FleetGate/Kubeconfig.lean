import FleetGate.Yaml.Decode

/-!
# Kubeconfigs

A kubeconfig names clusters, users and contexts.  A context pairs a cluster with
a user and may name a namespace, and one context is the current one.  Entries
are kept in their order, and of several entries with one name the first counts.
Other programs may keep values of their own in it, each with a name.

It is read from a YAML value, and a JSON value is read as YAML.  It is written as
JSON, and what is not set is left out.
-/

namespace FleetGate

/-- How a user gets a token from an identity provider. -/
structure AuthProvider where
  name : String
  config : Fields String
deriving DecidableEq, Repr, Inhabited

/-- How a user gets credentials from a program. -/
structure ExecPlugin where
  apiVersion : Option String
  command : Option String
  args : Option (List String)
  env : Option (List (Fields String))
  interactiveMode : Option String
  provideClusterInfo : Bool
deriving DecidableEq, Repr, Inhabited

/-- The credentials of a user. -/
structure Credentials where
  username : Option String := none
  password : Option String := none
  token : Option String := none
  tokenFile : Option String := none
  clientCertificate : Option String := none
  clientCertificateData : Option String := none
  clientKey : Option String := none
  clientKeyData : Option String := none
  /-- The user to act as. -/
  impersonate : Option String := none
  /-- The groups to act as. -/
  impersonateGroups : Option (List String) := none
  provider : Option AuthProvider := none
  exec : Option ExecPlugin := none
deriving DecidableEq, Repr, Inhabited

/-- What another program keeps in a kubeconfig. -/
structure Extension where
  name : String
  content : Json
deriving Inhabited

/-- What a kubeconfig says of a cluster. -/
structure ClusterEntry where
  server : Option String := none
  insecure : Option Bool := none
  authority : Option String := none
  authorityData : Option String := none
  proxyUrl : Option String := none
  disableCompression : Option Bool := none
  tlsServerName : Option String := none
  /-- What other programs keep there. -/
  extensions : Option (List Extension) := none
deriving Inhabited

/-- What a kubeconfig says of a context. -/
structure ContextEntry where
  cluster : String
  user : Option String := none
  ns : Option String := none
  /-- What other programs keep there. -/
  extensions : Option (List Extension) := none
deriving Inhabited

/-- An entry with its name.  The entry itself may be missing. -/
structure Named (α : Type) where
  name : String
  entry : Option α
deriving Inhabited

/-- What the user of a kubeconfig prefers. -/
structure Preferences where
  colors : Option Bool := none
  /-- What other programs keep there. -/
  extensions : Option (List Extension) := none
deriving Inhabited

/-- A kubeconfig. -/
structure Kubeconfig where
  clusters : List (Named ClusterEntry) := []
  users : List (Named Credentials) := []
  contexts : List (Named ContextEntry) := []
  current : Option String := none
  kind : Option String := none
  apiVersion : Option String := none
  preferences : Option Preferences := none
  extensions : Option (List Extension) := none
deriving Inhabited

/-- The entry of a name, in a list of named entries. -/
def Named.find? {α : Type} (name : String) (entries : List (Named α)) : Option (Named α) :=
  List.find? (fun e => e.name == name) entries

open Yaml Yaml.Value

namespace Extension

/-- Reads what another program keeps. -/
def ofValue? : Decoder Extension := fun v => do
  let record ← entries? v
  pure ⟨← required? "name" str? record, ← required? "extension" Value.toJson? record⟩

/-- Writes what another program keeps. -/
def toJson (e : Extension) : Json :=
  Json.object [("name", .str e.name), ("extension", e.content)]

/-- Reads what other programs keep in a record. -/
def listIn? (record : List (String × Value)) : Option (Option (List Extension)) :=
  optional? "extensions" (list? ofValue?) record

/-- Writes what other programs keep. -/
def listToJson (es : List Extension) : Json := .arr (es.map toJson)

end Extension

namespace Credentials

/-- Reads the configuration of an identity provider. -/
def provider? : Decoder AuthProvider := fun v => do
  let record ← entries? v
  pure ⟨← required? "name" str? record, ← default? "config" (table? str?) [] record⟩

/-- How a credential program may ask questions. -/
def interactiveModes : List String := ["Never", "IfAvailable", "Always"]

/-- Reads the configuration of a credential program. -/
def exec? : Decoder ExecPlugin := fun v => do
  let record ← entries? v
  pure {
    apiVersion := ← optional? "apiVersion" str? record
    command := ← optional? "command" str? record
    args := ← optional? "args" (list? str?) record
    env := ← optional? "env" (list? (table? str?)) record
    interactiveMode := ← optional? "interactiveMode"
      (fun v => (word? v).filter interactiveModes.contains) record
    provideClusterInfo := ← default? "provideClusterInfo" bool? false record }

/-- Reads the credentials of a user. -/
def ofValue? : Decoder Credentials := fun v => do
  let record ← entries? v
  pure {
    username := ← optional? "username" str? record
    password := ← optional? "password" str? record
    token := ← optional? "token" str? record
    tokenFile := ← optional? "tokenFile" str? record
    clientCertificate := ← optional? "client-certificate" str? record
    clientCertificateData := ← optional? "client-certificate-data" str? record
    clientKey := ← optional? "client-key" str? record
    clientKeyData := ← optional? "client-key-data" str? record
    impersonate := ← optional? "as" str? record
    impersonateGroups := ← optional? "as-groups" (list? str?) record
    provider := ← optional? "auth-provider" provider? record
    exec := ← optional? "exec" exec? record }

/-- Reads the credentials of a user from JSON. -/
def ofJson? (j : Json) : Option Credentials := ofValue? (.ofJson j)

/-- Writes a map of texts. -/
def ofMap (m : Fields String) : Json := Json.object (m.map fun (k, v) => (k, .str v))

/-- Writes the configuration of a credential program. -/
def ofExec (e : ExecPlugin) : Json :=
  Json.objectOf [("apiVersion", e.apiVersion.map .str), ("command", e.command.map .str),
    ("args", e.args.map Json.ofTexts), ("env", e.env.map fun vs => .arr (vs.map ofMap)),
    ("interactiveMode", e.interactiveMode.map .str),
    ("provideClusterInfo", some (.bool e.provideClusterInfo))]

/-- Writes the credentials of a user.  What is not set is left out. -/
def toJson (c : Credentials) : Json :=
  Json.objectOf [("username", c.username.map .str), ("password", c.password.map .str),
    ("token", c.token.map .str), ("tokenFile", c.tokenFile.map .str),
    ("client-certificate", c.clientCertificate.map .str),
    ("client-certificate-data", c.clientCertificateData.map .str),
    ("client-key", c.clientKey.map .str), ("client-key-data", c.clientKeyData.map .str),
    ("as", c.impersonate.map .str), ("as-groups", c.impersonateGroups.map Json.ofTexts),
    ("auth-provider", c.provider.map fun p =>
      Json.object [("name", .str p.name), ("config", ofMap p.config)]),
    ("exec", c.exec.map ofExec)]

end Credentials

namespace ClusterEntry

/-- Reads a cluster. -/
def ofValue? : Decoder ClusterEntry := fun v => do
  let record ← entries? v
  pure {
    server := ← optional? "server" str? record
    insecure := ← optional? "insecure-skip-tls-verify" bool? record
    authority := ← optional? "certificate-authority" str? record
    authorityData := ← optional? "certificate-authority-data" str? record
    proxyUrl := ← optional? "proxy-url" str? record
    disableCompression := ← optional? "disable-compression" bool? record
    tlsServerName := ← optional? "tls-server-name" str? record
    extensions := ← Extension.listIn? record }

/-- Writes a cluster. -/
def toJson (c : ClusterEntry) : Json :=
  Json.objectOf [("server", c.server.map .str),
    ("insecure-skip-tls-verify", c.insecure.map .bool),
    ("certificate-authority", c.authority.map .str),
    ("certificate-authority-data", c.authorityData.map .str),
    ("proxy-url", c.proxyUrl.map .str), ("disable-compression", c.disableCompression.map .bool),
    ("tls-server-name", c.tlsServerName.map .str), ("extensions", c.extensions.map Extension.listToJson)]

end ClusterEntry

namespace ContextEntry

/-- Reads a context. -/
def ofValue? : Decoder ContextEntry := fun v => do
  let record ← entries? v
  pure {
    cluster := ← required? "cluster" str? record
    user := ← optional? "user" str? record
    ns := ← optional? "namespace" str? record
    extensions := ← Extension.listIn? record }

/-- Writes a context. -/
def toJson (c : ContextEntry) : Json :=
  Json.objectOf [("cluster", some (.str c.cluster)), ("user", c.user.map .str),
    ("namespace", c.ns.map .str), ("extensions", c.extensions.map Extension.listToJson)]

end ContextEntry

/-- Reads a named entry. -/
def Named.ofValue? {α : Type} (key : String) (entry : Decoder α) : Decoder (Named α) := fun v => do
  let record ← entries? v
  pure ⟨← required? "name" str? record, ← optional? key entry record⟩

/-- Writes a named entry. -/
def Named.toJson {α : Type} (key : String) (entry : α → Json) (n : Named α) : Json :=
  Json.objectOf [("name", some (.str n.name)), (key, n.entry.map entry)]

namespace Preferences

/-- Reads preferences. -/
def ofValue? : Decoder Preferences := fun v => do
  let record ← entries? v
  pure ⟨← optional? "colors" bool? record, ← Extension.listIn? record⟩

/-- Writes preferences. -/
def toJson (p : Preferences) : Json :=
  Json.objectOf [("colors", p.colors.map .bool),
    ("extensions", p.extensions.map Extension.listToJson)]

end Preferences

namespace Kubeconfig

/-- Reads named entries.  There are none if the field is missing or null. -/
def named? {α : Type} (field key : String) (entry : Decoder α) (record : List (String × Value)) :
    Option (List (Named α)) :=
  (optional? field (list? (Named.ofValue? key entry)) record).map (·.getD [])

/-- Reads a kubeconfig. -/
def ofValue? : Decoder Kubeconfig := fun v => do
  let record ← entries? v
  pure {
    clusters := ← named? "clusters" "cluster" ClusterEntry.ofValue? record
    users := ← named? "users" "user" Credentials.ofValue? record
    contexts := ← named? "contexts" "context" ContextEntry.ofValue? record
    current := ← optional? "current-context" str? record
    kind := ← optional? "kind" str? record
    apiVersion := ← optional? "apiVersion" str? record
    preferences := ← optional? "preferences" Preferences.ofValue? record
    extensions := ← Extension.listIn? record }

/-- Reads a kubeconfig from JSON. -/
def ofJson? (j : Json) : Option Kubeconfig := ofValue? (.ofJson j)

/-- Writes a kubeconfig. -/
def toJson (k : Kubeconfig) : Json :=
  Json.objectOf [
    ("clusters", some (.arr (k.clusters.map (Named.toJson "cluster" ClusterEntry.toJson)))),
    ("users", some (.arr (k.users.map (Named.toJson "user" Credentials.toJson)))),
    ("contexts", some (.arr (k.contexts.map (Named.toJson "context" ContextEntry.toJson)))),
    ("current-context", k.current.map .str), ("kind", k.kind.map .str),
    ("apiVersion", k.apiVersion.map .str), ("preferences", k.preferences.map Preferences.toJson),
    ("extensions", k.extensions.map Extension.listToJson)]

/-- The name of the current context, empty if there is none. -/
def currentName (k : Kubeconfig) : String := k.current.getD ""

/-- The kubeconfig without its users, as callers may see it. -/
def withoutUsers (k : Kubeconfig) : Kubeconfig := { k with users := [] }

/-- The current context and the cluster of the first such entry, and nothing else of
the kind. -/
def minify (k : Kubeconfig) : Kubeconfig :=
  let contexts := k.contexts.filter (·.name == k.currentName)
  let cluster := (contexts.head?.bind (·.entry)).map (·.cluster)
  { k with contexts := contexts, clusters := k.clusters.filter fun c => cluster == some c.name }

/-- The kubeconfig that callers may see. -/
def view (k : Kubeconfig) (minified : Bool) : Kubeconfig :=
  if minified then k.withoutUsers.minify else k.withoutUsers

/-- A kubeconfig of one cluster, whose context and user have its name and whose user
has no credentials. -/
def ofEndpoint (name server : String) (insecure : Bool) (ns : String) : Kubeconfig where
  clusters := [⟨name, some { server := some server, insecure := some insecure }⟩]
  users := [⟨name, some {}⟩]
  contexts := [⟨name, some { cluster := name, user := some name, ns := some ns }⟩]
  current := some name
  kind := some "Config"
  apiVersion := some "v1"

end Kubeconfig

end FleetGate
