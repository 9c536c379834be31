import FleetGate.Config.Hub
import FleetGate.Config.Toolset
import FleetGate.Strategy

/-!
# The settings of the gate

A configuration is decoded into one record.  `Settings.toToml` writes a record
as the lowest layer that other documents are laid over, and
`Settings.decodePlain` reads the merged document back.  The tables of providers
and toolsets are kept raw beside what their readers made of them.
-/

namespace FleetGate.Config

open Toml

/-- Everything that a configuration says. -/
structure Settings where
  logLevel : Option Nat := none
  port : Option String := none
  kubeconfig : Option String := none
  strategy : Option String := none
  readOnly : Bool := false
  disableDestructive : Bool := false
  toolsets : List String := ["core", "config", "helm"]
  enabledTools : List String := []
  disabledTools : List String := []
  /-- The deny list. -/
  denied : List Gvk := []
  /-- Whether requests are validated before they are forwarded. -/
  validationEnabled : Bool := false
  /-- Whether a caller must send a token. -/
  requireOauth : Bool := false
  /-- Whether a caller's token is reviewed by the cluster. -/
  validateToken : Bool := false
  authorizationUrl : Option String := none
  serverUrl : Option String := none
  certificateAuthority : Option String := none
  stsClientId : Option String := none
  stsClientSecret : Option String := none
  stsAudience : Option String := none
  stsScopes : List String := []
  /-- The raw tables of providers. -/
  providerTables : Fields Toml := []
  /-- The raw tables of toolsets. -/
  toolsetTables : Fields Toml := []
  /-- What was read from the tables of providers. -/
  hubs : Fields Hub := []
  /-- What was read from the tables of toolsets. -/
  kialis : Fields Kiali := []
deriving Repr, Inhabited

namespace Settings

/-- Decodes a kind. -/
def decodeKind : Decoder Gvk :=
  Decoder.record "GroupVersionKind" [
    Decoder.field "group" Decoder.text fun v k => { k with group := v },
    Decoder.field "version" Decoder.text fun v k => { k with version := v },
    Decoder.field "kind" Decoder.text fun v k => { k with kind := v }] ⟨"", "", ""⟩

/-- Decodes everything but the typed tables. -/
def decodePlain : Decoder Settings :=
  let text? := Decoder.some? Decoder.text
  let texts := Decoder.list Decoder.text
  let tables : Decoder (Fields Toml) := Decoder.map fun t => .ok (Decoder.value t)
  Decoder.record "StaticConfig" [
    Decoder.field "log_level" (Decoder.some? Decoder.byte) fun v s => { s with logLevel := v },
    Decoder.field "port" text? fun v s => { s with port := v },
    Decoder.field "kubeconfig" text? fun v s => { s with kubeconfig := v },
    Decoder.field "cluster_provider_strategy" text? fun v s => { s with strategy := v },
    Decoder.field "read_only" Decoder.bool fun v s => { s with readOnly := v },
    Decoder.field "disable_destructive" Decoder.bool
      fun v s => { s with disableDestructive := v },
    Decoder.field "toolsets" texts fun v s => { s with toolsets := v },
    Decoder.field "enabled_tools" texts fun v s => { s with enabledTools := v },
    Decoder.field "disabled_tools" texts fun v s => { s with disabledTools := v },
    Decoder.field "denied_resources" (Decoder.list decodeKind) fun v s => { s with denied := v },
    Decoder.field "validation_enabled" Decoder.bool fun v s => { s with validationEnabled := v },
    Decoder.field "require_oauth" Decoder.bool fun v s => { s with requireOauth := v },
    Decoder.field "validate_token" Decoder.bool fun v s => { s with validateToken := v },
    Decoder.field "authorization_url" text? fun v s => { s with authorizationUrl := v },
    Decoder.field "server_url" text? fun v s => { s with serverUrl := v },
    Decoder.field "certificate_authority" text? fun v s => { s with certificateAuthority := v },
    Decoder.field "sts_client_id" text? fun v s => { s with stsClientId := v },
    Decoder.field "sts_client_secret" text? fun v s => { s with stsClientSecret := v },
    Decoder.field "sts_audience" text? fun v s => { s with stsAudience := v },
    Decoder.field "sts_scopes" texts fun v s => { s with stsScopes := v },
    Decoder.field "cluster_provider_configs" tables fun v s => { s with providerTables := v },
    Decoder.field "toolset_configs" tables fun v s => { s with toolsetTables := v }] {}

/-- A kind as a table. -/
def kindToToml (k : Gvk) : Toml :=
  .table [("group", .str k.group), ("kind", .str k.kind), ("version", .str k.version)]

/-- The settings as a document.  Texts that are not set are left out. -/
def toToml (s : Settings) : Toml :=
  let text? (key : String) (v : Option String) : List (String × Toml) :=
    match v with
    | some v => [(key, .str v)]
    | none => []
  let level : List (String × Toml) := match s.logLevel with
    | some n => [("log_level", .int n)]
    | none => []
  Toml.ofFields (level ++ text? "port" s.port ++ text? "kubeconfig" s.kubeconfig ++
    text? "cluster_provider_strategy" s.strategy ++ [
    ("read_only", .bool s.readOnly), ("disable_destructive", .bool s.disableDestructive),
    ("toolsets", .ofTexts s.toolsets), ("enabled_tools", .ofTexts s.enabledTools),
    ("disabled_tools", .ofTexts s.disabledTools),
    ("denied_resources", .arr (s.denied.map kindToToml)),
    ("validation_enabled", .bool s.validationEnabled), ("require_oauth", .bool s.requireOauth),
    ("validate_token", .bool s.validateToken)] ++
    text? "authorization_url" s.authorizationUrl ++ text? "server_url" s.serverUrl ++
    text? "certificate_authority" s.certificateAuthority ++
    text? "sts_client_id" s.stsClientId ++ text? "sts_client_secret" s.stsClientSecret ++
    text? "sts_audience" s.stsAudience ++ [
    ("sts_scopes", .ofTexts s.stsScopes),
    ("cluster_provider_configs", .table s.providerTables),
    ("toolset_configs", .table s.toolsetTables)])

/-- The kubeconfig that is named, if any.  An empty name counts as none. -/
def kubeconfigPath (s : Settings) : Option String := s.kubeconfig.filter (!·.isEmpty)

/-- The strategy that these settings lead to. -/
def resolvedStrategy (s : Settings) (runsInCluster : Bool) : String :=
  Strategy.resolve s.strategy s.kubeconfig runsInCluster

/-- What the table of a hub provider says. -/
def hub? (s : Settings) (strategy : String) : Option Hub := Fields.get? strategy s.hubs

/-- What the table of the Kiali toolset says. -/
def kiali? (s : Settings) : Option Kiali := Fields.get? Kiali.toolset s.kialis

end Settings

/-- The readers of the tables of providers and of toolsets. -/
structure Registries where
  /-- The readers of providers' tables. -/
  providers : TableRegistry Hub
  /-- The readers of toolsets' tables. -/
  toolsets : TableRegistry Kiali

namespace Registries

/-- The readers that every gate has. -/
def common : Registries where
  providers := .empty "provider"
  toolsets := ⟨"toolset", [(Kiali.toolset, Kiali.reader)]⟩

/-- The readers of a gate that reaches clusters through hubs. -/
def full : Registries :=
  { common with providers :=
      ⟨"provider", [(Strategy.hub, Hub.reader), (Strategy.hubKubeconfig, Hub.reader)]⟩ }

end Registries

/-- Reads the typed tables of settings. -/
def Settings.resolveTables (r : Registries) (origin : Origin) (s : Settings) :
    Except ConfigError Settings := do
  let hubs ← r.providers.resolve origin s.providerTables
  let kialis ← r.toolsets.resolve origin s.toolsetTables
  pure { s with hubs := hubs, kialis := kialis }

end FleetGate.Config
