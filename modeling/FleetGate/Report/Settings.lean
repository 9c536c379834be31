import FleetGate.Config.Loader
import FleetGate.Json.Value

/-!
# Reports of settings

The settings of the gate as a value.  A document of a table is written with the type
of each of its values, as an object of one field.
-/

namespace FleetGate.Report

open Config

/-- Reports leave out what the reader of TOML says. -/
instance : Complaint := ⟨fun _ => ""⟩

/-- A kind. -/
def ofGvk (k : Gvk) : Json :=
  Json.object [("group", .str k.group), ("version", .str k.version), ("kind", .str k.kind)]

/-- A resource. -/
def ofGvr (r : Gvr) : Json :=
  Json.object [("group", .str r.group), ("version", .str r.version), ("resource", .str r.resource)]

/-- A number in hexadecimal digits, as many as are asked for. -/
def hexText (width n : Nat) : String :=
  let ds := Nat.toDigits 16 n
  String.ofList (List.replicate (width - ds.length) '0' ++ ds)

mutual

/-- A value of a document. -/
def ofToml : Toml → Json
  | .str s => .obj [("s", .str s)]
  | .int n => .obj [("i", .str (toString n))]
  | .float x => .obj [("f", .str (hexText 16 (Numeric.binary64.toBits x)))]
  | .bool b => .obj [("b", .bool b)]
  | .datetime s => .obj [("d", .str s)]
  | .arr items => .obj [("a", .arr (ofTomlItems items))]
  | .table fields => .obj [("t", .obj (ofTomlFields fields))]

/-- The values of an array. -/
def ofTomlItems : List Toml → List Json
  | [] => []
  | t :: ts => ofToml t :: ofTomlItems ts

/-- The fields of a table. -/
def ofTomlFields : List (String × Toml) → List (String × Json)
  | [] => []
  | (key, t) :: fields => (key, ofToml t) :: ofTomlFields fields

end

/-- How a token is obtained. -/
def ofTarget (t : ExchangeTarget) : Json :=
  Json.object [("token_url", .str t.tokenUrl), ("client_id", .str t.clientId),
    ("client_secret", .ofText? t.clientSecret), ("audience", .ofText? t.audience),
    ("scopes", .ofTexts t.scopes), ("subject_issuer", .ofText? t.subjectIssuer)]

/-- How a hub's clusters are reached. -/
def ofHub (h : Hub) : Json :=
  Json.object [("host", .ofText? h.proxyHost), ("skip", .bool h.skipVerify),
    ("ca_file", .ofText? h.authorityFile), ("token_url", .ofText? h.tokenUrl),
    ("clusters", .obj (h.clusters.map fun (k, t) => (k, ofTarget t)))]

/-- How Kiali is reached. -/
def ofKiali (k : Kiali) : Json :=
  Json.object [("url", .str k.url), ("insecure", .bool k.insecure), ("ca", .ofText? k.authority)]

/-- A value, or `null` for none. -/
def ofOption {α : Type} (item : α → Json) : Option α → Json
  | some a => item a
  | none => .null

/-- The settings.  What they lead to depends on whether the gate runs in a cluster. -/
def ofSettings (runsInCluster : Bool) (s : Settings) : Json :=
  Json.object [
    ("log_level", ofOption (fun n : Nat => .int n) s.logLevel),
    ("port", .ofText? s.port), ("kubeconfig", .ofText? s.kubeconfig),
    ("strategy", .ofText? s.strategy), ("read_only", .bool s.readOnly),
    ("disable_destructive", .bool s.disableDestructive), ("toolsets", .ofTexts s.toolsets),
    ("enabled_tools", .ofTexts s.enabledTools), ("disabled_tools", .ofTexts s.disabledTools),
    ("denied", .arr (s.denied.map ofGvk)), ("validation_enabled", .bool s.validationEnabled),
    ("require_oauth", .bool s.requireOauth), ("validate_token", .bool s.validateToken),
    ("authorization_url", .ofText? s.authorizationUrl), ("server_url", .ofText? s.serverUrl),
    ("certificate_authority", .ofText? s.certificateAuthority),
    ("sts_client_id", .ofText? s.stsClientId), ("sts_client_secret", .ofText? s.stsClientSecret),
    ("sts_audience", .ofText? s.stsAudience), ("sts_scopes", .ofTexts s.stsScopes),
    ("provider_tables", .obj (ofTomlFields s.providerTables)),
    ("toolset_tables", .obj (ofTomlFields s.toolsetTables)),
    ("kiali", ofOption ofKiali s.kiali?), ("acm", ofOption ofHub (s.hub? Strategy.hub)),
    ("acm_kubeconfig", ofOption ofHub (s.hub? Strategy.hubKubeconfig)),
    ("kubeconfig_path", .ofText? s.kubeconfigPath),
    ("resolved_strategy", .str (s.resolvedStrategy runsInCluster))]

end FleetGate.Report
