import FleetGate.Config.Tables
import FleetGate.Url

/-!
# The tables of hub providers

A provider that reaches clusters through a hub has a table that says how the
hub's proxy is reached and how a caller's token is exchanged for one that a
cluster accepts.
-/

namespace FleetGate.Config

open Toml

/-- How a token for one cluster is obtained. -/
structure ExchangeTarget where
  /-- The address of the token service. -/
  tokenUrl : String := ""
  /-- Who asks. -/
  clientId : String := ""
  /-- The secret of who asks. -/
  clientSecret : Option String := none
  /-- Whom the token is for. -/
  audience : Option String := none
  /-- What the token allows. -/
  scopes : List String := []
  /-- Who issued the caller's token, as the token service names them. -/
  subjectIssuer : Option String := none
deriving DecidableEq, Repr, Inhabited

namespace ExchangeTarget

/-- Decodes the table as it is written. -/
def decode : Decoder ExchangeTarget :=
  Decoder.record "TokenExchangeTarget" [
    Decoder.field "token_url" Decoder.text fun v c => { c with tokenUrl := v },
    Decoder.field "client_id" Decoder.text fun v c => { c with clientId := v },
    Decoder.field "client_secret" (Decoder.some? Decoder.text)
      fun v c => { c with clientSecret := v },
    Decoder.field "audience" (Decoder.some? Decoder.text) fun v c => { c with audience := v },
    Decoder.field "scopes" (Decoder.list Decoder.text) fun v c => { c with scopes := v },
    Decoder.field "subject_issuer" (Decoder.some? Decoder.text)
      fun v c => { c with subjectIssuer := v }] {}

/-- An optional text as descriptions write it. -/
def describeOption : Option String → String
  | some s => "Some(" ++ Text.quoted s ++ ")"
  | none => "None"

/-- The text that describes a target.  The secret is not shown. -/
def describe (t : ExchangeTarget) : String :=
  "TokenExchangeTarget \x7b token_url: " ++ Text.quoted t.tokenUrl ++
    ", client_id: " ++ Text.quoted t.clientId ++
    ", client_secret: " ++ describeOption (t.clientSecret.map fun _ => "[REDACTED]") ++
    ", audience: " ++ describeOption t.audience ++
    ", scopes: " ++ Text.quotedList t.scopes ++
    ", subject_issuer: " ++ describeOption t.subjectIssuer ++ " \x7d"

end ExchangeTarget

/-- How a hub's clusters are reached. -/
structure Hub where
  /-- The host of the hub's proxy, if it need not be discovered. -/
  proxyHost : Option String := none
  /-- Whether any certificate of the proxy will do. -/
  skipVerify : Bool := false
  /-- The file of the authorities that sign the proxy's certificate. -/
  authorityFile : Option String := none
  /-- The address of the hub's own token service. -/
  tokenUrl : Option String := none
  /-- How tokens for single clusters are obtained. -/
  clusters : Fields ExchangeTarget := []
deriving DecidableEq, Repr, Inhabited

namespace Hub

/-- Decodes the table as it is written. -/
def decode : Decoder Hub :=
  Decoder.record "AcmProviderConfig" [
    Decoder.field "cluster_proxy_addon_host" (Decoder.some? Decoder.text)
      fun v c => { c with proxyHost := v },
    Decoder.field "cluster_proxy_addon_skip_tls_verify" Decoder.bool
      fun v c => { c with skipVerify := v },
    Decoder.field "cluster_proxy_addon_ca_file" (Decoder.some? Decoder.text)
      fun v c => { c with authorityFile := v },
    Decoder.field "token_url" (Decoder.some? Decoder.text) fun v c => { c with tokenUrl := v },
    Decoder.field "clusters" (Decoder.map ExchangeTarget.decode)
      fun v c => { c with clusters := v }] {}

/-- Reads the table.  A relative file is found from where the configuration is, and
empty names count as none. -/
def read (origin : Origin) (t : Toml) : Except String Hub :=
  match decode t with
  | .error e => .error e.message
  | .ok c =>
      .ok { c with
        proxyHost := c.proxyHost.filter (!·.isEmpty)
        authorityFile := (c.authorityFile.filter (!·.isEmpty)).map (resolvePath origin) }

/-- A target needs an address that is a URL and a client. -/
def checkTarget (name : String) (t : ExchangeTarget) : Except String Unit :=
  let place := "clusters." ++ name
  if t.tokenUrl.isEmpty then .error (place ++ ".token_url is required")
  else match Url.parse t.tokenUrl with
    | .error flaw => .error (place ++ ".token_url is invalid: " ++ flaw.message)
    | .ok _ =>
        if t.clientId.isEmpty then .error (place ++ ".client_id is required") else .ok ()

/-- A proxy that is named must be trusted by a file unless its certificate is not
looked at, and every target must be complete. -/
def check (c : Hub) : Except String Unit :=
  if c.proxyHost.any (!·.isEmpty) && !c.skipVerify && c.authorityFile.isNone then
    .error ("cluster_proxy_addon_ca_file is required when cluster_proxy_addon_host is set " ++
      "and cluster_proxy_addon_skip_tls_verify is false")
  else c.clusters.forM fun (name, t) => checkTarget name t

/-- The reader of the table. -/
def reader : TableReader Hub := ⟨read, check⟩

/-- How a token for a cluster is obtained, if the table says so. -/
def target? (c : Hub) (cluster : String) : Option ExchangeTarget :=
  Fields.get? cluster c.clusters

end Hub

end FleetGate.Config
