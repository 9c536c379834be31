import FleetGate.FleetError
import FleetGate.Json.Value

/-!
# Reports of failures

Reports are values for programs that look at the gate from outside.  The report of a
failure names its kind and, as a rule, has its message.  What a message takes over from
elsewhere, such as the reason why a file is no kubeconfig, is cut off, and a failure
whose message is nothing else has none.
-/

namespace FleetGate.Report

/-- A report with a kind only. -/
def kindOnly (kind : String) : Json := .obj [("error", .str kind)]

/-- A report with a kind and a message. -/
def failure (kind message : String) : Json :=
  .obj [("error", .str kind), ("message", .str message)]

/-- A text that is cut off after the first of some openings that it has. -/
def cut (openings : List String) (text : String) : String :=
  (openings.find? (text.startsWith ·)).getD text

/-- The kind of a refusal. -/
def accessKind : AccessError → String
  | .resourceNotFound _ => "ResourceNotFound"
  | .resourceDenied _ => "ResourceDenied"
  | .permissionDenied .. => "PermissionDenied"
  | .invalidField .. => "InvalidField"
  | .mapper _ => "Mapper"
  | .transport _ => "Transport"

/-- A refusal. -/
def ofAccessError (e : AccessError) : Json :=
  failure (accessKind e) (match e with
    | .mapper _ => cut ["failed to map resource: discovery failed"] e.message
    | e => e.message)

/-- A configuration failure. -/
def ofConfigError (e : ConfigError) : Json :=
  match e with
  | .unreadable .. => failure "Io" e.message
  | .unparsable origin reason =>
      if reason.isEmpty then .obj [("error", .str "Parse"), ("origin", .str origin)]
      else .obj [("error", .str "Parse"), ("message", .str e.message), ("origin", .str origin)]
  | .badTable .. => failure "ExtendedConfig" e.message
  | .invalid _ => failure "Invalid" e.message
  | .telemetry _ => failure "Telemetry" e.message

/-- A failed call. -/
def ofCallError (e : CallError) : Json :=
  Json.objectOf [("error", some (.str "Kube")), ("access", e.refusal?.map ofAccessError),
    ("api", match e with
      | .status s => some (Json.object [("code", .int s.code), ("reason", .str s.reason),
          ("message", .str s.message)])
      | _ => none)]

/-- The openings of messages about kubeconfigs that are cut off. -/
def kubeconfigOpenings : List String :=
  ["failed to parse cluster url", "failed to read kubeconfig", "failed to parse kubeconfig YAML",
    "the structure of the parsed kubeconfig is invalid"]

/-- The openings of messages about hubs that are cut off. -/
def hubOpenings : List String :=
  ["ManagedCluster API not available on hub", "failed to discover cluster proxy addon",
    "invalid proxy url for cluster", "invalid CA file", "failed to read CA file"]

/-- The openings of messages about token services that are cut off. -/
def exchangeOpenings : List String := ["invalid response", "error sending request", "builder error"]

/-- A failure. -/
def ofFleetError (e : FleetError) : Json :=
  match e with
  | .tokenRequired => failure "OAuthTokenRequired" e.message
  | .kubeconfigUnavailable _ => failure "KubeconfigUnavailable" e.message
  | .derivedClient _ => kindOnly "DerivedClient"
  | .targetNotSupported _ => failure "TargetNotSupported" e.message
  | .unknownTarget .. => failure "UnknownTarget" e.message
  | .strategy _ => failure "Strategy" e.message
  | .kubeconfig reason => failure "Kubeconfig" (cut kubeconfigOpenings reason)
  | .inCluster _ => kindOnly "InCluster"
  | .hub reason =>
      failure "Acm" (if reason.endsWith "does not serve managedclusters" then e.message
        else cut hubOpenings reason)
  | .tokenExchange reason => failure "TokenExchange" (cut exchangeOpenings reason)
  | .tokenRejected _ => failure "TokenRejected" e.message
  | .watcher _ => kindOnly "Watcher"
  | .call cause => ofCallError cause
  | .access cause => ofAccessError cause
  | .config cause => ofConfigError cause
  | .breakdown _ => kindOnly "panic"

end FleetGate.Report
