import FleetGate.AccessError

/-!
# What can go wrong with a fleet

Failures come in three layers.  A configuration fails with a `ConfigError`, a
call to an API server with a `CallError`, and everything else that has to do
with clusters with a `FleetError`, which also carries the other two and the
refusals of the gate.
-/

namespace FleetGate

/-- Why a configuration could not be loaded. -/
inductive ConfigError where
  /-- A file could not be read. -/
  | unreadable (path reason : String)
  /-- A document is no TOML, or the merged document is no configuration. -/
  | unparsable (origin reason : String)
  /-- A table that a provider or a toolset owns does not hold what it should. -/
  | badTable (kind name reason : String)
  /-- A setting contradicts another. -/
  | invalid (reason : String)
  /-- Logging could not be set up. -/
  | telemetry (reason : String)
deriving DecidableEq, Repr, Inhabited

/-- The wording of a configuration failure. -/
def ConfigError.message : ConfigError → String
  | .unreadable path reason => "failed to read config " ++ path ++ ": " ++ reason
  | .unparsable origin reason => "failed to parse config " ++ origin ++ ": " ++ reason
  | .badTable kind name reason =>
      "invalid " ++ kind ++ " config " ++ Text.quoted name ++ ": " ++ reason
  | .invalid reason => "invalid configuration: " ++ reason
  | .telemetry reason => "failed to initialize telemetry: " ++ reason

/-- An answer of an API server that reports a failure. -/
structure ApiStatus where
  /-- The HTTP status code. -/
  code : Nat
  /-- The reason, a word for programs. -/
  reason : String
  /-- The message, a sentence for people. -/
  message : String
deriving DecidableEq, Repr, Inhabited

/-- Why a call to an API server has no result. -/
inductive CallError where
  /-- The gate refused the request. -/
  | refused (cause : AccessError)
  /-- The server could not be reached. -/
  | service (reason : String)
  /-- The server answered with a failure. -/
  | status (status : ApiStatus)
  /-- The server's answer is not what was asked for. -/
  | undecodable (reason : String)
  /-- No request can ask for this. -/
  | unaskable
deriving DecidableEq, Repr, Inhabited

namespace CallError

/-- The wording of a failed call. -/
def message : CallError → String
  | .refused cause => "ServiceError: " ++ cause.message
  | .service reason => "ServiceError: " ++ reason
  | .status s => "ApiError: " ++ s.message ++ ": " ++ s.reason
  | .undecodable reason => reason
  | .unaskable => "failed to build request"

/-- The refusal behind a failed call, if there is one. -/
def refusal? : CallError → Option AccessError
  | .refused cause => some cause
  | _ => none

end CallError

/-- Why an operation on a cluster or a fleet failed. -/
inductive FleetError where
  /-- The caller must send a token and did not. -/
  | tokenRequired
  /-- There is no kubeconfig to derive a handle from. -/
  | kubeconfigUnavailable (reason : String)
  /-- No client could be built for the caller's token. -/
  | derivedClient (reason : String)
  /-- The strategy knows no targets. -/
  | targetNotSupported (strategy : String)
  /-- There is no such target. -/
  | unknownTarget (parameter target : String)
  /-- The strategy cannot be used here. -/
  | strategy (reason : String)
  /-- The kubeconfig cannot be used. -/
  | kubeconfig (reason : String)
  /-- The configuration of a pod cannot be used. -/
  | inCluster (reason : String)
  /-- The hub of a fleet cannot be used. -/
  | hub (reason : String)
  /-- A token could not be exchanged. -/
  | tokenExchange (reason : String)
  /-- A token was not accepted. -/
  | tokenRejected (reason : String)
  /-- Files could not be watched. -/
  | watcher (reason : String)
  /-- A call to an API server failed. -/
  | call (cause : CallError)
  /-- The gate refused a request. -/
  | access (cause : AccessError)
  /-- A configuration failed to load. -/
  | config (cause : ConfigError)
  /-- Something that was taken for granted does not hold. -/
  | breakdown (reason : String)
deriving DecidableEq, Repr, Inhabited

namespace FleetError

/-- The wording of a failure. -/
def message : FleetError → String
  | .tokenRequired => "oauth token required"
  | .kubeconfigUnavailable reason => "failed to get kubeconfig: " ++ reason
  | .derivedClient reason => "failed to create derived client: " ++ reason
  | .targetNotSupported name =>
      "unable to get manager for other context/cluster with " ++ name ++ " strategy"
  | .unknownTarget parameter target => parameter ++ " " ++ Text.quoted target ++ " not found"
  | .strategy reason => "cluster provider strategy error: " ++ reason
  | .kubeconfig reason => "kubeconfig error: " ++ reason
  | .inCluster reason => "in-cluster config error: " ++ reason
  | .hub reason => "ACM error: " ++ reason
  | .tokenExchange reason => "token exchange failed: " ++ reason
  | .tokenRejected reason => "token rejected: " ++ reason
  | .watcher reason => "watcher error: " ++ reason
  | .call cause => "kubernetes error: " ++ cause.message
  | .access cause => cause.message
  | .config cause => cause.message
  | .breakdown reason => reason

/-- The refusal behind a failure, if there is one. -/
def refusal? : FleetError → Option AccessError
  | .access cause => some cause
  | .call cause => cause.refusal?
  | _ => none

end FleetError

end FleetGate
