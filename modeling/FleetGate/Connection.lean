import FleetGate.Backoff
import FleetGate.Kubeconfig
import FleetGate.Numeric.Decimal
import FleetGate.Text.Blank
import FleetGate.Uri

/-!
# Connections to clusters

A connection is the address of an API server, how its certificate is checked,
how long to wait for it and with which credentials to call.  A client adds to it
how many calls it may start and the name it goes by.

A client derived for a caller keeps everything of the connection but the
credentials, of which it has the caller's token and nothing else.
-/

namespace FleetGate

open Numeric

/-- How an API server is reached. -/
structure Connection where
  /-- Its address. -/
  address : Uri
  /-- The namespace of requests that name none. -/
  ns : String := "default"
  /-- The authorities that may sign its certificate, instead of the usual ones. -/
  authorities : Option (List (List UInt8)) := none
  /-- Whether any certificate will do. -/
  insecure : Bool := false
  /-- The name that its certificate must have. -/
  tlsServerName : Option String := none
  /-- How long to wait for a connection, in milliseconds. -/
  connectTimeout : Option Nat := some 30000
  /-- How long to wait for an answer. -/
  readTimeout : Option Nat := some 295000
  /-- How long to wait to send. -/
  writeTimeout : Option Nat := some 295000
  /-- A proxy to go through. -/
  proxy : Option Uri := none
  /-- The credentials. -/
  credentials : Credentials := {}
deriving DecidableEq, Repr, Inhabited

/-- A limit on calls: so many in a period. -/
structure RateLimit where
  /-- The calls that may start in one period. -/
  calls : Nat
  /-- The length of the period. -/
  period : Nanos
deriving DecidableEq, Repr, Inhabited

/-- A connection and the manners of the client that uses it. -/
structure ClientConfig where
  /-- The connection. -/
  connection : Connection
  /-- The calls that may start in a second, in the long run. -/
  qps : Binary
  /-- The calls that may start at once. -/
  burst : Nat
  /-- The name of the client. -/
  userAgent : String
deriving DecidableEq, Repr, Inhabited

namespace ClientConfig

/-- The name of the gate. -/
def serverName : String := "kmcp"

/-- The version of the program. -/
def version : String := "0.1.0"

/-- The name by which the gate calls API servers. -/
def defaultUserAgent : String := serverName ++ "/" ++ version

/-- The name by which the gate calls for a caller who has given none. -/
def derivedUserAgent : String := defaultUserAgent ++ " (derived)"

/-- The calls of a second unless something else is set. -/
def defaultQps : Binary := binary32.ofNat 50

/-- The calls at once unless something else is set. -/
def defaultBurst : Nat := 100

/-- A client with the usual manners. -/
def ofConnection (c : Connection) : ClientConfig :=
  ⟨c, defaultQps, defaultBurst, defaultUserAgent⟩

/-- A positive and finite rate. -/
def rate? (text : String) : Option Binary :=
  (readBinary? binary32 (Text.trim text)).filter fun x =>
    x.isFinite && (Binary.finite false 0 binary32.least).lt x

/-- A positive count of 32 bits. -/
def count? (text : String) : Option Nat :=
  (readNat? (Text.trim text)).filter fun n => 0 < n && n < 1 <<< 32

/-- The client with a rate and a count from texts.  A text that is missing or makes
no sense changes nothing. -/
def withTexts (c : ClientConfig) (qps burst : Option String) : ClientConfig :=
  { c with qps := (qps.bind rate?).getD c.qps, burst := (burst.bind count?).getD c.burst }

/-- The client that calls with a caller's token. -/
def derive (c : ClientConfig) (token : String) (userAgent : Option String) : ClientConfig :=
  { c with
    connection := { c.connection with credentials := { token := some token } }
    userAgent := (userAgent.filter (!·.isEmpty)).getD derivedUserAgent }

/-- The limit on the calls of a client: `burst` calls in the time that the rate
allows them.  `none` if that time is nothing or too long to count. -/
def limit? (c : ClientConfig) : Option RateLimit :=
  let burst := max c.burst 1
  let qps := if (Binary.finite false 0 binary32.least).lt c.qps then c.qps else defaultQps
  let seconds := (binary64.ofNat burst).div binary64 (qps.convert binary64)
  match Nanos.ofSeconds? seconds with
  | some period => if period == 0 then none else some ⟨burst, period⟩
  | none => none

end ClientConfig

/-- The name of the one context of the cluster that the gate runs in. -/
def inClusterContext : String := "in-cluster"

/-- The kubeconfig of one cluster under a name. -/
def Connection.kubeconfig (c : Connection) (name : String) : Kubeconfig :=
  Kubeconfig.ofEndpoint name c.address.text c.insecure c.ns

end FleetGate
