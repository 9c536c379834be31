import FleetGate.Network
import FleetGate.Simulation.Server
import FleetGate.TokenExchange

/-!
# A world to rehearse in

A simulated world has a clock that moves only when someone waits, a server, and a
queue of replies to those who listen to changes.  It keeps a record of what has
reached the server and when.

The server is at hand, or it is reached over the net under an address.  Over the net
some replies lose their bodies: those to requests for headers only, and those whose
status says that there is none.

Reloads turn out as a script says, and tokens are exchanged by a table.  Both are
recorded too.
-/

namespace FleetGate.Simulation

/-- A request that has reached the server, and when. -/
structure Arrival where
  /-- The request. -/
  request : HttpRequest
  /-- When it came. -/
  time : Nat
deriving Inhabited

/-- A simulated world. -/
structure World where
  /-- The server. -/
  server : Server := {}
  /-- The address of the server on the net, without which it is at hand only. -/
  address? : Option String := none
  /-- The time. -/
  clock : Nat := 0
  /-- The replies to those who will listen to changes. -/
  queue : List HttpReply := []
  /-- What has reached the server, the last first. -/
  arrivals : List Arrival := []
  /-- How reloads turn out.  The last entry counts for all that follow, and without one
  they succeed. -/
  reloads : List Bool := []
  /-- The reloads so far. -/
  reloadCount : Nat := 0
  /-- The times of reloads and how they turned out, the last first. -/
  reloaded : List (Nat × Bool) := []
  /-- Tokens and what they are exchanged for. -/
  exchanges : Fields String := []
  /-- The exchanges that were asked for, the last first. -/
  exchanged : List (Config.ExchangeTarget × String × TokenExchange.Realm) := []
deriving Inhabited

/-- What happens in a simulated world. -/
abbrev Simulated := StateM World

namespace World

/-- The request as the server sees it, if it gets there. -/
def reached? (w : World) (r : HttpRequest) : Option HttpRequest :=
  match r.target.authority with
  | none => if w.address?.isNone then some r else none
  | some authority =>
      if r.target.scheme == some "http" && w.address? == some authority then
        some { r with target := { r.target with scheme := none, authority := none } }
      else none

/-- The world after a request has reached the server. -/
def note (r : HttpRequest) (w : World) : World :=
  { w with arrivals := ⟨r, w.clock⟩ :: w.arrivals }

/-- Whether a request listens to changes. -/
def listens (r : HttpRequest) : Bool :=
  r.target.query.any fun query => 1 < (query.splitOn "watch=true").length

/-- Whether a status says that there is no body. -/
def isBodiless (code : Nat) : Bool := code == 204 || code == 304

/-- A reply as it comes over the net. -/
def carried (r : HttpRequest) (reply : HttpReply) : HttpReply :=
  if r.method == .head || isBodiless reply.status then { reply with body := [] } else reply

/-- The world in which a request has come, and the reply to it. -/
def answer (r : HttpRequest) (w : World) : HttpReply × World :=
  let reply := w.server.reply r
  (if w.address?.isSome then carried r reply else reply, w.note r)

/-- The world in which someone has begun to listen, and the reply, if one is to come. -/
def answerListener (r : HttpRequest) (w : World) : Option HttpReply × World :=
  match w.server.laidDown? r, w.queue with
  | some reply, _ => (some reply, w.note r)
  | none, [] => (none, w.note r)
  | none, reply :: queue => (some reply, { w.note r with queue := queue })

/-- The entry of a script for so many-th time, of which the last one repeats. -/
def scripted {α : Type} (script : List α) (i : Nat) : Option α := (script[i]?).or script.getLast?

/-- The world after a reload, and how it turned out. -/
def reloadOnce (w : World) : Bool × World :=
  let ok := (scripted w.reloads w.reloadCount).getD true
  (ok, { w with reloadCount := w.reloadCount + 1, reloaded := (w.clock, ok) :: w.reloaded })

/-- The world after an exchange, and the new token.  A token that is not in the table
is not exchanged. -/
def exchangeOnce (t : Config.ExchangeTarget) (token : String) (realm : TokenExchange.Realm)
    (w : World) : Except FleetError String × World :=
  (match Fields.get? token w.exchanges with
    | some fresh => .ok fresh
    | none => .error (.tokenExchange "scripted"),
    { w with exchanged := (t, token, realm) :: w.exchanged })

/-- The world with empty records. -/
def clear (w : World) : World := { w with arrivals := [], reloaded := [], exchanged := [] }

end World

/-- What is said when no server is reached. -/
def unreachable : String := "no server is reached"

instance : Network Simulated where
  now := do return (← get).clock
  waitUntil time := modify fun w => { w with clock := max w.clock time }
  send r := do
    match (← get).reached? r with
    | none => pure (.error unreachable)
    | some r => return .ok (← modifyGet (World.answer r))
  listen r := do
    match (← get).reached? r with
    | none => pure (.error unreachable)
    | some r => return .ok (← modifyGet (World.answerListener r))

/-- A reload. -/
def reload : Simulated Bool := modifyGet World.reloadOnce

/-- An exchange of a token. -/
def exchange : TokenExchange.Exchanger Simulated := fun t token realm =>
  modifyGet (World.exchangeOnce t token realm)

end FleetGate.Simulation
