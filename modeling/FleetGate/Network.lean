import FleetGate.Clock
import FleetGate.Http

/-!
# The network

All that the gate does to the world is to look at a clock and wait, to send a request
and wait for the reply, and to listen to a stream of changes.  Everything that calls a
server works over any monad that has these.

A request whose target names a server goes to that server.  Any other goes to a
service at hand.
-/

namespace FleetGate

/-- What the gate does to the world. -/
class Network (m : Type → Type) extends Clock m where
  /-- Sends a request and waits for the reply, or says why there is none. -/
  send : HttpRequest → m (Except String HttpReply)
  /-- Listens to a stream of changes to its end.  There is no reply as long as the
  stream brings nothing and does not end. -/
  listen : HttpRequest → m (Except String (Option HttpReply))

end FleetGate
