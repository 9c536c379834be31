import FleetGate.Api.Call
import FleetGate.Gate
import FleetGate.Schema
import FleetGate.Yaml.Json

/-!
# Checking bodies against schemas

The definitions of a server are fetched when they are first needed and kept for a
while.  A body is checked only if it creates or updates something, is not empty
and is an object, in JSON or else in YAML.  If there are no definitions to be had,
the request passes.

`SchemaCache` keeps what was fetched with the time at which that was done.  Times
are in milliseconds.
-/

namespace FleetGate

open Api

/-- Definitions and the time since when they are known. -/
structure SchemaSnapshot where
  /-- The definitions. -/
  index : Schema.Index
  /-- When the fetch was over. -/
  takenAt : Nat
deriving Inhabited

/-- The definitions that were fetched last, and how long they may be used. -/
structure SchemaCache where
  /-- How long definitions may be used. -/
  ttl : Nat
  /-- What was fetched last. -/
  snapshot? : Option SchemaSnapshot
deriving Inhabited

namespace SchemaCache

/-- A quarter of an hour. -/
def standardTtl : Nat := 15 * 60 * 1000

/-- A cache that holds nothing. -/
def start (ttl : Nat) : SchemaCache := ⟨ttl, none⟩

/-- The definitions, unless they are too old. -/
def fresh? (now : Nat) (c : SchemaCache) : Option Schema.Index :=
  (c.snapshot?.filter fun s => now - s.takenAt < c.ttl).map (·.index)

/-- The cache with new definitions. -/
def store (now : Nat) (index : Schema.Index) (c : SchemaCache) : SchemaCache :=
  { c with snapshot? := some ⟨index, now⟩ }

end SchemaCache

namespace SchemaCheck

/-- Where a server publishes its definitions. -/
def path : String := "/openapi/v2"

/-- The object of a body. -/
def objectOf? (body : List UInt8) : Option Json :=
  ((Json.ofBytes? body).or ((Text.Utf8.decode? body).bind Yaml.json?)).filter Json.isObject

/-- Whether a verb writes an object. -/
def writes (verb : String) : Bool := verb == "create" || verb == "update"

/-- The object of a request that is to be checked. -/
def candidate? (s : Subject) : Option Json :=
  if writes s.verb then (s.body?.filter (!·.isEmpty)).bind objectOf? else none

/-- The name of the unknown field that the first message with one speaks of, empty if
there is none. -/
def fieldOf (messages : List String) : String :=
  (messages.findSome? Schema.unknownFieldOf?).getD ""

/-- Refuses an object that does not conform. -/
def decide (index : Schema.Index) (object : Json) : Except AccessError Unit :=
  match (index.validate object).map Schema.Violation.message with
  | [] => .ok ()
  | messages => .error (.invalidField (fieldOf messages) ("; ".intercalate messages))

/-- The definitions in a document. -/
def document : Wanted Schema.Index := fun draft =>
  (draft.value Json.maxDepth).map Schema.Index.ofDocument

variable {m : Type → Type} [Monad m]

/-- Fetches the definitions of a server. -/
def fetch (call : Call m) : m (Except CallError Schema.Index) :=
  Api.get call document path

/-- The definitions to check against, fetched if those that are known are missing or
too old. -/
def index (call? : Option (Call m)) (clock : m Nat) (c : SchemaCache) :
    m (Option Schema.Index × SchemaCache) := do
  match c.fresh? (← clock), call? with
  | some index, _ => pure (some index, c)
  | none, none => pure (none, c)
  | none, some call =>
      match ← fetch call with
      | .error _ => pure (none, c)
      | .ok index => pure (some index, c.store (← clock) index)

/-- The check of a request. -/
def check (call? : Option (Call m)) (clock : m Nat) (s : Subject) (c : SchemaCache) :
    m (Except AccessError Unit × SchemaCache) :=
  match candidate? s with
  | none => pure (.ok (), c)
  | some object => do
      match ← index call? clock c with
      | (none, c) => pure (.ok (), c)
      | (some index, c) => pure (decide index object, c)

end SchemaCheck

end FleetGate
