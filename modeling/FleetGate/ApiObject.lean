import FleetGate.Api.Call
import FleetGate.Api.Shape
import FleetGate.Form

/-!
# Objects of any kind

An object is its metadata, of which the name, the labels and the version count, and
everything else that it holds.  What it says of its own kind is dropped.

Objects are read one by one, as a list, or as events of a stream.  The stream is text
with an event on each line.  A line that stops too early is no event.  A line that is no
event but describes a failure is that failure, and any other spoils the stream.
-/

namespace FleetGate

open Api

/-- An object of any kind. -/
structure ApiObject where
  /-- Its name. -/
  name? : Option String
  /-- Its labels. -/
  labels : Fields String
  /-- Its version. -/
  version? : Option String
  /-- What it holds besides its metadata and its kind. -/
  data : Json
deriving Inhabited

/-- A resource of any kind. -/
structure ApiResource where
  /-- Its group. -/
  group : String
  /-- Its version. -/
  version : String
  /-- Its plural name. -/
  plural : String
deriving DecidableEq, Repr, Inhabited

/-- A list of objects. -/
structure ApiList where
  /-- The version of the list. -/
  version? : Option String
  /-- The objects. -/
  items : List ApiObject
deriving Inhabited

/-! ## Reading objects

Objects and lists have fields of their own, which stand there once at most.  All other
fields are values of any form. -/

/-- The fields of their own, and the other fields in order.  `seen` are the own fields in
front of them. -/
def splitFields {α : Type} (room : Nat) (own : String → Option (Wanted α)) (seen : List String) :
    List (Json.Written × Json.Draft) →
      Except Json.Flaw (List (String × α) × List (String × Json))
  | [] => .ok ([], [])
  | (key, draft) :: entries => do
      let name ← key.value
      match own name with
      | some wanted =>
          if seen.contains name then .error .malformed
          else do
            let a ← wanted draft
            let (owned, others) ← splitFields room own (name :: seen) entries
            pure ((name, a) :: owned, others)
      | none => do
          let value ← draft.value room
          let (owned, others) ← splitFields room own seen entries
          pure (owned, (name, value) :: others)

/-- The fields of an object, of which some are its own. -/
def openObject {α : Type} (room : Nat) (own : Nat → String → Option (Wanted α)) :
    Wanted (List (String × α) × List (String × Json))
  | .obj entries flaw? => Json.Draft.inside room fun room => do
      let fields ← splitFields room (own room) [] entries
      Json.Draft.ended flaw?
      pure fields
  | .arr _ _ => .error .malformed
  | draft => do
      let _ ← draft.value 0
      .error .malformed

/-- What an object says of its kind, in the order in which it does: the fields up to the
first that is no text or stands there again.  `seen` are those in front. -/
def kindFields (seen : List String) : List (String × Json) → List (String × Json)
  | [] => []
  | (key, value) :: fields =>
      if key == "apiVersion" || key == "kind" then
        match value with
        | .str _ =>
            if seen.contains key then [(key, value)]
            else (key, value) :: kindFields (key :: seen) fields
        | _ => [(key, value)]
      else kindFields seen fields

/-- The fields without so many of those that say of which kind an object is. -/
def dropKind : Nat → List (String × Json) → List (String × Json)
  | 0, fields => fields
  | _, [] => []
  | n + 1, (key, value) :: fields =>
      if key == "apiVersion" || key == "kind" then dropKind n fields
      else (key, value) :: dropKind (n + 1) fields

namespace ApiObject

/-- The object with metadata and other fields. -/
def ofFields (metadata : Json) (others : List (String × Json)) : ApiObject :=
  let labels := ((metadata.field? "labels").bind Json.fields?).getD []
  { name? := (metadata.field? "name").bind Json.str?
    labels := labels.filterMap fun (key, v) => v.str?.map (key, ·)
    version? := (metadata.field? "resourceVersion").bind Json.str?
    data := Json.object (dropKind (kindFields [] others).length others) }

/-- Reads an object. -/
def read (room : Nat) : Wanted ApiObject := fun draft => do
  let own (room : Nat) (key : String) : Option (Wanted Json) :=
    if key == "metadata" then some (Shape.objectMeta.read room) else none
  let (owned, others) ← openObject room own draft
  pure (ofFields ((owned.head?.map (·.2)).getD (.obj [])) others)

/-- An object. -/
def wanted : Wanted ApiObject := read Json.maxDepth

end ApiObject

namespace ApiList

/-- A field that a list has of its own. -/
inductive Part where
  /-- Its metadata. -/
  | metadata (value : Json)
  /-- Its objects. -/
  | items (objects : List ApiObject)

/-- Reads the objects of a list. -/
def readObjects (room : Nat) : List Json.Draft → Except Json.Flaw (List ApiObject)
  | [] => .ok []
  | draft :: drafts => do
      let object ← ApiObject.read room draft
      let objects ← readObjects room drafts
      pure (object :: objects)

/-- Reads the items of a list, which may be `null` for none. -/
def readItems (room : Nat) : Wanted (List ApiObject)
  | .null => .ok []
  | .arr drafts flaw? => Json.Draft.inside room fun room => do
      let objects ← readObjects room drafts
      Json.Draft.ended flaw?
      pure objects
  | .obj _ _ => .error .malformed
  | draft => do
      let _ ← draft.value 0
      .error .malformed

/-- A list of objects, which must have items. -/
def wanted : Wanted ApiList := fun draft => do
  let own (room : Nat) (key : String) : Option (Wanted Part) :=
    match key with
    | "metadata" => some fun draft => (Shape.listMeta.read room draft).map .metadata
    | "items" => some fun draft => (readItems room draft).map .items
    | _ => none
  let (owned, _) ← openObject Json.maxDepth own draft
  let metadata := (owned.findSome? fun
    | (_, Part.metadata value) => some value
    | _ => none).getD (.obj [])
  match owned.findSome? fun
      | (_, Part.items objects) => some objects
      | _ => none with
  | some objects => pure ⟨(metadata.field? "resourceVersion").bind Json.str?, objects⟩
  | none => .error .malformed

end ApiList

namespace ApiResource

/-- The path of the objects of a resource. -/
def path (r : ApiResource) (ns? : Option String) : String :=
  "/" ++ (if r.group.isEmpty then "api" else "apis/" ++ r.group) ++ "/" ++ r.version ++ "/" ++
    (match ns? with | some ns => "namespaces/" ++ ns ++ "/" | none => "") ++ r.plural

variable {m : Type → Type} [Monad m]

/-- Asks for a value by the name of an object. -/
def getAs {α : Type} (call : Call m) (form : Wanted α) (r : ApiResource)
    (ns? : Option String) (name : String) : m (Except CallError α) :=
  if name.isEmpty then pure (.error .unaskable)
  else Api.get call form (r.path ns? ++ "/" ++ name)

/-- Asks for an object. -/
def get (call : Call m) (r : ApiResource) (ns? : Option String) (name : String) :
    m (Except CallError ApiObject) :=
  getAs call ApiObject.wanted r ns? name

/-- Asks for all objects of a resource. -/
def list (call : Call m) (r : ApiResource) : m (Except CallError ApiList) :=
  Api.get call ApiList.wanted (r.path none)

/-- The query that opens a stream of events from a version on, for so many seconds. -/
def watchQuery (seconds : Nat) (version : String) : String :=
  Form.encode [("watch", "true"), ("timeoutSeconds", toString seconds),
    ("allowWatchBookmarks", "true"), ("resourceVersion", version)]

/-- The request that opens a stream of events from a version on, for so many seconds. -/
def watchRequest? (r : ApiResource) (seconds : Nat) (version : String) : Option HttpRequest :=
  HttpRequest.ofText? .get (r.path none ++ "?" ++ watchQuery seconds version) []

end ApiResource

/-- An event of a stream. -/
inductive WatchEvent where
  /-- An object is there. -/
  | added (object : ApiObject)
  /-- An object has changed. -/
  | modified (object : ApiObject)
  /-- An object is gone. -/
  | deleted (object : ApiObject)
  /-- All changes up to a version have been sent. -/
  | bookmark (version : String)
  /-- The server has failed. -/
  | failed (status : ApiStatus)
deriving Inhabited

namespace WatchEvent

open Json (Draft Flaw Written)

/-- The types of events. -/
def types : List String := ["ADDED", "MODIFIED", "DELETED", "BOOKMARK", "ERROR"]

/-- The shape of the metadata of a bookmark. -/
def bookmarkMeta : Shape :=
  .parts [("resourceVersion", true, .text), ("annotations", false, .map .text)]

/-- Reads a bookmark, which must say what it is. -/
def readBookmark (room : Nat) : Wanted String := fun draft => do
  let own (room : Nat) (key : String) : Option (Wanted Json) :=
    if key == "metadata" then some (bookmarkMeta.read room) else none
  let (owned, others) ← openObject room own draft
  let kind := others.filter fun (key, _) => key == "apiVersion" || key == "kind"
  match owned with
  | [(_, metadata)] =>
      if kind.length == 2 && kind.all (·.2.str?.isSome) && kind.head?.map (·.1) != kind.getLast?.map (·.1)
      then pure (textField "resourceVersion" metadata)
      else .error .malformed
  | _ => .error .malformed

/-- Reads the object of an event of a type. -/
def readObject (room : Nat) (type : String) : Wanted WatchEvent := fun draft =>
  match type with
  | "ADDED" => (ApiObject.read room draft).map .added
  | "MODIFIED" => (ApiObject.read room draft).map .modified
  | "DELETED" => (ApiObject.read room draft).map .deleted
  | "BOOKMARK" => (readBookmark room draft).map .bookmark
  | _ => (statusShape.read room draft).map fun j => .failed (statusOf j)

/-- A word that must be a type. -/
def knownType (word : String) : Except Flaw String :=
  if types.contains word then .ok word else .error .malformed

/-- Reads a type.  It may be the key of an object with one entry, which is `null`. -/
def readType (room : Nat) : Wanted String
  | .text written => do knownType (← written.value)
  | .obj entries flaw? => Draft.inside room fun _ => match entries with
      | [] => match flaw? with
          | some flaw => .error flaw
          | none => .error .malformed
      | (key, draft) :: entries => do
          let type ← knownType (← key.value)
          let value ← draft.value 0
          if !value.isNull || !entries.isEmpty then .error .malformed
          else do
            Draft.ended flaw?
            pure type
  | .broken flaw => .error flaw
  | _ => .error .malformed

/-- What is known of an event when part of it has been read. -/
inductive Progress where
  /-- Nothing. -/
  | start
  /-- Its type. -/
  | typed (type : String)
  /-- Its object. -/
  | object (draft : Draft)
  /-- All of it. -/
  | event (e : WatchEvent)

/-- What is known after the type. -/
def Progress.addType (room : Nat) (p : Progress) (draft : Draft) : Except Flaw Progress :=
  match p with
  | .start => do pure (.typed (← readType room draft))
  | .object held => do
      let type ← readType room draft
      pure (.event (← readObject room type held))
  | .typed _ | .event _ => .error .malformed

/-- What is known after the object.  An object in front of its type must be sound
throughout. -/
def Progress.addObject (room : Nat) (p : Progress) (draft : Draft) : Except Flaw Progress :=
  match p with
  | .start => do
      let _ ← draft.value room
      pure (.object draft)
  | .typed type => do pure (.event (← readObject room type draft))
  | .object _ | .event _ => .error .malformed

/-- What is known after the entries of an event. -/
def readEntries (room : Nat) (p : Progress) : List (Written × Draft) → Except Flaw Progress
  | [] => .ok p
  | (key, draft) :: entries => do
      let p ← match ← key.value with
        | "type" => p.addType room draft
        | "object" => p.addObject room draft
        | _ => do
            Draft.ended draft.flaw?
            pure p
      readEntries room p entries

/-- An event.  An array names its parts in order. -/
def wanted : Wanted WatchEvent
  | .obj entries flaw? => Draft.inside Json.maxDepth fun room => do
      let p ← readEntries room .start entries
      Draft.ended flaw?
      match p with
      | .event e => pure e
      | _ => .error .malformed
  | .arr items flaw? => Draft.inside Json.maxDepth fun room =>
      match items with
      | [] => do
          Draft.ended flaw?
          .error .malformed
      | type :: items => do
          let type ← readType room type
          match items with
          | [] => do
              Draft.ended flaw?
              .error .malformed
          | object :: items => do
              let e ← readObject room type object
              if !items.isEmpty then .error .malformed
              else do
                Draft.ended flaw?
                pure e
  | draft => do
      let _ ← draft.value 0
      .error .malformed

end WatchEvent

/-- What a line of a stream comes to. -/
inductive WatchLine where
  /-- An event. -/
  | event (e : WatchEvent)
  /-- A failure that is no event. -/
  | failure (e : CallError)
deriving Inhabited

namespace WatchLine

/-- What a line comes to.  One that stops too early comes to nothing. -/
def ofText? (line : String) : Option WatchLine :=
  match Json.Draft.readText WatchEvent.wanted line with
  | .ok e => some (.event e)
  | .error .unfinished => none
  | .error .malformed => match describedFailure? line with
      | some status => some (.failure (.status status))
      | none => some (.failure (.undecodable "the line is no event"))

/-- The parts of bytes between line ends. -/
def splitBytes : List UInt8 → List (List UInt8)
  | [] => [[]]
  | b :: bs =>
      if b == 0x0a then [] :: splitBytes bs
      else match splitBytes bs with
        | line :: lines => (b :: line) :: lines
        | [] => [[b]]

/-- The lines of bytes, without their ends.  The last one counts only if it is not
empty. -/
def split (bytes : List UInt8) : List (List UInt8) :=
  let parts := splitBytes bytes
  let parts := if parts.getLast? == some [] then parts.dropLast else parts
  parts.map fun line => if line.getLast? == some 0x0d then line.dropLast else line

/-- What the lines of a reply come to. -/
def ofReply (reply : HttpReply) : List WatchLine :=
  (split reply.body).filterMap fun line =>
    match Text.Utf8.decode? line with
    | some text => ofText? text
    | none => some (.failure (.undecodable "the line is no text"))

end WatchLine

end FleetGate
