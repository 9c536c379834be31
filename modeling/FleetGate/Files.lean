import FleetGate.Path

/-!
# Files

What the gate reads from disk is a value: a tree of directories and files, and a
working directory in it.  Paths are followed one component at a time, as a file
system does, so `missing/../file` does not exist although `file` does.
-/

namespace FleetGate

/-- Why a file could not be read. -/
inductive FileError where
  /-- There is nothing at the path. -/
  | notFound
  /-- The path leads through something that is no directory, or ends in a slash
  after a file. -/
  | notDirectory
  /-- The path is a directory. -/
  | isDirectory
  /-- The path holds a null character. -/
  | badName
deriving DecidableEq, Repr, Inhabited

/-- The wording of a file error. -/
def FileError.message : FileError → String
  | .notFound => "No such file or directory (os error 2)"
  | .notDirectory => "Not a directory (os error 20)"
  | .isDirectory => "Is a directory (os error 21)"
  | .badName => "file name contained an unexpected NUL byte"

/-- Files and a working directory. -/
structure Files where
  /-- The absolute path of the working directory. -/
  workingDir : String
  /-- The content of each file, or none for a directory, by the components of its
  path from the root. -/
  entries : List (List String × Option String)
deriving Repr, Inhabited

namespace Files

/-- What a path leads to. -/
inductive Node where
  /-- A directory. -/
  | directory
  /-- A file and its content. -/
  | file (content : String)
deriving DecidableEq, Repr, Inhabited

/-- No files at all. -/
def nothing : Files := ⟨"/", []⟩

/-- The components of the working directory. -/
def base (fs : Files) : List String := Path.components fs.workingDir

/-- The components of a path from the root. -/
def place (fs : Files) (p : String) : List String :=
  if Path.isAbsolute p then Path.components p else fs.base ++ Path.components p

/-- What stands at a place given by its components from the root.  The places
above an entry are directories. -/
def nodeAt? (fs : Files) (place : List String) : Option Node :=
  if place.isPrefixOf fs.base then some .directory
  else
    match fs.entries.find? fun (path, content) => path == place && content.isSome with
    | some (_, some content) => some (.file content)
    | _ =>
        if fs.entries.any fun (path, _) => place.isPrefixOf path then some .directory else none

/-- Follows components from a directory. -/
def follow (fs : Files) : List String → List String → Except FileError (List String)
  | place, [] => .ok place
  | place, part :: parts =>
      match fs.nodeAt? place with
      | none => .error .notFound
      | some (.file _) => .error .notDirectory
      | some .directory =>
          if part == ".." then fs.follow place.dropLast parts
          else fs.follow (place ++ [part]) parts

/-- Whether the end of a path says that it is a directory. -/
def wantsDirectory (p : String) : Bool :=
  Path.endsInSlash p || (Path.split p).getLast? == some "."

/-- What a path leads to. -/
def node (fs : Files) (p : String) : Except FileError Node :=
  if p.isEmpty then .error .notFound
  else if p.toList.contains '\x00' then .error .badName
  else
    match fs.follow (if Path.isAbsolute p then [] else fs.base) (Path.components p) with
    | .error e => .error e
    | .ok place =>
        match fs.nodeAt? place with
        | none => .error .notFound
        | some (.file content) =>
            if wantsDirectory p then .error .notDirectory else .ok (.file content)
        | some .directory => .ok .directory

/-- The content of a file. -/
def read (fs : Files) (p : String) : Except FileError String :=
  match fs.node p with
  | .ok (.file content) => .ok content
  | .ok .directory => .error .isDirectory
  | .error e => .error e

/-- Whether a path leads to a file. -/
def isFile (fs : Files) (p : String) : Bool :=
  match fs.node p with
  | .ok (.file _) => true
  | _ => false

/-- Whether a path leads to anything. -/
def doesExist (fs : Files) (p : String) : Bool := (fs.node p).toBool

/-- The names in a directory, in no order of their own. -/
def list (fs : Files) (p : String) : Except FileError (List String) :=
  match fs.node p with
  | .error e => .error e
  | .ok (.file _) => .error .notDirectory
  | .ok .directory =>
      match fs.follow (if Path.isAbsolute p then [] else fs.base) (Path.components p) with
      | .error e => .error e
      | .ok place =>
          let names := fs.entries.filterMap fun (path, _) =>
            if place.isPrefixOf path then path[place.length]? else none
          .ok names.eraseDups

/-- The files with another entry for a path: a file with its content, or a directory. -/
def put (fs : Files) (p : String) (content : Option String) : Files :=
  let place := fs.place p
  { fs with entries := (place, content) :: fs.entries.filter (·.1 != place) }

/-- The files with more at the end of one of them. -/
def append (fs : Files) (p more : String) : Files :=
  match fs.read p with
  | .ok content => fs.put p (some (content ++ more))
  | .error _ => fs.put p (some more)

end Files

end FleetGate
