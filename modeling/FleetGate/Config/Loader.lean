import FleetGate.Config.Settings
import FleetGate.Files
import FleetGate.Toml.Document

/-!
# Loading a configuration

A configuration is a stack of layers.  The lowest is the defaults or the
overrides of a build.  Above it lies the main file, and above that the files of
a drop-in directory in byte order of their names.  A drop-in file is one whose
name ends in `.toml` and does not begin with a dot.  The merged document is
decoded once, and then the typed tables are read.
-/

namespace FleetGate.Config

/-- What the reader of TOML says of a text that is no TOML.  Its wording is its own, and it may be
any. -/
class Complaint where
  /-- What is wrong with a text. -/
  of : String → String

/-- What a configuration is loaded with. -/
structure Loader where
  /-- The readers of tables. -/
  registries : Registries
  /-- The lowest layer. -/
  base : Settings := {}

namespace Loader

variable [Complaint]

/-- A document that must be TOML. -/
def parseDocument (origin content : String) : Except ConfigError Toml :=
  match Toml.parse? content with
  | some t => .ok t
  | none => .error (.unparsable origin (Complaint.of content))

/-- The settings of the merged document. -/
def finish (l : Loader) (merged : Toml) (origin : Origin) : Except ConfigError Settings :=
  match Settings.decodePlain merged with
  | .error e => .error (.unparsable "merged config" e.message)
  | .ok s => s.resolveTables l.registries origin

/-- The settings of a document without a place. -/
def readText (l : Loader) (content : String) : Except ConfigError Settings := do
  let document ← parseDocument "inline" content
  l.finish (Toml.merge l.base.toToml document) none

/-- A file that must be TOML. -/
def readDocument (fs : Files) (path : String) : Except ConfigError Toml :=
  match fs.read path with
  | .error e => .error (.unreadable path e.message)
  | .ok content => parseDocument path content

/-- Whether a name in a drop-in directory is that of a layer. -/
def isDropIn (name : String) : Bool :=
  name.toList.head? != some '.' && ".toml".toList.isSuffixOf name.toList

/-- The files of a drop-in directory, in byte order of their names.  A directory that does not
exist has none. -/
def dropIns (fs : Files) (dir : String) : Except ConfigError (List String) :=
  if !fs.doesExist dir then .ok []
  else match fs.list dir with
    | .error e => .error (.unreadable dir e.message)
    | .ok names =>
        let found := (names.filter isDropIn).filter fun name => fs.isFile (Path.join dir name)
        .ok ((found.mergeSort fun a b => a < b || a == b).map (Path.join dir))

/-- Lays files over a document, in order. -/
def layer (fs : Files) (merged : Toml) : List String → Except ConfigError Toml
  | [] => .ok merged
  | path :: paths =>
      match readDocument fs path with
      | .error e => .error e
      | .ok document => layer fs (Toml.merge merged document) paths

/-- Where relative paths start from: the directory of the main file, else the
drop-in directory. -/
def originOf (fs : Files) (main dropInDir : Option String) : Origin :=
  ((main.map Path.directory).or dropInDir).map (Path.absolute fs.workingDir)

/-- The settings of a main file and a drop-in directory. -/
def read (l : Loader) (fs : Files) (main dropInDir : Option String) :
    Except ConfigError Settings := do
  let merged ← layer fs l.base.toToml main.toList
  let files ← match dropInDir with
    | some dir => dropIns fs dir
    | none => pure []
  let merged ← layer fs merged files
  l.finish merged (originOf fs main dropInDir)

end Loader

end FleetGate.Config
