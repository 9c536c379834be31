import FleetGate.Config.Loader
import FleetGate.Connection

/-!
# Command lines

The words of a command line name options.  Some take a value, as the next word or after
an equals sign, and some are switches.  What the command line does not say may be said by
a variable of the environment.

* Every option is given at most once.
* A value that is the next word does not look like an option itself.
* The value of a path is not empty.

What the command line says overrides every file: `override` applies it to settings.
-/

namespace FleetGate

open Config

/-- What a command line says. -/
structure CommandLine where
  /-- The main file of the configuration. -/
  config : Option String := none
  /-- The directory with further files of it. -/
  configDir : Option String := none
  /-- The kubeconfig. -/
  kubeconfig : Option String := none
  /-- The strategy. -/
  strategy : Option String := none
  /-- Whether the log is JSON. -/
  logJson : Bool := false
  /-- Whether every caller must have a token. -/
  requireOauth : Bool := false
deriving DecidableEq, Repr, Inhabited

/-- What a command line asks for. -/
inductive Command where
  /-- Running the gate. -/
  | run (line : CommandLine)
  /-- The version of the program. -/
  | version
  /-- The list of options. -/
  | help
deriving DecidableEq, Repr, Inhabited

/-- What is wrong with a command line. -/
inductive Misuse where
  /-- A word that has no place. -/
  | unexpected (word : String)
  /-- An option without its value. -/
  | missingValue (name : String)
  /-- A switch with a value. -/
  | unneededValue (name : String)
  /-- A value that is not allowed. -/
  | badValue (name value : String)
  /-- An option that is given again. -/
  | repeated (name : String)
deriving DecidableEq, Repr, Inhabited

/-- The wording of a misuse. -/
def Misuse.message : Misuse → String
  | .unexpected word => "unexpected argument " ++ Text.quoted word
  | .missingValue name => "a value is required for --" ++ name
  | .unneededValue name => "no value is allowed for --" ++ name
  | .badValue name value => "invalid value " ++ Text.quoted value ++ " for --" ++ name
  | .repeated name => "--" ++ name ++ " cannot be used multiple times"

/-- An option that takes a value. -/
inductive ValueOption where
  /-- The main file. -/
  | config
  /-- The directory with further files. -/
  | configDir
  /-- The kubeconfig. -/
  | kubeconfig
  /-- The strategy. -/
  | strategy
deriving DecidableEq, Repr, Inhabited

namespace ValueOption

/-- The name of an option. -/
def name : ValueOption → String
  | config => "config"
  | configDir => "config-dir"
  | kubeconfig => "kubeconfig"
  | strategy => "cluster-provider"

/-- Whether the value is a path, which is not empty. -/
def isPath : ValueOption → Bool
  | config | configDir => true
  | kubeconfig | strategy => false

/-- The variable that may say it instead. -/
def envName? : ValueOption → Option String
  | config => some "KMCP_CONFIG"
  | configDir => some "KMCP_CONFIG_DIR"
  | kubeconfig | strategy => none

/-- All of them. -/
def all : List ValueOption := [config, configDir, kubeconfig, strategy]

end ValueOption

/-- An option that is a switch. -/
inductive Switch where
  /-- Writes the log as JSON. -/
  | logJson
  /-- Requires tokens. -/
  | requireOauth
  /-- Asks for the list of options. -/
  | help
  /-- Asks for the version. -/
  | version
deriving DecidableEq, Repr, Inhabited

namespace Switch

/-- The name of a switch. -/
def name : Switch → String
  | logJson => "log-json"
  | requireOauth => "require-oauth"
  | help => "help"
  | version => "version"

/-- All of them. -/
def all : List Switch := [logJson, requireOauth, help, version]

/-- The switch of a letter. -/
def ofLetter? : Char → Option Switch
  | 'h' => some help
  | 'V' => some version
  | _ => none

end Switch

namespace CommandLine

/-- The text that names the version. -/
def versionText : String := ClientConfig.serverName ++ " " ++ ClientConfig.version ++ "\n"

/-- The variable that may ask for a log in JSON. -/
def logVariable : String := "KMCP_LOG_JSON"

/-- What is said for an option. -/
def value? (c : CommandLine) : ValueOption → Option String
  | .config => c.config
  | .configDir => c.configDir
  | .kubeconfig => c.kubeconfig
  | .strategy => c.strategy

/-- Says something for an option. -/
def setValue (o : ValueOption) (value : String) (c : CommandLine) :
    Except Misuse CommandLine :=
  if (c.value? o).isSome then .error (.repeated o.name)
  else if o.isPath && value.isEmpty then .error (.missingValue o.name)
  else .ok (match o with
    | .config => { c with config := some value }
    | .configDir => { c with configDir := some value }
    | .kubeconfig => { c with kubeconfig := some value }
    | .strategy => { c with strategy := some value })

/-! ## Words -/

/-- What a word looks like. -/
inductive Word where
  /-- The end of the options. -/
  | stop
  /-- An option by its name, and the value after an equals sign. -/
  | long (name : String) (value : Option String)
  /-- An option by a letter. -/
  | short (letter : Char)
  /-- Anything else. -/
  | plain
deriving DecidableEq, Repr, Inhabited

/-- A text and what comes after an equals sign in it. -/
def splitValue (cs : List Char) : String × Option String :=
  match cs.span (· != '=') with
  | (name, []) => (String.ofList name, none)
  | (name, _ :: value) => (String.ofList name, some (String.ofList value))

/-- What a word looks like. -/
def Word.ofText (word : String) : Word :=
  match word.toList with
  | ['-', '-'] => .stop
  | '-' :: '-' :: rest =>
      let (name, value) := splitValue rest
      .long name value
  | '-' :: letter :: _ => .short letter
  | _ => .plain

/-- Whether a word may be the value of the option before it. -/
def Word.mayBeValue : Word → Bool
  | .plain => true
  | _ => false

/-- Reads words on top of what was said before. -/
def read (c : CommandLine) : List String → Except Misuse Command
  | [] => .ok (.run c)
  | word :: rest =>
      match Word.ofText word with
      | .plain => .error (.unexpected word)
      | .stop => match rest with
          | [] => .ok (.run c)
          | extra :: _ => .error (.unexpected extra)
      | .short letter => match Switch.ofLetter? letter with
          | some .help => .ok .help
          | some .version => .ok .version
          | _ => .error (.unexpected word)
      | .long name value => match Switch.all.find? (·.name == name) with
          | some switch =>
              if value.isSome then .error (.unneededValue name)
              else match switch with
                | .help => .ok .help
                | .version => .ok .version
                | .logJson =>
                    if c.logJson then .error (.repeated name)
                    else read { c with logJson := true } rest
                | .requireOauth =>
                    if c.requireOauth then .error (.repeated name)
                    else read { c with requireOauth := true } rest
          | none => match ValueOption.all.find? (·.name == name) with
              | none => .error (.unexpected word)
              | some o => match value, rest with
                  | some text, rest => do read (← c.setValue o text) rest
                  | none, [] => .error (.missingValue name)
                  | none, text :: rest =>
                      if (Word.ofText text).mayBeValue then do read (← c.setValue o text) rest
                      else .error (.missingValue name)

/-! ## Variables -/

/-- Takes over what a variable says for an option. -/
def addVariable (vars : String → Option String) (c : CommandLine) (o : ValueOption) :
    Except Misuse CommandLine :=
  match c.value? o, o.envName?.bind vars with
  | none, some value => c.setValue o value
  | _, _ => .ok c

/-- Takes over what a variable says of the log. -/
def addLogVariable (vars : String → Option String) (c : CommandLine) :
    Except Misuse CommandLine :=
  if c.logJson then .ok c
  else match vars logVariable with
    | none | some "false" => .ok c
    | some "true" => .ok { c with logJson := true }
    | some value => .error (.badValue Switch.logJson.name value)

/-- Takes over what variables say. -/
def addVariables (vars : String → Option String) (c : CommandLine) :
    Except Misuse CommandLine := do
  (← ValueOption.all.foldlM (addVariable vars) c).addLogVariable vars

end CommandLine

/-- Reads a command line. -/
def Command.read (vars : String → Option String) (words : List String) :
    Except Misuse Command := do
  match ← CommandLine.read {} words with
  | .run c => return .run (← c.addVariables vars)
  | command => return command

namespace CommandLine

/-- The list of options. -/
def helpText : String :=
  "Usage: " ++ ClientConfig.serverName ++ " [OPTIONS]\n\nOptions:\n" ++
  String.join (ValueOption.all.map fun o => "      --" ++ o.name ++ " <VALUE>" ++
    (match o.envName? with
      | some v => " [env: " ++ v ++ "]\n"
      | none => "\n")) ++
  String.join (Switch.all.map fun s => "      --" ++ s.name ++ "\n")

/-- The settings as the command line wants them. -/
def override (c : CommandLine) (s : Settings) : Settings :=
  { s with
    kubeconfig := c.kubeconfig.or s.kubeconfig
    strategy := c.strategy.or s.strategy
    requireOauth := c.requireOauth || s.requireOauth }

/-- Loads the settings from files as they are now. -/
def settings [Complaint] (c : CommandLine) (fs : Files) : Except ConfigError Settings := do
  let loader : Loader := ⟨Registries.full, {}⟩
  return c.override (← loader.read fs c.config c.configDir)

end CommandLine

end FleetGate
