import FleetGate.Config.Loader
import Mathlib.Tactic.SplitIfs

/-!
# Where a configuration is

A document means the same in a file and without a place, but for the certificates that it names by
relative paths: in a file these are found from its directory (`Settings.located`).  No reader and
no check looks at such a path, only at whether there is one, so that a table that is refused in one
place is refused in the other with the same words (`resolve_located`).
-/

namespace FleetGate

namespace Path

variable {dir p workingDir : String}

theorem isAbsolute_append (h : isAbsolute dir = true) (p : String) :
    isAbsolute (dir ++ p) = true := by
  unfold isAbsolute at h ⊢
  rw [String.toList_append]
  cases hdir : dir.toList with
  | nil => rw [hdir] at h; cases h
  | cons c cs => rwa [hdir] at h

/-- A path that starts from the root does so with anything joined to it. -/
theorem isAbsolute_join (h : isAbsolute dir = true) (p : String) :
    isAbsolute (join dir p) = true := by
  unfold join
  split_ifs with hp
  · exact hp
  · exact isAbsolute_append h p
  · exact isAbsolute_append (isAbsolute_append h "/") p

theorem isAbsolute_foldl_join (h : isAbsolute dir = true) (parts : List String) :
    isAbsolute (parts.foldl join dir) = true := by
  induction parts generalizing dir with
  | nil => exact h
  | cons part parts ih => exact ih (isAbsolute_join h part)

/-- From an absolute directory every path is found from the root. -/
theorem isAbsolute_absolute (h : isAbsolute workingDir = true) (hp : p.isEmpty = false) :
    isAbsolute (absolute workingDir p) = true := by
  have hslash : isAbsolute "/" = true := by decide
  have hslashes : isAbsolute "//" = true := by decide
  unfold absolute
  rw [if_neg (by rw [hp]; exact Bool.false_ne_true)]
  extract_lets base whole
  have hbase : isAbsolute base = true := by
    unfold base
    split
    · exact h
    · split <;> assumption
  have hwhole : isAbsolute whole = true := isAbsolute_foldl_join hbase _
  split
  · exact isAbsolute_append hwhole "/"
  · exact hwhole

theorem isEmpty_directory (p : String) : (directory p).isEmpty = false := by
  unfold directory
  split
  · split_ifs with hdir
    · rfl
    · simpa using hdir
  · rfl

end Path

namespace Config

open FleetGate.Path

variable {α : Type} {dir : String}

/-- Where something is that a configuration in a directory names. -/
def located (dir path : String) : String :=
  if isAbsolute path then path else join dir path

/-- In a directory, paths are found from there. -/
theorem resolvePath_eq_located (dir : String) : resolvePath (some dir) = located dir := by
  funext path
  unfold resolvePath located
  split_ifs with h
  · exact if_pos h
  · rfl

theorem resolvePath_none : resolvePath none = id := rfl

/-- The table of a hub in a directory. -/
def Hub.located (dir : String) (c : Hub) : Hub :=
  { c with authorityFile := c.authorityFile.map (Config.located dir) }

/-- The table of a Kiali server in a directory. -/
def Kiali.located (dir : String) (c : Kiali) : Kiali :=
  { c with authority := c.authority.map (Config.located dir) }

/-- Settings in a directory: the certificates in the typed tables are found from there, and
everything else is the same. -/
def Settings.located (dir : String) (s : Settings) : Settings :=
  { s with
    hubs := s.hubs.map fun (name, c) => (name, c.located dir)
    kialis := s.kialis.map fun (name, c) => (name, c.located dir) }

/-- A failure in a file, where a document without a place fails. -/
def inFile (path : String) : ConfigError → ConfigError
  | .unparsable "inline" reason => .unparsable path reason
  | e => e

/-- The readers are those of hubs and of Kiali servers, by whatever names. -/
structure Registries.Known (r : Registries) : Prop where
  providers : ∀ named ∈ r.providers.readers, named.2 = Hub.reader
  toolsets : ∀ named ∈ r.toolsets.readers, named.2 = Kiali.reader

theorem Registries.known_common : Registries.common.Known where
  providers := List.forall_mem_nil _
  toolsets := List.forall_mem_singleton.mpr rfl

theorem Registries.known_full : Registries.full.Known where
  providers := List.forall_mem_cons.mpr ⟨rfl, List.forall_mem_singleton.mpr rfl⟩
  toolsets := Registries.known_common.toolsets

variable {reader : TableReader α} {move : α → α}

/-- A table is read in a directory as it is without a place, and what was read is then moved. -/
def TableReader.Moves (reader : TableReader α) (move : α → α) (dir : String) : Prop :=
  ∀ t, TableRegistry.readTable reader (some dir) t =
    (TableRegistry.readTable reader none t).map move

/-- It is enough that the check does not notice the move. -/
theorem TableReader.moves
    (hread : ∀ t, reader.read (some dir) t = (reader.read none t).map move)
    (hcheck : ∀ a, reader.check (move a) = reader.check a) : reader.Moves move dir := fun t => by
  unfold TableRegistry.readTable
  rw [hread]
  cases reader.read none t with
  | error reason => rfl
  | ok a =>
    show (reader.check (move a) >>= fun _ => pure (move a)) =
      (reader.check a >>= fun _ => pure a).map move
    rw [hcheck]
    cases reader.check a <;> rfl

/-- The table of a hub is moved with the file of its authorities. -/
theorem hub_moves (dir : String) : Hub.reader.Moves (Hub.located dir) dir := by
  refine TableReader.moves (fun t => ?_) fun c => ?_
  · dsimp only [Hub.reader, Hub.read]
    cases Hub.decode t with
    | error e => rfl
    | ok c =>
      dsimp only [Except.map, Hub.located]
      rw [resolvePath_eq_located, resolvePath_none, Option.map_id]
      rfl
  · dsimp only [Hub.reader, Hub.check, Hub.located]
    rw [Option.isNone_map]

/-- The table of a Kiali server is moved with its authority. -/
theorem kiali_moves (dir : String) : Kiali.reader.Moves (Kiali.located dir) dir := by
  refine TableReader.moves (fun t => ?_) fun c => ?_
  · dsimp only [Kiali.reader, Kiali.read]
    cases Kiali.decode t with
    | error e => rfl
    | ok c =>
      dsimp only [Except.map, Kiali.located]
      rw [resolvePath_eq_located, resolvePath_none, Option.map_id]
      rfl
  · dsimp only [Kiali.reader, Kiali.check, Kiali.located]
    rw [Option.isNone_map]

/-- Tables are refused in a directory as they are without a place, and otherwise what was read of
each is moved. -/
theorem resolve_located {r : TableRegistry α}
    (h : ∀ named ∈ r.readers, named.2.Moves move dir)
    (tables : Fields Toml) :
    r.resolve (some dir) tables =
      (r.resolve none tables).map (List.map fun (name, a) => (name, move a)) := by
  induction tables with
  | nil => rfl
  | cons table tables ih =>
    obtain ⟨name, t⟩ := table
    rw [TableRegistry.resolve, TableRegistry.resolve]
    cases hreader : Fields.get? name r.readers with
    | none => exact ih
    | some reader =>
      dsimp only
      rw [h _ (Fields.mem_of_get? hreader) t, ih]
      cases TableRegistry.readTable reader none t with
      | error reason => rfl
      | ok a => cases r.resolve none tables <;> rfl

theorem resolveTables_located {r : Registries} (h : r.Known) (dir : String) (s : Settings) :
    s.resolveTables r (some dir) = (s.resolveTables r none).map (Settings.located dir) := by
  unfold Settings.resolveTables
  rw [resolve_located fun named hnamed => h.providers named hnamed ▸ hub_moves dir,
    resolve_located fun named hnamed => h.toolsets named hnamed ▸ kiali_moves dir]
  cases r.providers.resolve none s.providerTables with
  | error e => rfl
  | ok hubs =>
    cases r.toolsets.resolve none s.toolsetTables with
    | error e => rfl
    | ok kialis => rfl

/-! ## Failures -/

/-- Resolving tables fails with the name of a table. -/
theorem exists_badTable {r : TableRegistry α} {origin : Origin} {tables : Fields Toml}
    {e : ConfigError} (h : r.resolve origin tables = .error e) :
    ∃ name reason, e = .badTable r.kind name reason := by
  fun_induction TableRegistry.resolve r origin tables with
  | case1 => cases h
  | case2 name t tables _ ih => exact ih h
  | case3 name t tables reader _ reason _ =>
    cases h
    exact ⟨name, reason, rfl⟩
  | case4 name t tables reader _ a _ ih =>
    cases hrest : r.resolve origin tables with
    | error e' =>
      rw [hrest] at h
      cases h
      exact ih hrest
    | ok as =>
      rw [hrest] at h
      cases h

/-- One step after another fails if the first does, or the second after what the first gives. -/
theorem cases_of_bind_eq_error {ε β : Type} {x : Except ε α} {f : α → Except ε β} {e : ε}
    (h : (x >>= f) = .error e) : x = .error e ∨ ∃ a, x = .ok a ∧ f a = .error e := by
  cases x with
  | error e' =>
    cases h
    exact Or.inl rfl
  | ok a => exact Or.inr ⟨a, rfl, h⟩

namespace Loader

/-- A failure that comes after the merge does not name a document. -/
theorem inFile_of_finish {l : Loader} {merged : Toml} {origin : Origin} {e : ConfigError}
    (h : l.finish merged origin = .error e) (path : String) : inFile path e = e := by
  unfold finish at h
  split at h
  · cases h
    rfl
  · rcases cases_of_bind_eq_error h with hhubs | ⟨hubs, -, h⟩
    · obtain ⟨name, reason, rfl⟩ := exists_badTable hhubs
      rfl
    · rcases cases_of_bind_eq_error h with hkialis | ⟨kialis, -, h⟩
      · obtain ⟨name, reason, rfl⟩ := exists_badTable hkialis
        rfl
      · cases h

/-- What is finished in a directory is what is finished without a place, and then moved. -/
theorem finish_located {l : Loader} (h : l.registries.Known) (merged : Toml) (dir : String) :
    l.finish merged (some dir) = (l.finish merged none).map (Settings.located dir) := by
  unfold finish
  split
  · rfl
  · exact resolveTables_located h dir _

/-- The directory of a main file, from the root. -/
def directoryOf (fs : Files) (path : String) : String :=
  Path.absolute fs.workingDir (Path.directory path)

/-! ## A main file and its text -/

theorem read_eq_finish [Complaint] {l : Loader} {fs : Files} {path content : String}
    (h : fs.read path = .ok content) :
    l.read fs (some path) none = (do
      let document ← parseDocument path content
      l.finish (Toml.merge l.base.toToml document) (some (directoryOf fs path))) := by
  have hdocument : readDocument fs path = parseDocument path content := by
    rw [readDocument, h]
  unfold read
  rw [Option.toList, layer, hdocument]
  cases parseDocument path content with
  | error e => rfl
  | ok document => rfl

/-- A main file and its text have one document, so that only the place makes a difference. -/
theorem read_eq_readText [Complaint] {l : Loader} {fs : Files} {path content : String}
    (hknown : l.registries.Known) (h : fs.read path = .ok content) :
    l.read fs (some path) none = match l.readText content with
      | .error e => .error (inFile path e)
      | .ok s => .ok (s.located (directoryOf fs path)) := by
  rw [read_eq_finish h, readText, parseDocument, parseDocument]
  cases Toml.parse? content with
  | none => rfl
  | some document =>
    refine (finish_located hknown _ _).trans ?_
    cases hfinish : l.finish (Toml.merge l.base.toToml document) none with
    | error e =>
      have hread : (Except.ok document >>= fun document =>
          l.finish (Toml.merge l.base.toToml document) none) = .error e := hfinish
      simp only [hread, inFile_of_finish hfinish, Except.map]
    | ok s =>
      have hread : (Except.ok document >>= fun document =>
          l.finish (Toml.merge l.base.toToml document) none) = .ok s := hfinish
      simp only [hread, Except.map]

end Loader

/-- A main file without drop-ins is read as its text is without a place: it is refused with the
same words, up to the name of the document, or it gives the same settings, with the certificates
found from the directory of the file. -/
theorem file_reads_like_its_text [Complaint] :
    Registries.common.Known ∧ Registries.full.Known ∧
    ∀ (l : Loader) (fs : Files) (path content : String), l.registries.Known →
      fs.read path = .ok content →
      (isAbsolute fs.workingDir = true → isAbsolute (Loader.directoryOf fs path) = true) ∧
      (∀ e, l.readText content = .error e →
        l.read fs (some path) none = .error (inFile path e)) ∧
      (∀ s, l.readText content = .ok s →
        l.read fs (some path) none = .ok (s.located (Loader.directoryOf fs path))) := by
  refine ⟨Registries.known_common, Registries.known_full, fun l fs path content hknown hread =>
    ⟨fun h => isAbsolute_absolute h (isEmpty_directory path), fun e h => ?_, fun s h => ?_⟩⟩
  · rw [Loader.read_eq_readText hknown hread, h]
  · rw [Loader.read_eq_readText hknown hread, h]

/-- A document that names a certificate by a relative path. -/
def kialiText : String :=
  "[toolset_configs.kiali]\nurl = \"https://kiali\"\ncertificate_authority = \"ca.pem\"\n"

/-- A document in a directory. -/
def gateFiles (content : String) : Files := ⟨"/w", [(["w", "conf", "gate.toml"], some content)]⟩

/-- What the document says when its certificate is at a path. -/
def kialiAt (path : String) : Fields Kiali := [("kiali", ⟨"https://kiali", false, some path⟩)]

/-- A text that is no TOML, and one that names a certificate by a relative path. -/
theorem file_reads_like_its_text_kiali :
    letI : Complaint := ⟨fun content => content ++ " is no TOML"⟩
    isAbsolute (Loader.directoryOf (gateFiles kialiText) "conf/gate.toml") = true ∧
    (⟨Registries.full, {}⟩ : Loader).read (gateFiles "=") (some "conf/gate.toml") none =
      .error (.unparsable "conf/gate.toml" "= is no TOML") ∧
    ∃ s s', (⟨Registries.full, {}⟩ : Loader).readText kialiText = .ok s ∧
      (⟨Registries.full, {}⟩ : Loader).read (gateFiles kialiText) (some "conf/gate.toml") none =
        .ok s' ∧
      s.kialis = kialiAt "ca.pem" ∧ s'.kialis = kialiAt "/w/conf/ca.pem" := by
  let _ : Complaint := ⟨fun content => content ++ " is no TOML"⟩
  obtain ⟨-, hknown, hfile⟩ := file_reads_like_its_text
  obtain ⟨hdir, -, hread⟩ := hfile ⟨Registries.full, {}⟩ (gateFiles kialiText) "conf/gate.toml"
    kialiText hknown rfl
  obtain ⟨-, hrefused, -⟩ := hfile ⟨Registries.full, {}⟩ (gateFiles "=") "conf/gate.toml" "="
    hknown rfl
  have hbroken : (⟨Registries.full, {}⟩ : Loader).readText "=" =
      .error (.unparsable "inline" "= is no TOML") := by
    have hparse : Toml.parse? "=" = none := Option.isNone_iff_eq_none.mp (by decide +kernel)
    rw [Loader.readText, Loader.parseDocument, hparse]
    rfl
  refine ⟨hdir (by decide), hrefused _ hbroken, ?_⟩
  have hkialis : ((⟨Registries.full, {}⟩ : Loader).readText kialiText).toOption.map (·.kialis) =
      some (kialiAt "ca.pem") := by decide +kernel
  cases htext : (⟨Registries.full, {}⟩ : Loader).readText kialiText with
  | error e =>
    rw [htext] at hkialis
    cases hkialis
  | ok s =>
    rw [htext] at hkialis
    have hs : s.kialis = kialiAt "ca.pem" := Option.some.inj hkialis
    refine ⟨s, _, rfl, hread s htext, hs, ?_⟩
    have hmoved : (kialiAt "ca.pem").map (fun (name, c) =>
        (name, c.located (Loader.directoryOf (gateFiles kialiText) "conf/gate.toml"))) =
        kialiAt "/w/conf/ca.pem" := by decide
    rw [← hmoved, ← hs]
    rfl

end Config

end FleetGate
