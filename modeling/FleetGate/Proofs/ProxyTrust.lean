import FleetGate.Proofs.Decoding
import FleetGate.Proofs.HubLives
import FleetGate.Proofs.Targets
import FleetGate.Report.Settings

/-!
# Trust in the proxy of a hub

A cluster of a hub is reached through the hub's proxy, and the table of the hub says how the
proxy's certificate is checked.  What the table says must come through to every client that calls
such a cluster.

* `Config.Hub.ReadOff` is what the table says key by key, and `Config.Hub.settle` what is kept of
  it: empty names are dropped and a file is found from where the configuration is.
* `Config.Loader.Accepts` are the configurations that are read, from files or from a text.  The
  table of an accepted configuration was read off, settled and checked (`settles_of_accepts`).
* `Connection.ChecksProxy` is what the table asks of a connection.  Every connection to a cluster
  has it, that of the gate itself and those of callers (`spokes_check_their_proxy`).
-/

namespace FleetGate

open Runs (run)
open Toml (Decoder)

/-! ## The table as it is written -/

namespace Config

/-- What a table says of the proxy of a hub, key by key. -/
structure Hub.ReadOff (c : Hub) (entries : Fields Toml) : Prop where
  host : Decoder.Reads (Decoder.some? Decoder.text) none
    (Fields.get? "cluster_proxy_addon_host" entries) c.proxyHost
  skip : Decoder.Reads Decoder.bool false
    (Fields.get? "cluster_proxy_addon_skip_tls_verify" entries) c.skipVerify
  file : Decoder.Reads (Decoder.some? Decoder.text) none
    (Fields.get? "cluster_proxy_addon_ca_file" entries) c.authorityFile

/-- What a table says is read off its entries, and what they leave out has the default. -/
theorem Hub.readOff_of_decode {entries : Fields Toml} {c : Hub} (hs : Fields.Sorted entries)
    (h : Hub.decode (.table entries) = .ok c) : c.ReadOff entries := by
  refine ⟨Decoder.Part.reads_record proxyHost ?_ hs h, Decoder.Part.reads_record skipVerify ?_ hs h,
    Decoder.Part.reads_record authorityFile ?_ hs h⟩
  · refine .head (fun _ _ => rfl) ?_
    repeat refine List.forall_mem_cons.mpr ⟨Decoder.spares_field fun _ _ => rfl, ?_⟩
    exact List.forall_mem_nil _
  · refine .tail (by decide) (fun _ _ => rfl) (.head (fun _ _ => rfl) ?_)
    repeat refine List.forall_mem_cons.mpr ⟨Decoder.spares_field fun _ _ => rfl, ?_⟩
    exact List.forall_mem_nil _
  · refine .tail (by decide) (fun _ _ => rfl) (.tail (by decide) (fun _ _ => rfl)
      (.head (fun _ _ => rfl) ?_))
    repeat refine List.forall_mem_cons.mpr ⟨Decoder.spares_field fun _ _ => rfl, ?_⟩
    exact List.forall_mem_nil _

/-- What is kept of a table: empty names count as none, and a file is found from where the
configuration is. -/
def Hub.settle (origin : Origin) (written : Hub) : Hub :=
  { written with
    proxyHost := written.proxyHost.filter (!·.isEmpty)
    authorityFile := (written.authorityFile.filter (!·.isEmpty)).map (resolvePath origin) }

/-- A table that is read was decoded, settled and checked. -/
theorem Hub.exists_of_readTable {origin : Origin} {t : Toml} {c : Hub}
    (h : TableRegistry.readTable Hub.reader origin t = .ok c) :
    ∃ written, Hub.decode t = .ok written ∧ c = written.settle origin ∧ c.check = .ok () := by
  obtain ⟨read, hread, h⟩ := exists_of_bind_eq_ok h
  obtain ⟨_, hcheck, h⟩ := exists_of_bind_eq_ok h
  cases h
  dsimp only [Hub.reader, Hub.read] at hread
  cases hdecode : Hub.decode t with
  | error e =>
    rw [hdecode] at hread
    cases hread
  | ok written =>
    rw [hdecode] at hread
    exact ⟨written, rfl, (Except.ok.inj hread).symm, hcheck⟩

/-- A checked table that names a proxy and wants its certificate looked at names a file. -/
theorem Hub.isSome_authorityFile_of_check {c : Hub} (h : c.check = .ok ())
    (hhost : c.proxyHost.any (!·.isEmpty) = true) (hskip : c.skipVerify = false) :
    c.authorityFile.isSome = true := by
  rw [Hub.check] at h
  split at h
  · cases h
  · next hcond => simpa [hhost, hskip, Option.isSome_iff_ne_none] using hcond

/-! ## Configurations that are read -/

/-- What the table of a strategy says as it is written.  A table that is missing says nothing. -/
def Settings.Writes (s : Settings) (strategy : String) (written : Hub) : Prop :=
  match Fields.get? strategy s.providerTables with
  | some t => Hub.decode t = .ok written
  | none => written = {}

/-- A configuration that is read: from a main file and a drop-in directory, or from a text. -/
inductive Loader.Accepts [Complaint] (l : Loader) : Origin → Settings → Prop where
  | files {fs : Files} {main dropInDir : Option String} {s : Settings} :
      l.read fs main dropInDir = .ok s → l.Accepts (Loader.originOf fs main dropInDir) s
  | text {content : String} {s : Settings} : l.readText content = .ok s → l.Accepts none s

/-- The table of a strategy was read off, settled and checked. -/
def Settings.Settles (s : Settings) (strategy : String) (origin : Origin) (written : Hub) : Prop :=
  s.Writes strategy written ∧ (s.hub? strategy).getD {} = written.settle origin ∧
    (written.settle origin).check = .ok ()

variable {l : Loader} {origin : Origin} {strategy : String} {s : Settings}

theorem settles_of_finish {merged : Toml}
    (hreader : Fields.get? strategy l.registries.providers.readers = some Hub.reader)
    (h : l.finish merged origin = .ok s) : ∃ written, s.Settles strategy origin written := by
  unfold Loader.finish at h
  split at h
  · cases h
  · next plain _ =>
    obtain ⟨hubs, hhubs, h⟩ := exists_of_bind_eq_ok h
    obtain ⟨kialis, -, h⟩ := exists_of_bind_eq_ok h
    cases h
    have hfound := TableRegistry.get?_of_resolve hreader hhubs
    unfold Settings.Settles Settings.Writes
    dsimp only [Settings.hub?]
    cases htable : Fields.get? strategy plain.providerTables with
    | none =>
      rw [htable] at hfound
      rw [hfound]
      exact ⟨{}, rfl, rfl, rfl⟩
    | some t =>
      rw [htable] at hfound
      obtain ⟨c, hc, hget⟩ := hfound
      obtain ⟨written, hdecode, rfl, hcheck⟩ := Hub.exists_of_readTable hc
      rw [hget]
      exact ⟨written, hdecode, rfl, hcheck⟩

/-- So it is in every configuration that is accepted. -/
theorem settles_of_accepts [Complaint]
    (hreader : Fields.get? strategy l.registries.providers.readers = some Hub.reader)
    (h : l.Accepts origin s) : ∃ written, s.Settles strategy origin written := by
  cases h with
  | files h =>
    rw [Loader.read_eq] at h
    obtain ⟨docs, -, h⟩ := exists_of_bind_eq_ok h
    exact settles_of_finish hreader h
  | text h =>
    obtain ⟨document, -, h⟩ := exists_of_bind_eq_ok h
    exact settles_of_finish hreader h

end Config

open Config

/-! ## Connections to clusters -/

/-- The blocks of the file of authorities that a table names.  There is at least one. -/
def Config.Hub.Trusts (written : Config.Hub) (origin : Origin) (fs : Files) (blocks : List Pem) :
    Prop :=
  ∃ path text, written.authorityFile = some path ∧ path ≠ "" ∧
    fs.read (resolvePath origin path) = .ok text ∧ Pem.blocks? text = some blocks ∧ blocks ≠ []

/-- A connection checks the certificate of the proxy as a table says.  Certificates are looked at
unless the table says otherwise.  If a file of authorities is named, or a proxy is, then the
authorities are those of the file and no others. -/
structure Connection.ChecksProxy (c : Connection) (written : Config.Hub) (origin : Origin)
    (fs : Files) : Prop where
  insecure_eq : c.insecure = written.skipVerify
  of_file {path : String} : c.insecure = false → written.authorityFile = some path → path ≠ "" →
    ∃ blocks, written.Trusts origin fs blocks ∧ c.authorities = some (blocks.map (·.contents))
  of_host {host : String} : c.insecure = false → written.proxyHost = some host → host ≠ "" →
    ∃ blocks, written.Trusts origin fs blocks ∧ c.authorities = some (blocks.map (·.contents))

/-- What the clients of a manager are made from: its own, and those that are derived for
callers. -/
inductive Manager.Uses (g : Manager) : ClientConfig → Prop where
  | own : g.Uses g.config
  | derived (token : String) (userAgent : Option String) :
      g.Uses (g.config.derive token userAgent)

/-- The connections of callers check the proxy as that of the gate does. -/
theorem Manager.Uses.checksProxy {g : Manager} {c : ClientConfig} {written : Config.Hub}
    {fs : Files} {origin : Origin} (h : g.Uses c)
    (hown : g.config.connection.ChecksProxy written origin fs) :
    c.connection.ChecksProxy written origin fs := by
  cases h with
  | own => exact hown
  -- a caller's token takes the place of the credentials, and of nothing else
  | derived token userAgent => exact ⟨hown.insecure_eq, hown.of_file, hown.of_host⟩

namespace Manager

variable {env : Environment} {settings : Settings} {validators : List ValidatorKind} {g : Manager}

theorem settings_of_connect {fs : Files} {config : ClientConfig} {k : Kubeconfig}
    (h : connect fs settings validators config k = .ok g) : g.settings = settings := by
  obtain ⟨c, -, h⟩ := exists_of_bind_eq_ok h
  cases h
  rfl

theorem settings_of_load {path? : Option String} (h : load env settings validators path? = .ok g) :
    g.settings = settings := by
  obtain ⟨k, -, h⟩ := exists_of_bind_eq_ok h
  obtain ⟨connection, -, h⟩ := exists_of_bind_eq_ok h
  obtain ⟨built, hbuilt, h⟩ := exists_of_bind_eq_ok h
  have hsettings := settings_of_connect (eq_ok_of_mapError hbuilt)
  cases h
  exact hsettings

theorem settings_of_ofPod (h : ofPod env settings validators = .ok g) : g.settings = settings := by
  obtain ⟨connection, -, h⟩ := exists_of_bind_eq_ok h
  obtain ⟨built, hbuilt, h⟩ := exists_of_bind_eq_ok h
  have hsettings := settings_of_connect (eq_ok_of_mapError hbuilt)
  cases h
  exact hsettings

end Manager

namespace HubProvider

/-- A manager of a cluster: one that is made for it, or one that was made earlier and is
seated. -/
inductive Spoke (p : HubProvider) (cluster : String) (g : Manager) : Prop where
  | made : p.build cluster = .ok g → p.Spoke cluster g
  | seated {xs : List Happening} :
      Life xs p → p.topology.held? cluster = some g → p.Spoke cluster g

variable {p : HubProvider} {cluster : String} {g : Manager} {fs : Files} {path : String}

theorem Spoke.exists_build (h : p.Spoke cluster g) :
    ∃ built, p.build cluster = .ok built ∧ g.config = built.config := by
  cases h with
  | made h => exact ⟨g, h, rfl⟩
  | seated hlife hheld =>
    obtain ⟨built, hbuilt, hmake⟩ := hlife.fits cluster g hheld
    exact ⟨built, hbuilt, hmake.config_eq⟩

/-- The authorities of a file are its blocks, and it is an error if there are none. -/
theorem readAuthorities_cases (fs : Files) (path : String) :
    (∃ text blocks, fs.read path = .ok text ∧ Pem.blocks? text = some blocks ∧ blocks ≠ [] ∧
      readAuthorities fs path = .ok (blocks.map (·.contents))) ∨
    ∃ reason, readAuthorities fs path = .error (.hub reason) := by
  unfold readAuthorities
  cases fs.read path with
  | error e => exact Or.inr ⟨_, rfl⟩
  | ok text =>
    dsimp only
    cases hblocks : Pem.blocks? text with
    | none => exact Or.inr ⟨_, rfl⟩
    | some blocks =>
      cases blocks with
      | nil => exact Or.inr ⟨_, rfl⟩
      | cons block blocks =>
        exact Or.inl ⟨text, block :: blocks, rfl, hblocks, List.cons_ne_nil _ _, rfl⟩

/-- A connection through the proxy has the authorities of the file that the table keeps, or
none of its own. -/
theorem connection_of_build (h : p.build cluster = .ok g) :
    g.config.connection.insecure = p.table.skipVerify ∧
      match p.table.authorityFile.filter fun _ => !p.table.skipVerify with
      | some path => ∃ contents, readAuthorities p.env.files path = .ok contents ∧
          g.config.connection.authorities = some contents
      | none => g.config.connection.authorities = none := by
  obtain ⟨connection, hconnection, h⟩ := exists_of_bind_eq_ok h
  obtain ⟨hconfig, -⟩ := Manager.config_of_connect (eq_ok_of_mapError h)
  obtain ⟨address, -, hconnection⟩ := exists_of_bind_eq_ok hconnection
  rw [hconfig]
  dsimp only at hconnection ⊢
  cases hfile : p.table.authorityFile.filter fun _ => !p.table.skipVerify with
  | none =>
    rw [hfile] at hconnection
    cases hconnection
    exact ⟨rfl, rfl⟩
  | some path =>
    rw [hfile] at hconnection
    obtain ⟨authorities, hread, hconnection⟩ := exists_of_bind_eq_ok hconnection
    cases hconnection
    cases hcontents : readAuthorities p.env.files path with
    | error e =>
      rw [hcontents] at hread
      cases hread
    | ok contents =>
      rw [hcontents] at hread
      cases hread
      exact ⟨rfl, contents, hcontents, rfl⟩

/-- Without the authorities of the file that the table keeps no manager is made. -/
theorem build_of_unread {reason : String} (hskip : p.table.skipVerify = false)
    (hfile : p.table.authorityFile = some path)
    (h : readAuthorities p.env.files path = .error (.hub reason)) (cluster : String) :
    ∃ reason, p.build cluster = .error (.hub reason) := by
  have hkept : p.table.authorityFile.filter (fun _ => !p.table.skipVerify) = some path := by
    rw [hskip, hfile]
    rfl
  unfold build spokeConnection
  rw [hkept]
  dsimp only
  rw [h]
  cases Uri.parse ("https://" ++ p.proxyHost ++ "/" ++ cluster) with
  | error flaw => exact ⟨_, rfl⟩
  | ok address => exact ⟨_, rfl⟩

/-! ### Settled tables -/

variable {written : Config.Hub} {origin : Origin} {host : String}

theorem authorityFile_of_settle (h : p.table = written.settle origin)
    (hfile : written.authorityFile = some path) (hne : path ≠ "") :
    p.table.authorityFile = some (resolvePath origin path) := by
  rw [h, Config.Hub.settle, hfile]
  simp [hne]

/-- The blocks that a manager trusts are those of the file that the table names. -/
theorem trusts_of_build (hbuild : p.build cluster = .ok g) (h : p.table = written.settle origin)
    (hskip : g.config.connection.insecure = false) (hfile : written.authorityFile = some path)
    (hne : path ≠ "") :
    ∃ blocks, written.Trusts origin p.env.files blocks ∧
      g.config.connection.authorities = some (blocks.map (·.contents)) := by
  obtain ⟨hinsecure, hauthorities⟩ := connection_of_build hbuild
  rw [hskip] at hinsecure
  rw [authorityFile_of_settle h hfile hne, ← hinsecure] at hauthorities
  obtain ⟨contents, hread, hcontents⟩ := hauthorities
  rcases readAuthorities_cases p.env.files (resolvePath origin path) with
    ⟨text, blocks, htext, hblocks, hsome, hok⟩ | ⟨reason, herror⟩
  · rw [hok] at hread
    cases hread
    exact ⟨blocks, ⟨path, text, hfile, hne, htext, hblocks, hsome⟩, hcontents⟩
  · rw [herror] at hread
    cases hread

/-- A settled table that was checked names a file where it names a proxy. -/
theorem exists_file_of_host (hcheck : (written.settle origin).check = .ok ())
    (hskip : written.skipVerify = false) (hhost : written.proxyHost = some host) (hne : host ≠ "") :
    ∃ path, written.authorityFile = some path ∧ path ≠ "" := by
  have hany : (written.settle origin).proxyHost.any (!·.isEmpty) = true := by
    simp [Config.Hub.settle, hhost, hne]
  have hsome := Config.Hub.isSome_authorityFile_of_check hcheck hany hskip
  rw [Config.Hub.settle, Option.isSome_map, Option.isSome_filter] at hsome
  cases hfile : written.authorityFile with
  | none => simp [hfile] at hsome
  | some path => exact ⟨path, rfl, by simpa [hfile] using hsome⟩

/-- The connection to a cluster checks the proxy as the table says. -/
theorem Spoke.checksProxy (hg : p.Spoke cluster g) (h : p.table = written.settle origin)
    (hcheck : (written.settle origin).check = .ok ()) :
    g.config.connection.ChecksProxy written origin p.env.files := by
  obtain ⟨built, hbuild, hconfig⟩ := hg.exists_build
  rw [hconfig]
  have hinsecure : built.config.connection.insecure = written.skipVerify := by
    rw [(connection_of_build hbuild).1, h]
    rfl
  refine ⟨hinsecure, fun hskip hfile hne => trusts_of_build hbuild h hskip hfile hne,
    fun hskip hhost hne => ?_⟩
  obtain ⟨path, hfile, hpath⟩ := exists_file_of_host hcheck (hinsecure ▸ hskip) hhost hne
  exact trusts_of_build hbuild h hskip hfile hpath

/-- No manager is made if the file that the table names gives no blocks. -/
theorem build_of_untrusted (h : p.table = written.settle origin)
    (hskip : written.skipVerify = false) (hfile : written.authorityFile = some path)
    (hne : path ≠ "") (hnone : ∀ blocks, ¬ written.Trusts origin p.env.files blocks)
    (cluster : String) : ∃ reason, p.build cluster = .error (.hub reason) := by
  have hskip : p.table.skipVerify = false := by rw [h]; exact hskip
  rcases readAuthorities_cases p.env.files (resolvePath origin path) with
    ⟨text, blocks, htext, hblocks, hsome, -⟩ | ⟨reason, herror⟩
  · exact absurd ⟨path, text, hfile, hne, htext, hblocks, hsome⟩ (hnone blocks)
  · exact build_of_unread hskip (authorityFile_of_settle h hfile hne) herror cluster

/-! ### Providers that are created -/

/-- A provider has the environment that it was created in and the table of its strategy. -/
structure MadeUnder (p : HubProvider) (env : Environment) (settings : Settings)
    (strategy : String) : Prop where
  env_eq : p.env = env
  strategy_eq : p.strategy = strategy
  table_eq : p.table = (settings.hub? strategy).getD {}

variable {m : Type → Type} [Monad m] [Network m] {W : Type} [Runs m W] {w w' : W}
  {env : Environment} {settings : Settings} {validators : List ValidatorKind} {strategy : String}

theorem MadeUnder.of_sameHub {q : HubProvider} (h : p.MadeUnder env settings strategy)
    (hsame : p.SameHub q) : q.MadeUnder env settings strategy :=
  ⟨hsame.env_eq.trans h.env_eq, hsame.strategy_eq.trans h.strategy_eq,
    hsame.table_eq.trans h.table_eq⟩

/-- A list of the clusters does not change the hub. -/
theorem sameHub_of_relist {q : HubProvider}
    (h : run (do
      match ← (relist (m := m)).run q with
      | (.error e, _) => pure (.error (.call e))
      | (.ok _, p) => pure (.ok p) : m (Except FleetError HubProvider)) w = (.ok p, w')) :
    q.SameHub p := by
  rw [Runs.run_bind] at h
  have hkept := keeps_relist (m := m) q w
  rw [Runs.run_stateT] at hkept
  generalize run ((relist (m := m)).run q) w = relisted at h hkept
  obtain ⟨⟨answer, q'⟩, w₁⟩ := relisted
  cases answer with
  | error e =>
    rw [Runs.run_pure] at h
    cases h
  | ok effect =>
    rw [Runs.run_pure] at h
    cases h
    exact hkept

theorem madeUnder_of_ofHub {hub : Manager}
    (h : run (ofHub (m := m) env strategy hub) w = (.ok p, w')) :
    p.MadeUnder env hub.settings strategy := by
  unfold ofHub at h
  rw [Runs.run_bind] at h
  generalize run ((Manager.onClient (m := m) checkHub).run hub) w = checked at h
  obtain ⟨⟨checked, hub'⟩, w₁⟩ := checked
  match checked with
  | .error e =>
    rw [Runs.run_pure] at h
    cases h
  | .ok () =>
    dsimp only at h
    split at h
    · rw [Runs.run_bind, Runs.run_pure] at h
      exact MadeUnder.of_sameHub ⟨rfl, rfl, rfl⟩ (sameHub_of_relist h)
    · rw [Runs.run_bind] at h
      generalize run ((Manager.onClient (m := m) findProxy).run hub') w₁ = found at h
      obtain ⟨⟨host, hub''⟩, w₂⟩ := found
      match host with
      | .error e =>
        rw [Runs.run_pure] at h
        cases h
      | .ok proxyHost => exact MadeUnder.of_sameHub ⟨rfl, rfl, rfl⟩ (sameHub_of_relist h)

/-- A provider that is created has the table of its strategy. -/
theorem madeUnder_of_create
    (h : run (create (m := m) env settings validators strategy) w = (.ok p, w')) :
    p.MadeUnder env settings strategy := by
  unfold create at h
  dsimp only at h
  split at h
  · rw [Runs.run_pure] at h
    cases h
  · next hub hhub =>
    have hsettings : hub.settings = settings := by
      split at hhub
      · exact Manager.settings_of_load hhub
      · split at hhub
        · cases hhub
        · exact Manager.settings_of_ofPod hhub
    exact hsettings ▸ madeUnder_of_ofHub h

/-- Whatever configuration is accepted, what the table of a hub says of its proxy comes through to
every connection to a cluster, whether it is that of the gate or of a caller: certificates are
looked at unless the table says otherwise, and the authorities are exactly the blocks of the file
if one is named, which is so wherever a proxy is named.  If the file gives no blocks, no manager
is made. -/
theorem spokes_check_their_proxy [Complaint] (m : Type → Type) [Monad m] [Network m] {W : Type}
    [Runs m W] :
    (∀ (entries : Fields Toml) (c : Config.Hub), Fields.Sorted entries →
      Config.Hub.decode (.table entries) = .ok c → c.ReadOff entries) ∧
    (∀ strategy ∈ [Strategy.hub, Strategy.hubKubeconfig],
      Fields.get? strategy Registries.full.providers.readers = some Config.Hub.reader) ∧
    (∀ (env : Environment) (settings : Settings) (validators : List ValidatorKind)
      (strategy : String) (p : HubProvider) (w w' : W),
      run (create (m := m) env settings validators strategy) w = (.ok p, w') →
      p.MadeUnder env settings strategy ∧ Life [] p) ∧
    ∀ (l : Loader) (origin : Origin) (s : Settings) (strategy : String),
      Fields.get? strategy l.registries.providers.readers = some Config.Hub.reader →
      l.Accepts origin s →
      ∃ written, s.Writes strategy written ∧
        ∀ p : HubProvider, p.table = (s.hub? strategy).getD {} →
          (∀ (cluster : String) (g : Manager) (c : ClientConfig), p.Spoke cluster g → g.Uses c →
            c.connection.ChecksProxy written origin p.env.files) ∧
          (∀ path, written.skipVerify = false → written.authorityFile = some path → path ≠ "" →
            (∀ blocks, ¬ written.Trusts origin p.env.files blocks) →
            ∀ cluster, ∃ reason, p.build cluster = .error (.hub reason)) := by
  refine ⟨fun entries c hs h => Config.Hub.readOff_of_decode hs h,
    List.forall_mem_cons.mpr ⟨rfl, List.forall_mem_singleton.mpr rfl⟩, ?_, ?_⟩
  · exact fun env settings validators strategy p w w' h => ⟨madeUnder_of_create h, .of_create h⟩
  · intro l origin s strategy hreader haccepts
    obtain ⟨written, hwrites, hsettled, hcheck⟩ := settles_of_accepts hreader haccepts
    refine ⟨written, hwrites, fun p hp => ⟨fun cluster g c hg hc => ?_, ?_⟩⟩
    · exact hc.checksProxy (hg.checksProxy (hp.trans hsettled) hcheck)
    · exact fun path hskip hfile hne hnone cluster =>
        build_of_untrusted (hp.trans hsettled) hskip hfile hne hnone cluster

/-- A document that names a proxy and the file of its authorities. -/
def proxyText : String :=
  "[cluster_provider_configs.acm]\ncluster_proxy_addon_host = \"p.example.com\"\n" ++
    "cluster_proxy_addon_ca_file = \"ca.pem\"\n"

/-- The smallest certificate of an authority. -/
def authorityText : String :=
  "-----BEGIN CERTIFICATE-----\nMBQwDQIBATAAMAAwADAAMAAwAAMBAA==\n-----END CERTIFICATE-----\n"

/-- The document and the file in one directory. -/
def proxyFiles : Files :=
  ⟨"/w", [(["w", "conf", "gate.toml"], some proxyText),
    (["w", "conf", "ca.pem"], some authorityText)]⟩

/-- What the document says of the proxy. -/
def proxyTable (file : String) : Config.Hub :=
  { proxyHost := some "p.example.com", authorityFile := some file }

/-- A provider under this document. -/
def proxyProvider (files : Files) : HubProvider :=
  { ownProvider with
    env := { ownProvider.env with files }
    table := proxyTable "/w/conf/ca.pem"
    proxyHost := "p.example.com" }

/-- One document, with the file of authorities that it names and without it. -/
theorem spokes_check_their_proxy_alpha :
    ∃ s g, (⟨Registries.full, {}⟩ : Loader).read proxyFiles (some "conf/gate.toml") none = .ok s ∧
      (proxyProvider proxyFiles).table = (s.hub? Strategy.hub).getD {} ∧
      (proxyProvider proxyFiles).build "alpha" = .ok g ∧
      g.config.connection.ChecksProxy (proxyTable "ca.pem") (some "/w/conf") proxyFiles ∧
      (g.config.derive "tok" none).connection.ChecksProxy (proxyTable "ca.pem") (some "/w/conf")
        proxyFiles ∧
      ∃ reason, (proxyProvider .nothing).build "alpha" = .error (.hub reason) := by
  obtain ⟨-, hreader, -, htrust⟩ := spokes_check_their_proxy Simulation.Simulated
  have hread : ((⟨Registries.full, {}⟩ : Loader).read proxyFiles
      (some "conf/gate.toml") none).toOption.map (fun s => (s.hub? Strategy.hub,
        (Fields.get? Strategy.hub s.providerTables).map fun t => (Config.Hub.decode t).toOption)) =
      some (some (proxyTable "/w/conf/ca.pem"), some (some (proxyTable "ca.pem"))) := by
    decide +kernel
  have hbuild : ((proxyProvider proxyFiles).build "alpha").isOk = true := by decide +kernel
  have horigin : Loader.originOf proxyFiles (some "conf/gate.toml") none = some "/w/conf" := by
    decide
  cases hs : (⟨Registries.full, {}⟩ : Loader).read proxyFiles (some "conf/gate.toml") none with
  | error e =>
    rw [hs] at hread
    cases hread
  | ok s =>
    rw [hs] at hread
    obtain ⟨hhub, htable⟩ := Prod.mk.inj (Option.some.inj hread)
    obtain ⟨written, hwrites, hall⟩ :=
      htrust _ _ s Strategy.hub (hreader _ List.mem_cons_self) (.files hs)
    have hwritten : written = proxyTable "ca.pem" := by
      obtain ⟨t, ht, hdecode⟩ := Option.map_eq_some_iff.mp htable
      rw [Settings.Writes, ht] at hwrites
      dsimp only at hwrites
      rw [hwrites] at hdecode
      exact Option.some.inj hdecode
    subst hwritten
    rw [horigin] at hall
    have hkept : (proxyProvider proxyFiles).table = (s.hub? Strategy.hub).getD {} := by
      rw [hhub]
      rfl
    cases hg : (proxyProvider proxyFiles).build "alpha" with
    | error e => simp [hg, Except.isOk, Except.toBool] at hbuild
    | ok g =>
      obtain ⟨hchecks, -⟩ := hall _ hkept
      obtain ⟨-, hfails⟩ := hall (proxyProvider .nothing) hkept
      refine ⟨s, g, rfl, hkept, rfl, hchecks "alpha" g _ (.made hg) .own,
        hchecks "alpha" g _ (.made hg) (.derived "tok" none),
        hfails "ca.pem" rfl rfl (by decide) ?_ "alpha"⟩
      rintro blocks ⟨path, text, hpath, -, htext, -⟩
      cases hpath
      cases htext

end HubProvider

end FleetGate
