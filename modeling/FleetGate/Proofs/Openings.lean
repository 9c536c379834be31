import FleetGate.Proofs.Exchanges
import FleetGate.Proofs.ProxyTrust
import FleetGate.Session

/-!
# What providers are made from

A session reads its configuration, applies its command line to it, and makes a provider.

* `Provider.MadeFrom` says which settings a provider has, and which kubeconfig.  Every provider
  that is created is made from the settings that it is created with (`Provider.madeFrom_of_create`).
* `CommandLine.Governs` says that what a command line says stands, whatever files say.
* A provider keeps its settings and its kubeconfig whatever it does (`Provider.SameMain`).
-/

namespace FleetGate

open Config
open Runs (run bind_of)

variable {env : Environment} {settings : Settings} {validators : List ValidatorKind}

/-! ## Providers that are created -/

/-- The manager of a kubeconfig has what was read at the path. -/
theorem Manager.kubeconfig_of_load {g : Manager} {path? : Option String}
    (h : Manager.load env settings validators path? = .ok g) :
    g.path? = path? ∧ Kubeconfig.read env path? = .ok g.kubeconfig := by
  obtain ⟨k, hread, h⟩ := exists_of_bind_eq_ok h
  obtain ⟨connection, -, h⟩ := exists_of_bind_eq_ok h
  obtain ⟨built, hbuilt, h⟩ := exists_of_bind_eq_ok h
  have hkubeconfig : built.kubeconfig = k := (config_of_connect (eq_ok_of_mapError hbuilt)).2
  cases h
  exact ⟨rfl, by rw [hkubeconfig, eq_ok_of_mapError hread]⟩

namespace ProviderRegistry

/-- The strategies that there are, with the providers that serve them. -/
def strategies : List (String × ProviderKind) :=
  [(Strategy.inCluster, .single), (Strategy.disabled, .single), (Strategy.kubeconfig, .contexts),
    (Strategy.hub, .hub), (Strategy.hubKubeconfig, .hub)]

theorem mem_entries_standard {entry : String × ProviderKind} :
    entry ∈ standard.entries ↔ entry ∈ strategies := by
  rw [standard, Registry.sorted, List.mem_mergeSort, strategies]

/-- No two of them have one name. -/
theorem eq_of_mem_strategies : ∀ entry ∈ strategies, ∀ other ∈ strategies,
    entry.1 = other.1 → entry = other := by decide

/-- Each strategy has one kind of provider, and nothing else is known. -/
theorem resolve_standard_iff {strategy : String} {kind : ProviderKind} :
    standard.resolve strategy = .ok kind ↔ (strategy, kind) ∈ strategies := by
  rw [resolve, Registry.find?]
  cases hfound : List.find? (·.1 == strategy) standard.entries with
  | none =>
    have hnone := List.find?_eq_none.mp hfound
    refine ⟨fun h => (by cases h), fun h => ?_⟩
    exact absurd (hnone _ (mem_entries_standard.mpr h)) (by simp)
  | some entry =>
    have hname : entry.1 = strategy := by simpa using List.find?_some hfound
    have hmem := mem_entries_standard.mp (List.mem_of_find?_eq_some hfound)
    constructor
    · intro h
      cases h
      rwa [← hname]
    · intro h
      rw [eq_of_mem_strategies _ hmem _ h hname]
      rfl

end ProviderRegistry

namespace HubProvider

variable {m : Type → Type} [Monad m] [Network m] {W : Type} [Runs m W]

theorem keeps_checkHub : Client.Keeps m _ (checkHub (m := m)) := by
  refine Client.keeps_closed.bind (Client.keeps_closed.get Client.keeps_send _ _) fun names => ?_
  cases names with
  | error e => exact Client.keeps_closed.pure _
  | ok names =>
    dsimp only
    split
    · exact Client.keeps_closed.pure _
    · exact Client.keeps_closed.pure _

theorem keeps_getAs {α : Type} (form : Api.Wanted α) (r : ApiResource) (ns? : Option String)
    (name : String) : Client.Keeps m _ (r.getAs (Client.send (m := m)) form ns? name) := by
  unfold ApiResource.getAs
  split
  · exact Client.keeps_closed.pure _
  · exact Client.keeps_closed.get Client.keeps_send _ _

/-- To find a proxy the hub is asked for a route and perhaps for a service, and stays what it is. -/
theorem keeps_findProxy : Client.Keeps m _ (findProxy (m := m)) := by
  refine Client.keeps_closed.bind (keeps_getAs _ _ _ _) fun byRoute => ?_
  split
  · exact Client.keeps_closed.pure _
  · refine Client.keeps_closed.bind (keeps_getAs _ _ _ _) fun port => ?_
    cases port with
    | error e => exact Client.keeps_closed.pure _
    | ok port => exact Client.keeps_closed.pure _

/-- The hub of a provider is the one that it is made for. -/
theorem sameMake_of_ofHub {strategy : String} {hub : Manager} {p : HubProvider} {w w' : W}
    (h : run (ofHub (m := m) env strategy hub) w = (.ok p, w')) : hub.SameMake p.hub := by
  unfold ofHub at h
  rw [Runs.run_bind] at h
  have hchecked := Manager.keeps_onClient (keeps_checkHub (m := m)) hub w
  rw [Runs.run_stateT] at hchecked
  generalize run ((Manager.onClient (m := m) checkHub).run hub) w = checked at h hchecked
  obtain ⟨⟨checked, hub'⟩, w₁⟩ := checked
  match checked with
  | .error e =>
    rw [Runs.run_pure] at h
    cases h
  | .ok () =>
    dsimp only at h
    split at h
    · rw [Runs.run_bind, Runs.run_pure] at h
      exact hchecked.trans (sameHub_of_relist h).hub
    · rw [Runs.run_bind] at h
      have hfound := Manager.keeps_onClient (keeps_findProxy (m := m)) hub' w₁
      rw [Runs.run_stateT] at hfound
      generalize run ((Manager.onClient (m := m) findProxy).run hub') w₁ = found at h hfound
      obtain ⟨⟨host, hub''⟩, w₂⟩ := found
      match host with
      | .error e =>
        rw [Runs.run_pure] at h
        cases h
      | .ok proxyHost => exact (hchecked.trans hfound).trans (sameHub_of_relist h).hub

end HubProvider

namespace Provider

/-- A provider was made from settings, and from what is there at the path that they name. -/
structure MadeFrom (env : Environment) (settings : Settings) (p : Provider) : Prop where
  settings_eq : p.mainManager.settings = settings
  strategy_eq : p.strategy = settings.resolvedStrategy env.runsInCluster
  /-- The kubeconfig is that of the path, unless the provider begins with the cluster that the gate
  runs in. -/
  kubeconfig : p.strategy ≠ Strategy.inCluster → p.strategy ≠ Strategy.hub →
    p.mainManager.path? = settings.kubeconfigPath ∧
      Kubeconfig.read env settings.kubeconfigPath = .ok p.mainManager.kubeconfig

/-- A provider of one target is made from the settings and the kubeconfig that they name. -/
theorem madeFrom_of_single {strategy : String} {p : SingleProvider}
    (hstrategy : strategy = settings.resolvedStrategy env.runsInCluster)
    (h : SingleProvider.create env settings validators strategy = .ok p) :
    (single p).MadeFrom env settings := by
  unfold SingleProvider.create at h
  dsimp only at h
  split at h
  · next hown =>
    obtain ⟨-, -, h⟩ := exists_of_bind_eq_ok h
    obtain ⟨g, hg, h⟩ := exists_of_bind_eq_ok h
    cases h
    exact ⟨Manager.settings_of_ofPod hg, hstrategy, fun hne => absurd (beq_iff_eq.mp hown) hne⟩
  · obtain ⟨g, hg, h⟩ := exists_of_bind_eq_ok h
    cases h
    exact ⟨Manager.settings_of_load hg, hstrategy, fun _ _ => Manager.kubeconfig_of_load hg⟩

/-- So is that of all contexts, whose current manager has the kubeconfig. -/
theorem madeFrom_of_contexts {p : ContextProvider}
    (hstrategy : Strategy.kubeconfig = settings.resolvedStrategy env.runsInCluster)
    (h : ContextProvider.create env settings validators = .ok p) :
    (contexts p).MadeFrom env settings := by
  unfold ContextProvider.create at h
  dsimp only at h
  split at h
  · cases h
  · obtain ⟨k, hread, h⟩ := exists_of_bind_eq_ok h
    obtain ⟨g, hg, h⟩ := exists_of_bind_eq_ok h
    cases h
    have hload : Manager.load env settings validators settings.kubeconfigPath = .ok g := by
      rw [Manager.load, hread]
      exact hg
    exact ⟨Manager.settings_of_load hload, hstrategy, fun _ _ => Manager.kubeconfig_of_load hload⟩

variable {m : Type → Type} [Monad m] [Network m] {W : Type} [Runs m W] {w w' : W}

/-- And so is that of a hub, whichever of the two strategies it is for. -/
theorem madeFrom_of_hub {strategy : String} {p : HubProvider}
    (hstrategy : strategy = settings.resolvedStrategy env.runsInCluster)
    (hknown : strategy = Strategy.hub ∨ strategy = Strategy.hubKubeconfig)
    (h : run (HubProvider.create (m := m) env settings validators strategy) w = (.ok p, w')) :
    (hub p).MadeFrom env settings := by
  have hmade := HubProvider.madeUnder_of_create h
  unfold HubProvider.create at h
  dsimp only at h
  split at h
  · rw [Runs.run_pure] at h
    cases h
  · next g hg =>
    have hsame := HubProvider.sameMake_of_ofHub h
    split at hg
    · obtain ⟨hpath, hread⟩ := Manager.kubeconfig_of_load hg
      refine ⟨hsame.settings_eq.trans (Manager.settings_of_load hg),
        hmade.strategy_eq.trans hstrategy, fun _ _ => ⟨hsame.path_eq.trans hpath, ?_⟩⟩
      rw [hread]
      exact congrArg Except.ok hsame.kubeconfig_eq.symm
    · next hother =>
      have hown : strategy = Strategy.hub := hknown.resolve_right (by simpa using hother)
      split at hg
      · cases hg
      · refine ⟨hsame.settings_eq.trans (Manager.settings_of_ofPod hg),
          hmade.strategy_eq.trans hstrategy, fun _ hne => absurd ?_ hne⟩
        exact hmade.strategy_eq.trans hown

/-- Every provider is made from the settings that it is created with. -/
theorem madeFrom_of_create {p : Provider}
    (h : run (create (m := m) ProviderRegistry.standard env settings validators) w =
      (.ok p, w')) : p.MadeFrom env settings := by
  unfold create at h
  dsimp only at h
  split at h
  · rw [Runs.run_pure] at h
    cases h
  · rw [Runs.run_pure] at h
    cases hc : SingleProvider.create env settings validators
        (settings.resolvedStrategy env.runsInCluster) with
    | error e => simp [hc, Except.map] at h
    | ok q =>
      simp only [hc, Except.map, Prod.mk.injEq, Except.ok.injEq] at h
      obtain ⟨rfl, -⟩ := h
      exact madeFrom_of_single rfl hc
  · next hresolve =>
    have hstrategy : settings.resolvedStrategy env.runsInCluster = Strategy.kubeconfig := by
      simpa [ProviderRegistry.strategies] using ProviderRegistry.resolve_standard_iff.mp hresolve
    rw [Runs.run_pure] at h
    cases hc : ContextProvider.create env settings validators with
    | error e => simp [hc, Except.map] at h
    | ok q =>
      simp only [hc, Except.map, Prod.mk.injEq, Except.ok.injEq] at h
      obtain ⟨rfl, -⟩ := h
      exact madeFrom_of_contexts hstrategy.symm hc
  · next hresolve =>
    have hknown : settings.resolvedStrategy env.runsInCluster = Strategy.hub ∨
        settings.resolvedStrategy env.runsInCluster = Strategy.hubKubeconfig := by
      simpa [ProviderRegistry.strategies] using ProviderRegistry.resolve_standard_iff.mp hresolve
    rw [Runs.run_bind, Runs.run_pure] at h
    match hc : run (HubProvider.create (m := m) env settings validators
        (settings.resolvedStrategy env.runsInCluster)) w with
    | (.error e, w₁) => simp [hc, Except.map] at h
    | (.ok q, w₁) =>
      simp only [hc, Except.map, Prod.mk.injEq, Except.ok.injEq] at h
      obtain ⟨rfl, -⟩ := h
      exact madeFrom_of_hub rfl hknown hc

end Provider

/-! ## Providers of a session -/

/-- A provider was made of the files of an environment, with a command line applied to what they
say. -/
structure Session.MadeBy [Complaint] (line : CommandLine) (env : Environment) (p : Provider) :
    Prop where
  /-- The settings are those of the files, as the command line wants them. -/
  made : ∃ files : Settings,
    Loader.read ⟨Registries.full, {}⟩ env.files line.config line.configDir = .ok files ∧
      p.MadeFrom env (line.override files)
  /-- The kubeconfig of the command line wins over all files. -/
  kubeconfig {path : String} : line.kubeconfig = some path →
    p.mainManager.settings.kubeconfig = some path ∧
      (path ≠ "" → p.strategy ≠ Strategy.inCluster → p.strategy ≠ Strategy.hub →
        Kubeconfig.read env (some path) = .ok p.mainManager.kubeconfig)
  /-- So does the strategy. -/
  strategy {name : String} : line.strategy = some name →
    p.mainManager.settings.strategy = some name ∧ (name ≠ "" → p.strategy = name)
  /-- If the command line wants every caller to have a token, no file turns that off. -/
  requireOauth : line.requireOauth = true → p.mainManager.settings.requireOauth = true

/-- What a command line says stands in the settings that it is applied to. -/
theorem Session.madeBy_of_madeFrom [Complaint] {line : CommandLine} {files : Settings}
    {p : Provider}
    (hread : Loader.read ⟨Registries.full, {}⟩ env.files line.config line.configDir = .ok files)
    (h : p.MadeFrom env (line.override files)) : MadeBy line env p where
  made := ⟨files, hread, h⟩
  kubeconfig {path} hpath := by
    have hnamed : (line.override files).kubeconfig = some path := by
      simp [CommandLine.override, hpath]
    refine ⟨by rw [h.settings_eq, hnamed], fun hne hown hhub => ?_⟩
    have hfound := (h.kubeconfig hown hhub).2
    rwa [Settings.kubeconfigPath, hnamed, Option.filter_some_pos (by simpa using hne)] at hfound
  strategy {name} hname := by
    have hnamed : (line.override files).strategy = some name := by
      simp [CommandLine.override, hname]
    refine ⟨by rw [h.settings_eq, hnamed], fun hne => ?_⟩
    rw [h.strategy_eq, Settings.resolvedStrategy, hnamed, Strategy.resolve,
      Option.filter_some_pos (by simpa using hne)]
  requireOauth hline := by
    rw [h.settings_eq]
    simp [CommandLine.override, hline]

/-- Every provider of a session is made of the files as they were read for it. -/
theorem Session.madeBy_of_make [Complaint] {m : Type → Type} [Monad m] [Network m] {W : Type}
    [Runs m W] {line : CommandLine} {p : Provider} {w w' : W}
    (h : Runs.run (make (m := m) line env) w = (.ok p, w')) : MadeBy line env p := by
  unfold make at h
  cases hsettings : line.settings env.files with
  | error e =>
    rw [hsettings, Runs.run_pure] at h
    cases h
  | ok settings =>
    obtain ⟨files, hread, hfiles⟩ := exists_of_bind_eq_ok hsettings
    cases hfiles
    rw [hsettings, Runs.run_bind, Runs.run_pure] at h
    obtain ⟨hmade, -⟩ := Prod.mk.inj h
    exact madeBy_of_madeFrom hread
      (Provider.madeFrom_of_create (Prod.ext (eq_ok_of_mapError hmade) rfl))

/-! ## What providers keep -/

section Targets

variable {m : Type → Type} [Monad m] {W : Type} [Runs m W] {α : Type} {target : String} {w : W}

theorem ContextProvider.current_of_seatOf {p q : ContextProvider} {seat : Seat}
    (h : p.seatOf target = .ok (seat, q)) : q.current = p.current := by
  unfold seatOf at h
  split at h
  · cases h
  · cases h
    rfl
  · split at h
    · cases h
    · cases h
      rfl

theorem ContextProvider.sameMake_onTarget {action : StateT Manager m (Except FleetError α)}
    (ha : Manager.Keeps m _ action) (p : ContextProvider) :
    p.current.SameMake (run (onTarget target action) (p, w)).2.1.current := by
  rw [run_onTarget]
  match hs : p.seatOf target with
  | .error e => exact .refl _
  | .ok (seat, q) =>
    rw [← current_of_seatOf hs]
    dsimp only
    rw [run_onSeat]
    cases seat with
    | current => exact ha _ _
    | other context => exact .refl _

/-- What any manager of a hub does leaves the hub what it is. -/
theorem HubProvider.keeps_onSeat (seat : Seat) {action : StateT Manager m α}
    (ha : Manager.Keeps m α action) : Keeps m α (onSeat seat action) := by
  cases seat with
  | hub => exact keeps_onSeat_hub ha
  | spoke cluster =>
    intro p w
    rw [run_onSeat]
    exact ⟨rfl, rfl, rfl, rfl, .refl _⟩

theorem HubProvider.keeps_onTarget {action : StateT Manager m (Except FleetError α)}
    (ha : Manager.Keeps m _ action) : Keeps m _ (onTarget target action) := fun p w => by
  rw [run_onTarget]
  match hs : p.seatOf target with
  | .error e => exact .refl _
  | .ok (seat, q) => exact (sameHub_of_seatOf hs).trans (keeps_onSeat seat ha q w)

variable [Network m]

/-- To exchange a token and to work with a handle leaves the hub what it is. -/
theorem HubProvider.keeps_withHandle {exchange : TokenExchange.Exchanger m} {caller : Caller}
    {action : Handle → StateT Manager m α} (ha : ∀ handle, Manager.Keeps m α (action handle)) :
    Keeps m _ (withHandle exchange caller target action) := fun p w => by
  rw [run_withHandle]
  match hs : p.seatOf (p.chosen target) with
  | .error e => exact .refl _
  | .ok (seat, q) =>
    have hsame := sameHub_of_seatOf hs
    dsimp only
    match run (q.exchangeFor exchange caller (p.chosen target)) w with
    | (.error e, w') => exact hsame
    | (.ok caller', w') =>
      exact hsame.trans (keeps_onSeat seat (Manager.keeps_withHandle ha caller') q w')

/-- So does all that goes on in a hub up to a moment. -/
theorem HubProvider.keeps_runTo (reload : m Bool) (time limit : Nat) :
    Keeps m _ (runTo reload time limit) := by
  induction limit with
  | zero => exact keeps_closed.pure _
  | succ limit ih =>
    refine keeps_closed.bind keeps_get fun p => keeps_closed.bind (keeps_lift _) fun now => ?_
    match p.due? now with
    | none => exact keeps_closed.pure _
    | some (due, at?) =>
      dsimp only
      split
      · exact keeps_closed.pure _
      · refine keeps_closed.bind (keeps_lift _) fun _ => ?_
        cases due with
        | hub => exact keeps_closed.bind (keeps_onSeat_hub (Manager.keeps_runTo _ _ _)) fun _ => ih
        | stream => exact keeps_closed.bind (keeps_turnWatch reload) fun _ => ih

end Targets

namespace Provider

/-- Two states of one provider: it began with the same manager. -/
structure SameMain (p p' : Provider) : Prop where
  strategy_eq : p'.strategy = p.strategy
  manager : p.mainManager.SameMake p'.mainManager

namespace SameMain

variable {p p' p'' : Provider}

theorem refl (p : Provider) : SameMain p p := ⟨rfl, .refl _⟩

theorem trans (h : SameMain p p') (h' : SameMain p' p'') : SameMain p p'' :=
  ⟨h'.strategy_eq.trans h.strategy_eq, h.manager.trans h'.manager⟩

theorem hub {q q' : HubProvider} (h : q.SameHub q') : SameMain (.hub q) (.hub q') :=
  ⟨h.strategy_eq, h.hub⟩

/-- A provider stays the same if its first manager does. -/
theorem setMainManager (p : Provider) {g : Manager} (hg : p.mainManager.SameMake g) :
    SameMain p (p.setMainManager g) := by
  cases p with
  | single p => exact ⟨rfl, hg⟩
  | contexts p => exact ⟨rfl, hg⟩
  | hub p => exact ⟨rfl, hg⟩

theorem startWatching (env : Environment) (now : Nat) (p : Provider) :
    SameMain p (p.startWatching env now) := by
  cases p with
  | single p => exact setMainManager (.single p) (.watch _ _)
  | contexts p => exact setMainManager (.contexts p) (.watch _ _)
  | hub p =>
    refine hub ?_
    unfold HubProvider.startWatching
    dsimp only
    split
    · exact ⟨rfl, rfl, rfl, rfl, .watch _ _⟩
    · exact ⟨rfl, rfl, rfl, rfl, .watch _ _⟩

theorem close (p : Provider) : SameMain p p.close := by
  cases p with
  | single p => exact ⟨rfl, .close _⟩
  | contexts p => exact ⟨rfl, .close _⟩
  | hub p => exact hub ⟨rfl, rfl, rfl, rfl, .close _⟩

/-- So it is made from the same all its life. -/
theorem madeFrom (h : SameMain p p') (hp : p.MadeFrom env settings) : p'.MadeFrom env settings where
  settings_eq := h.manager.settings_eq.trans hp.settings_eq
  strategy_eq := h.strategy_eq.trans hp.strategy_eq
  kubeconfig hown hhub := by
    rw [h.manager.path_eq, h.manager.kubeconfig_eq]
    exact hp.kubeconfig (h.strategy_eq ▸ hown) (h.strategy_eq ▸ hhub)

/-- So what a command line says of a provider stands all its life. -/
theorem madeBy [Complaint] {line : CommandLine} (h : SameMain p p')
    (hp : Session.MadeBy line env p) : Session.MadeBy line env p' := by
  obtain ⟨files, hread, hmade⟩ := hp.made
  exact Session.madeBy_of_madeFrom hread (h.madeFrom hmade)

end SameMain

/-- A provider that is closed has its first manager closed. -/
theorem isClosed_close (p : Provider) : p.close.mainManager.isClosed = true := by
  cases p with
  | single p => rfl
  | contexts p => rfl
  | hub p => rfl

section Programs

variable {m : Type → Type} [Monad m] {W : Type} [Runs m W] {α : Type}

/-- A program that keeps the manager that a provider began with. -/
def Keeps (m : Type → Type) [Monad m] {W : Type} [Runs m W] (α : Type) (x : StateT Provider m α) :
    Prop :=
  ∀ p w, SameMain p (run x (p, w)).2.1

theorem keeps_onMainManager {action : StateT Manager m α} (ha : Manager.Keeps m α action) :
    Keeps m α (onMainManager action) := fun p w => by
  simp only [onMainManager, Runs.run_bind, Runs.run_get, Runs.run_monadLift, Runs.run_modify,
    Runs.run_pure]
  exact .setMainManager p (ha _ _)

/-- Work for a target keeps the first manager if it keeps managers, whatever kind the provider is
of. -/
theorem keeps_onTarget {target : String} {action : StateT Manager m (Except FleetError α)}
    {hub : StateT HubProvider m (Except FleetError α)} (ha : Manager.Keeps m _ action)
    (hhub : HubProvider.Keeps m _ hub) :
    Keeps m _ (onKind (SingleProvider.onTarget target action)
      (ContextProvider.onTarget target action) hub) := fun p w => by
  rw [run_onKind]
  cases p with
  | single p =>
    dsimp only
    rw [SingleProvider.run_onTarget]
    cases p.check target with
    | error e => exact .refl _
    | ok => exact ⟨rfl, ha _ _⟩
  | contexts p => exact ⟨rfl, ContextProvider.sameMake_onTarget ha p⟩
  | hub p => exact .hub (hhub p w)

variable [Network m]

theorem keeps_isOpenshift : Keeps m _ (isOpenshift (m := m)) :=
  keeps_onMainManager Manager.keeps_isOpenshift

theorem keeps_verify (target token : String) (audience : Option String) :
    Keeps m _ (verify (m := m) target token audience) :=
  keeps_onTarget (Manager.keeps_verify token audience)
    (HubProvider.keeps_onTarget (Manager.keeps_verify token audience))

theorem keeps_withHandle {exchange : TokenExchange.Exchanger m} {caller : Caller} {target : String}
    {action : Handle → StateT Manager m α} (ha : ∀ handle, Manager.Keeps m α (action handle)) :
    Keeps m _ (withHandle exchange caller target action) :=
  keeps_onTarget (Manager.keeps_withHandle ha caller) (HubProvider.keeps_withHandle ha)

/-- What watches a provider keeps its first manager. -/
theorem keeps_runTo (reload : m Bool) (time limit : Nat) :
    Keeps m _ (runTo reload time limit) := fun p w => by
  unfold runTo
  rw [Runs.run_bind, Runs.run_get]
  cases p with
  | single p => exact keeps_onMainManager (Manager.keeps_runTo reload time limit) _ _
  | contexts p => exact keeps_onMainManager (Manager.keeps_runTo reload time limit) _ _
  | hub p =>
    dsimp only
    rw [run_onKind]
    exact .hub (HubProvider.keeps_runTo reload time limit p w)

end Programs

end Provider

end FleetGate
