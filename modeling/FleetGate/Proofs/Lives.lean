import FleetGate.Proofs.HubLives

/-!
# The lives of providers

`ContextProvider.Life` has one rule for each section of the provider of a kubeconfig.  In all
its life the current context is there, and each manager is that of its context (`Life.sound`).

`Provider.Lived` are the states that providers of all kinds get into.  A provider is in such a
state when it is created (`Lived.of_create`), and everything that it does leads to another.
-/

namespace FleetGate

open Runs (run)

/-! ## The contexts of a kubeconfig -/

namespace Kubeconfig

variable {k : Kubeconfig} {fs : Files} {context : Option String}

theorem connection_congr {context' : Option String} (h : k.selected context = k.selected context') :
    k.connection fs context = k.connection fs context' := by
  unfold connection
  rw [h]

/-- A connection is made for a context that is there. -/
theorem exists_of_connection {c : Connection} (h : k.connection fs context = .ok c) :
    ∃ name, context.or k.current = some name ∧ k.contexts.any (·.name == name) = true := by
  obtain ⟨name, hname, h⟩ := exists_of_bind_eq_ok h
  refine ⟨name, ?_, ?_⟩
  · unfold selected at hname
    split at hname
    · next hor =>
      cases hname
      exact hor
    · cases hname
  · cases hc : k.context? name with
    | none => simp [hc] at h
    | some entry =>
      obtain ⟨named, hfind, -⟩ := Option.bind_eq_some_iff.mp hc
      unfold Named.find? at hfind
      exact List.any_eq_true.mpr
        ⟨named, List.mem_of_find?_eq_some hfind, by simpa using List.find?_some hfind⟩

end Kubeconfig

/-- The manager is that of a context of a kubeconfig. -/
structure Manager.Serves (fs : Files) (k : Kubeconfig) (context : String) (g : Manager) : Prop where
  currentContext_eq : g.currentContext = context
  connection_eq : k.connection fs (some context) = .ok g.config.connection

/-- A manager serves one context all its life. -/
theorem Manager.Serves.of_sameMake {fs : Files} {k : Kubeconfig} {context : String}
    {g g' : Manager} (h : g.Serves fs k context) (hg : g.SameMake g') : g'.Serves fs k context where
  currentContext_eq := by
    rw [currentContext, hg.kubeconfig_eq]
    exact h.currentContext_eq
  connection_eq := by
    rw [hg.config_eq]
    exact h.connection_eq

/-- A manager that was built for a context is that of the context. -/
theorem Manager.serves_of_context {env : Environment} {settings : Config.Settings}
    {validators : List ValidatorKind} {k : Kubeconfig} {context : String} {path? : Option String}
    {g : Manager} (h : ofKubeconfig env settings validators k (some context) path? = .ok g) :
    g.Serves env.files k context := by
  obtain ⟨c, hc, h⟩ := exists_of_bind_eq_ok h
  obtain ⟨built, hbuilt, h⟩ := exists_of_bind_eq_ok h
  cases h
  obtain ⟨hconfig, hk⟩ := config_of_connect (eq_ok_of_mapError hbuilt)
  refine ⟨?_, ?_⟩
  · show built.kubeconfig.currentName = context
    rw [hk]
    rfl
  · show _ = Except.ok built.config.connection
    rw [hconfig]
    exact eq_ok_of_mapError hc

/-- A manager that was built for no context in particular is that of the current one. -/
theorem Manager.serves_of_current {env : Environment} {settings : Config.Settings}
    {validators : List ValidatorKind} {k : Kubeconfig} {path? : Option String}
    {g : Manager} (h : ofKubeconfig env settings validators k none path? = .ok g) :
    ∃ context, k.contexts.any (·.name == context) = true ∧ g.Serves env.files k context := by
  obtain ⟨c, hc, h⟩ := exists_of_bind_eq_ok h
  obtain ⟨built, hbuilt, h⟩ := exists_of_bind_eq_ok h
  cases h
  obtain ⟨hconfig, hk⟩ := config_of_connect (eq_ok_of_mapError hbuilt)
  obtain ⟨name, hname, hmem⟩ := Kubeconfig.exists_of_connection (eq_ok_of_mapError hc)
  have hname : k.current = some name := hname
  refine ⟨name, hmem, ?_, ?_⟩
  · show built.kubeconfig.currentName = name
    rw [hk, Kubeconfig.currentName, hname]
    rfl
  · show _ = Except.ok built.config.connection
    rw [hconfig]
    refine (Kubeconfig.connection_congr ?_).trans (eq_ok_of_mapError hc)
    simp [Kubeconfig.selected, hname]

namespace ContextProvider

/-- The sections of a provider's life. -/
inductive Life : ContextProvider → Prop where
  /-- It begins with a kubeconfig. -/
  | created {env : Environment} {settings : Config.Settings} {validators : List ValidatorKind}
      {p : ContextProvider} : create env settings validators = .ok p → Life p
  /-- A manager that was built for a context is seated. -/
  | seated {p : ContextProvider} {context : String} {g : Manager} :
      Life p → p.build context = .ok g → Life (p.seat context g).2
  /-- The manager of the current context has done something. -/
  | workedCurrent {p : ContextProvider} {g : Manager} :
      Life p → p.current.SameMake g → Life (p.setManager g .current)
  /-- The manager of another context has done something. -/
  | worked {p : ContextProvider} {context : String} {g g' : Manager} :
      Life p → Fields.get? context p.others = some g → g.SameMake g' →
      Life (p.setManager g' (.other context))
  /-- All managers of other contexts were closed. -/
  | closed {p : ContextProvider} : Life p → Life p.close

/-- A seat where a manager sits. -/
def Taken (p : ContextProvider) : Seat → Prop
  | .current => True
  | .other context => (Fields.get? context p.others).isSome = true

/-- The current context is there, and each manager is that of its context. -/
structure Sound (p : ContextProvider) : Prop where
  default_mem : p.defaultTarget ∈ p.targets
  current : p.current.Serves p.env.files p.kubeconfig p.defaultTarget
  others : ∀ context g, Fields.get? context p.others = some g →
    g.Serves p.env.files p.kubeconfig context

/-- A provider that is created has the manager of the current context and no other. -/
theorem Sound.of_create {env : Environment} {settings : Config.Settings}
    {validators : List ValidatorKind} {p : ContextProvider}
    (h : create env settings validators = .ok p) : p.Sound := by
  unfold create at h
  dsimp only at h
  split at h
  · cases h
  · obtain ⟨k, -, h⟩ := exists_of_bind_eq_ok h
    obtain ⟨g, hg, h⟩ := exists_of_bind_eq_ok h
    cases h
    obtain ⟨context, hmem, hserves⟩ := Manager.serves_of_current hg
    have hd : g.currentContext = context := hserves.currentContext_eq
    refine ⟨?_, ?_, fun context g h => nomatch h⟩
    · rw [mem_targets]
      show (k.contexts.any (·.name == g.currentContext)) = true
      rw [hd]
      exact hmem
    · rw [defaultTarget, hd]
      exact hserves

namespace Life

variable {p q : ContextProvider} {seat : Seat} {target : String}

/-- So every manager in its seat is that of its context. -/
theorem sound (h : Life p) : p.Sound := by
  induction h with
  | created h => exact .of_create h
  | @seated p context g _ hbuilt ih =>
    refine ⟨ih.default_mem, ih.current, fun other g' hg => ?_⟩
    change Fields.get? other (Fields.insertNew context g p.others) = some g' at hg
    unfold Fields.insertNew at hg
    split at hg
    · exact ih.others other g' hg
    · by_cases he : other = context
      · subst he
        rw [Fields.get?_insert_self] at hg
        cases hg
        exact Manager.serves_of_context hbuilt
      · rw [Fields.get?_insert_ne he] at hg
        exact ih.others other g' hg
  | @workedCurrent p g _ hg ih =>
    have hd : (p.setManager g .current).defaultTarget = p.defaultTarget :=
      congrArg Kubeconfig.currentName hg.kubeconfig_eq
    refine ⟨?_, ?_, ih.others⟩
    · rw [hd]
      exact ih.default_mem
    · rw [hd]
      exact ih.current.of_sameMake hg
  | @worked p context g g' _ hheld hg ih =>
    refine ⟨ih.default_mem, ih.current, fun other g'' hg'' => ?_⟩
    change Fields.get? other (Fields.insert context g' p.others) = some g'' at hg''
    by_cases he : other = context
    · subst he
      rw [Fields.get?_insert_self] at hg''
      cases hg''
      exact (ih.others _ g hheld).of_sameMake hg
    · rw [Fields.get?_insert_ne he] at hg''
      exact ih.others other g'' hg''
  | @closed p _ ih =>
    exact ⟨ih.default_mem, ih.current.of_sameMake (.close _), fun context g h => nomatch h⟩

/-! ### What a provider does -/

/-- The seat that a target leads to is taken. -/
theorem seatOf (h : Life p) (hs : p.seatOf target = .ok (seat, q)) : Life q ∧ q.Taken seat := by
  by_cases hcurrent : target = "" ∨ target = p.defaultTarget
  · cases (seatOf_of_current hcurrent).symm.trans hs
    exact ⟨h, trivial⟩
  · obtain ⟨hne, hd⟩ := not_or.mp hcurrent
    by_cases hmem : target ∈ p.targets
    · obtain ⟨rfl, ⟨hheld, rfl⟩ | ⟨hheld, g, hbuilt, rfl⟩⟩ := seatOf_other_cases hne hd hmem hs
      · exact ⟨h, hheld⟩
      · have hseat : (p.seat target g).2 = p.setManager g (.other target) := by
          simp [ContextProvider.seat, ContextProvider.setManager, Fields.insertNew, hheld]
        exact ⟨hseat ▸ h.seated hbuilt, by simp [Taken, ContextProvider.setManager]⟩
    · cases (seatOf_of_unknown hne hd hmem).symm.trans hs

/-- A manager may only become another state of itself. -/
theorem setManager (h : Life p) (ht : p.Taken seat) {g : Manager}
    (hg : (p.managerAt seat).SameMake g) : Life (p.setManager g seat) := by
  cases seat with
  | current => exact h.workedCurrent hg
  | other context =>
    obtain ⟨held, hheld⟩ := Option.isSome_iff_exists.mp ht
    refine h.worked hheld ?_
    simpa [managerAt, hheld] using hg

variable {m : Type → Type} [Monad m] {W : Type} [Runs m W] {α : Type} {w : W}

theorem onTarget (h : Life p) {action : StateT Manager m (Except FleetError α)}
    (ha : Manager.Keeps m _ action) :
    Life (run (ContextProvider.onTarget target action) (p, w)).2.1 := by
  rw [run_onTarget]
  match hs : p.seatOf target with
  | .error e => exact h
  | .ok (seat, q) =>
    obtain ⟨hq, ht⟩ := h.seatOf hs
    dsimp only
    rw [run_onSeat]
    exact hq.setManager ht (ha _ _)

end Life

end ContextProvider

/-! ## Providers -/

namespace Provider

/-- The states that providers get into. -/
inductive Lived : Provider → Prop where
  | single (p : SingleProvider) : Lived (.single p)
  | contexts {p : ContextProvider} : p.Life → Lived (.contexts p)
  | hub {p : HubProvider} {xs : List Happening} : p.Life xs → Lived (.hub p)

namespace Lived

variable {p : Provider}

theorem setMainManager (h : p.Lived) {g : Manager} (hg : p.mainManager.SameMake g) :
    (p.setMainManager g).Lived := by
  cases h with
  | single p => exact .single _
  | contexts h => exact .contexts (h.workedCurrent hg)
  | hub h => exact .hub (h.went ⟨rfl, rfl, rfl, rfl, hg⟩ rfl)

/-- To begin to watch changes only what watches. -/
theorem startWatching (h : p.Lived) (env : Environment) (now : Nat) :
    (p.startWatching env now).Lived := by
  cases h with
  | single p => exact .single _
  | contexts h => exact (Lived.contexts h).setMainManager (.watch _ _)
  | hub h => exact .hub (h.startWatching now)

/-- A provider that is closed has still lived. -/
theorem close (h : p.Lived) : p.close.Lived := by
  cases h with
  | single p => exact .single _
  | contexts h => exact .contexts h.closed
  | hub h => exact .hub h.close

variable {m : Type → Type} [Monad m] {W : Type} [Runs m W] {α : Type} {w : W}

/-- What its first manager does is part of the life of a provider. -/
theorem onMainManager (h : p.Lived) {action : StateT Manager m α} (ha : Manager.Keeps m α action) :
    (run (Provider.onMainManager action) (p, w)).2.1.Lived := by
  simp only [Provider.onMainManager, Runs.run_bind, Runs.run_get, Runs.run_monadLift,
    Runs.run_modify, Runs.run_pure]
  exact h.setMainManager (ha _ _)

variable [Network m]

theorem isOpenshift (h : p.Lived) : (run (Provider.isOpenshift (m := m)) (p, w)).2.1.Lived :=
  h.onMainManager Manager.keeps_isOpenshift

/-- So is the verification of a token. -/
theorem verify (h : p.Lived) (target token : String) (audience : Option String) :
    (run (Provider.verify (m := m) target token audience) (p, w)).2.1.Lived := by
  unfold Provider.verify
  rw [run_onKind]
  cases h with
  | single p => exact .single _
  | contexts h => exact .contexts (h.onTarget (Manager.keeps_verify token audience))
  | hub h => exact .hub (h.onTarget (Manager.keeps_verify token audience))

/-- So is work with a handle, whatever the exchanger answers. -/
theorem withHandle (h : p.Lived) {exchange : TokenExchange.Exchanger m} {caller : Caller}
    {target : String} {action : Handle → StateT Manager m α}
    (ha : ∀ handle, Manager.Keeps m α (action handle)) :
    (run (Provider.withHandle exchange caller target action) (p, w)).2.1.Lived := by
  unfold Provider.withHandle
  rw [run_onKind]
  cases h with
  | single p => exact .single _
  | contexts h => exact .contexts (h.onTarget (Manager.keeps_withHandle ha caller))
  | hub h => exact .hub (h.withHandle ha)

/-- So is all that goes on up to a moment. -/
theorem runTo (h : p.Lived) (reload : m Bool) (time limit : Nat) :
    (run (Provider.runTo reload time limit) (p, w)).2.1.Lived := by
  unfold Provider.runTo
  rw [Runs.run_bind, Runs.run_get]
  cases h with
  | single p => exact (Lived.single p).onMainManager (Manager.keeps_runTo reload time limit)
  | contexts h =>
    exact (Lived.contexts h).onMainManager (Manager.keeps_runTo reload time limit)
  | hub h =>
    dsimp only
    rw [run_onKind]
    obtain ⟨ys, hys⟩ := h.runTo reload time limit
    exact .hub hys

/-- The provider that the settings ask for begins to live. -/
theorem of_create {registry : ProviderRegistry} {env : Environment} {settings : Config.Settings}
    {validators : List ValidatorKind} {w' : W}
    (h : run (Provider.create (m := m) registry env settings validators) w = (.ok p, w')) :
    p.Lived := by
  unfold Provider.create at h
  dsimp only at h
  split at h
  · rw [Runs.run_pure] at h
    cases h
  · rw [Runs.run_pure] at h
    cases hc : SingleProvider.create env settings validators
        (settings.resolvedStrategy env.runsInCluster) with
    | error e => simp [hc, Except.map] at h
    | ok q =>
      simp only [hc, Except.map, Prod.mk.injEq, Except.ok.injEq] at h
      obtain ⟨rfl, -⟩ := h
      exact .single q
  · rw [Runs.run_pure] at h
    cases hc : ContextProvider.create env settings validators with
    | error e => simp [hc, Except.map] at h
    | ok q =>
      simp only [hc, Except.map, Prod.mk.injEq, Except.ok.injEq] at h
      obtain ⟨rfl, -⟩ := h
      exact .contexts (.created hc)
  · rw [Runs.run_bind, Runs.run_pure] at h
    match hc : run (HubProvider.create (m := m) env settings validators
        (settings.resolvedStrategy env.runsInCluster)) w with
    | (.error e, w₁) => simp [hc, Except.map] at h
    | (.ok q, w₁) =>
      simp only [hc, Except.map, Prod.mk.injEq, Except.ok.injEq] at h
      obtain ⟨rfl, -⟩ := h
      exact .hub (HubProvider.Life.of_create hc)

end Lived

end Provider

end FleetGate
