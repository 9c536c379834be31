import FleetGate.Proofs.Followers
import FleetGate.Proofs.Managers

/-!
# What managers and hubs keep

A manager is built once.  What it does afterwards changes what its client remembers and what
watches it, and nothing else of it (`Manager.SameMake`, `Manager.Keeps`).  So does a hub with
its own manager, however it follows its clusters (`HubProvider.SameHub`, `HubProvider.Keeps`).
Providers of one hub make the same managers (`HubProvider.SameHub.build_eq`).
-/

namespace FleetGate

open Runs (run bind_of)

/-! ## Watchers -/

/-- What a watcher does is made of what its source and its clock do. -/
theorem Closed.runTo {m : Type → Type} [Monad m] [Clock m] {P : (α : Type) → m α → Prop}
    (h : Closed P) (hnow : P _ Clock.now) (hwait : ∀ time, P _ (Clock.waitUntil time))
    {source : StateSource m} (hc : P _ source.capture) (hi : P _ source.invalidate)
    (hr : P _ source.reload) (time limit : Nat) (w : ClusterWatcher) :
    P _ (w.runTo source time limit) := by
  have hturn : ∀ w : ClusterWatcher, P _ (w.turn source) := by
    intro w
    cases w with
    | starting settings =>
      refine h.bind hc fun captured => ?_
      split
      · exact h.pure _
      · exact h.bind hnow fun now => h.pure _
    | running watch =>
      refine h.bind (h.bind (hwait _) fun _ => ?_) fun watch => h.pure _
      cases watch.due.1 with
      | poll =>
        exact h.bind hnow fun _ => h.bind hi fun _ => h.bind hc fun _ =>
          h.bind hnow fun _ => h.pure _
      | reload =>
        refine h.bind hr fun ok => ?_
        split
        · exact h.bind hc fun _ => h.pure _
        · exact h.pure _
    | stopped => exact h.pure _
  induction limit generalizing w with
  | zero => exact h.pure _
  | succ limit ih =>
    refine h.bind hnow fun now => ?_
    cases w.due? now with
    | none => exact h.pure _
    | some due =>
      dsimp only
      split
      · exact h.bind (hturn w) ih
      · exact h.pure _

/-! ## Managers -/

/-- What succeeds with its failures reworded succeeds as it is. -/
theorem eq_ok_of_mapError {ε ε' α : Type} {f : ε → ε'} {x : Except ε α} {a : α}
    (h : x.mapError f = .ok a) : x = .ok a := by
  cases x with
  | error e => cases h
  | ok b => exact congrArg Except.ok (Except.ok.inj h)

namespace Manager

/-- A manager that is connected has the configuration and the kubeconfig that it was given. -/
theorem config_of_connect {fs : Files} {settings : Config.Settings}
    {validators : List ValidatorKind} {config : ClientConfig} {k : Kubeconfig} {g : Manager}
    (h : connect fs settings validators config k = .ok g) :
    g.config = config ∧ g.kubeconfig = k := by
  obtain ⟨c, -, h⟩ := exists_of_bind_eq_ok h
  cases h
  exact ⟨rfl, rfl⟩

/-- Two states of one manager. -/
structure SameMake (g g' : Manager) : Prop where
  settings_eq : g'.settings = g.settings
  validators_eq : g'.validators = g.validators
  config_eq : g'.config = g.config
  kubeconfig_eq : g'.kubeconfig = g.kubeconfig
  path_eq : g'.path? = g.path?
  client : Client.SameMake g.client g'.client

namespace SameMake

theorem refl (g : Manager) : SameMake g g := ⟨rfl, rfl, rfl, rfl, rfl, .refl _⟩

theorem trans {g g' g'' : Manager} (h : SameMake g g') (h' : SameMake g' g'') : SameMake g g'' :=
  ⟨h'.settings_eq.trans h.settings_eq, h'.validators_eq.trans h.validators_eq,
    h'.config_eq.trans h.config_eq, h'.kubeconfig_eq.trans h.kubeconfig_eq,
    h'.path_eq.trans h.path_eq, h.client.trans h'.client⟩

/-- To close a manager marks it and takes its watcher away, and no more. -/
theorem close (g : Manager) : SameMake g g.close := ⟨rfl, rfl, rfl, rfl, rfl, .refl _⟩

theorem watch (g : Manager) (settings : WatchSettings) : SameMake g (g.watch settings) :=
  ⟨rfl, rfl, rfl, rfl, rfl, .refl _⟩

end SameMake

variable {m : Type → Type} [Monad m] {W : Type} [Runs m W] {α : Type}

/-- A program that leaves the make of the manager as it is. -/
def Keeps (m : Type → Type) [Monad m] {W : Type} [Runs m W] (α : Type) (x : StateT Manager m α) :
    Prop :=
  ∀ g w, SameMake g (run x (g, w)).2.1

/-- To keep a manager passes from the parts of a program to the whole, so the lemmas of `Closed`
apply. -/
theorem keeps_closed : Closed (Keeps m) where
  pure a g w := by rw [Runs.run_pure]; exact .refl g
  bind {_ _ x f} hx hf g w := by
    rw [Runs.run_bind]
    exact (hx g w).trans (hf _ _ _)

theorem keeps_lift (x : m α) : Keeps m α (StateT.lift x) := fun g w => by
  rw [Runs.run_lift]; exact .refl g

theorem keeps_get : Keeps m Manager get := fun g w => by
  rw [Runs.run_get]; exact .refl g

/-- A change of the state keeps a manager if it gives another state of the same manager. -/
theorem keeps_modify {f : Manager → Manager} (hf : ∀ g, SameMake g (f g)) :
    Keeps m PUnit (modify f) := fun g w => by
  rw [Runs.run_modify]; exact hf g

/-- What its client does changes nothing of a manager but what the client remembers. -/
theorem keeps_onClient {action : StateT Client m α} (h : Client.Keeps m α action) :
    Keeps m α (onClient action) := fun g w => by
  rw [run_onClient]
  exact ⟨rfl, rfl, rfl, rfl, rfl, h _ _⟩

variable [Network m]

theorem keeps_verify (token : String) (audience : Option String) :
    Keeps m _ (verify token audience) :=
  keeps_onClient (Client.keeps_closed.verify Client.keeps_send token audience)

/-- A handle for a caller is made of a manager and leaves it as it is. -/
theorem keeps_derive (caller : Caller) : Keeps m _ (derive caller) := fun g w => by
  obtain ⟨c, hc, hg⟩ := derive_sameMake (m := m) g caller w
  rw [hg]
  exact ⟨rfl, rfl, rfl, rfl, rfl, hc⟩

/-- What is done with a handle may change what a manager remembers, and no more than this. -/
theorem keeps_withHandle {action : Handle → StateT Manager m α}
    (h : ∀ handle, Keeps m α (action handle)) (caller : Caller) :
    Keeps m _ (withHandle caller action) := by
  refine keeps_closed.bind (keeps_derive caller) fun derived => ?_
  cases derived with
  | error e => exact keeps_closed.pure _
  | ok handle => exact keeps_closed.bind (h handle) fun a => keeps_closed.pure _

theorem keeps_capture : Keeps m (Except CallError ClusterState) (onClient Client.capture) := by
  refine keeps_onClient (Client.keeps_closed.bind
    (Client.keeps_closed.get Client.keeps_send _ _) fun groups => ?_)
  cases groups with
  | error e => exact Client.keeps_closed.pure _
  | ok groups => exact Client.keeps_closed.pure _

theorem keeps_isOpenshift : Keeps m _ (isOpenshift (m := m)) := by
  refine keeps_closed.bind keeps_capture fun state => ?_
  cases state with
  | error e => exact keeps_closed.pure _
  | ok state => exact keeps_closed.pure _

/-- A watcher captures states through the client of its manager. -/
theorem keeps_runTo (reload : m Bool) (time limit : Nat) :
    Keeps m _ (runTo reload time limit) := by
  refine keeps_closed.bind keeps_get fun g => ?_
  cases g.watcher? with
  | none => exact keeps_closed.pure _
  | some watcher =>
    refine keeps_closed.bind (keeps_closed.runTo (keeps_lift _) (fun _ => keeps_lift _) ?_ ?_ ?_ _ _ _)
      fun watcher => keeps_modify fun g => ⟨rfl, rfl, rfl, rfl, rfl, .refl _⟩
    · exact keeps_closed.bind keeps_capture fun state => keeps_closed.pure _
    · exact keeps_onClient Client.keeps_forget
    · exact keeps_lift reload

end Manager

/-! ## The managed clusters of a hub -/

namespace HubProvider

variable {m : Type → Type} [Monad m] {W : Type} [Runs m W] {α : Type} {p p' p'' : HubProvider}

/-- What providers of one hub have in common. -/
structure SameHub (p p' : HubProvider) : Prop where
  env_eq : p'.env = p.env
  strategy_eq : p'.strategy = p.strategy
  table_eq : p'.table = p.table
  proxyHost_eq : p'.proxyHost = p.proxyHost
  hub : p.hub.SameMake p'.hub

namespace SameHub

theorem refl (p : HubProvider) : SameHub p p := ⟨rfl, rfl, rfl, rfl, .refl _⟩

theorem trans (h : SameHub p p') (h' : SameHub p' p'') : SameHub p p'' :=
  ⟨h'.env_eq.trans h.env_eq, h'.strategy_eq.trans h.strategy_eq, h'.table_eq.trans h.table_eq,
    h'.proxyHost_eq.trans h.proxyHost_eq, h.hub.trans h'.hub⟩

/-- They make the same managers. -/
theorem build_eq (h : SameHub p p') (cluster : String) : p'.build cluster = p.build cluster := by
  have hconnection : p'.spokeConnection cluster = p.spokeConnection cluster := by
    unfold spokeConnection
    rw [h.env_eq, h.table_eq, h.proxyHost_eq, h.hub.config_eq]
  unfold build
  rw [hconnection, h.env_eq, h.hub.settings_eq, h.hub.validators_eq, h.hub.config_eq]

end SameHub

/-- A program that leaves the hub as it is. -/
def Keeps (m : Type → Type) [Monad m] {W : Type} [Runs m W] (α : Type)
    (x : StateT HubProvider m α) : Prop :=
  ∀ p w, SameHub p (run x (p, w)).2.1

/-- As with managers, it passes from the parts of a program to the whole. -/
theorem keeps_closed : Closed (Keeps m) where
  pure a p w := by rw [Runs.run_pure]; exact .refl p
  bind {_ _ x f} hx hf p w := by
    rw [Runs.run_bind]
    exact (hx p w).trans (hf _ _ _)

theorem keeps_lift (x : m α) : Keeps m α (StateT.lift x) := fun p w => by
  rw [Runs.run_lift]; exact .refl p

theorem keeps_get : Keeps m HubProvider get := fun p w => by
  rw [Runs.run_get]; exact .refl p

theorem keeps_modify {f : HubProvider → HubProvider} (hf : ∀ p, SameHub p (f p)) :
    Keeps m PUnit (modify f) := fun p w => by
  rw [Runs.run_modify]; exact hf p

/-- What the manager of the hub does keeps the hub. -/
theorem keeps_onSeat_hub {action : StateT Manager m α} (h : Manager.Keeps m α action) :
    Keeps m α (onSeat .hub action) := fun p w => by
  rw [run_onSeat_hub]
  exact ⟨rfl, rfl, rfl, rfl, h _ _⟩

/-- To carry out an effect is to reload or to do nothing. -/
theorem keeps_carryOut (reload : m Bool) (effect : Membership.Effect Manager) :
    Keeps m _ (carryOut reload effect) := fun p w => by
  rw [run_carryOut]; exact .refl p

/-- So it is with all that is heard on a stream. -/
theorem keeps_follow (reload : m Bool) (lines : List WatchLine) :
    Keeps m _ (follow reload lines) := by
  induction lines with
  | nil => exact keeps_closed.pure _
  | cons line lines ih =>
    refine keeps_closed.bind keeps_get fun p => ?_
    cases p.membership.deliver line with
    | error ending => exact keeps_closed.pure _
    | ok delivered =>
      exact keeps_closed.bind (keeps_modify fun p => ⟨rfl, rfl, rfl, rfl, .refl _⟩) fun _ =>
        keeps_closed.bind (keeps_carryOut reload _) fun _ => ih

variable [Network m]

/-- A listing goes through the manager of the hub and replaces the clusters. -/
theorem keeps_relist : Keeps m _ (relist (m := m)) := by
  refine keeps_closed.bind (keeps_onSeat_hub (Manager.keeps_onClient ?_)) fun listed => ?_
  · unfold ApiResource.list
    exact Client.keeps_closed.get Client.keeps_send _ _
  · cases listed with
    | error e => exact keeps_closed.pure _
    | ok list =>
      intro p w
      rw [Runs.run_modifyGet]
      exact ⟨rfl, rfl, rfl, rfl, .refl _⟩

/-- A listing may bring about a reload.  If it fails, only the version is forgotten. -/
theorem keeps_resync (reload : m Bool) : Keeps m _ (resync reload) := by
  refine keeps_closed.bind keeps_relist fun listed => ?_
  cases listed with
  | error e =>
    exact keeps_closed.bind (keeps_modify fun p => ⟨rfl, rfl, rfl, rfl, .refl _⟩) fun _ =>
      keeps_closed.pure _
  | ok effect => exact keeps_closed.bind (keeps_carryOut reload effect) fun _ => keeps_closed.pure _

theorem keeps_openNow : Keeps m _ (openNow (m := m)) :=
  keeps_closed.bind (keeps_lift _) fun _ => keeps_modify fun _ => ⟨rfl, rfl, rfl, rfl, .refl _⟩

theorem keeps_backOff : Keeps m _ (backOff (m := m)) := by
  refine keeps_closed.bind (keeps_lift _) fun _ => keeps_modify fun p => ?_
  generalize p.membership.fail = failed
  exact ⟨rfl, rfl, rfl, rfl, .refl _⟩

/-- However a stream ends, the hub stays what it is. -/
theorem keeps_goOn (reload : m Bool) (ending : Membership.Ending) :
    Keeps m _ (goOn reload ending) := by
  cases ending with
  | clean => exact keeps_openNow
  | failed => exact keeps_backOff
  | expired =>
    refine keeps_closed.bind (keeps_resync reload) fun listed => ?_
    split
    · exact keeps_openNow
    · exact keeps_backOff

theorem keeps_openStream : Keeps m _ (openStream (m := m)) := by
  unfold openStream
  refine keeps_closed.bind keeps_get fun p => ?_
  cases clusterResource.watchRequest? watchSeconds p.topology.version with
  | none => exact keeps_closed.pure _
  | some r => exact keeps_onSeat_hub (Manager.keeps_onClient (Client.keeps_listen r))

/-- Following a hub does not change it. -/
theorem keeps_turnWatch (reload : m Bool) : Keeps m _ (turnWatch reload) := fun p w => by
  have hopen := keeps_openStream (m := m) p w
  rw [run_turnWatch]
  generalize run (openStream (m := m)) (p, w) = opened at hopen ⊢
  match opened, hopen with
  | (.error e, q, w'), hopen => exact hopen.trans (keeps_backOff q w')
  | (.ok none, q, w'), hopen => exact hopen.trans ⟨rfl, rfl, rfl, rfl, .refl _⟩
  | (.ok (some reply), q, w'), hopen =>
    exact (hopen.trans (keeps_follow reload _ q w')).trans (keeps_goOn reload _ _ _)

end HubProvider

end FleetGate
