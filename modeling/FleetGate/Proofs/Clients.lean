import FleetGate.Client
import FleetGate.Proofs.Admission
import FleetGate.Proofs.Calls

/-!
# What a client keeps

A client remembers what it has learned, and its limiter moves on.  What it was made
from, its route, its rules and its limit stay (`Client.SameMake`).

* `Client.Carried` is for the properties that pass from the parts of a program to the whole and
  hold of the steps that a client takes by itself.  Each operation of a client has them, if what
  it does to the world has.
* `Client.Keeps` says of one program that these things stay.  It is such a property.
* `Client.Program` is for the programs that are made of these operations, and
  `Client.Reached` for the states that a client gets into when such programs use it.

So a client goes by the rules that it was built with all its life
(`Client.Reached.sameMake`), and each of its requests goes through the gate of these
rules, after it has waited for its turn (`Client.Reached.pass_eq`).
-/

namespace FleetGate

open Runs (run)

namespace Client

/-- Two states of one client. -/
structure SameMake (c c' : Client) : Prop where
  config_eq : c'.config = c.config
  route_eq : c'.route = c.route
  rules_eq : c'.rules = c.rules
  limit_eq : c'.limiter.limit = c.limiter.limit

namespace SameMake

theorem refl (c : Client) : SameMake c c := ⟨rfl, rfl, rfl, rfl⟩

theorem trans {c c' c'' : Client} (h : SameMake c c') (h' : SameMake c' c'') : SameMake c c'' :=
  ⟨h'.config_eq.trans h.config_eq, h'.route_eq.trans h.route_eq, h'.rules_eq.trans h.rules_eq,
    h'.limit_eq.trans h.limit_eq⟩

/-- Two states of one client call themselves the same. -/
theorem agent_eq {c c' : Client} (h : SameMake c c') : c'.agent = c.agent := by
  rw [agent, agent, h.config_eq]

end SameMake

variable {m : Type → Type} [Monad m] {α β : Type}

/-! ## Properties of programs -/

/-- A property that passes from the parts of a program to the whole, and that what a client does
by itself has: to look at itself and to note what it has learned. -/
structure Carried (P : (α : Type) → StateT Client m α → Prop) : Prop extends Closed P where
  get : P _ get
  discovered (cache : DiscoveryCache) : P _ (modify fun c => { c with discovery := cache })
  defined (cache : SchemaCache) : P _ (modify fun c => { c with schemas := cache })

/-- What a client does to the world by itself has the property: to look at the clock, to wait
for its turn, and to send a request. -/
structure CarriedOut [Network m] (P : (α : Type) → StateT Client m α → Prop) : Prop
    extends Carried P where
  now : P _ Clock.now
  start : P _ start
  lift_send (r : HttpRequest) : P _ (StateT.lift (Network.send r))

namespace Carried

variable {P : (α : Type) → StateT Client m α → Prop} {call : Api.Call (StateT Client m)}

/-- A request is prepared for its route and exchanged. -/
theorem deliver (h : Carried P) {exchange : HttpRequest → m (Except String α)}
    (hx : ∀ r, P _ (StateT.lift (exchange r))) (r : HttpRequest) : P _ (deliver exchange r) := by
  refine h.bind h.get fun c => ?_
  split
  · exact h.pure _
  · refine h.bind (hx _) fun answer => ?_
    cases answer with
    | error reason => exact h.pure _
    | ok a => exact h.pure _

theorem forget (h : Carried P) : P _ (forget (m := m)) := h.discovered _

/-- A kind is looked up in what was discovered, which may have to be discovered first. -/
theorem kindAt (h : Carried P) (hc : ∀ r, P _ (call r)) (gvr : Gvr) : P _ (kindAt call gvr) := by
  refine h.bind h.get fun c => h.bind (h.kindFor hc _ _) ?_
  rintro ⟨kind, cache⟩
  exact h.bind (h.discovered cache) fun _ => h.pure _

end Carried

namespace CarriedOut

variable [Network m] {P : (α : Type) → StateT Client m α → Prop}
  {call : Api.Call (StateT Client m)}

/-- A validator has the property if all calls have it. -/
theorem check (h : CarriedOut P) (hc : ∀ r, P _ (call r)) (kind : ValidatorKind)
    (subject : Subject) : P _ ((validatorAt call kind).check subject) := by
  cases kind with
  | rbac => exact h.reviewCheck hc subject
  | schema =>
    refine h.bind h.get fun c => h.bind (h.schemaCheck hc h.now subject _) ?_
    rintro ⟨answer, cache⟩
    exact h.bind (h.defined cache) fun _ => h.pure _

/-- So does a request that goes through the gate, with what is exchanged for it. -/
theorem pass (h : CarriedOut P) (hc : ∀ r, P _ (call r))
    {exchange : HttpRequest → m (Except String α)} (hx : ∀ r, P _ (StateT.lift (exchange r)))
    (r : HttpRequest) : P _ (pass call exchange r) := by
  refine h.bind h.start fun _ => h.bind h.get fun c => ?_
  refine h.guard (h.kindAt hc) ?_ (h.pure _) (h.deliver hx) _
  intro v hv subject
  obtain ⟨kind, _, rfl⟩ := List.mem_map.mp hv
  exact h.check hc kind subject

/-- However deep calls nest, each of them passes the gate. -/
theorem sendAt (h : CarriedOut P) (depth : Nat) (r : HttpRequest) : P _ (sendAt depth r) := by
  induction depth generalizing r with
  | zero => exact h.pass (fun _ => h.pure _) h.lift_send r
  | succ depth ih => exact h.pass ih h.lift_send r

theorem send (h : CarriedOut P) (r : HttpRequest) : P _ (send r) := h.sendAt 2 r

theorem listen (h : CarriedOut P) (hl : ∀ r, P _ (StateT.lift (Network.listen r)))
    (r : HttpRequest) : P _ (listen r) :=
  h.pass (h.sendAt 1) hl r

theorem discover (h : CarriedOut P) : P _ (discover (m := m)) := by
  refine h.bind h.get fun c => h.bind (h.snapshot h.send _) ?_
  rintro ⟨found, cache⟩
  exact h.bind (h.discovered cache) fun _ => h.pure _

end CarriedOut

variable {W : Type} [Runs m W]

/-! ## Programs that keep the make -/

/-- A program that leaves the make of the client as it is. -/
def Keeps (m : Type → Type) [Monad m] {W : Type} [Runs m W] (α : Type) (x : StateT Client m α) :
    Prop :=
  ∀ c w, SameMake c (run x (c, w)).2.1

/-- To keep the make passes from the parts of a program to the whole. -/
theorem keeps_closed : Closed (Keeps m) where
  pure a c w := by rw [Runs.run_pure]; exact .refl c
  bind {_ _ x f} hx hf c w := by
    rw [Runs.run_bind]
    exact (hx c w).trans (hf _ _ _)

theorem keeps_lift (x : m α) : Keeps m α (StateT.lift x) := fun c w => by
  rw [Runs.run_lift]; exact .refl c

/-- A change of the state keeps the make if it gives another state of the same client. -/
theorem keeps_modify {f : Client → Client} (hf : ∀ c, SameMake c (f c)) :
    Keeps m PUnit (modify f) := fun c w => by
  rw [Runs.run_modify]; exact hf c

theorem keeps_carried : Carried (Keeps m) where
  toClosed := keeps_closed
  get c w := by rw [Runs.run_get]; exact .refl c
  discovered _ := keeps_modify fun _ => ⟨rfl, rfl, rfl, rfl⟩
  defined _ := keeps_modify fun _ => ⟨rfl, rfl, rfl, rfl⟩

theorem keeps_forget : Keeps m _ (forget (m := m)) := keeps_carried.forget

variable [Network m]

/-- Waiting for a turn moves the limiter on. -/
theorem keeps_start : Keeps m Unit start := fun c w => by
  unfold start
  rw [Runs.run_bind, Runs.run_get, Runs.run_bind, Runs.run_bind, Runs.run_set]
  exact ⟨rfl, rfl, rfl, rfl⟩

/-- All that a client does by itself keeps its make, so that whatever is made of this does. -/
theorem keeps_carriedOut : CarriedOut (Keeps m) where
  toCarried := keeps_carried
  now := keeps_lift _
  start := keeps_start
  lift_send _ := keeps_lift _

theorem keeps_send (r : HttpRequest) : Keeps m _ (send r) := keeps_carriedOut.send r

theorem keeps_listen (r : HttpRequest) : Keeps m _ (listen r) :=
  keeps_carriedOut.listen (fun _ => keeps_lift _) r

/-! ## Building clients -/

/-- A client that is built for a route has what it is built from, and a limit. -/
theorem eq_of_onRoute {config : ClientConfig} {rules : Rules} {route : Route} {c : Client}
    (h : onRoute config rules route = .ok c) :
    ∃ limit, config.limit? = some limit ∧ c.config = config ∧ c.rules = rules ∧
      c.route = route := by
  unfold onRoute at h
  cases hl : config.limit? with
  | none => rw [hl] at h; cases h
  | some limit =>
    rw [hl] at h
    cases h
    exact ⟨limit, rfl, rfl, rfl, rfl⟩

/-- So does a client that is connected. -/
theorem eq_of_connect {fs : Files} {config : ClientConfig} {rules : Rules} {c : Client}
    (h : connect fs config rules = .ok c) :
    ∃ limit, config.limit? = some limit ∧ c.config = config ∧ c.rules = rules := by
  obtain ⟨route, _, h⟩ := exists_of_bind_eq_ok h
  obtain ⟨limit, hl, hc, hr, -⟩ := eq_of_onRoute h
  exact ⟨limit, hl, hc, hr⟩

/-! ## The life of a client -/

/-- The programs that use a client.  They are made of its operations, and of nothing else
that could change it. -/
inductive Program (m : Type → Type) [Monad m] [Network m] :
    (α : Type) → StateT Client m α → Prop where
  | pure {α : Type} (a : α) : Program m α (pure a)
  | bind {α β : Type} {x : StateT Client m α} {f : α → StateT Client m β} :
      Program m α x → (∀ a, Program m β (f a)) → Program m β (x >>= f)
  | send (r : HttpRequest) : Program m _ (send r)
  | listen (r : HttpRequest) : Program m _ (listen r)
  | kindFor (gvr : Gvr) : Program m _ (kindFor gvr)
  | discover : Program m _ discover
  | forget : Program m _ forget

theorem program_closed : Closed (Program m) := ⟨.pure, .bind⟩

/-- No program changes the make of a client. -/
theorem Program.keeps {x : StateT Client m α} (h : Program m α x) : Keeps m α x := by
  induction h with
  | pure a => exact keeps_closed.pure a
  | bind _ _ ihx ihf => exact keeps_closed.bind ihx ihf
  | send r => exact keeps_send r
  | listen r => exact keeps_listen r
  | kindFor gvr => exact keeps_carried.kindAt keeps_send gvr
  | discover => exact keeps_carriedOut.discover
  | forget => exact keeps_forget

/-- The states that a client gets into, whatever programs use it one after the other. -/
inductive Reached (m : Type → Type) [Monad m] [Network m] {W : Type} [Runs m W] (built : Client) :
    Client → Prop where
  | new : Reached m built built
  | step {β : Type} {x : StateT Client m β} {c : Client} (w : W) :
      Program m β x → Reached m built c → Reached m built (run x (c, w)).2.1

/-- A client stays of the make that it was built with. -/
theorem Reached.sameMake {built c : Client} (h : Reached m built c) : SameMake built c := by
  induction h with
  | new => exact .refl built
  | step w hx _ ih => exact ih.trans (hx.keeps _ w)

/-- A request waits for its turn, and then goes through the gate of the rules that the
client was built with. -/
theorem Reached.pass_eq {built c : Client} (h : Reached m built c)
    (call : Api.Call (StateT Client m)) (exchange : HttpRequest → m (Except String α))
    (r : HttpRequest) (w : W) :
    run (pass call exchange r) (c, w) =
      run ((policyAt call built.rules).guard (outlet exchange)
        (r.setHeader "user-agent" built.agent)) (run (start (m := m)) (c, w)).2 := by
  have hs : SameMake built (run (start (m := m)) (c, w)).2.1 :=
    h.sameMake.trans (keeps_start c w)
  rw [pass, Runs.run_bind, Runs.run_bind, Runs.run_get, hs.rules_eq, hs.agent_eq]

end Client

end FleetGate
