import FleetGate.Proofs.ByteOrder
import FleetGate.Proofs.Running
import FleetGate.Proofs.Slots
import FleetGate.Provider

/-!
# Seats

A request names a target, and the target leads to a seat.  A manager sits there already, or
one is built and seated.  Then it does the work.

* `HubProvider.lookup_of_hub`, `lookup_of_spoke` and `lookup_of_unknown` are the three ends of
  a lookup, and so are `ContextProvider.lookup_of_current`, `lookup_of_other` and
  `lookup_of_unknown`.
* `Provider.seatOf` is the seat of a target for every kind of provider, and
  `Provider.doneAt` is what work at a seat comes to.
* `Provider.run_verify` and `Provider.run_withHandle` say that this is all that happens for a
  request.  Only a provider of a hub exchanges the caller's token first.
-/

namespace FleetGate

open Runs (run)

/-! ## The contexts of a kubeconfig -/

namespace ContextProvider

variable {p : ContextProvider} {target : String}

/-- The targets are the names of the contexts. -/
theorem mem_targets : target ∈ p.targets ↔ p.kubeconfig.contexts.any (·.name == target) = true := by
  simp [targets]

/-- The targets are in byte order, and none stands there twice. -/
theorem targets_sorted (p : ContextProvider) : p.targets.Pairwise (· < ·) := by
  have hsorted := List.pairwise_mergeSort Text.byteOrder_trans Text.byteOrder_total
  exact (Text.pairwise_eraseDups (hsorted _)).imp fun ⟨hle, hne⟩ => Text.lt_of_byteOrder hle hne

/-- No target at all means the current context, just as its name does. -/
theorem lookup_of_current (h : target = "" ∨ target = p.defaultTarget) :
    p.lookup target = .ok (.current, true) := by
  unfold lookup
  rcases h with rfl | rfl <;> simp

/-- Another context has a seat, and the answer says whether somebody sits there. -/
theorem lookup_of_other (hne : target ≠ "") (hd : target ≠ p.defaultTarget)
    (hmem : target ∈ p.targets) :
    p.lookup target = .ok (.other target, (Fields.get? target p.others).isSome) := by
  unfold lookup
  rw [if_neg (by simp [hne, hd]), if_neg (by simp [mem_targets.mp hmem])]

/-- A target that is no context is refused by its name. -/
theorem lookup_of_unknown (hne : target ≠ "") (hd : target ≠ p.defaultTarget)
    (hmem : target ∉ p.targets) : p.lookup target = .error (.unknownTarget parameter target) := by
  unfold lookup
  rw [if_neg (by simp [hne, hd]), if_pos (by simpa using fun h => hmem (mem_targets.mpr h))]

theorem seatOf_of_current (h : target = "" ∨ target = p.defaultTarget) :
    p.seatOf target = .ok (.current, p) := by
  simp [seatOf, lookup_of_current h]

/-- Another context leads to its manager, or to one that is built for it. -/
theorem seatOf_of_other (hne : target ≠ "") (hd : target ≠ p.defaultTarget)
    (hmem : target ∈ p.targets) :
    p.seatOf target = match Fields.get? target p.others with
      | some _ => .ok (.other target, p)
      | none => (p.build target).map fun g => (.other target, p.setManager g (.other target)) := by
  rw [seatOf, lookup_of_other hne hd hmem]
  cases hg : Fields.get? target p.others with
  | some g => rfl
  | none =>
    cases p.build target with
    | error e => rfl
    | ok g => simp [seat, setManager, Fields.insertNew, hg, Except.map]

/-- If another context leads to a seat, its manager was there and nothing has changed, or one was
built and now sits there. -/
theorem seatOf_other_cases (hne : target ≠ "") (hd : target ≠ p.defaultTarget)
    (hmem : target ∈ p.targets) {seat : Seat} {q : ContextProvider}
    (h : p.seatOf target = .ok (seat, q)) :
    seat = .other target ∧ ((Fields.get? target p.others).isSome = true ∧ q = p ∨
      Fields.get? target p.others = none ∧
        ∃ g, p.build target = .ok g ∧ q = p.setManager g (.other target)) := by
  rw [seatOf_of_other hne hd hmem] at h
  cases hheld : Fields.get? target p.others with
  | some g =>
    simp only [hheld, Except.ok.injEq, Prod.mk.injEq] at h
    exact ⟨h.1.symm, Or.inl ⟨rfl, h.2.symm⟩⟩
  | none =>
    rw [hheld] at h
    cases hbuilt : p.build target with
    | error e => simp [hbuilt, Except.map] at h
    | ok g =>
      simp only [hbuilt, Except.map, Except.ok.injEq, Prod.mk.injEq] at h
      exact ⟨h.1.symm, Or.inr ⟨rfl, g, rfl, h.2.symm⟩⟩

theorem seatOf_of_unknown (hne : target ≠ "") (hd : target ≠ p.defaultTarget)
    (hmem : target ∉ p.targets) : p.seatOf target = .error (.unknownTarget parameter target) := by
  simp [seatOf, lookup_of_unknown hne hd hmem]

variable {m : Type → Type} [Monad m] {W : Type} [Runs m W] {α : Type}

/-- Work at a seat is done by the manager who sits there, and changes only this manager. -/
theorem run_onSeat (seat : Seat) (action : StateT Manager m α) (p : ContextProvider) (w : W) :
    run (onSeat seat action) (p, w) =
      let done := run action (p.managerAt seat, w)
      (done.1, p.setManager done.2.1 seat, done.2.2) := by
  simp only [onSeat, Runs.run_bind, Runs.run_get, Runs.run_monadLift, Runs.run_modify,
    Runs.run_pure]
  rfl

/-- Work for a target is work at its seat.  If there is none, nothing is done. -/
theorem run_onTarget (target : String) (action : StateT Manager m (Except FleetError α))
    (p : ContextProvider) (w : W) :
    run (onTarget target action) (p, w) =
      match p.seatOf target with
      | .error e => (.error e, p, w)
      | .ok (seat, q) => run (onSeat seat action) (q, w) := by
  unfold onTarget
  rw [Runs.run_bind, Runs.run_get]
  match p.seatOf target with
  | .error e => exact Runs.run_pure _ _
  | .ok (seat, q) =>
    dsimp only
    rw [Runs.run_bind, Runs.run_set]

end ContextProvider

/-! ## The managed clusters of a hub -/

namespace HubProvider

variable {p : HubProvider} {target : String}

/-- No target at all means the hub, just as the name of its own cluster does. -/
theorem lookup_of_hub (h : target = "" ∨ p.topology.hub? = some target) :
    p.lookup target = .ok (.hub, true) := by
  rw [lookup, Topology.find_of_hub h]

/-- Another cluster has a seat, and the answer says whether somebody sits there. -/
theorem lookup_of_spoke (hne : target ≠ "") (hhub : p.topology.hub? ≠ some target)
    (hmem : target ∈ p.targets) :
    p.lookup target = .ok (.spoke target, (p.topology.held? target).isSome) := by
  cases hheld : p.topology.held? target with
  | some g =>
    rw [lookup, Topology.find_of_held hne hhub hheld]
    rfl
  | none =>
    rw [lookup, Topology.find_of_vacant hne hhub hmem hheld]
    rfl

theorem lookup_of_unknown (hne : target ≠ "") (hhub : p.topology.hub? ≠ some target)
    (hmem : target ∉ p.targets) : p.lookup target = .error (.unknownTarget parameter target) := by
  rw [lookup, Topology.find_of_unknown hne hhub hmem]

theorem seatOf_of_hub (h : target = "" ∨ p.topology.hub? = some target) :
    p.seatOf target = .ok (.hub, p) := by
  simp [seatOf, lookup_of_hub h]

/-- A manager is seated by claiming the slot of its cluster. -/
theorem seat_cases {g : Manager} {seat : Seat} {q : HubProvider}
    (h : p.seat target g = .ok (seat, q)) :
    seat = .spoke target ∧
      ∃ held t, p.topology.claim target g = some (held, t) ∧ q = p.setTopology t := by
  unfold HubProvider.seat at h
  cases hc : p.topology.claim target g with
  | none => simp [hc] at h
  | some claimed =>
    simp only [hc, Except.ok.injEq, Prod.mk.injEq] at h
    exact ⟨h.1.symm, _, _, rfl, h.2.symm⟩

/-- Where nobody sits, the manager who claims the slot gets it. -/
theorem seat_of_empty (hmem : target ∈ p.targets) (h : p.topology.held? target = none)
    (g : Manager) : p.seat target g = .ok (.spoke target, p.setManager g (.spoke target)) := by
  simp [seat, setManager, Topology.claim_of_empty hmem h, Topology.update,
    Topology.has_iff.mpr hmem]

/-- Another cluster leads to its manager, or to one that is built for it. -/
theorem seatOf_of_spoke (hne : target ≠ "") (hhub : p.topology.hub? ≠ some target)
    (hmem : target ∈ p.targets) :
    p.seatOf target = match p.topology.held? target with
      | some _ => .ok (.spoke target, p)
      | none => (p.build target).map fun g => (.spoke target, p.setManager g (.spoke target)) := by
  rw [seatOf, lookup_of_spoke hne hhub hmem]
  cases hheld : p.topology.held? target with
  | some g => rfl
  | none =>
    cases p.build target with
    | error e => rfl
    | ok g => exact seat_of_empty hmem hheld g

/-- If another cluster leads to a seat, its manager was there and nothing has changed, or one was
built and now sits there. -/
theorem seatOf_spoke_cases (hne : target ≠ "") (hhub : p.topology.hub? ≠ some target)
    (hmem : target ∈ p.targets) {seat : Seat} {q : HubProvider}
    (h : p.seatOf target = .ok (seat, q)) :
    seat = .spoke target ∧ ((p.topology.held? target).isSome = true ∧ q = p ∨
      p.topology.held? target = none ∧
        ∃ g, p.build target = .ok g ∧ q = p.setManager g (.spoke target)) := by
  rw [seatOf_of_spoke hne hhub hmem] at h
  cases hheld : p.topology.held? target with
  | some g =>
    simp only [hheld, Except.ok.injEq, Prod.mk.injEq] at h
    exact ⟨h.1.symm, Or.inl ⟨rfl, h.2.symm⟩⟩
  | none =>
    rw [hheld] at h
    cases hbuilt : p.build target with
    | error e => simp [hbuilt, Except.map] at h
    | ok g =>
      simp only [hbuilt, Except.map, Except.ok.injEq, Prod.mk.injEq] at h
      exact ⟨h.1.symm, Or.inr ⟨rfl, g, rfl, h.2.symm⟩⟩

theorem seatOf_of_unknown (hne : target ≠ "") (hhub : p.topology.hub? ≠ some target)
    (hmem : target ∉ p.targets) : p.seatOf target = .error (.unknownTarget parameter target) := by
  simp [seatOf, lookup_of_unknown hne hhub hmem]

/-- The target that a request for a handle means. -/
def chosen (p : HubProvider) (target : String) : String :=
  if target.isEmpty then p.defaultTarget else target

variable {m : Type → Type} [Monad m] {W : Type} [Runs m W] {α : Type}

theorem run_onSeat (seat : Seat) (action : StateT Manager m α) (p : HubProvider) (w : W) :
    run (onSeat seat action) (p, w) =
      let done := run action (p.managerAt seat, w)
      (done.1, p.setManager done.2.1 seat, done.2.2) := by
  simp only [onSeat, Runs.run_bind, Runs.run_get, Runs.run_monadLift, Runs.run_modify,
    Runs.run_pure]
  rfl

theorem run_onTarget (target : String) (action : StateT Manager m (Except FleetError α))
    (p : HubProvider) (w : W) :
    run (onTarget target action) (p, w) =
      match p.seatOf target with
      | .error e => (.error e, p, w)
      | .ok (seat, q) => run (onSeat seat action) (q, w) := by
  unfold onTarget
  rw [Runs.run_bind, Runs.run_get]
  match p.seatOf target with
  | .error e => exact Runs.run_pure _ _
  | .ok (seat, q) =>
    dsimp only
    rw [Runs.run_bind, Runs.run_set]

/-- The token is exchanged when the seat is there, and only then the work begins. -/
theorem run_withHandle [Network m] (exchange : TokenExchange.Exchanger m) (caller : Caller)
    (target : String) (action : Handle → StateT Manager m α) (p : HubProvider) (w : W) :
    run (withHandle exchange caller target action) (p, w) =
      match p.seatOf (p.chosen target) with
      | .error e => (.error e, p, w)
      | .ok (seat, q) => match run (q.exchangeFor exchange caller (p.chosen target)) w with
          | (.error e, w) => (.error e, q, w)
          | (.ok caller, w) => run (onSeat seat (Manager.withHandle caller action)) (q, w) := by
  unfold withHandle
  rw [Runs.run_bind, Runs.run_get]
  dsimp only
  have hchosen : (if target.isEmpty then p.defaultTarget else target) = p.chosen target := rfl
  rw [hchosen]
  match p.seatOf (p.chosen target) with
  | .error e => exact Runs.run_pure _ _
  | .ok (seat, q) =>
    dsimp only
    rw [Runs.run_bind, Runs.run_set, Runs.run_bind, Runs.run_lift]
    dsimp only
    match run (q.exchangeFor exchange caller (p.chosen target)) w with
    | (.error e, w) => exact Runs.run_pure _ _
    | (.ok caller, w) => rfl

end HubProvider

/-! ## Providers -/

namespace SingleProvider

variable {m : Type → Type} [Monad m] {W : Type} [Runs m W] {α : Type}

/-- A provider of one target only looks whether it is the one that is asked for. -/
theorem run_onTarget (target : String) (action : StateT Manager m (Except FleetError α))
    (p : SingleProvider) (w : W) :
    run (onTarget target action) (p, w) =
      match p.check target with
      | .error e => (.error e, p, w)
      | .ok () =>
          let done := run action (p.manager, w)
          (done.1, { p with manager := done.2.1 }, done.2.2) := by
  unfold onTarget
  rw [Runs.run_bind, Runs.run_get]
  match p.check target with
  | .error e => exact Runs.run_pure _ _
  | .ok () =>
    simp only [onManager, Runs.run_bind, Runs.run_get, Runs.run_monadLift, Runs.run_set,
      Runs.run_pure]
    rfl

end SingleProvider

namespace Provider

/-- Which manager a target leads to. -/
inductive Seat where
  /-- That which the provider began with. -/
  | main
  /-- That of another target. -/
  | other (target : String)
deriving DecidableEq, Repr

namespace Seat

/-- The seat among the contexts of a kubeconfig. -/
def context : Seat → ContextProvider.Seat
  | main => .current
  | other target => .other target

/-- The seat among the clusters of a hub. -/
def cluster : Seat → HubProvider.Seat
  | main => .hub
  | other target => .spoke target

def ofContext : ContextProvider.Seat → Seat
  | .current => main
  | .other target => other target

def ofCluster : HubProvider.Seat → Seat
  | .hub => main
  | .spoke target => other target

@[simp]
theorem context_ofContext (seat : ContextProvider.Seat) : (ofContext seat).context = seat := by
  cases seat <;> rfl

@[simp]
theorem cluster_ofCluster (seat : HubProvider.Seat) : (ofCluster seat).cluster = seat := by
  cases seat <;> rfl

end Seat

/-- The manager at a seat. -/
def managerAt : Provider → Seat → Manager
  | single p, _ => p.manager
  | contexts p, seat => p.managerAt seat.context
  | hub p, seat => p.managerAt seat.cluster

/-- The provider with another manager at a seat. -/
def setManager (manager : Manager) : Provider → Seat → Provider
  | single p, _ => .single { p with manager }
  | contexts p, seat => .contexts (p.setManager manager seat.context)
  | hub p, seat => .hub (p.setManager manager seat.cluster)

/-- The seat of a target, and the provider with a manager there. -/
def seatOf (target : String) : Provider → Except FleetError (Seat × Provider)
  | single p => (p.check target).map fun _ => (.main, .single p)
  | contexts p => (p.seatOf target).map fun (seat, q) => (.ofContext seat, .contexts q)
  | hub p => (p.seatOf target).map fun (seat, q) => (.ofCluster seat, .hub q)

/-- The target that a request for a handle means. -/
def chosen (target : String) : Provider → String
  | hub p => p.chosen target
  | _ => target

variable {m : Type → Type} [Monad m] {W : Type} [Runs m W] {α : Type}

/-- The caller as the cluster of a target sees them. -/
def exchangeFor (exchange : TokenExchange.Exchanger m) (caller : Caller) (target : String) :
    Provider → m (Except FleetError Caller)
  | hub p => p.exchangeFor exchange caller target
  | _ => pure (.ok caller)

/-- What work at a seat comes to. -/
def doneAt (seat : Seat) (action : StateT Manager m α) (p : Provider) (w : W) :
    α × Provider × W :=
  let done := run action (p.managerAt seat, w)
  (done.1, p.setManager done.2.1 seat, done.2.2)

/-- Work at a seat is what the provider of a kubeconfig does there. -/
theorem doneAt_contexts (seat : ContextProvider.Seat) (action : StateT Manager m α)
    (p : ContextProvider) (w : W) :
    doneAt (.ofContext seat) action (.contexts p) w =
      let done := run (ContextProvider.onSeat seat action) (p, w)
      (done.1, .contexts done.2.1, done.2.2) := by
  simp [ContextProvider.run_onSeat, doneAt, managerAt, setManager]

/-- Work at a seat is what the provider of a hub does there. -/
theorem doneAt_hub (seat : HubProvider.Seat) (action : StateT Manager m α) (p : HubProvider)
    (w : W) :
    doneAt (.ofCluster seat) action (.hub p) w =
      let done := run (HubProvider.onSeat seat action) (p, w)
      (done.1, .hub done.2.1, done.2.2) := by
  simp [HubProvider.run_onSeat, doneAt, managerAt, setManager]

/-- A provider does what its kind does. -/
theorem run_onKind (single : StateT SingleProvider m α) (contexts : StateT ContextProvider m α)
    (hub : StateT HubProvider m α) (p : Provider) (w : W) :
    run (onKind single contexts hub) (p, w) =
      match p with
      | .single p => let done := run single (p, w); (done.1, .single done.2.1, done.2.2)
      | .contexts p => let done := run contexts (p, w); (done.1, .contexts done.2.1, done.2.2)
      | .hub p => let done := run hub (p, w); (done.1, .hub done.2.1, done.2.2) := by
  unfold onKind
  rw [Runs.run_bind, Runs.run_get]
  cases p with
  | single p =>
    simp only [Runs.run_bind, Runs.run_monadLift, Runs.run_set, Runs.run_pure]
    rfl
  | contexts p =>
    simp only [Runs.run_bind, Runs.run_monadLift, Runs.run_set, Runs.run_pure]
    rfl
  | hub p =>
    simp only [Runs.run_bind, Runs.run_monadLift, Runs.run_set, Runs.run_pure]
    rfl

/-- A token is verified at the seat of the target, and nothing else is done. -/
theorem run_verify [Network m] (target token : String) (audience : Option String) (p : Provider)
    (w : W) :
    run (verify (m := m) target token audience) (p, w) =
      match p.seatOf target with
      | .error e => (.error e, p, w)
      | .ok (seat, q) => q.doneAt seat (Manager.verify (m := m) token audience) w := by
  unfold verify
  rw [run_onKind]
  cases p with
  | single p =>
    dsimp only
    rw [SingleProvider.run_onTarget]
    simp only [seatOf]
    cases p.check target <;> rfl
  | contexts p =>
    dsimp only
    rw [ContextProvider.run_onTarget]
    simp only [seatOf]
    cases p.seatOf target with
    | error e => rfl
    | ok seated => exact (doneAt_contexts seated.1 _ seated.2 w).symm
  | hub p =>
    dsimp only
    rw [HubProvider.run_onTarget]
    simp only [seatOf]
    cases p.seatOf target with
    | error e => rfl
    | ok seated => exact (doneAt_hub seated.1 _ seated.2 w).symm

/-- A handle is made at the seat of the target that was chosen, for the caller whose token was
exchanged if need be. -/
theorem run_withHandle [Network m] (exchange : TokenExchange.Exchanger m) (caller : Caller)
    (target : String) (action : Handle → StateT Manager m α) (p : Provider) (w : W) :
    run (withHandle exchange caller target action) (p, w) =
      match p.seatOf (p.chosen target) with
      | .error e => (.error e, p, w)
      | .ok (seat, q) => match run (q.exchangeFor exchange caller (p.chosen target)) w with
          | (.error e, w) => (.error e, q, w)
          | (.ok caller, w) => q.doneAt seat (Manager.withHandle caller action) w := by
  unfold withHandle
  rw [run_onKind]
  cases p with
  | single p =>
    dsimp only
    rw [SingleProvider.run_onTarget]
    simp only [seatOf, chosen]
    cases p.check target with
    | error e => rfl
    | ok u =>
      simp only [Except.map, exchangeFor, Runs.run_pure]
      rfl
  | contexts p =>
    dsimp only
    rw [ContextProvider.run_onTarget]
    simp only [seatOf, chosen]
    cases p.seatOf target with
    | error e => rfl
    | ok seated =>
      simp only [Except.map, exchangeFor, Runs.run_pure]
      exact (doneAt_contexts seated.1 _ seated.2 w).symm
  | hub p =>
    dsimp only
    rw [HubProvider.run_withHandle]
    simp only [seatOf, chosen]
    cases p.seatOf (p.chosen target) with
    | error e => rfl
    | ok seated =>
      simp only [Except.map, exchangeFor]
      cases run (seated.2.exchangeFor exchange caller (p.chosen target)) w with
      | mk exchanged w' =>
        cases exchanged with
        | error e => rfl
        | ok caller => exact (doneAt_hub seated.1 _ seated.2 w').symm

end Provider

end FleetGate
