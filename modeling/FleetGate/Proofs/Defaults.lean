import FleetGate.Proofs.Targets

/-!
# The default target

A request that names no target means the default one.  A request for a handle always does
(`withHandle_default`).  A request to verify a token goes to the manager that the provider began
with, which is that of the default target if the hub is one of its own clusters.  If it is not,
the default is the first cluster, and the token is verified by the hub instead of this cluster
(`default_is_meant_unless_hub_is_missing`).
-/

namespace FleetGate

open Runs (run)

namespace Provider

/-- A request that names no target does what it does for the default one. -/
structure EmptyMeansDefault (m : Type → Type) [Monad m] [Network m] {W : Type} [Runs m W]
    (p : Provider) : Prop where
  withHandle_eq {α : Type} (exchange : TokenExchange.Exchanger m) (caller : Caller)
    (action : Handle → StateT Manager m α) (w : W) :
    run (withHandle exchange caller "" action) (p, w) =
      run (withHandle exchange caller p.defaultTarget action) (p, w)
  verify_eq (token : String) (audience : Option String) (w : W) :
    run (verify (m := m) "" token audience) (p, w) =
      run (verify (m := m) p.defaultTarget token audience) (p, w)

/-- The hub is none of its own clusters, and one of these is the default. -/
def LacksHub : Provider → Prop
  | hub p => p.topology.hub? = none ∧ p.defaultTarget ≠ ""
  | _ => False

variable {p : Provider}

/-- A request for a handle that names no target means the default one. -/
theorem withHandle_default {m : Type → Type} [Monad m] [Network m] {W : Type} [Runs m W]
    {α : Type} (exchange : TokenExchange.Exchanger m) (caller : Caller)
    (action : Handle → StateT Manager m α) (p : Provider) (w : W) :
    run (withHandle exchange caller "" action) (p, w) =
      run (withHandle exchange caller p.defaultTarget action) (p, w) := by
  rw [run_withHandle, run_withHandle]
  cases p with
  | single p => rfl
  | contexts p =>
    simp only [chosen, defaultTarget, seatOf, ContextProvider.seatOf_of_current, true_or, or_true,
      Except.map, exchangeFor]
  | hub p =>
    have hchosen : p.chosen "" = p.chosen p.defaultTarget := by simp [HubProvider.chosen]
    simp only [chosen, defaultTarget, hchosen]

theorem seatOf_empty (p : Provider) : p.seatOf "" = .ok (.main, p) := by
  cases p with
  | single p => rfl
  | contexts p =>
    rw [seatOf, ContextProvider.seatOf_of_current (Or.inl rfl)]
    rfl
  | hub p =>
    rw [seatOf, HubProvider.seatOf_of_hub (Or.inl rfl)]
    rfl

/-- Unless the hub is missing, the default target leads to the manager that the provider began
with. -/
theorem seatOf_default (h : ¬ p.LacksHub) : p.seatOf p.defaultTarget = .ok (.main, p) := by
  cases p with
  | single p => rfl
  | contexts p =>
    rw [seatOf, defaultTarget, ContextProvider.seatOf_of_current (Or.inr rfl)]
    rfl
  | hub p =>
    have hhub : p.defaultTarget = "" ∨ p.topology.hub? = some p.defaultTarget := by
      cases hhub : p.topology.hub? with
      | none => exact Or.inl (not_not.mp fun hne => h ⟨hhub, hne⟩)
      | some name => exact Or.inr (by simp [HubProvider.defaultTarget, Topology.defaultName, hhub])
    rw [seatOf, defaultTarget, HubProvider.seatOf_of_hub hhub]
    rfl

theorem defaultTarget_mem_of_lacksHub (h : p.LacksHub) : p.defaultTarget ∈ p.targets := by
  cases p with
  | single p => cases h
  | contexts p => cases h
  | hub p =>
    obtain ⟨hhub, hne⟩ := h
    have hname : p.defaultTarget = p.topology.names.head?.getD "" := by
      simp [HubProvider.defaultTarget, Topology.defaultName, hhub]
    cases hhead : p.topology.names.head? with
    | none => exact absurd (by simp [hname, hhead]) hne
    | some name =>
      show p.defaultTarget ∈ p.topology.names
      rw [hname, hhead]
      exact List.mem_of_mem_head? hhead

/-- If the hub is missing, the default target leads to another manager. -/
theorem seat_of_default (h : p.LacksHub) {seat : Seat} {q : Provider}
    (hs : p.seatOf p.defaultTarget = .ok (seat, q)) : seat = .other p.defaultTarget := by
  have hmem := defaultTarget_mem_of_lacksHub h
  cases p with
  | single p => cases h
  | contexts p => cases h
  | hub p =>
    obtain ⟨hhub, hne⟩ := h
    simp only [seatOf, defaultTarget] at hs
    cases hseated : p.seatOf p.defaultTarget with
    | error e => simp [hseated, Except.map] at hs
    | ok seated =>
      obtain ⟨hseat, -⟩ := HubProvider.seatOf_spoke_cases hne (by simp [hhub]) hmem hseated
      simp only [hseated, hseat, Except.map, Except.ok.injEq, Prod.mk.injEq] at hs
      exact hs.1.symm

variable {m : Type → Type} [Monad m] {W : Type} [Runs m W] {α : Type}
  {action : StateT Manager m α} {w : W}

theorem taken_doneAt_main {seat : Seat} :
    (p.doneAt .main action w).2.1.Taken seat ↔ p.Taken seat := by
  cases p with
  | single p => exact Iff.rfl
  | contexts p => cases seat <;> exact Iff.rfl
  | hub p => cases seat <;> exact Iff.rfl

theorem taken_doneAt_other {p : HubProvider} {cluster : String} {g : Manager}
    (hmem : cluster ∈ p.targets) :
    ((hub (p.setManager g (.spoke cluster))).doneAt (.other cluster) action w).2.1.Taken
      (.other cluster) := by
  have hhas : (p.topology.update cluster g).has cluster = true := by
    rw [Topology.update, if_pos (Topology.has_iff.mpr hmem), Topology.has, Fields.get?_insert_self]
    rfl
  show (Topology.held? (Topology.update cluster _ (p.topology.update cluster g))
    cluster).isSome = true
  rw [Topology.held?_update, if_pos ⟨rfl, hhas⟩]
  rfl

/-- To verify a token for the default target builds its manager.  To verify it for none does
not, if the hub is missing. -/
theorem not_emptyMeansDefault [Network m] {p : HubProvider} {g : Manager} (w : W)
    (h : (hub p).LacksHub) (hheld : p.topology.held? p.defaultTarget = none)
    (hbuilt : p.build p.defaultTarget = .ok g) : ¬ (hub p).EmptyMeansDefault m := by
  intro hmeans
  have hmem : p.defaultTarget ∈ p.targets := defaultTarget_mem_of_lacksHub h
  have hseat : (hub p).seatOf p.defaultTarget =
      .ok (.other p.defaultTarget, .hub (p.setManager g (.spoke p.defaultTarget))) := by
    rw [seatOf, HubProvider.seatOf_of_spoke h.2 (by simp [h.1]) hmem, hheld, hbuilt]
    rfl
  have heq := hmeans.verify_eq "" none w
  rw [run_verify, run_verify, seatOf_empty, defaultTarget, hseat] at heq
  have hspoke := iff_of_eq (congrArg (fun done => done.2.1.Taken (.other p.defaultTarget)) heq)
  have hvacant : ¬ (hub p).Taken (.other p.defaultTarget) := by
    simp [Taken, Seat.cluster, HubProvider.Taken, hheld]
  exact hvacant (taken_doneAt_main.mp (hspoke.mpr (taken_doneAt_other hmem)))

end Provider

/-- A request for a handle that names no target means the default one.  A request to verify a
token does so unless the hub is missing.  If it is, the token of such a request is verified by
the hub, and that of a request for the default target is not. -/
theorem default_is_meant_unless_hub_is_missing (m : Type → Type) [Monad m] [Network m] {W : Type}
    [Runs m W] {p : Provider} (h : p.Lived) :
    (∀ {α : Type} (exchange : TokenExchange.Exchanger m) (caller : Caller)
      (action : Handle → StateT Manager m α) (w : W),
      run (Provider.withHandle exchange caller "" action) (p, w) =
        run (Provider.withHandle exchange caller p.defaultTarget action) (p, w)) ∧
    (¬ p.LacksHub → p.EmptyMeansDefault m) ∧
    (p.LacksHub → p.Verifies m "" (.ok (.main, p)) ∧
      ∃ found, p.Resolves p.defaultTarget found ∧ p.Verifies m p.defaultTarget found ∧
        ∀ seat q, found = .ok (seat, q) → seat = .other p.defaultTarget) := by
  refine ⟨fun exchange caller action w => p.withHandle_default exchange caller action w,
    fun hhub => ⟨fun exchange caller action w => p.withHandle_default exchange caller action w, ?_⟩,
    fun hhub => ⟨?_, _,
      h.resolves_seatOf (Or.inr (Provider.defaultTarget_mem_of_lacksHub hhub)),
      fun token audience w => Provider.run_verify _ _ _ _ _,
      fun seat q => Provider.seat_of_default hhub⟩⟩
  · intro token audience w
    rw [Provider.run_verify, Provider.run_verify, Provider.seatOf_empty,
      Provider.seatOf_default hhub]
  · intro token audience w
    rw [Provider.run_verify, Provider.seatOf_empty]

/-- The provider of a hub that is none of its own clusters. -/
def strayProvider : HubProvider :=
  { ownProvider with
    table := { skipVerify := true }
    membership := (({} : Membership Manager).relist ⟨some "2", [otherCluster]⟩).2 }

theorem lived_strayProvider : (Provider.hub strayProvider).Lived :=
  .hub (.listed ⟨some "2", [otherCluster]⟩ rfl)

/-- The token is verified by the hub, and for the default target by a cluster. -/
theorem stray_default_is_not_meant :
    (Provider.hub strayProvider).LacksHub ∧ (Provider.hub strayProvider).Verifies
      Simulation.Simulated "" (.ok (.main, .hub strayProvider)) := by
  have hhub : (Provider.hub strayProvider).LacksHub := ⟨by decide, by decide⟩
  obtain ⟨-, -, hmissing⟩ :=
    default_is_meant_unless_hub_is_missing Simulation.Simulated lived_strayProvider
  exact ⟨hhub, (hmissing hhub).1⟩

/-- If the hub is missing, no target is not the default one. -/
theorem not_emptyMeansDefault_of_stray_hub :
    (Provider.hub strayProvider).Lived ∧
      ¬ (Provider.hub strayProvider).EmptyMeansDefault Simulation.Simulated := by
  refine ⟨lived_strayProvider, ?_⟩
  have hdefault : strayProvider.defaultTarget = "alpha" := by decide
  have hbuilt : (strayProvider.build "alpha").isOk = true := by decide +kernel
  cases hg : strayProvider.build "alpha" with
  | error e => simp [hg, Except.isOk, Except.toBool] at hbuilt
  | ok g =>
    refine Provider.not_emptyMeansDefault ({}, ()) ⟨by decide, by decide⟩ ?_ (hdefault ▸ hg)
    rw [hdefault]
    decide

end FleetGate
