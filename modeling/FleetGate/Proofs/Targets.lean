import FleetGate.Proofs.Lives

/-!
# Targets

A request names a target, and the target must lead to the right manager and to no other.

* `Provider.Serves` says which manager is the one for a target: that of the context, that of the
  hub if the cluster is the hub, or else one whose address is that of the cluster at the hub's
  proxy.
* A target that is empty or known is resolved (`Lived.resolves_seatOf`).  Any other target leads
  nowhere (`seatOf_of_not_mem`).
* `targets_are_resolved` puts this together with what a request does.
-/

namespace FleetGate

open Runs (run)

namespace Provider

/-- The manager at a seat is the one for a target. -/
def Serves (target : String) (seat : Seat) (g : Manager) : Provider → Prop
  | single _ => target = ""
  | contexts p => g.Serves p.env.files p.kubeconfig target
  | hub p => (seat = .main ↔ p.topology.hub? = some target) ∧
      (seat = .main ∨ seat = .other target ∧
        Uri.parse ("https://" ++ p.proxyHost ++ "/" ++ target) = .ok g.config.connection.address)

/-- A seat where a manager sits. -/
def Taken : Provider → Seat → Prop
  | single _, _ => True
  | contexts p, seat => p.Taken seat.context
  | hub p, seat => p.Taken seat.cluster

/-- The manager that is built for a target. -/
def build (target : String) : Provider → Except FleetError Manager
  | single p => .error (.targetNotSupported p.strategy)
  | contexts p => p.build target
  | hub p => p.build target

/-- The failure of a request for a target that is not known. -/
def unknown (target : String) : Provider → FleetError
  | single p => .targetNotSupported p.strategy
  | contexts _ => .unknownTarget ContextProvider.parameter target
  | hub _ => .unknownTarget HubProvider.parameter target

/-- Where a target leads that is empty or known. -/
inductive Resolves (p : Provider) (target : String) :
    Except FleetError (Seat × Provider) → Prop where
  /-- To a manager that sits there already. -/
  | taken {seat : Seat} :
      p.Taken seat → (target ≠ "" → p.Serves target seat (p.managerAt seat)) →
      p.Resolves target (.ok (seat, p))
  /-- To a manager that is built and seated. -/
  | built {q : Provider} {g : Manager} :
      ¬ p.Taken (.other target) → p.build target = .ok g → q = p.setManager g (.other target) →
      q.managerAt (.other target) = g → q.Serves target (.other target) g →
      p.Resolves target (.ok (.other target, q))
  /-- To the failure to build one. -/
  | unbuilt {e : FleetError} :
      ¬ p.Taken (.other target) → p.build target = .error e → p.Resolves target (.error e)

end Provider

/-! ## Known targets -/

theorem HubProvider.address_of_build {p : HubProvider} {cluster : String} {g : Manager}
    (h : p.build cluster = .ok g) :
    Uri.parse ("https://" ++ p.proxyHost ++ "/" ++ cluster) = .ok g.config.connection.address := by
  obtain ⟨connection, hconnection, h⟩ := exists_of_bind_eq_ok h
  obtain ⟨hconfig, -⟩ := Manager.config_of_connect (eq_ok_of_mapError h)
  obtain ⟨address, haddress, hconnection⟩ := exists_of_bind_eq_ok hconnection
  have hsame : connection.address = address := by
    dsimp only at hconnection
    split at hconnection
    · obtain ⟨_, -, hconnection⟩ := exists_of_bind_eq_ok hconnection
      cases hconnection
      rfl
    · cases hconnection
      rfl
  rw [hconfig, hsame]
  exact eq_ok_of_mapError haddress

namespace Provider

variable {p : Provider} {target : String}

namespace Lived

theorem targets_sorted (h : p.Lived) : p.targets.Pairwise (· < ·) := by
  cases h with
  | single p => exact List.pairwise_singleton _ _
  | contexts h => exact ContextProvider.targets_sorted _
  | hub h => exact h.reachable.sound.ordered

theorem defaultTarget_mem (h : p.Lived) (hne : p.targets ≠ []) : p.defaultTarget ∈ p.targets := by
  cases h with
  | single p => exact List.mem_singleton_self _
  | contexts h => exact h.sound.default_mem
  | hub h => exact h.reachable.sound.defaultName_mem hne

/-- A target that is empty or known is resolved. -/
theorem resolves_seatOf (h : p.Lived) (ht : target = "" ∨ target ∈ p.targets) :
    p.Resolves target (p.seatOf target) := by
  cases h with
  | single p =>
    have hempty : target = "" := ht.elim id List.mem_singleton.mp
    subst hempty
    exact .taken trivial fun hne => absurd rfl hne
  | @contexts p h =>
    by_cases hcurrent : target = "" ∨ target = p.defaultTarget
    · rw [seatOf, ContextProvider.seatOf_of_current hcurrent]
      refine .taken trivial fun hne => ?_
      rw [hcurrent.resolve_left hne]
      exact h.sound.current
    · obtain ⟨hne, hd⟩ := not_or.mp hcurrent
      rw [seatOf, ContextProvider.seatOf_of_other hne hd (ht.resolve_left hne)]
      cases hheld : Fields.get? target p.others with
      | some g =>
        have hg : p.managerAt (.other target) = g := by simp [ContextProvider.managerAt, hheld]
        refine .taken (by simp [Taken, ContextProvider.Taken, hheld])
          fun _ => ?_
        show (p.managerAt (.other target)).Serves _ _ _
        rw [hg]
        exact h.sound.others target g hheld
      | none =>
        have hvacant : ¬ (Provider.contexts p).Taken (.other target) := by
          simp [Taken, Seat.context, ContextProvider.Taken, hheld]
        cases hbuilt : p.build target with
        | error e => exact .unbuilt hvacant hbuilt
        | ok g =>
          refine .built hvacant hbuilt rfl ?_ (Manager.serves_of_context hbuilt)
          simp [managerAt, Seat.context, ContextProvider.managerAt, ContextProvider.setManager]
  | @hub p xs h =>
    by_cases hhub : target = "" ∨ p.topology.hub? = some target
    · rw [seatOf, HubProvider.seatOf_of_hub hhub]
      refine .taken trivial fun hne => ⟨iff_of_true rfl (hhub.resolve_left hne), Or.inl rfl⟩
    · obtain ⟨hne, hhub⟩ := not_or.mp hhub
      have hmem : target ∈ p.targets := ht.resolve_left hne
      have hseat : Seat.other target = .main ↔ p.topology.hub? = some target :=
        iff_of_false Seat.noConfusion hhub
      rw [seatOf, HubProvider.seatOf_of_spoke hne hhub hmem]
      cases hheld : p.topology.held? target with
      | some g =>
        have hg : p.managerAt (.spoke target) = g := by simp [HubProvider.managerAt, hheld]
        obtain ⟨built, hbuilt, hmake⟩ := h.fits target g hheld
        refine .taken (by simp [Taken, HubProvider.Taken, hheld])
          fun _ => ⟨hseat, Or.inr ⟨rfl, ?_⟩⟩
        show _ = Except.ok (p.managerAt (.spoke target)).config.connection.address
        rw [hg, hmake.config_eq]
        exact HubProvider.address_of_build hbuilt
      | none =>
        have hvacant : ¬ (Provider.hub p).Taken (.other target) := by
          simp [Taken, Seat.cluster, HubProvider.Taken, hheld]
        cases hbuilt : p.build target with
        | error e => exact .unbuilt hvacant hbuilt
        | ok g =>
          have hsame : (p.setManager g (.spoke target)).topology.hub? = p.topology.hub? := by
            show (p.topology.update target g).hub? = _
            unfold Topology.update
            split <;> rfl
          refine .built hvacant hbuilt rfl ?_
            ⟨?_, Or.inr ⟨rfl, HubProvider.address_of_build hbuilt⟩⟩
          · show ((p.topology.update target g).held? target).getD _ = g
            simp [Topology.held?_update, Topology.has_iff.mpr hmem]
          · rw [hsame]
            exact hseat

end Lived

/-- A target that is not known leads nowhere. -/
theorem seatOf_of_not_mem (h : p.Lived) (hne : target ≠ "") (hmem : target ∉ p.targets) :
    p.seatOf target = .error (p.unknown target) := by
  cases h with
  | single p => simp [seatOf, SingleProvider.check, hne, unknown, Except.map]
  | contexts h =>
    have hd : target ≠ _ := fun he => hmem (he ▸ h.sound.default_mem)
    rw [seatOf, ContextProvider.seatOf_of_unknown hne hd hmem]
    rfl
  | hub h =>
    have hhub := fun he => hmem (h.reachable.sound.hub_mem target he)
    rw [seatOf, HubProvider.seatOf_of_unknown hne hhub hmem]
    rfl

/-! ## Requests -/

theorem chosen_of_ne (hne : target ≠ "") : p.chosen target = target := by
  cases p with
  | single p => rfl
  | contexts p => rfl
  | hub p => simp [chosen, HubProvider.chosen, hne]

theorem Lived.chosen_mem (h : p.Lived) (ht : target = "" ∨ target ∈ p.targets) :
    p.chosen target = "" ∨ p.chosen target ∈ p.targets := by
  cases h with
  | single p => exact ht
  | contexts h => exact ht
  | @hub p xs h =>
    simp only [chosen, HubProvider.chosen, String.isEmpty_iff]
    split
    · by_cases hnone : p.targets = []
      · refine Or.inl ?_
        have hhub : p.topology.hub? = none := by
          cases hhub : p.topology.hub? with
          | none => rfl
          | some name =>
            have hmem : name ∈ p.targets := h.reachable.sound.hub_mem name hhub
            simp [hnone] at hmem
        have hnames : p.topology.names = [] := hnone
        simp [HubProvider.defaultTarget, Topology.defaultName, hhub, hnames]
      · exact Or.inr (h.reachable.sound.defaultName_mem hnone)
    · exact ht

variable (m : Type → Type) [Monad m] [Network m] {W : Type} [Runs m W]

/-- A request to verify a token is done where the target leads.  If it leads nowhere, nothing
is done at all. -/
def Verifies (p : Provider) (target : String) (found : Except FleetError (Seat × Provider)) :
    Prop :=
  ∀ (token : String) (audience : Option String) (w : W),
    run (verify (m := m) target token audience) (p, w) = match found with
      | .error e => (.error e, p, w)
      | .ok (seat, q) => q.doneAt seat (Manager.verify (m := m) token audience) w

/-- So is a request for a handle.  The caller's token is exchanged once the seat is found. -/
def Handles (p : Provider) (target : String) (found : Except FleetError (Seat × Provider)) :
    Prop :=
  ∀ {α : Type} (exchange : TokenExchange.Exchanger m) (caller : Caller)
    (action : Handle → StateT Manager m α) (w : W),
    run (withHandle exchange caller target action) (p, w) = match found with
      | .error e => (.error e, p, w)
      | .ok (seat, q) => match run (q.exchangeFor exchange caller (p.chosen target)) w with
          | (.error e, w) => (.error e, q, w)
          | (.ok caller, w) => q.doneAt seat (Manager.withHandle caller action) w

end Provider

/-- In every state that a provider gets into, its targets stand in order, each once, and the
default is one of them unless there are none.  A target that is empty or one of them leads to
its own manager, unless that cannot be built.  Any other target leads nowhere. -/
theorem targets_are_resolved (m : Type → Type) [Monad m] [Network m] {W : Type} [Runs m W]
    {p : Provider} (h : p.Lived) :
    p.targets.Pairwise (· < ·) ∧ (p.targets ≠ [] → p.defaultTarget ∈ p.targets) ∧
    (∀ target, target = "" ∨ target ∈ p.targets →
      (∃ found, p.Resolves target found ∧ p.Verifies m target found) ∧
      ∃ found, p.Resolves (p.chosen target) found ∧ p.Handles m target found) ∧
    ∀ target, target ≠ "" → target ∉ p.targets →
      p.Verifies m target (.error (p.unknown target)) ∧
      p.Handles m target (.error (p.unknown target)) := by
  refine ⟨h.targets_sorted, h.defaultTarget_mem, fun target ht => ⟨?_, ?_⟩,
    fun target hne hmem => ⟨?_, ?_⟩⟩
  · exact ⟨_, h.resolves_seatOf ht, fun token audience w => Provider.run_verify _ _ _ _ _⟩
  · exact ⟨_, h.resolves_seatOf (h.chosen_mem ht),
      fun exchange caller action w => Provider.run_withHandle _ _ _ _ _ _⟩
  · intro token audience w
    rw [Provider.run_verify, Provider.seatOf_of_not_mem h hne hmem]
  · intro α exchange caller action w
    rw [Provider.run_withHandle, Provider.chosen_of_ne hne, Provider.seatOf_of_not_mem h hne hmem]

/-- A cluster that is not the hub. -/
def otherCluster : ApiObject := ⟨some "alpha", [], some "2", .null⟩

/-- The provider of a hub that has another cluster. -/
def pairProvider : HubProvider :=
  { ownProvider with
    membership := (({} : Membership Manager).relist ⟨some "2", [ownCluster, otherCluster]⟩).2 }

/-- Each of two clusters leads to its manager, and a third one nowhere. -/
theorem pair_is_resolved :
    (Provider.hub pairProvider).Lived ∧ pairProvider.targets = ["alpha", "local-cluster"] ∧
      (∃ found, (Provider.hub pairProvider).Resolves "alpha" found ∧
        (Provider.hub pairProvider).Verifies Simulation.Simulated "alpha" found) ∧
      (Provider.hub pairProvider).Verifies Simulation.Simulated "beta"
        (.error (.unknownTarget "cluster" "beta")) := by
  have hlived : (Provider.hub pairProvider).Lived :=
    .hub (.listed ⟨some "2", [ownCluster, otherCluster]⟩ rfl)
  have htargets : pairProvider.targets = ["alpha", "local-cluster"] := by decide
  obtain ⟨-, -, hknown, hunknown⟩ := targets_are_resolved Simulation.Simulated hlived
  refine ⟨hlived, htargets, (hknown "alpha" (Or.inr ?_)).1, (hunknown "beta" (by decide) ?_).1⟩
  · show "alpha" ∈ pairProvider.targets
    simp [htargets]
  · show "beta" ∉ pairProvider.targets
    simp [htargets]

end FleetGate
