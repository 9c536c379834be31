import FleetGate.Proofs.Identity
import FleetGate.Proofs.Lives
import FleetGate.Proofs.Locations

/-!
# The contexts of derived handles

A handle that is derived for a caller has the kubeconfig of its manager without the users, and the
current context of that kubeconfig must be there.  If it were not, a lenient manager would serve
the caller with its own credentials, and nobody would notice.  It is always there.

* `Kubeconfig.HasCurrent` is what is needed of a kubeconfig, and `Manager.derives` says what a
  manager with such a kubeconfig does.
* `Manager.Made` are the managers that the gate makes: of a kubeconfig and perhaps a context, of
  the pod, and of a cluster of a hub.  Each of the three sees to its kubeconfig in its own way
  (`Manager.Made.hasCurrent`).
* `ContextProvider.Serving` are the states of a provider of a kubeconfig.  The manager that a
  target leads to has the kubeconfig of the provider, and its current context is the target, or
  the default one if none is named (`ContextProvider.Serving.seatOf`).
-/

namespace FleetGate

open Runs (run)

/-! ## Kubeconfigs -/

namespace Kubeconfig

variable {k : Kubeconfig}

/-- There is a current context, and it is one of the contexts. -/
def HasCurrent (k : Kubeconfig) : Prop :=
  ∃ c ∈ k.contexts, k.current = some c.name

theorem any_of_hasCurrent (h : k.HasCurrent) :
    k.contexts.any (·.name == k.currentName) = true := by
  obtain ⟨c, hmem, hc⟩ := h
  refine List.any_eq_true.mpr ⟨c, hmem, ?_⟩
  rw [currentName, hc]
  exact beq_self_eq_true c.name

/-- A connection is made for a context that is there. -/
theorem exists_mem_of_connection {fs : Files} {context : Option String} {c : Connection}
    (h : k.connection fs context = .ok c) :
    ∃ entry ∈ k.contexts, context.or k.current = some entry.name := by
  obtain ⟨name, hname, hany⟩ := exists_of_connection h
  obtain ⟨entry, hmem, he⟩ := List.any_eq_true.mp hany
  exact ⟨entry, hmem, hname.trans (congrArg some (eq_of_beq he).symm)⟩

theorem hasCurrent_of_endpoint (c : Connection) (name : String) :
    (c.kubeconfig name).HasCurrent :=
  ⟨_, List.mem_singleton_self _, rfl⟩

end Kubeconfig

/-! ## Managers -/

/-- A token is not accepted because the cluster cannot be asked, or because it says no. -/
theorem TokenReview.verify_error_cases {m : Type → Type} [Monad m] {W : Type} [Runs m W]
    {call : Api.Call m} {token : String} {audience : Option String} {w : W} {e : FleetError}
    (h : (run (TokenReview.verify call token audience) w).1 = .error e) :
    (∃ cause, e = .call cause) ∨ ∃ reason, e = .tokenRejected reason := by
  unfold TokenReview.verify at h
  rw [Runs.run_bind] at h
  cases hp : (run (Api.post call answer path (toJson token audience)) w).1 with
  | error cause =>
    rw [hp, Runs.run_pure] at h
    exact .inl ⟨cause, (Except.error.inj h).symm⟩
  | ok status =>
    rw [hp] at h
    dsimp only at h
    cases hd : decide status with
    | error reason =>
      rw [hd, Runs.run_pure] at h
      exact .inr ⟨reason, (Except.error.inj h).symm⟩
    | ok identity =>
      rw [hd, Runs.run_pure] at h
      cases h

namespace Manager

variable {g : Manager}

theorem derivedKubeconfig_of_hasCurrent {k : Kubeconfig} (h : k.HasCurrent) :
    derivedKubeconfig k = .ok k.withoutUsers := by
  rw [derivedKubeconfig, if_pos (Kubeconfig.any_of_hasCurrent h)]

/-- Only the client of a handle can fail. -/
theorem handleFor_of_hasCurrent (h : g.kubeconfig.HasCurrent) (token : String)
    (userAgent : Option String) :
    (∃ c, g.derivedClient token userAgent = .ok c ∧
      g.handleFor token userAgent = .ok (.derived c g.kubeconfig.withoutUsers)) ∨
    (∃ reason, g.derivedClient token userAgent = .error (.unusable reason) ∧
      g.handleFor token userAgent = g.fallback (.derivedClient reason)) ∨
    ∃ reason, g.derivedClient token userAgent = .error (.breakdown reason) ∧
      g.handleFor token userAgent = .error (.breakdown reason) := by
  rw [handleFor, derivedKubeconfig_of_hasCurrent h]
  dsimp only
  cases g.derivedClient token userAgent with
  | ok c => exact .inl ⟨c, rfl, rfl⟩
  | error flaw =>
    cases flaw with
    | unusable reason => exact .inr (.inl ⟨reason, rfl, rfl⟩)
    | breakdown reason => exact .inr (.inr ⟨reason, rfl, rfl⟩)

/-- A manager derives its kubeconfig without the users.  It never says that there is none, and it
lends a caller with a token its own client only if no other can be had. -/
structure Derives (m : Type → Type) [Monad m] [Network m] {W : Type} [Runs m W] (g : Manager) :
    Prop where
  kubeconfig : derivedKubeconfig g.kubeconfig = .ok g.kubeconfig.withoutUsers
  available : ∀ (caller : Caller) (w : W) reason,
    (run (derive (m := m) caller) (g, w)).1 ≠ .error (.kubeconfigUnavailable reason)
  own : ∀ (caller : Caller) (w : W) token,
    (run (derive (m := m) caller) (g, w)).1 = .ok .own → caller.token? = some token →
      ∃ reason, g.derivedClient token caller.userAgent = .error (.unusable reason)
  derived : ∀ (caller : Caller) (w : W) c k,
    (run (derive (m := m) caller) (g, w)).1 = .ok (.derived c k) → k = g.kubeconfig.withoutUsers

section

variable {m : Type → Type} [Monad m] [Network m] {W : Type} [Runs m W] {caller : Caller} {w : W}

/-- A caller gets nothing because no token is there or it is not accepted, or because there is no
handle for it. -/
theorem derive_error_cases {e : FleetError}
    (h : (run (derive (m := m) caller) (g, w)).1 = .error e) :
    e = .tokenRequired ∨ (∃ cause, e = .call cause) ∨ (∃ reason, e = .tokenRejected reason) ∨
      ∃ token, g.handleFor token caller.userAgent = .error e := by
  cases ht : caller.token? with
  | none =>
    rw [run_derive_of_no_token ht] at h
    split at h
    · exact .inl (Except.error.inj h).symm
    · cases h
  | some token =>
    cases hv : g.settings.validateToken with
    | false =>
      rw [run_derive_of_unreviewed ht hv] at h
      exact .inr (.inr (.inr ⟨token, h⟩))
    | true =>
      rw [run_derive_of_reviewed ht hv] at h
      rcases Config.cases_of_bind_eq_error h with hreview | ⟨_, -, hh⟩
      · rw [run_verify] at hreview
        dsimp only at hreview
        rcases TokenReview.verify_error_cases hreview with hcall | hrejected
        · exact .inr (.inl hcall)
        · exact .inr (.inr (.inl hrejected))
      · exact .inr (.inr (.inr ⟨token, hh⟩))

theorem derives (h : g.kubeconfig.HasCurrent) : g.Derives m where
  kubeconfig := derivedKubeconfig_of_hasCurrent h
  available caller w reason he := by
    rcases derive_error_cases he with he | ⟨_, he⟩ | ⟨_, he⟩ | ⟨token, he⟩
    · cases he
    · cases he
    · cases he
    · rcases handleFor_of_hasCurrent h token caller.userAgent with ⟨_, -, hh⟩ | ⟨_, -, hh⟩ |
        ⟨_, -, hh⟩
      · cases hh.symm.trans he
      · rw [hh, fallback] at he
        split at he
        · cases he
        · cases he
      · cases hh.symm.trans he
  own caller w token ho ht := by
    rcases eq_handle_of_derive ho with ⟨hn, -⟩ | ⟨token', ht', hh'⟩
    · cases ht.symm.trans hn
    · cases ht.symm.trans ht'
      rcases handleFor_of_hasCurrent h token caller.userAgent with ⟨_, -, hh⟩ | ⟨reason, hc, -⟩ |
        ⟨_, -, hh⟩
      · cases hh.symm.trans hh'
      · exact ⟨reason, hc⟩
      · cases hh.symm.trans hh'
  derived caller w c k hd := by
    rcases eq_handle_of_derive hd with ⟨-, hh⟩ | ⟨token, -, hh⟩
    · cases hh
    · exact derivedKubeconfig_eq_ok (built_of_handleFor hh).1

end

/-- The managers that the gate makes, whatever they have done since. -/
inductive Made : Manager → Prop where
  /-- Of a context of a kubeconfig, or of the current one. -/
  | ofKubeconfig {env : Environment} {settings : Config.Settings}
      {validators : List ValidatorKind} {k : Kubeconfig} {context path? : Option String}
      {g : Manager} : ofKubeconfig env settings validators k context path? = .ok g → Made g
  /-- Of the cluster that the gate runs in. -/
  | ofPod {env : Environment} {settings : Config.Settings} {validators : List ValidatorKind}
      {g : Manager} : ofPod env settings validators = .ok g → Made g
  /-- Of a cluster of a hub. -/
  | spoke {p : HubProvider} {cluster : String} {g : Manager} : p.build cluster = .ok g → Made g
  /-- A manager that has done something. -/
  | worked {g g' : Manager} : Made g → g.SameMake g' → Made g'

/-- The kubeconfig of a manager is the one that it was made of, with the context that it was made
for as the current one. -/
theorem kubeconfig_of_ofKubeconfig {env : Environment} {settings : Config.Settings}
    {validators : List ValidatorKind} {k : Kubeconfig} {context path? : Option String}
    (h : ofKubeconfig env settings validators k context path? = .ok g) :
    g.kubeconfig = { k with current := context.or k.current } ∧ g.kubeconfig.HasCurrent := by
  obtain ⟨c, hc, h⟩ := exists_of_bind_eq_ok h
  obtain ⟨built, hbuilt, h⟩ := exists_of_bind_eq_ok h
  cases h
  obtain ⟨entry, hmem, hentry⟩ := Kubeconfig.exists_mem_of_connection (eq_ok_of_mapError hc)
  have hk : built.kubeconfig = { k with current := context.or k.current } := by
    rw [(config_of_connect (eq_ok_of_mapError hbuilt)).2]
    cases context <;> rfl
  refine ⟨hk, ?_⟩
  show built.kubeconfig.HasCurrent
  rw [hk]
  exact ⟨entry, hmem, hentry⟩

theorem Made.hasCurrent (h : g.Made) : g.kubeconfig.HasCurrent := by
  induction h with
  | ofKubeconfig h => exact (kubeconfig_of_ofKubeconfig h).2
  | ofPod h =>
    obtain ⟨c, -, h⟩ := exists_of_bind_eq_ok h
    obtain ⟨built, hbuilt, h⟩ := exists_of_bind_eq_ok h
    cases h
    show built.kubeconfig.HasCurrent
    rw [(config_of_connect (eq_ok_of_mapError hbuilt)).2]
    exact Kubeconfig.hasCurrent_of_endpoint c _
  | spoke h =>
    obtain ⟨c, -, h⟩ := exists_of_bind_eq_ok h
    rw [(config_of_connect (eq_ok_of_mapError h)).2]
    exact Kubeconfig.hasCurrent_of_endpoint c _
  | worked _ hmake ih =>
    rw [hmake.kubeconfig_eq]
    exact ih

end Manager

/-! ## The contexts of a kubeconfig -/

namespace ContextProvider

variable {k : Kubeconfig} {p q : ContextProvider} {seat : Seat} {target : String}

/-- The states of a provider that serves the contexts of a kubeconfig, wherever the kubeconfig is
from. -/
inductive Serving (k : Kubeconfig) : ContextProvider → Prop where
  /-- It begins with the manager of the current context. -/
  | begun {env : Environment} {settings : Config.Settings} {validators : List ValidatorKind}
      {path? : Option String} {g : Manager} :
      Manager.ofKubeconfig env settings validators k none path? = .ok g →
      Serving k { env, kubeconfig := k, current := g }
  /-- A manager that was built for a context is seated. -/
  | seated {p : ContextProvider} {context : String} {g : Manager} :
      Serving k p → p.build context = .ok g → Serving k (p.seat context g).2
  /-- The manager at a seat has done something. -/
  | worked {p : ContextProvider} {seat : Seat} {g : Manager} :
      Serving k p → p.Taken seat → (p.managerAt seat).SameMake g →
      Serving k (p.setManager g seat)
  /-- All managers of other contexts were closed. -/
  | closed {p : ContextProvider} : Serving k p → Serving k p.close

/-- Each manager was made, and has the kubeconfig with its own context as the current one. -/
structure Keyed (k : Kubeconfig) (p : ContextProvider) : Prop where
  kubeconfig_eq : p.kubeconfig = k
  current : p.current.Made ∧ p.current.kubeconfig = k
  others : ∀ context g, Fields.get? context p.others = some g →
    g.Made ∧ g.kubeconfig = { k with current := some context }

/-- The context that a target means. -/
def meant (p : ContextProvider) (target : String) : String :=
  if target = "" then p.defaultTarget else target

/-- Entries are the one that was inserted and those from before. -/
theorem cases_of_get?_insert {α : Type} {key other : String} {a b : α} {fields : Fields α}
    (h : Fields.get? other (Fields.insert key a fields) = some b) :
    other = key ∧ b = a ∨ Fields.get? other fields = some b := by
  by_cases he : other = key
  · rw [he, Fields.get?_insert_self] at h
    exact .inl ⟨he, (Option.some.inj h).symm⟩
  · rw [Fields.get?_insert_ne he] at h
    exact .inr h

theorem Keyed.seated (h : p.Keyed k) {context : String} {g : Manager}
    (hbuilt : p.build context = .ok g) : (p.seat context g).2.Keyed k := by
  refine ⟨h.kubeconfig_eq, h.current, fun other g' hg => ?_⟩
  change Fields.get? other (Fields.insertNew context g p.others) = some g' at hg
  unfold Fields.insertNew at hg
  split at hg
  · exact h.others other g' hg
  · rcases cases_of_get?_insert hg with ⟨rfl, rfl⟩ | hg
    · exact ⟨.ofKubeconfig hbuilt, h.kubeconfig_eq ▸ (Manager.kubeconfig_of_ofKubeconfig hbuilt).1⟩
    · exact h.others other g' hg

theorem Keyed.worked (h : p.Keyed k) (ht : p.Taken seat) {g : Manager}
    (hg : (p.managerAt seat).SameMake g) : (p.setManager g seat).Keyed k := by
  cases seat with
  | current =>
    obtain ⟨hmade, hk⟩ := h.current
    exact ⟨h.kubeconfig_eq, ⟨hmade.worked hg, hg.kubeconfig_eq.trans hk⟩, h.others⟩
  | other context =>
    refine ⟨h.kubeconfig_eq, h.current, fun other g' hg' => ?_⟩
    obtain ⟨held, hheld⟩ := Option.isSome_iff_exists.mp ht
    rw [managerAt, hheld] at hg
    rcases cases_of_get?_insert hg' with ⟨rfl, rfl⟩ | hg'
    · obtain ⟨hmade, hk⟩ := h.others other held hheld
      exact ⟨hmade.worked hg, hg.kubeconfig_eq.trans hk⟩
    · exact h.others other g' hg'

/-- The manager at a seat that is taken was made, and has the kubeconfig with its own context as
the current one. -/
theorem Keyed.managerAt (h : p.Keyed k) (ht : p.Taken seat) :
    (p.managerAt seat).Made ∧ (p.managerAt seat).kubeconfig = match seat with
      | .current => k
      | .other context => { k with current := some context } := by
  cases seat with
  | current => exact h.current
  | other context =>
    obtain ⟨held, hheld⟩ := Option.isSome_iff_exists.mp ht
    rw [ContextProvider.managerAt, hheld]
    exact h.others context held hheld

namespace Serving

theorem keyed (h : p.Serving k) : p.Keyed k := by
  induction h with
  | begun h =>
    exact ⟨rfl, ⟨.ofKubeconfig h, (Manager.kubeconfig_of_ofKubeconfig h).1⟩,
      fun context g hg => nomatch hg⟩
  | seated _ hbuilt ih => exact ih.seated hbuilt
  | worked _ ht hg ih => exact ih.worked ht hg
  | closed _ ih =>
    obtain ⟨hmade, hk⟩ := ih.current
    exact ⟨ih.kubeconfig_eq, ⟨hmade.worked (.close _), hk⟩, fun context g hg => nomatch hg⟩

/-- The default target is the current context of the kubeconfig. -/
theorem current_eq (h : p.Serving k) : k.current = some p.defaultTarget := by
  obtain ⟨hmade, hk⟩ := h.keyed.current
  obtain ⟨entry, -, hentry⟩ := hmade.hasCurrent
  rw [defaultTarget, Manager.currentContext, Kubeconfig.currentName, hk]
  rw [hk] at hentry
  rw [hentry]
  rfl

/-- The manager that a target leads to has the context that is meant as the current one. -/
theorem seatOf (h : p.Serving k) (hs : p.seatOf target = .ok (seat, q)) :
    q.Serving k ∧ (q.managerAt seat).Made ∧
      (q.managerAt seat).kubeconfig = { k with current := some (p.meant target) } := by
  by_cases hcurrent : target = "" ∨ target = p.defaultTarget
  · cases (seatOf_of_current hcurrent).symm.trans hs
    obtain ⟨hmade, hk⟩ := h.keyed.current
    have hmeant : p.meant target = p.defaultTarget := by
      rw [meant]
      rcases hcurrent with he | he
      · rw [if_pos he]
      · rw [he, ite_self]
    refine ⟨h, hmade, hk.trans ?_⟩
    rw [hmeant, ← h.current_eq]
  · obtain ⟨hne, hd⟩ := not_or.mp hcurrent
    rw [meant, if_neg hne]
    by_cases hmem : target ∈ p.targets
    · obtain ⟨rfl, ⟨hheld, rfl⟩ | ⟨hheld, g, hbuilt, rfl⟩⟩ := seatOf_other_cases hne hd hmem hs
      · exact ⟨h, h.keyed.managerAt (show q.Taken (.other target) from hheld)⟩
      · have hseat : (p.seat target g).2 = p.setManager g (.other target) := by
          simp [ContextProvider.seat, ContextProvider.setManager, Fields.insertNew, hheld]
        have hq : (p.setManager g (.other target)).Serving k := hseat ▸ h.seated hbuilt
        refine ⟨hq, hq.keyed.managerAt ?_⟩
        simp [Taken, ContextProvider.setManager]
    · cases (seatOf_of_unknown hne hd hmem).symm.trans hs

end Serving

/-- The provider of a kubeconfig that was read serves the contexts of this kubeconfig. -/
theorem Life.serving (h : p.Life) : p.Serving p.kubeconfig := by
  induction h with
  | created h =>
    unfold create at h
    dsimp only at h
    split at h
    · cases h
    · obtain ⟨k, -, h⟩ := exists_of_bind_eq_ok h
      obtain ⟨g, hg, h⟩ := exists_of_bind_eq_ok h
      cases h
      exact .begun hg
  | seated _ hbuilt ih => exact ih.seated hbuilt
  | workedCurrent _ hg ih => exact ih.worked (show p.Taken .current from trivial) hg
  | @worked p context g g' _ hheld hg ih =>
    have ht : p.Taken (.other context) := Option.isSome_iff_exists.mpr ⟨g, hheld⟩
    refine ih.worked ht ?_
    rw [ContextProvider.managerAt, hheld]
    exact hg
  | closed _ ih => exact ih.closed

section

variable (m : Type → Type) [Monad m] [Network m] {W : Type} [Runs m W]

/-- A caller gets a handle of the caller's own at a target, with a kubeconfig. -/
def Hands (p : ContextProvider) (target : String) (k : Kubeconfig) : Prop :=
  ∃ seat q, p.seatOf target = .ok (seat, q) ∧ ∃ (caller : Caller) (w : W) (c : Client),
    (run (Manager.derive (m := m) caller) (q.managerAt seat, w)).1 = .ok (.derived c k)

end

end ContextProvider

/-- Whatever manager the gate makes, handles can be derived from its kubeconfig: no caller is told
that there is none, and none acts as the gate for want of one.  So it is with the managers that the
targets of a kubeconfig lead to.  The handles of a target have the context that is meant as the
current one, and it is one of their contexts. -/
theorem handles_have_their_context (m : Type → Type) [Monad m] [Network m] {W : Type} [Runs m W] :
    (∀ g : Manager, g.Made → g.Derives m) ∧
    (∀ p : ContextProvider, p.Life → p.Serving p.kubeconfig) ∧
    ∀ (k : Kubeconfig) (p : ContextProvider), p.Serving k → ∀ target,
      (∀ seat q, p.seatOf target = .ok (seat, q) → (q.managerAt seat).Derives m) ∧
      ∀ k', p.Hands m target k' → k'.current = some (p.meant target) ∧
        k'.contexts = k.contexts ∧ ∃ entry ∈ k'.contexts, entry.name = p.meant target := by
  refine ⟨fun g h => Manager.derives h.hasCurrent, fun p h => h.serving,
    fun k p h target => ⟨fun seat q hs => ?_, ?_⟩⟩
  · obtain ⟨-, hmade, -⟩ := h.seatOf hs
    exact Manager.derives hmade.hasCurrent
  · rintro k' ⟨seat, q, hs, caller, w, c, hd⟩
    obtain ⟨-, hmade, hk⟩ := h.seatOf hs
    obtain ⟨entry, hmem, hentry⟩ := hmade.hasCurrent
    rw [(Manager.derives hmade.hasCurrent).derived caller w c k' hd]
    rw [hk] at hmem hentry ⊢
    exact ⟨rfl, rfl, entry, hmem, (Option.some.inj hentry).symm⟩

/-- A kubeconfig with two contexts. -/
def twinKubeconfig : Kubeconfig where
  clusters := [⟨"here", some { server := some "https://here.example.com" }⟩]
  contexts := [⟨"alpha", some { cluster := "here" }⟩, ⟨"beta", some { cluster := "here" }⟩]
  current := some "alpha"

/-- Its provider at first. -/
def twinProvider (g : Manager) : ContextProvider :=
  { env := { files := Files.nothing }, kubeconfig := twinKubeconfig, current := g }

/-- The provider hands out handles for `beta`, and for `alpha` to whoever names no context. -/
theorem exists_twin_handles : ∃ p : ContextProvider, p.Serving twinKubeconfig ∧
    (∃ k, p.Hands Simulation.Simulated "beta" k) ∧
    ∃ k, p.Hands Simulation.Simulated "" k ∧ k.current = some "alpha" := by
  have hmade : ∃ g, Manager.ofKubeconfig { files := Files.nothing } {} [] twinKubeconfig none
      none = .ok g ∧ (∃ k, (twinProvider g).Hands Simulation.Simulated "beta" k) ∧
        ∃ k, (twinProvider g).Hands Simulation.Simulated "" k ∧ k.current = some "alpha" := by
    refine ⟨_, rfl, ⟨_, _, _, rfl, ⟨some "Bearer tok", none⟩, ({}, ()), _, rfl⟩, ?_⟩
    exact ⟨_, ⟨_, _, rfl, ⟨some "Bearer tok", none⟩, ({}, ()), _, rfl⟩, rfl⟩
  obtain ⟨g, hg, hhands⟩ := hmade
  exact ⟨twinProvider g, .begun hg, hhands⟩

/-- A handle for `beta` has it as the current context. -/
theorem handle_for_beta_has_it : ∃ (p : ContextProvider) (k : Kubeconfig),
    p.Serving twinKubeconfig ∧ p.Hands Simulation.Simulated "beta" k ∧
      k.current = some "beta" ∧ ∃ entry ∈ k.contexts, entry.name = "beta" := by
  obtain ⟨p, hp, ⟨k, hk⟩, -⟩ := exists_twin_handles
  obtain ⟨hcurrent, -, hentry⟩ :=
    ((handles_have_their_context Simulation.Simulated).2.2 twinKubeconfig p hp "beta").2 k hk
  exact ⟨p, k, hp, hk, hcurrent, hentry⟩

/-- A handle for no context in particular does not have the empty name as the current context. -/
theorem handle_for_no_context_has_another : ¬ ∀ (k : Kubeconfig) (p : ContextProvider),
    p.Serving k → ∀ target k', p.Hands Simulation.Simulated target k' →
      k'.current = some target ∧ ∃ entry ∈ k'.contexts, entry.name = target := by
  intro h
  obtain ⟨p, hp, -, k, hk, hcurrent⟩ := exists_twin_handles
  have hempty := Option.some.inj (hcurrent.symm.trans (h twinKubeconfig p hp "" k hk).1)
  exact absurd hempty (by decide)

end FleetGate
