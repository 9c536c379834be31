import FleetGate.Proofs.Bearers
import FleetGate.Proofs.Handles
import FleetGate.Proofs.Managers
import FleetGate.Simulation.World

/-!
# With whose identity a caller acts

`Manager.derive` gives a caller a handle, or says why not.  `Manager.IdentityGate` is
what it is to do.

* Whoever bears no token acts as the gate, or gets nothing if a token is required.
* If tokens are reviewed, a token that the cluster does not authenticate gets nothing.
* Any other token gets a client with this token and nothing else to show, if such a
  client can be built.  Otherwise its bearer acts as the gate, or gets nothing if a token
  is required.

To get nothing is to get an answer that says so.  There is one case in which no answer
comes: a client can break down while it is built (`Manager.BreaksDown`), over a token that
no header can hold or over a rate that makes no limit.  So `Manager.derive` does what it is
to do exactly when this does not happen (`derive_keeps_identities`).  In no case does
anyone act as the gate where a token is required, or without having been authenticated
where tokens are reviewed.
-/

namespace FleetGate

open Runs (run bind_of)

/-! ## Reviews of tokens -/

namespace TokenReview

variable {m : Type → Type} [Monad m] {W : Type} [Runs m W] {call : Api.Call m} {token : String}
  {audience : Option String} {w : W}

theorem verify_of_authenticated {a : Answer}
    (h : (run (Api.post call answer path (toJson token audience)) w).1 = .ok (some a))
    (ha : a.authenticated = true) : (run (verify call token audience) w).1 = .ok a.identity := by
  unfold verify
  rw [Runs.run_bind, h]
  simp only [decide, ha, if_true, Runs.run_pure]

theorem verify_of_not_authenticated
    (h : ¬ ∃ a : Answer,
      (run (Api.post call answer path (toJson token audience)) w).1 = .ok (some a) ∧
        a.authenticated = true) :
    ∃ e, (run (verify call token audience) w).1 = .error e ∧ ¬ e.IsBreakdown := by
  unfold verify
  rw [Runs.run_bind]
  cases hp : (run (Api.post call answer path (toJson token audience)) w).1 with
  | error e =>
    refine ⟨.call e, by simp only [Runs.run_pure], ?_⟩
    rintro ⟨reason, he⟩
    cases he
  | ok status =>
    cases hd : decide status with
    | error reason =>
      refine ⟨.tokenRejected reason, by simp only [hd, Runs.run_pure], ?_⟩
      rintro ⟨reason, he⟩
      cases he
    | ok identity =>
      cases status with
      | none => cases hd
      | some a =>
        cases ha : a.authenticated with
        | true => exact absurd ⟨a, hp, ha⟩ h
        | false => rw [decide, ha] at hd; cases hd

end TokenReview

namespace Manager

variable {m : Type → Type} [Monad m] {W : Type} [Runs m W] {α : Type}

section Review

variable (m) [Network m]

/-- The cluster authenticates a token when it is asked for its owner. -/
def Authenticates (g : Manager) (token : String) (w : W) : Prop :=
  ∃ a : TokenReview.Answer, (run (Api.post (m := StateT Client m) Client.send TokenReview.answer
    TokenReview.path (TokenReview.toJson token none)) (g.client, w)).1 = .ok (some a) ∧
      a.authenticated = true

/-- A token is authenticated or need not be. -/
def Passes (g : Manager) (token : String) (w : W) : Prop :=
  g.settings.validateToken = true → g.Authenticates m token w

end Review

variable [Network m] {g : Manager} {caller : Caller} {token : String} {w : W}

/-- A token that needs no review or has passed it gets the handle for it. -/
theorem derive_of_passes (ht : caller.token? = some token) (h : g.Passes m token w) :
    (run (derive (m := m) caller) (g, w)).1 = g.handleFor token caller.userAgent := by
  cases hv : g.settings.validateToken with
  | false => rw [run_derive_of_unreviewed ht hv]
  | true =>
    obtain ⟨a, hp, ha⟩ := h hv
    have hverify : (run (verify (m := m) token none) (g, w)).1 = .ok a.identity := by
      rw [run_verify]
      exact TokenReview.verify_of_authenticated hp ha
    rw [run_derive_of_reviewed ht hv]
    dsimp only
    rw [hverify]
    rfl

/-- A token that does not pass its review gets an answer that says so. -/
theorem derive_of_not_passes (ht : caller.token? = some token) (h : ¬ g.Passes m token w) :
    ∃ e, (run (derive (m := m) caller) (g, w)).1 = .error e ∧ ¬ e.IsBreakdown := by
  have hv : g.settings.validateToken = true :=
    Classical.byContradiction fun hn => h fun hv => absurd hv hn
  have hnot : ¬ g.Authenticates m token w := fun ha => h fun _ => ha
  obtain ⟨e, hreview, he⟩ := TokenReview.verify_of_not_authenticated hnot
  have hverify : (run (verify (m := m) token none) (g, w)).1 = .error e := by
    rw [run_verify]
    exact hreview
  refine ⟨e, ?_, he⟩
  rw [run_derive_of_reviewed ht hv]
  dsimp only
  rw [hverify]
  rfl

/-! ## Identities -/

section Identity

variable (m)

/-- The identity that a caller is to act with. -/
structure IdentityGate (g : Manager) (caller : Caller) (w : W) : Prop where
  /-- Whoever bears no token acts as the gate, unless a token is required. -/
  anonymous : (¬ ∃ token, caller.Bears token) →
    (run (derive (m := m) caller) (g, w)).1 =
      if g.settings.requireOauth then .error .tokenRequired else .ok .own
  /-- A token that does not pass its review gets nothing. -/
  rejected : ∀ token, caller.Bears token → ¬ g.Passes m token w →
    ∃ e, (run (derive (m := m) caller) (g, w)).1 = .error e ∧ ¬ e.IsBreakdown
  /-- A token for which a client can be built gets this client. -/
  derived : ∀ token k c, caller.Bears token → g.Passes m token w →
    derivedKubeconfig g.kubeconfig = .ok k → g.derivedClient token caller.userAgent = .ok c →
    (run (derive (m := m) caller) (g, w)).1 = .ok (.derived c k) ∧ ActsAs token c k
  /-- A token for which none can be built acts as the gate, unless a token is required. -/
  fallback : ∀ token, caller.Bears token → g.Passes m token w →
    (¬ ∃ k c, derivedKubeconfig g.kubeconfig = .ok k ∧
      g.derivedClient token caller.userAgent = .ok c) →
    if g.settings.requireOauth then
      ∃ e, (run (derive (m := m) caller) (g, w)).1 = .error e ∧ ¬ e.IsBreakdown
    else (run (derive (m := m) caller) (g, w)).1 = .ok .own

/-- A client breaks down that is built for a caller. -/
structure BreaksDown (g : Manager) (caller : Caller) (w : W) : Prop where
  /-- The caller bears a token. -/
  token : ∃ token, caller.Bears token ∧ g.Passes m token w ∧
    g.ClientBreaksDown token caller.userAgent
  /-- There is a kubeconfig for it. -/
  context : ∃ k, derivedKubeconfig g.kubeconfig = .ok k

end Identity

theorem identityGate_of_not_breaksDown (h : ¬ g.BreaksDown m caller w) :
    g.IdentityGate m caller w where
  anonymous hn := by rw [run_derive_of_no_token (Caller.token?_eq_none hn)]
  rejected token ht hp := derive_of_not_passes (Caller.token?_eq_some_iff.mpr ht) hp
  derived token k c ht hp hk hc := by
    rw [derive_of_passes (Caller.token?_eq_some_iff.mpr ht) hp]
    exact ⟨handleFor_of_built hk hc, actsAs_of_derivedClient hc hk⟩
  fallback token ht hp hn := by
    rw [derive_of_passes (Caller.token?_eq_some_iff.mpr ht) hp]
    obtain ⟨e, hhandle, he⟩ := handleFor_of_unbuilt hn fun hb => h ⟨⟨token, ht, hp, hb.2⟩, hb.1⟩
    rw [hhandle, Manager.fallback]
    split
    · exact ⟨e, rfl, he⟩
    · rfl

/-- Whoever breaks a client down gets none of the answers. -/
theorem not_identityGate_of_breaksDown (h : g.BreaksDown m caller w) :
    ¬ g.IdentityGate m caller w := by
  intro hgate
  obtain ⟨token, ht, hp, hb⟩ := h.token
  obtain ⟨k, hk⟩ := h.context
  obtain ⟨reason, hhandle⟩ := handleFor_of_breakdown hk hb
  have hn : ¬ ∃ k c, derivedKubeconfig g.kubeconfig = .ok k ∧
      g.derivedClient token caller.userAgent = .ok c := by
    rintro ⟨k', c, hk', hc⟩
    rw [handleFor_of_built hk' hc] at hhandle
    cases hhandle
  have hfallback := hgate.fallback token ht hp hn
  rw [derive_of_passes (Caller.token?_eq_some_iff.mpr ht) hp, hhandle] at hfallback
  split at hfallback
  · obtain ⟨e, he, hne⟩ := hfallback
    cases he
    exact hne ⟨reason, rfl⟩
  · cases hfallback

/-- A caller gets the identity that the caller is to have, exactly when no client breaks down.
Where a token is required nobody acts as the gate, and where tokens are reviewed nobody
gets a handle for a token that is not authenticated. -/
theorem derive_keeps_identities (g : Manager) (caller : Caller) (w : W) :
    (g.IdentityGate m caller w ↔ ¬ g.BreaksDown m caller w) ∧
      (g.settings.requireOauth = true → (run (derive (m := m) caller) (g, w)).1 ≠ .ok .own) ∧
      (g.settings.validateToken = true → ∀ token, caller.Bears token →
        ¬ g.Authenticates m token w → ∀ h, (run (derive (m := m) caller) (g, w)).1 ≠ .ok h) := by
  refine ⟨⟨fun hgate hb => not_identityGate_of_breaksDown hb hgate,
    identityGate_of_not_breaksDown⟩, fun hr => ?_, fun hv token ht hn h => ?_⟩
  · cases hc : caller.token? with
    | none =>
      rw [run_derive_of_no_token hc, if_pos hr]
      intro h
      cases h
    | some token =>
      by_cases hp : g.Passes m token w
      · rw [derive_of_passes hc hp]
        exact handleFor_ne_own hr
      · obtain ⟨e, he, -⟩ := derive_of_not_passes hc hp
        rw [he]
        intro h
        cases h
  · have hnot : ¬ g.Passes m token w := fun hp => hn (hp hv)
    obtain ⟨e, he, -⟩ := derive_of_not_passes (Caller.token?_eq_some_iff.mpr ht) hnot
    rw [he]
    intro h
    cases h

end Manager

/-- A manager of a hub with one context, which asks neither for tokens nor for reviews. -/
def hubManager : Manager :=
  let config := ClientConfig.ofConnection
    { address := ⟨some "https", some "hub.example.com:6443", "/", none⟩ }
  { settings := {}, validators := [], config
    kubeconfig := {
      contexts := [⟨"hub", some { cluster := "hub-cluster" }⟩], current := some "hub" }
    client := {
      config, route := .server config.connection.address .none, rules := {}
      limiter := .start ⟨100, 2000000000⟩ 0 } }

/-- A caller whose token has a line break breaks down the client of the hub. -/
theorem not_identityGate_of_line_break :
    ¬ hubManager.IdentityGate Simulation.Simulated ⟨some "Bearer a\nb", none⟩ ({}, ()) := by
  refine Manager.not_identityGate_of_breaksDown ⟨⟨"a\nb", ?_, ?_, rfl, Or.inl ?_⟩, _, rfl⟩
  · exact Caller.token?_eq_some_iff.mp (by decide)
  · intro hv
    cases hv
  · decide

end FleetGate
