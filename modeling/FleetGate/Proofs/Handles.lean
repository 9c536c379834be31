import FleetGate.Manager
import FleetGate.Proofs.Clients

/-!
# Handles for tokens

`Manager.handleFor` builds a client for a token and falls back if it cannot.  There are
three ways for it to end (`Manager.handleFor_cases`).

* The client is built.  It shows the token and nothing else (`Manager.ActsAs`).
* The client breaks down (`Manager.ClientBreaksDown`).  Then there is no answer at all.
* Something fails before.  Then the handle is the gate's own, or there is a failure where a
  token is required.

A client breaks down over a token that no header can hold, and over a rate that makes no
limit.
-/

namespace FleetGate

/-- The end of whoever should give an answer, in place of the answer. -/
def FleetError.IsBreakdown (e : FleetError) : Prop := ∃ reason, e = .breakdown reason

namespace Manager

variable {g : Manager} {token : String}

/-! ## Building clients -/

/-- A client with a token acts with this token and no other credentials. -/
structure ActsAs (token : String) (c : Client) (k : Kubeconfig) : Prop where
  credentials_eq : c.config.connection.credentials = { token := some token }
  route_eq : ∃ address, c.route = .server address (.header (HttpRequest.bearer token))
  users_eq : k.users = []

theorem authorize_token (fs : Files) (token : String) :
    Route.authorize fs { token := some token } =
      if isHeaderValue token then .ok (.header (HttpRequest.bearer token))
      else .error (.breakdown "the token is no header value") := rfl

/-- The client for a token is built in steps, each of which can fail. -/
theorem derivedClient_eq (g : Manager) (token : String) (userAgent : Option String) :
    g.derivedClient token userAgent =
      if g.config.connection.proxy.isSome then .error (.unusable "proxies are not supported")
      else if isHeaderValue token = false then .error (.breakdown "the token is no header value")
      else match Route.flaw? Files.nothing (g.config.derive token userAgent).connection with
        | some reason => .error (.unusable reason)
        | none => Client.onRoute (g.config.derive token userAgent) (g.settings.rules g.validators)
            (.server g.config.connection.address (.header (HttpRequest.bearer token))) := by
  have hauth : Route.authorize Files.nothing
        (g.config.derive token userAgent).connection.credentials =
      if isHeaderValue token then .ok (.header (HttpRequest.bearer token))
      else .error (.breakdown "the token is no header value") := authorize_token _ token
  unfold derivedClient Client.connect Route.ofConnection
  rw [hauth]
  show (if g.config.connection.proxy.isSome then _ else _) >>= _ = _
  split
  · rfl
  cases hh : isHeaderValue token with
  | false => rfl
  | true =>
    rw [if_pos rfl, if_neg Bool.noConfusion]
    dsimp only
    cases Route.flaw? Files.nothing (g.config.derive token userAgent).connection with
    | some reason => rfl
    | none => rfl

/-- The client for a token breaks down while it is built: no header can hold the token, or
the rate makes no limit. -/
structure ClientBreaksDown (g : Manager) (token : String) (userAgent : Option String) : Prop where
  direct : g.config.connection.proxy = none
  cause : isHeaderValue token = false ∨
    (Route.flaw? Files.nothing (g.config.derive token userAgent).connection = none ∧
      g.config.limit? = none)

/-- A client for a token fails, breaks down, or is built and acts with the token. -/
theorem derivedClient_cases (g : Manager) (token : String) (userAgent : Option String) :
    (∃ reason, g.derivedClient token userAgent = .error (.unusable reason) ∧
      ¬ g.ClientBreaksDown token userAgent) ∨
    (∃ reason, g.derivedClient token userAgent = .error (.breakdown reason) ∧
      g.ClientBreaksDown token userAgent) ∨
    ∃ c, g.derivedClient token userAgent = .ok c ∧ ¬ g.ClientBreaksDown token userAgent ∧
      c.config = g.config.derive token userAgent ∧
      c.route = .server g.config.connection.address (.header (HttpRequest.bearer token)) := by
  rw [derivedClient_eq]
  cases hp : g.config.connection.proxy with
  | some uri =>
    refine Or.inl ⟨_, if_pos rfl, fun hb => ?_⟩
    rw [hb.direct] at hp
    cases hp
  | none =>
  rw [if_neg Bool.noConfusion]
  cases hh : isHeaderValue token with
  | false => exact Or.inr (Or.inl ⟨_, if_pos rfl, hp, Or.inl hh⟩)
  | true =>
  rw [if_neg Bool.noConfusion]
  cases hf : Route.flaw? Files.nothing (g.config.derive token userAgent).connection with
  | some reason =>
    refine Or.inl ⟨reason, rfl, fun hb => ?_⟩
    rcases hb.cause with ht | ⟨hn, -⟩
    · rw [ht] at hh; cases hh
    · rw [hn] at hf; cases hf
  | none =>
  unfold Client.onRoute
  cases hl : g.config.limit? with
  | none =>
    have hl' : (g.config.derive token userAgent).limit? = none := hl
    rw [hl']
    exact Or.inr (Or.inl ⟨_, rfl, hp, Or.inr ⟨hf, hl⟩⟩)
  | some limit =>
    have hl' : (g.config.derive token userAgent).limit? = some limit := hl
    rw [hl']
    refine Or.inr (Or.inr ⟨_, rfl, fun hb => ?_, rfl, rfl⟩)
    rcases hb.cause with ht | ⟨-, hn⟩
    · rw [ht] at hh; cases hh
    · rw [hn] at hl; cases hl

theorem derivedKubeconfig_eq_ok {k k' : Kubeconfig} (h : derivedKubeconfig k = .ok k') :
    k' = k.withoutUsers := by
  unfold derivedKubeconfig at h
  split at h
  · cases h; rfl
  · cases h

/-- A client that is built for a token acts with it. -/
theorem actsAs_of_derivedClient {userAgent : Option String} {c : Client} {k k' : Kubeconfig}
    (hc : g.derivedClient token userAgent = .ok c) (hk : derivedKubeconfig k = .ok k') :
    ActsAs token c k' := by
  rcases g.derivedClient_cases token userAgent with ⟨_, he, -⟩ | ⟨_, he, -⟩ |
    ⟨d, hd, -, hconfig, hroute⟩
  · rw [he] at hc; cases hc
  · rw [he] at hc; cases hc
  · rw [hd] at hc
    cases hc
    refine ⟨by rw [hconfig]; rfl, ⟨_, hroute⟩, ?_⟩
    rw [derivedKubeconfig_eq_ok hk]
    rfl

/-! ## Building handles -/

theorem handleFor_of_built {userAgent : Option String} {k : Kubeconfig} {c : Client}
    (hk : derivedKubeconfig g.kubeconfig = .ok k) (hc : g.derivedClient token userAgent = .ok c) :
    g.handleFor token userAgent = .ok (.derived c k) := by
  rw [handleFor, hk]
  simp only [hc]

theorem handleFor_of_breakdown {userAgent : Option String} {k : Kubeconfig}
    (hk : derivedKubeconfig g.kubeconfig = .ok k) (hb : g.ClientBreaksDown token userAgent) :
    ∃ reason, g.handleFor token userAgent = .error (.breakdown reason) := by
  rcases g.derivedClient_cases token userAgent with ⟨_, -, hn⟩ | ⟨reason, hc, -⟩ | ⟨_, -, hn, -⟩
  · exact absurd hb hn
  · refine ⟨reason, ?_⟩
    rw [handleFor, hk]
    simp only [hc]
  · exact absurd hb hn

/-- What fails without breaking down falls back. -/
theorem handleFor_of_unbuilt {userAgent : Option String}
    (hn : ¬ ∃ k c, derivedKubeconfig g.kubeconfig = .ok k ∧ g.derivedClient token userAgent = .ok c)
    (hb : ¬ ((∃ k, derivedKubeconfig g.kubeconfig = .ok k) ∧ g.ClientBreaksDown token userAgent)) :
    ∃ e, g.handleFor token userAgent = g.fallback e ∧ ¬ e.IsBreakdown := by
  cases hk : derivedKubeconfig g.kubeconfig with
  | error e =>
    refine ⟨e, by rw [handleFor, hk], ?_⟩
    rintro ⟨reason, rfl⟩
    unfold derivedKubeconfig at hk
    split at hk
    · cases hk
    · cases hk
  | ok k =>
    rcases g.derivedClient_cases token userAgent with ⟨reason, hc, -⟩ | ⟨_, -, hd⟩ | ⟨c, hc, -⟩
    · refine ⟨.derivedClient reason, ?_, ?_⟩
      · rw [handleFor, hk]
        simp only [hc]
      · rintro ⟨_, he⟩
        cases he
    · exact absurd ⟨⟨k, hk⟩, hd⟩ hb
    · exact absurd ⟨k, c, hk, hc⟩ hn

/-- A handle for a token is the token's own, breaks down, or falls back. -/
theorem handleFor_cases (g : Manager) (token : String) (userAgent : Option String) :
    (∃ k c, derivedKubeconfig g.kubeconfig = .ok k ∧ g.derivedClient token userAgent = .ok c ∧
      g.handleFor token userAgent = .ok (.derived c k)) ∨
    (∃ reason, g.handleFor token userAgent = .error (.breakdown reason)) ∨
    ∃ e, g.handleFor token userAgent = g.fallback e := by
  by_cases hb : ∃ k c, derivedKubeconfig g.kubeconfig = .ok k ∧
      g.derivedClient token userAgent = .ok c
  · obtain ⟨k, c, hk, hc⟩ := hb
    exact Or.inl ⟨k, c, hk, hc, handleFor_of_built hk hc⟩
  by_cases hd : (∃ k, derivedKubeconfig g.kubeconfig = .ok k) ∧ g.ClientBreaksDown token userAgent
  · obtain ⟨⟨k, hk⟩, hd⟩ := hd
    exact Or.inr (Or.inl (handleFor_of_breakdown hk hd))
  · obtain ⟨e, he, -⟩ := handleFor_of_unbuilt hb hd
    exact Or.inr (Or.inr ⟨e, he⟩)

theorem fallback_of_required (hr : g.settings.requireOauth = true) (e : FleetError) :
    g.fallback e = .error e := by
  rw [fallback, if_pos hr]

theorem fallback_ne_derived (e : FleetError) (c : Client) (k : Kubeconfig) :
    g.fallback e ≠ .ok (.derived c k) := by
  unfold fallback
  split
  · intro h
    cases h
  · intro h
    cases h

/-- A handle of a caller's own comes of a client that was built. -/
theorem built_of_handleFor {userAgent : Option String} {k : Kubeconfig} {c : Client}
    (h : g.handleFor token userAgent = .ok (.derived c k)) :
    derivedKubeconfig g.kubeconfig = .ok k ∧ g.derivedClient token userAgent = .ok c := by
  rcases g.handleFor_cases token userAgent with ⟨k', c', hk, hc, hh⟩ | ⟨reason, hh⟩ | ⟨e, hh⟩
  · rw [hh] at h
    cases h
    exact ⟨hk, hc⟩
  · rw [hh] at h
    cases h
  · rw [hh] at h
    exact absurd h (fallback_ne_derived e c k)

/-- Where a token is required, no handle for a token acts as the gate. -/
theorem handleFor_ne_own {userAgent : Option String} (hr : g.settings.requireOauth = true) :
    g.handleFor token userAgent ≠ .ok .own := by
  intro h
  rcases g.handleFor_cases token userAgent with ⟨k, c, -, -, hh⟩ | ⟨reason, hh⟩ | ⟨e, hh⟩
  · rw [hh] at h
    cases h
  · rw [hh] at h
    cases h
  · rw [hh, fallback_of_required hr] at h
    cases h

end Manager

end FleetGate
