import FleetGate.Proofs.Exchanges

/-!
# Callers who become the gate

A token service must return a token, and a token that is empty is refused
(`TokenExchange.answer_eq_ok_iff`).  The token that it returns is then read as callers' tokens are,
without the blanks around it.  So a token of nothing but blanks is accepted from the service, and
then there is none.

* `Manager.answer_of_exchanged` are the answers of a manager to a caller whose token was exchanged.
* `HubProvider.exchange_yields_gate_iff` says when such a caller gets the gate's own handle: if the
  token is blank and none is required, and only then.
-/

namespace FleetGate

open Runs (run)
open Config TokenExchange

namespace TokenExchange

variable {t : ExchangeTarget} {token fresh : String} {realm : Realm}

/-- A reply is accepted if it succeeds and has a token that is not empty. -/
theorem answer_eq_ok_iff {reply : HttpReply} :
    answer t reply = .ok fresh ↔
      StatusCode.isSuccess reply.status = true ∧ reply.text?.bind token? = some fresh ∧
        fresh ≠ "" := by
  unfold answer
  constructor
  · intro h
    split at h
    · next hsuccess =>
      refine ⟨hsuccess, ?_⟩
      cases hread : reply.text?.bind token? with
      | none =>
        rw [hread] at h
        cases h
      | some read =>
        rw [hread] at h
        dsimp only at h
        split at h
        · cases h
        · next hne =>
          cases h
          exact ⟨rfl, fun he => hne (String.isEmpty_iff.mpr he)⟩
    · cases h
  · rintro ⟨hsuccess, hread, hne⟩
    rw [if_pos hsuccess, hread]
    exact if_neg fun he => hne (String.isEmpty_iff.mp he)

variable {m : Type → Type} [Monad m] [Network m] {W : Type} [Runs m W] {w w' : W}

/-- What comes back over the net is what an accepted reply says. -/
theorem exists_reply_of_exchange
    (h : run (exchange (m := m) t token realm) w = (.ok fresh, w')) :
    ∃ reply, answer t reply = .ok fresh := by
  unfold exchange at h
  cases hr : request? t token realm with
  | none =>
    rw [hr, Runs.run_pure] at h
    cases h
  | some r =>
    rw [hr] at h
    dsimp only at h
    rw [Runs.run_bind] at h
    match hsent : run (Network.send (m := m) r) w with
    | (.error reason, w₁) =>
      rw [hsent, Runs.run_pure] at h
      cases h
    | (.ok reply, w₁) =>
      rw [hsent, Runs.run_pure] at h
      exact ⟨reply, (Prod.mk.inj h).1⟩

end TokenExchange

namespace Manager

variable {m : Type → Type} [Monad m] [Network m] {W : Type} [Runs m W] {g : Manager} {w : W}
  {fresh : String} {userAgent : Option String}

/-- A client and a kubeconfig for the token of a caller can be had. -/
def CanDerive (g : Manager) (caller : Caller) : Prop :=
  ∀ token, caller.token? = some token →
    ∃ k c, derivedKubeconfig g.kubeconfig = .ok k ∧ g.derivedClient token caller.userAgent = .ok c

/-- A failure, or a handle that acts with a token. -/
def FailsOrActsAs (token : String) (answer : Except FleetError Handle) : Prop :=
  (∃ e, answer = .error e) ∨ ∃ c k, answer = .ok (.derived c k) ∧ ActsAs token c k

theorem FailsOrActsAs.ne_own {token : String} {answer : Except FleetError Handle}
    (h : FailsOrActsAs token answer) : answer ≠ .ok .own := by
  rintro rfl
  rcases h with ⟨e, he⟩ | ⟨c, k, hc, -⟩
  · cases he
  · cases hc

/-- A caller with a token for which a client can be had gets this client, or fails a review. -/
theorem failsOrActsAs_of_token {caller : Caller} {token : String} (ht : caller.token? = some token)
    (hcan : g.CanDerive caller) :
    FailsOrActsAs token (run (derive (m := m) caller) (g, w)).1 := by
  obtain ⟨k, c, hk, hc⟩ := hcan token ht
  have hhandle := handleFor_of_built hk hc
  have hacts := actsAs_of_derivedClient hc hk
  cases hv : g.settings.validateToken with
  | false =>
    rw [run_derive_of_unreviewed ht hv]
    exact Or.inr ⟨c, k, hhandle, hacts⟩
  | true =>
    rw [run_derive_of_reviewed ht hv]
    dsimp only
    cases (run (verify (m := m) token none) (g, w)).1 with
    | error e => exact Or.inl ⟨e, rfl⟩
    | ok identity => exact Or.inr ⟨c, k, hhandle, hacts⟩

theorem answer_of_exchanged (hcan : g.CanDerive (.withToken fresh userAgent)) :
    (Text.trim fresh = "" → (run (derive (m := m) (.withToken fresh userAgent)) (g, w)).1 =
      if g.settings.requireOauth then .error .tokenRequired else .ok .own) ∧
    (Text.trim fresh ≠ "" →
      FailsOrActsAs (Text.trim fresh)
        (run (derive (m := m) (.withToken fresh userAgent)) (g, w)).1) := by
  have ht := Caller.token?_withToken fresh userAgent
  constructor
  · intro hblank
    rw [if_pos hblank] at ht
    rw [run_derive_of_no_token ht]
  · intro hsome
    rw [if_neg hsome] at ht
    exact failsOrActsAs_of_token ht hcan

end Manager

namespace HubProvider

/-- A request whose token was exchanged over the net for one that the exchanger accepts, for a
cluster that can be called with it. -/
structure Exchanged (m : Type → Type) [Monad m] [Network m] {W : Type} [Runs m W]
    (p : HubProvider) (caller : Caller) (target : String) (w : W) (g : Manager) (fresh : String) :
    Prop where
  accepted : ∃ seat q token t w', p.seatOf (p.chosen target) = .ok (seat, q) ∧
    q.managerAt seat = g ∧ caller.token? = some token ∧ p.Chooses (p.chosen target) (some t) ∧
    run (TokenExchange.exchange (m := m) t token (p.realmOf t)) w = (.ok fresh, w')
  canDerive : g.CanDerive (.withToken fresh caller.userAgent)

variable {m : Type → Type} [Monad m] [Network m] {W : Type} [Runs m W] {p : HubProvider}
  {caller : Caller} {target fresh : String} {w : W} {g : Manager}

/-- The answer to such a request is that of the manager to the caller with the new token. -/
theorem Exchanged.answer_eq (h : p.Exchanged m caller target w g fresh) :
    fresh ≠ "" ∧ ∃ w', (run (derive (m := m) TokenExchange.exchange caller target) (p, w)).1 =
      (run (Manager.derive (m := m) (.withToken fresh caller.userAgent)) (g, w')).1 := by
  obtain ⟨seat, q, token, t, w', hseat, rfl, ht, hchosen, hrun⟩ := h.accepted
  obtain ⟨reply, hreply⟩ := exists_reply_of_exchange hrun
  have hsame := sameHub_of_seatOf hseat
  have hrealm : q.realmOf t = p.realmOf t := by rw [realmOf, realmOf, hsame.table_eq]
  refine ⟨(answer_eq_ok_iff.mp hreply).2.2, w', ?_⟩
  rw [run_derive, hseat]
  dsimp only
  rw [run_exchangeFor ht ((exchangeTarget?_of_sameHub hsame _).trans hchosen.exchangeTarget?_eq),
    hrealm, hrun]
  rfl

/-- A caller whose token was exchanged gets the gate's own handle exactly if the new token is
nothing but blanks and the cluster's manager requires none.  A token that is required is missed in
a blank one, and any other token leads to a failure or to a handle that acts with it, without the
blanks around it. -/
theorem exchange_yields_gate_iff (h : p.Exchanged m caller target w g fresh) :
    fresh ≠ "" ∧
    ((run (derive (m := m) TokenExchange.exchange caller target) (p, w)).1 = .ok .own ↔
      Text.trim fresh = "" ∧ g.settings.requireOauth = false) ∧
    (Text.trim fresh = "" → g.settings.requireOauth = true →
      (run (derive (m := m) TokenExchange.exchange caller target) (p, w)).1 =
        .error .tokenRequired) ∧
    (Text.trim fresh ≠ "" →
      Manager.FailsOrActsAs (Text.trim fresh)
        (run (derive (m := m) TokenExchange.exchange caller target) (p, w)).1) := by
  obtain ⟨hne, w', hanswer⟩ := h.answer_eq
  obtain ⟨hblank, hsome⟩ := Manager.answer_of_exchanged (m := m) (w := w') h.canDerive
  rw [hanswer]
  refine ⟨hne, ⟨fun hown => ?_, fun ⟨hb, hr⟩ => ?_⟩, fun hb hr => ?_, hsome⟩
  · have hb : Text.trim fresh = "" := by
      by_contra hb
      exact (hsome hb).ne_own hown
    refine ⟨hb, ?_⟩
    rw [hblank hb] at hown
    cases hr : g.settings.requireOauth with
    | false => rfl
    | true =>
      rw [hr] at hown
      cases hown
  · rw [hblank hb, hr]
    rfl
  · rw [hblank hb, hr]
    rfl

/-- A world whose token service always returns the same token. -/
def tokenWorld (fresh : String) : Simulation.World where
  address? := some "sts.example.com"
  server := { always? := some (.ofText 200 ("\x7b\"access_token\":\"" ++ fresh ++ "\"\x7d")) }

/-- How its tokens are obtained. -/
def plainTarget : ExchangeTarget :=
  { tokenUrl := "http://sts.example.com/token", clientId := "gate" }

/-- A provider whose own cluster wants one of them. -/
def tokenProvider : HubProvider :=
  { ownProvider with table := { clusters := [("local-cluster", plainTarget)] } }

theorem exchanged_tokenProvider {fresh : String}
    (hfresh : (run (TokenExchange.exchange (m := Simulation.Simulated) plainTarget "tok" .cross)
      (tokenWorld fresh, ())).1.toOption = some fresh)
    (hcan : hubManager.CanDerive (.withToken fresh none)) :
    tokenProvider.Exchanged Simulation.Simulated ⟨some "Bearer tok", none⟩ "local-cluster"
      (tokenWorld fresh, ()) hubManager fresh := by
  match hrun : run (TokenExchange.exchange (m := Simulation.Simulated) plainTarget "tok" .cross)
      (tokenWorld fresh, ()) with
  | (.error e, w') =>
    rw [hrun] at hfresh
    cases hfresh
  | (.ok token, w') =>
    rw [hrun] at hfresh
    cases hfresh
    exact ⟨⟨.hub, tokenProvider, "tok", plainTarget, w', seatOf_of_hub (Or.inr (by decide)), rfl,
      token?_of_tok none, .own (by decide), hrun⟩, hcan⟩

theorem exchanged_blank :
    tokenProvider.Exchanged Simulation.Simulated ⟨some "Bearer tok", none⟩ "local-cluster"
      (tokenWorld " ", ()) hubManager " " := by
  refine exchanged_tokenProvider (by decide +kernel) fun token ht => ?_
  rw [Caller.token?_withToken, if_pos (by decide)] at ht
  cases ht

/-- An exchange never turns a caller into the gate, whatever token the exchanger accepts. -/
def ExchangeKeepsCallersApart (m : Type → Type) [Monad m] [Network m] {W : Type} [Runs m W] :
    Prop :=
  ∀ (p : HubProvider) (caller : Caller) (target fresh : String) (w : W) (g : Manager),
    p.Exchanged m caller target w g fresh →
    Manager.FailsOrActsAs fresh
      (run (derive (m := m) TokenExchange.exchange caller target) (p, w)).1

/-- A blank token is accepted, and with it the caller gets the gate's own handle. -/
theorem not_exchangeKeepsCallersApart_of_blank :
    ¬ ExchangeKeepsCallersApart Simulation.Simulated := by
  intro hapart
  have hfails := hapart _ _ _ _ _ _ exchanged_blank
  obtain ⟨-, w', hanswer⟩ := exchanged_blank.answer_eq
  have hown := (Manager.answer_of_exchanged (m := Simulation.Simulated) (w := w')
    exchanged_blank.canDerive).1 (by decide)
  rw [hanswer, hown] at hfails
  exact hfails.ne_own rfl

theorem exchange_yields_gate_iff_own_cluster :
    tokenProvider.Exchanged Simulation.Simulated ⟨some "Bearer tok", none⟩ "local-cluster"
        (tokenWorld " ", ()) hubManager " " ∧
      (run (derive (m := Simulation.Simulated) TokenExchange.exchange ⟨some "Bearer tok", none⟩
        "local-cluster") (tokenProvider, tokenWorld " ", ())).1 = .ok .own ∧
      tokenProvider.Exchanged Simulation.Simulated ⟨some "Bearer tok", none⟩ "local-cluster"
        (tokenWorld "new", ()) hubManager "new" ∧
      Manager.FailsOrActsAs "new" (run (derive (m := Simulation.Simulated) TokenExchange.exchange
        ⟨some "Bearer tok", none⟩ "local-cluster") (tokenProvider, tokenWorld "new", ())).1 := by
  have hnew : tokenProvider.Exchanged Simulation.Simulated ⟨some "Bearer tok", none⟩
      "local-cluster" (tokenWorld "new", ()) hubManager "new" := by
    refine exchanged_tokenProvider (by decide +kernel) fun token ht => ?_
    rw [Caller.token?_withToken, if_neg (by decide)] at ht
    cases ht
    have hclient : (hubManager.derivedClient (Text.trim "new") none).isOk = true := by
      decide +kernel
    obtain ⟨c, k, hhandle⟩ := exists_handle_of_hubManager none hclient
    obtain ⟨hk, hc⟩ := Manager.built_of_handleFor hhandle
    exact ⟨k, c, hk, hc⟩
  exact ⟨exchanged_blank, (exchange_yields_gate_iff exchanged_blank).2.1.mpr ⟨by decide, rfl⟩,
    hnew, (exchange_yields_gate_iff hnew).2.2.2 (by decide)⟩

end HubProvider

end FleetGate
