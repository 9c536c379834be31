import FleetGate.Proofs.Identity

/-!
# Stored credentials stay where they are

A manager stores credentials in two places: with its connection, and with the users of its
kubeconfig.  Callers see what is derived for them, the view of the kubeconfig, and the
kubeconfig of an endpoint.

* Two managers that differ at most in credentials show the same (`Manager.SameViews`), so
  nothing of the credentials gets there.
* A manager shows no credentials but the caller's own token (`Manager.ShowsNone`), and it
  stores afterwards what it stored before.

The client of a manager, which acts with its credentials, may be any in either manager.
-/

namespace FleetGate

open Runs (run)

/-- What a client was made from, but for the credentials. -/
def ClientConfig.withoutCredentials (c : ClientConfig) : ClientConfig :=
  { c with connection := { c.connection with credentials := {} } }

/-! ## Programs that look at no credentials -/

/-- What is derived for a token takes no credentials along. -/
theorem ClientConfig.derive_withoutCredentials (c : ClientConfig) (token : String)
    (userAgent : Option String) :
    c.withoutCredentials.derive token userAgent = c.derive token userAgent := rfl

theorem Connection.kubeconfig_withoutCredentials (c : ClientConfig) (name : String) :
    c.withoutCredentials.connection.kubeconfig name = c.connection.kubeconfig name := rfl

/-- A view is the same without any users. -/
theorem Kubeconfig.view_withoutUsers (k : Kubeconfig) (minified : Bool) :
    k.withoutUsers.view minified = k.view minified := rfl

/-- A view has no users, minified or not. -/
theorem Kubeconfig.users_view (k : Kubeconfig) (minified : Bool) :
    (k.view minified).users = [] := by
  cases minified with
  | false => rfl
  | true => rfl

namespace Manager

theorem derivedKubeconfig_withoutUsers (k : Kubeconfig) :
    derivedKubeconfig k.withoutUsers = derivedKubeconfig k := rfl

/-- Two managers that differ at most in credentials. -/
structure SameButCredentials (g g' : Manager) : Prop where
  settings_eq : g.settings = g'.settings
  validators_eq : g.validators = g'.validators
  config_eq : g.config.withoutCredentials = g'.config.withoutCredentials
  kubeconfig_eq : g.kubeconfig.withoutUsers = g'.kubeconfig.withoutUsers

namespace SameButCredentials

variable {g g' : Manager}

theorem derive_eq (h : g.SameButCredentials g') (token : String) (userAgent : Option String) :
    g.config.derive token userAgent = g'.config.derive token userAgent := by
  rw [← ClientConfig.derive_withoutCredentials, h.config_eq,
    ClientConfig.derive_withoutCredentials]

theorem endpoint_eq (h : g.SameButCredentials g') (name : String) :
    g.config.connection.kubeconfig name = g'.config.connection.kubeconfig name := by
  rw [← Connection.kubeconfig_withoutCredentials, h.config_eq,
    Connection.kubeconfig_withoutCredentials]

/-- So views do not depend on credentials. -/
theorem view_eq (h : g.SameButCredentials g') (minified : Bool) :
    g.view minified = g'.view minified := by
  rw [view, view, ← Kubeconfig.view_withoutUsers, h.kubeconfig_eq, Kubeconfig.view_withoutUsers]

theorem derivedKubeconfig_eq (h : g.SameButCredentials g') :
    derivedKubeconfig g.kubeconfig = derivedKubeconfig g'.kubeconfig := by
  rw [← derivedKubeconfig_withoutUsers, h.kubeconfig_eq, derivedKubeconfig_withoutUsers]

/-- Nor does the client for a token. -/
theorem derivedClient_eq (h : g.SameButCredentials g') (token : String)
    (userAgent : Option String) :
    g.derivedClient token userAgent = g'.derivedClient token userAgent := by
  rw [derivedClient, derivedClient, h.derive_eq, h.settings_eq, h.validators_eq]

theorem fallback_eq (h : g.SameButCredentials g') (e : FleetError) :
    g.fallback e = g'.fallback e := by
  rw [fallback, fallback, h.settings_eq]

/-- The handle for a token does not depend on the credentials of the manager. -/
theorem handleFor_eq (h : g.SameButCredentials g') (token : String) (userAgent : Option String) :
    g.handleFor token userAgent = g'.handleFor token userAgent := by
  unfold handleFor
  rw [h.derivedKubeconfig_eq, h.derivedClient_eq]
  simp only [h.fallback_eq]

end SameButCredentials

variable (m : Type → Type) [Monad m] [Network m] {W : Type} [Runs m W]

/-- Two managers show callers the same. -/
structure SameViews (g g' : Manager) : Prop where
  /-- What clients for tokens are made from. -/
  config_eq : ∀ token userAgent, g.config.derive token userAgent = g'.config.derive token userAgent
  /-- Handles for tokens, with all that belongs to them. -/
  handle_eq : ∀ token userAgent, g.handleFor token userAgent = g'.handleFor token userAgent
  /-- Handles that callers get, whatever the servers say. -/
  derive_eq : ∀ (caller : Caller) (w w' : W) (h h' : Handle),
    (run (derive (m := m) caller) (g, w)).1 = .ok h →
    (run (derive (m := m) caller) (g', w')).1 = .ok h' → h = h'
  /-- Views. -/
  view_eq : ∀ minified, g.view minified = g'.view minified
  /-- Kubeconfigs of the endpoint. -/
  endpoint_eq : ∀ name, g.config.connection.kubeconfig name = g'.config.connection.kubeconfig name

/-- A manager shows no credentials but the caller's own token, and keeps what it stores. -/
structure ShowsNone (g : Manager) : Prop where
  /-- The connection for a token is the manager's own but for the credentials. -/
  connection_eq : ∀ token userAgent, (g.config.derive token userAgent).connection =
    { g.config.connection with credentials := { token := some token } }
  /-- And so is the rate. -/
  rate_eq : ∀ token userAgent, (g.config.derive token userAgent).qps = g.config.qps ∧
    (g.config.derive token userAgent).burst = g.config.burst
  /-- A handle of a caller's own acts with the caller's token and has no users. -/
  handle : ∀ (caller : Caller) (w : W) (c : Client) (k : Kubeconfig),
    (run (derive (m := m) caller) (g, w)).1 = .ok (.derived c k) →
    ∃ token, caller.Bears token ∧ ActsAs token c k
  /-- A view has no users. -/
  view : ∀ minified, (g.view minified).users = []
  /-- The user of an endpoint has no credentials. -/
  endpoint : ∀ name, (g.config.connection.kubeconfig name).users = [⟨name, some {}⟩]
  /-- Only the client's memory changes when a handle is derived. -/
  kept : ∀ (caller : Caller) (w : W), ∃ c, Client.SameMake g.client c ∧
    (run (derive (m := m) caller) (g, w)).2.1 = { g with client := c }

variable {m} {g g' : Manager}

/-- A handle of a caller's own is the one for the caller's token. -/
theorem actsAs_of_derive {caller : Caller} {w : W} {c : Client} {k : Kubeconfig}
    (h : (run (derive (m := m) caller) (g, w)).1 = .ok (.derived c k)) :
    ∃ token, caller.Bears token ∧ ActsAs token c k := by
  rcases eq_handle_of_derive h with ⟨-, he⟩ | ⟨token, ht, hh⟩
  · cases he
  obtain ⟨hk, hc⟩ := built_of_handleFor hh
  exact ⟨token, Caller.token?_eq_some_iff.mp ht, actsAs_of_derivedClient hc hk⟩

/-- No manager shows what it has stored. -/
theorem showsNone (g : Manager) : g.ShowsNone m (W := W) where
  connection_eq _ _ := rfl
  rate_eq _ _ := ⟨rfl, rfl⟩
  handle _ _ _ _ h := actsAs_of_derive h
  view minified := g.kubeconfig.users_view minified
  endpoint _ := rfl
  kept caller w := derive_sameMake g caller w

/-- Handles that two runs give to one caller are the same, if the managers differ at most in
credentials. -/
theorem handle_eq_of_derive (hg : g.SameButCredentials g') {caller : Caller} {w w' : W}
    {h h' : Handle} (hd : (run (derive (m := m) caller) (g, w)).1 = .ok h)
    (hd' : (run (derive (m := m) caller) (g', w')).1 = .ok h') : h = h' := by
  rcases eq_handle_of_derive hd with ⟨hn, rfl⟩ | ⟨token, ht, hh⟩
  · rcases eq_handle_of_derive hd' with ⟨-, rfl⟩ | ⟨token, ht, -⟩
    · rfl
    · rw [hn] at ht
      cases ht
  · rcases eq_handle_of_derive hd' with ⟨hn, -⟩ | ⟨token', ht', hh'⟩
    · rw [hn] at ht
      cases ht
    · rw [ht] at ht'
      cases ht'
      rw [hg.handleFor_eq, hh'] at hh
      cases hh
      rfl

/-- Stored credentials do not get into what callers see. -/
theorem credentials_stay_hidden (h : g.SameButCredentials g') :
    g.SameViews m (W := W) g' ∧ g.ShowsNone m (W := W) ∧ g'.ShowsNone m (W := W) :=
  ⟨⟨h.derive_eq, h.handleFor_eq, fun _ _ _ _ _ => handle_eq_of_derive h, h.view_eq, h.endpoint_eq⟩,
    showsNone g, showsNone g'⟩

end Manager

/-- The manager of the hub with a name and a password, and with a user to go by. -/
def keyedManager : Manager :=
  { hubManager with
    config := { hubManager.config with
      connection := { hubManager.config.connection with
        credentials := {
          username := some "admin", password := some "pass", impersonate := some "root" } } }
    kubeconfig := { hubManager.kubeconfig with
      users := [⟨"hub-user", some { token := some "server-token" }⟩] } }

/-- The hub shows the same with and without its credentials. -/
theorem keyed_credentials_stay_hidden :
    hubManager.SameButCredentials keyedManager ∧
      hubManager.SameViews Simulation.Simulated keyedManager ∧
      hubManager.ShowsNone Simulation.Simulated ∧ keyedManager.ShowsNone Simulation.Simulated := by
  have h : hubManager.SameButCredentials keyedManager := ⟨rfl, rfl, rfl, rfl⟩
  exact ⟨h, Manager.credentials_stay_hidden h⟩

end FleetGate
