import FleetGate.Manager
import FleetGate.Proofs.Clients
import FleetGate.Simulation.World

/-!
# Every request is mediated

No client reaches its server but through the gate of the settings.  A client is built
for a manager, with the gate's own credentials, or derived for a caller, with a token
(`Client.BuiltFor`).  Both kinds go by the deny list, the validators and the switch of
the same settings, and they do so in every state that they get into.

`every_request_is_mediated` joins this with `Policy.admission`, which says what a gate
does with a request.  `Client.send` and `Client.listen`, and the calls that the gate
makes of its own accord, are all `Client.pass` with a call for the calls inside.
-/

namespace FleetGate

open Config Runs
open Client (Reached pass outlet policyAt start)

/-- A client that is built for settings and validators. -/
inductive Client.BuiltFor (settings : Settings) (validators : List ValidatorKind) :
    Client → Prop where
  /-- The own client of a manager, for a service at hand. -/
  | atHand {config : ClientConfig} {k : Kubeconfig} {g : Manager} :
      Manager.atHand settings validators config k = .ok g →
      BuiltFor settings validators g.client
  /-- The own client of a manager, for a server. -/
  | connected {fs : Files} {config : ClientConfig} {k : Kubeconfig} {g : Manager} :
      Manager.connect fs settings validators config k = .ok g →
      BuiltFor settings validators g.client
  /-- A client that a manager derives for a caller. -/
  | derived {g : Manager} {token : String} {userAgent : Option String} {c : Client} :
      g.settings = settings → g.validators = validators →
      g.derivedClient token userAgent = .ok c → BuiltFor settings validators c

/-- A client goes by the rules of the settings that it is built for. -/
theorem Client.BuiltFor.rules_eq {settings : Settings} {validators : List ValidatorKind}
    {c : Client} (h : Client.BuiltFor settings validators c) :
    c.rules = settings.rules validators := by
  cases h with
  | atHand h =>
    obtain ⟨c, hc, h⟩ := exists_of_bind_eq_ok h
    cases h
    obtain ⟨_, _, _, hr, _⟩ := Client.eq_of_onRoute hc
    exact hr
  | connected h =>
    obtain ⟨c, hc, h⟩ := exists_of_bind_eq_ok h
    cases h
    obtain ⟨_, _, _, hr⟩ := Client.eq_of_connect hc
    exact hr
  | derived hs hv h =>
    subst hs hv
    obtain ⟨_, _, _, hr⟩ := Client.eq_of_connect h
    exact hr

/-! ## Mediation -/

/-- A policy mediates every request to every service, and a client hands each of its
requests to its server only through the policy of the settings that it is built for. -/
theorem every_request_is_mediated {m : Type → Type} [Monad m] {W : Type} [Runs m W] :
    (∀ {α : Type} (p : Policy m) (service : Service m α) (r : HttpRequest) (w : W),
      p.Admission service r w) ∧
    ∀ [Network m] (settings : Settings) (validators : List ValidatorKind) (built c : Client),
      Client.BuiltFor settings validators built → Reached m built c →
      ∀ {α : Type} (call : Api.Call (StateT Client m))
        (exchange : HttpRequest → m (Except String α)) (r : HttpRequest) (w : W),
        let policy := policyAt call (settings.rules validators)
        let named := r.setHeader "user-agent" built.agent
        let turn := (run (start (m := m)) (c, w)).2
        run (pass call exchange r) (c, w) = run (policy.guard (outlet exchange) named) turn ∧
          policy.Admission (outlet exchange) named turn := by
  refine ⟨Policy.admission, ?_⟩
  intro _ settings validators built c hb hc α call exchange r w
  have hpass := hc.pass_eq call exchange r w
  rw [hb.rules_eq] at hpass
  exact ⟨hpass, Policy.admission _ _ _ _⟩

/-- A manager that denies secrets and reviews access, in a simulated world. -/
def secretlessManager : Manager :=
  let settings : Settings := { denied := [⟨"", "v1", "Secret"⟩], validationEnabled := true }
  let config := ClientConfig.ofConnection
    { address := ⟨some "https", some "hub.example.com:6443", "/", none⟩ }
  { settings, validators := [.rbac], config, kubeconfig := {}
    client := {
      config, route := .atHand, rules := settings.rules [.rbac]
      limiter := .start ⟨100, 2000000000⟩ 0 } }

/-- One of its requests for a secret. -/
theorem secretless_request_is_mediated :
    Client.BuiltFor secretlessManager.settings [.rbac] secretlessManager.client ∧
      Reached Simulation.Simulated secretlessManager.client secretlessManager.client ∧
      (policyAt (m := Simulation.Simulated) (Client.sendAt 1)
        (secretlessManager.settings.rules [.rbac])).Admission
        (outlet Network.send)
        (HttpRequest.setHeader "user-agent" secretlessManager.client.agent
          ⟨.get, ⟨none, none, "/api/v1/namespaces/prod/secrets/db", none⟩, [], .bytes []⟩)
        (run (start (m := Simulation.Simulated)) (secretlessManager.client, {}, ())).2 := by
  have hlimit : secretlessManager.config.limit? = some ⟨100, 2000000000⟩ := by decide +kernel
  have hbuilt : Client.BuiltFor secretlessManager.settings [.rbac] secretlessManager.client := by
    refine @Client.BuiltFor.atHand _ _ secretlessManager.config {} secretlessManager ?_
    rw [Manager.atHand, Client.atHand, Client.onRoute, hlimit]
    rfl
  exact ⟨hbuilt, .new, (every_request_is_mediated.2 _ _ _ _ hbuilt .new _ _ _ _).2⟩

end FleetGate
