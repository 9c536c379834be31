import FleetGate.Proofs.Bearers
import FleetGate.Proofs.Handles
import FleetGate.Proofs.Makes
import FleetGate.Proofs.Seats
import FleetGate.Proofs.Turns

/-!
# Where a caller's token goes

A cluster of a hub may want another token than the one that a caller sends.  The token is then
exchanged, and the question is who gets to see it.

* `HubProvider.Chooses` says by which settings it is exchanged: those of the cluster's own table,
  those that are the same for all clusters, or none.
* `TokenExchange.Recording` keeps a record of the calls of an exchanger.  What a manager does for a
  caller leaves the record alone (`Manager.recorded_derive`).
* `HubProvider.Ends` has one rule for each end of a request for a handle, with the calls that were
  made.  Each request ends by one of them (`ends_derive`).
* The caller's own token comes back only if the exchange returns it, perhaps with blanks around it
  (`Manager.credential_of_exchanged`).
-/

namespace FleetGate

open Runs (run bind_of)
open Config

/-! ## What is sent -/

namespace TokenExchange

variable {t : ExchangeTarget} {token : String} {realm : Realm}

/-- The issuer of the caller's token is named only to another realm. -/
theorem issuer_of_mem_form {v : String} (h : ("subject_issuer", v) ∈ form t token realm) :
    realm = .cross ∧ t.subjectIssuer = some v := by
  simp only [form, List.mem_append] at h
  rcases h with (((h | h) | h) | h) | h
  · simp at h
  · split at h <;> simp at h
  · split at h <;> simp at h
  · split at h <;> simp at h
  · split at h
    · next hrealm =>
      refine ⟨eq_of_beq hrealm, ?_⟩
      split at h
      · next issuer hissuer => simpa [hissuer, eq_comm] using h
      · cases h
    · cases h

/-- A token service is of another realm unless it is at the address of the hub's own. -/
theorem Realm.detect_eq_cross_iff {hubUrl : Option String} {url : String} :
    Realm.detect hubUrl url = .cross ↔
      ∀ hub, hubUrl = some hub → normalize hub ≠ normalize url := by
  cases hubUrl with
  | none => simp [detect]
  | some hub => simp [detect]

/-- What is posted to a token service is the form. -/
theorem body_of_request {r : HttpRequest} (h : request? t token realm = some r) :
    r.method = .post ∧ r.body = .bytes (Text.Utf8.encode (Form.encode (form t token realm))) := by
  unfold request? at h
  split at h
  · cases h
  · obtain ⟨authority, -, h⟩ := Option.bind_eq_some_iff.mp h
    split at h
    · cases h
    · obtain ⟨bare, hbare, h⟩ := Option.bind_eq_some_iff.mp h
      obtain ⟨target, -, rfl⟩ := Option.map_eq_some_iff.mp hbare
      cases h
      split <;> exact ⟨rfl, rfl⟩

/-! ## Calls of an exchanger -/

/-- What an exchanger is asked for. -/
structure Asked where
  target : ExchangeTarget
  token : String
  realm : Realm
deriving DecidableEq, Repr

/-- Programs beside a record of the calls of an exchanger. -/
def Recording (m : Type → Type) (α : Type) : Type := StateT (List Asked) m α

namespace Recording

variable {m : Type → Type} [Monad m] {W : Type} [Runs m W] {α : Type}

instance : Monad (Recording m) := inferInstanceAs (Monad (StateT (List Asked) m))

instance : Runs (Recording m) (List Asked × W) :=
  inferInstanceAs (Runs (StateT (List Asked) m) (List Asked × W))

/-- A program that calls no exchanger. -/
def lift (x : m α) : Recording m α := StateT.lift x

instance [Network m] : Network (Recording m) where
  now := lift Clock.now
  waitUntil time := lift (Clock.waitUntil time)
  send r := lift (Network.send r)
  listen r := lift (Network.listen r)

theorem run_lift (x : m α) (asked : List Asked) (w : W) :
    run (lift x) (asked, w) = ((run x w).1, asked, (run x w).2) := Runs.run_lift x (asked, w)

end Recording

/-- An exchanger whose calls are recorded. -/
def recorded {m : Type → Type} [Monad m] (exchange : Exchanger m) : Exchanger (Recording m) :=
  fun t token realm =>
    Runs.noted (fun asked : Asked => exchange asked.target asked.token asked.realm)
      ⟨t, token, realm⟩

/-- A recorded exchanger writes down what it is asked for and answers as before. -/
theorem run_recorded {m : Type → Type} [Monad m] {W : Type} [Runs m W] (exchange : Exchanger m)
    (asked : List Asked) (w : W) :
    run (recorded exchange t token realm) (asked, w) =
      ((run (exchange t token realm) w).1, asked ++ [⟨t, token, realm⟩],
        (run (exchange t token realm) w).2) :=
  Runs.run_noted _ (⟨t, token, realm⟩ : Asked) asked w

end TokenExchange

open TokenExchange

/-! ## What a manager does for a caller -/

/-- A program that leaves the record of exchanges alone. -/
def Client.LeavesRecord (m : Type → Type) [Monad m] {W : Type} [Runs m W] (α : Type)
    (x : StateT Client (Recording m) α) : Prop :=
  ∀ (c : Client) (asked : List Asked) (w : W), (run x (c, asked, w)).2.2.1 = asked

namespace Client

variable {m : Type → Type} [Monad m] {W : Type} [Runs m W] {α : Type}

theorem leavesRecord_lift (x : m α) : LeavesRecord m α (StateT.lift (Recording.lift x)) := by
  intro c asked w
  rw [Runs.run_lift, Recording.run_lift]

/-- To leave the record alone passes from the parts of a program to the whole. -/
theorem leavesRecord_closed : Closed (LeavesRecord m) where
  pure a c asked w := by rw [Runs.run_pure]
  bind {_ _ x f} hx hf c asked w := by
    rw [Runs.run_bind]
    exact (hf _ _ _ _).trans (hx c asked w)

/-- What a client does by itself makes no exchange, so that nothing made of this does. -/
theorem leavesRecord_carriedOut [Network m] : CarriedOut (LeavesRecord m) where
  toClosed := leavesRecord_closed
  get c asked w := by rw [Runs.run_get]
  discovered cache c asked w := by rw [Runs.run_modify]
  defined cache c asked w := by rw [Runs.run_modify]
  now := leavesRecord_lift _
  start := leavesRecord_closed.bind (fun c asked w => by rw [Runs.run_get]) fun c =>
    leavesRecord_closed.bind (leavesRecord_lift _) fun now =>
      leavesRecord_closed.bind (leavesRecord_lift _) fun _ c asked w => by rw [Runs.run_set]
  lift_send r := leavesRecord_lift _

end Client

namespace Caller

/-- A caller with a token bears this token without the blanks around it, unless nothing is left
of it. -/
theorem token?_withToken (fresh : String) (userAgent : Option String) :
    (withToken fresh userAgent).token? =
      if Text.trim fresh = "" then none else some (Text.trim fresh) := by
  have hrest : credentials? scheme.toList (scheme ++ fresh).toList = some fresh.toList := by
    rw [String.toList_append, credentials?_append]
  simp only [withToken, token?, hrest, Text.trim, String.ofList_eq_empty_iff, List.isEmpty_iff]

end Caller

namespace Manager

variable {m : Type → Type} [Monad m] [Network m] {W : Type} [Runs m W] {g : Manager} {w : W}

/-- What a manager does for a caller makes no exchange. -/
theorem recorded_derive (g : Manager) (caller : Caller) (asked : List Asked) (w : W) :
    (run (derive (m := Recording m) caller) (g, asked, w)).2.2.1 = asked := by
  cases ht : caller.token? with
  | none => rw [run_derive_of_no_token ht]
  | some token =>
    cases hv : g.settings.validateToken with
    | false => rw [run_derive_of_unreviewed ht hv]
    | true =>
      rw [run_derive_of_reviewed ht hv, run_verify]
      have hverify := Client.leavesRecord_closed.verify
        (Client.leavesRecord_carriedOut (m := m)).send token none
      exact hverify g.client asked w

/-- A handle for an exchanged token acts with this token and keeps the user agent. -/
theorem credential_of_exchanged {fresh : String} {userAgent : Option String} {c : Client}
    {k : Kubeconfig}
    (h : (run (derive (m := m) (.withToken fresh userAgent)) (g, w)).1 = .ok (.derived c k)) :
    ActsAs (Text.trim fresh) c k ∧
      c.config.userAgent = (userAgent.filter (!·.isEmpty)).getD ClientConfig.derivedUserAgent := by
  rcases eq_handle_of_derive h with ⟨-, hown⟩ | ⟨token, ht, hhandle⟩
  · cases hown
  · rw [Caller.token?_withToken] at ht
    split at ht
    · cases ht
    · cases ht
      obtain ⟨hk, hc⟩ := built_of_handleFor hhandle
      obtain ⟨_, -, hconfig, -⟩ := Client.eq_of_connect hc
      exact ⟨actsAs_of_derivedClient hc hk, by rw [hconfig]; rfl⟩

end Manager

/-! ## Requests for handles -/

namespace HubProvider

variable {p q : HubProvider} {cluster target : String} {seat : Seat} {caller : Caller}

/-- By which settings a token for a cluster is obtained. -/
inductive Chooses (p : HubProvider) (cluster : String) : Option ExchangeTarget → Prop where
  /-- By those of the cluster's own table, as they stand there. -/
  | own {t : ExchangeTarget} : p.table.target? cluster = some t → Chooses p cluster (some t)
  /-- By those for all clusters, at the token service of the hub. -/
  | shared {clientId tokenUrl : String} : p.table.target? cluster = none →
      p.hub.settings.stsClientId = some clientId → clientId ≠ "" →
      p.table.tokenUrl = some tokenUrl → tokenUrl ≠ "" →
      Chooses p cluster (some {
        tokenUrl, clientId
        clientSecret := p.hub.settings.stsClientSecret
        audience := p.hub.settings.stsAudience
        scopes := p.hub.settings.stsScopes
        subjectIssuer := none })
  /-- By none: no client is named for all clusters, or no token service. -/
  | neither : p.table.target? cluster = none →
      (∀ clientId, p.hub.settings.stsClientId = some clientId → clientId = "") ∨
        (∀ tokenUrl, p.table.tokenUrl = some tokenUrl → tokenUrl = "") →
      Chooses p cluster none

/-- The settings choose the service for a cluster as the rules say. -/
theorem chooses_exchangeTarget? (p : HubProvider) (cluster : String) :
    p.Chooses cluster (p.exchangeTarget? cluster) := by
  unfold exchangeTarget? TokenExchange.defaultTarget
  cases hown : p.table.target? cluster with
  | some t => exact .own hown
  | none =>
    rw [Option.none_or]
    cases hid : p.hub.settings.stsClientId.filter (!·.isEmpty) with
    | none => exact .neither hown (Or.inl fun clientId h => by simpa [h] using hid)
    | some clientId =>
      obtain ⟨hid, hne⟩ := Option.filter_eq_some_iff.mp hid
      cases hurl : p.table.tokenUrl.filter (!·.isEmpty) with
      | none => exact .neither hown (Or.inr fun tokenUrl h => by simpa [h] using hurl)
      | some tokenUrl =>
        obtain ⟨hurl, hne'⟩ := Option.filter_eq_some_iff.mp hurl
        exact .shared hown hid (by simpa using hne) hurl (by simpa using hne')

theorem Chooses.exchangeTarget?_eq {found : Option ExchangeTarget} (h : p.Chooses cluster found) :
    p.exchangeTarget? cluster = found := by
  unfold exchangeTarget? TokenExchange.defaultTarget
  cases h with
  | own hown => rw [hown, Option.some_or]
  | shared hown hid hne hurl hne' =>
    rw [hown, hid, hurl, Option.filter_some_pos (by simpa using hne),
      Option.filter_some_pos (by simpa using hne')]
    rfl
  | neither hown hnone =>
    rw [hown, Option.none_or]
    rcases hnone with hid | hurl
    · cases hc : p.hub.settings.stsClientId with
      | none => rfl
      | some clientId => simp [hid clientId hc]
    · cases hu : p.table.tokenUrl with
      | none => split <;> simp_all
      | some tokenUrl => simp [hurl tokenUrl hu]

/-- How the service of a target is related to that of the hub. -/
def realmOf (p : HubProvider) (t : ExchangeTarget) : Realm := .detect p.table.tokenUrl t.tokenUrl

/-- A service that is not a cluster's own is in the realm of the hub, and no issuer is named to it.
-/
theorem Chooses.realm_eq_same {t : ExchangeTarget} (h : p.Chooses cluster (some t))
    (hown : p.table.target? cluster = none) : t.subjectIssuer = none ∧ p.realmOf t = .same := by
  cases h with
  | own h =>
    rw [h] at hown
    cases hown
  | shared _ _ _ hurl _ => exact ⟨rfl, by simp [realmOf, Realm.detect, hurl]⟩

/-- A seat is found without a change of the hub. -/
theorem sameHub_of_seatOf (h : p.seatOf target = .ok (seat, q)) : p.SameHub q := by
  by_cases hhub : target = "" ∨ p.topology.hub? = some target
  · cases (seatOf_of_hub hhub).symm.trans h
    exact .refl p
  · obtain ⟨hne, hhub⟩ := not_or.mp hhub
    by_cases hmem : target ∈ p.targets
    · obtain ⟨-, ⟨-, rfl⟩ | ⟨-, g, -, rfl⟩⟩ := seatOf_spoke_cases hne hhub hmem h
      · exact .refl _
      · exact ⟨rfl, rfl, rfl, rfl, .refl _⟩
    · cases (seatOf_of_unknown hne hhub hmem).symm.trans h

theorem exchangeTarget?_of_sameHub (h : p.SameHub q) (cluster : String) :
    q.exchangeTarget? cluster = p.exchangeTarget? cluster := by
  unfold exchangeTarget?
  rw [h.table_eq, h.hub.settings_eq]

variable {m : Type → Type} [Monad m]

/-- The handle of a caller for a target. -/
def derive [Network m] (exchange : Exchanger m) (caller : Caller) (target : String) :
    StateT HubProvider m (Except FleetError Handle) :=
  withHandle exchange caller target pure

variable {W : Type} [Runs m W]

theorem run_withHandle_pure [Network m] (caller : Caller) (g : Manager) (w : W) :
    run (Manager.withHandle (m := m) caller pure) (g, w) =
      run (Manager.derive (m := m) caller) (g, w) := by
  rw [Manager.withHandle, Runs.run_bind]
  match run (Manager.derive (m := m) caller) (g, w) with
  | (.error e, g', w') => exact Runs.run_pure _ _
  | (.ok h, g', w') => exact (Runs.run_bind _ _ _).trans (by rw [Runs.run_pure, Runs.run_pure])

/-- A handle is derived when the seat is there and the token has been exchanged. -/
theorem run_derive [Network m] (exchange : Exchanger m) (caller : Caller) (target : String)
    (p : HubProvider) (w : W) :
    run (derive exchange caller target) (p, w) =
      match p.seatOf (p.chosen target) with
      | .error e => (.error e, p, w)
      | .ok (seat, q) => match run (q.exchangeFor exchange caller (p.chosen target)) w with
          | (.error e, w) => (.error e, q, w)
          | (.ok caller, w) =>
              let done := run (Manager.derive (m := m) caller) (q.managerAt seat, w)
              (done.1, q.setManager done.2.1 seat, done.2.2) := by
  rw [derive, run_withHandle]
  match p.seatOf (p.chosen target) with
  | .error e => rfl
  | .ok (seat, q) =>
    dsimp only
    match run (q.exchangeFor exchange caller (p.chosen target)) w with
    | (.error e, w') => rfl
    | (.ok fresh, w') =>
      have hseat := run_onSeat seat (Manager.withHandle (m := m) fresh pure) q w'
      rw [run_withHandle_pure] at hseat
      exact hseat

section

variable {exchange : Exchanger m} {w w' : W} {token fresh : String} {t : ExchangeTarget}

/-- Without a token, or without a service for the cluster, nothing is exchanged. -/
theorem run_exchangeFor_of_kept (h : caller.token? = none ∨ p.exchangeTarget? cluster = none) :
    run (p.exchangeFor exchange caller cluster) w = (.ok caller, w) := by
  unfold exchangeFor
  split
  · next ht hs => simp [ht, hs] at h
  · exact Runs.run_pure _ _

/-- A token goes to the service, and what comes back takes its place. -/
theorem run_exchangeFor (ht : caller.token? = some token)
    (hs : p.exchangeTarget? cluster = some t) :
    run (p.exchangeFor exchange caller cluster) w =
      let done := run (exchange t token (p.realmOf t)) w
      (done.1.map fun fresh => .withToken fresh caller.userAgent, done.2) := by
  unfold exchangeFor
  rw [ht, hs]
  dsimp only
  rw [Runs.run_bind]
  match run (exchange t token (p.realmOf t)) w with
  | (.error e, w') => exact Runs.run_pure _ _
  | (.ok fresh, w') => exact Runs.run_pure _ _

end

variable [Network m]

/-- What comes of a request for a handle: the answer, the provider, the calls of the exchanger, and
the world. -/
abbrev Outcome (W : Type) := Except FleetError Handle × HubProvider × List Asked × W

/-- The manager at a seat does what it does for a caller. -/
def deriveAt (m : Type → Type) [Monad m] [Network m] {W : Type} [Runs m W] (q : HubProvider)
    (seat : Seat) (caller : Caller) (asked : List Asked) (w : W) : Outcome W :=
  let done := run (Manager.derive (m := Recording m) caller) (q.managerAt seat, asked, w)
  (done.1, q.setManager done.2.1 seat, asked, done.2.2.2)

/-- The ends of a request for a handle. -/
inductive Ends (exchange : Exchanger m) (p : HubProvider) (caller : Caller) (target : String)
    (w : W) : Outcome W → Prop where
  /-- The target leads nowhere. -/
  | astray {e : FleetError} : p.seatOf (p.chosen target) = .error e →
      Ends exchange p caller target w (.error e, p, [], w)
  /-- There is no token, or nothing to exchange it by.  The manager sees the caller as they
  came. -/
  | kept {seat : Seat} {q : HubProvider} : p.seatOf (p.chosen target) = .ok (seat, q) →
      caller.token? = none ∨ p.Chooses (p.chosen target) none →
      Ends exchange p caller target w (q.deriveAt m seat caller [] w)
  /-- The exchange fails, and nobody gets to see the caller. -/
  | refused {seat : Seat} {q : HubProvider} {token : String} {t : ExchangeTarget} {e : FleetError}
      {w' : W} : p.seatOf (p.chosen target) = .ok (seat, q) → caller.token? = some token →
      p.Chooses (p.chosen target) (some t) →
      run (exchange t token (p.realmOf t)) w = (.error e, w') →
      Ends exchange p caller target w (.error e, q, [⟨t, token, p.realmOf t⟩], w')
  /-- The exchange succeeds.  The manager sees the caller with the token that came back. -/
  | exchanged {seat : Seat} {q : HubProvider} {token fresh : String} {t : ExchangeTarget}
      {w' : W} : p.seatOf (p.chosen target) = .ok (seat, q) → caller.token? = some token →
      p.Chooses (p.chosen target) (some t) →
      run (exchange t token (p.realmOf t)) w = (.ok fresh, w') →
      Ends exchange p caller target w
        (q.deriveAt m seat (.withToken fresh caller.userAgent) [⟨t, token, p.realmOf t⟩] w')

theorem deriveAt_eq (q : HubProvider) (seat : Seat) (caller : Caller) (asked : List Asked)
    (w : W) :
    q.deriveAt m seat caller asked w =
      let done := run (Manager.derive (m := Recording m) caller) (q.managerAt seat, asked, w)
      (done.1, q.setManager done.2.1 seat, done.2.2) :=
  have hasked := Manager.recorded_derive (m := m) (q.managerAt seat) caller asked w
  Prod.ext rfl (Prod.ext rfl (Prod.ext hasked.symm rfl))

/-- Every request for a handle ends in one of the ways that are told apart. -/
theorem ends_derive (exchange : Exchanger m) (p : HubProvider) (caller : Caller) (target : String)
    (w : W) :
    p.Ends exchange caller target w
      (run (derive (recorded exchange) caller target) (p, [], w)) := by
  rw [run_derive]
  cases hseat : p.seatOf (p.chosen target) with
  | error e => exact .astray hseat
  | ok found =>
    obtain ⟨seat, q⟩ := found
    have hsame := sameHub_of_seatOf hseat
    have hchosen := p.chooses_exchangeTarget? (p.chosen target)
    have hrealm (t : ExchangeTarget) : q.realmOf t = p.realmOf t := by
      rw [realmOf, realmOf, hsame.table_eq]
    dsimp only
    cases ht : caller.token? with
    | none =>
      rw [run_exchangeFor_of_kept (Or.inl ht)]
      dsimp only
      rw [← deriveAt_eq]
      exact .kept hseat (Or.inl ht)
    | some token =>
      cases hs : p.exchangeTarget? (p.chosen target) with
      | none =>
        rw [hs] at hchosen
        rw [run_exchangeFor_of_kept (Or.inr ((exchangeTarget?_of_sameHub hsame _).trans hs))]
        dsimp only
        rw [← deriveAt_eq]
        exact .kept hseat (Or.inr hchosen)
      | some t =>
        rw [hs] at hchosen
        rw [run_exchangeFor ht ((exchangeTarget?_of_sameHub hsame _).trans hs), hrealm]
        dsimp only
        rw [run_recorded]
        match hrun : run (exchange t token (p.realmOf t)) w with
        | (.error e, w') => exact .refused hseat ht hchosen hrun
        | (.ok fresh, w') =>
          dsimp only [Except.map, List.nil_append]
          rw [← deriveAt_eq]
          exact .exchanged hseat ht hchosen hrun

/-- A token that is exchanged ends the request in one way. -/
theorem Ends.eq_of_exchanged {exchange : Exchanger m} {w w' : W} {token fresh : String}
    {t : ExchangeTarget} {outcome : Outcome W} (h : p.Ends exchange caller target w outcome)
    (hseat : p.seatOf (p.chosen target) = .ok (seat, q)) (ht : caller.token? = some token)
    (hchosen : p.Chooses (p.chosen target) (some t))
    (hrun : run (exchange t token (p.realmOf t)) w = (.ok fresh, w')) :
    outcome =
      q.deriveAt m seat (.withToken fresh caller.userAgent) [⟨t, token, p.realmOf t⟩] w' := by
  have hs := hchosen.exchangeTarget?_eq
  cases h with
  | astray hseat' =>
    rw [hseat] at hseat'
    cases hseat'
  | kept _ hkept =>
    rcases hkept with ht' | hnone
    · rw [ht] at ht'
      cases ht'
    · rw [hnone.exchangeTarget?_eq] at hs
      cases hs
  | refused _ ht' hchosen' hrun' =>
    cases ht.symm.trans ht'
    cases hs.symm.trans hchosen'.exchangeTarget?_eq
    rw [hrun] at hrun'
    cases hrun'
  | exchanged hseat' ht' hchosen' hrun' =>
    cases hseat.symm.trans hseat'
    cases ht.symm.trans ht'
    cases hs.symm.trans hchosen'.exchangeTarget?_eq
    cases hrun.symm.trans hrun'
    rfl

/-- At any seat a handle for an exchanged token acts with this token. -/
theorem credential_of_deriveAt {fresh : String} {userAgent : Option String} {asked : List Asked}
    {w : W} {c : Client} {k : Kubeconfig}
    (h : (q.deriveAt m seat (.withToken fresh userAgent) asked w).1 = .ok (.derived c k)) :
    Manager.ActsAs (Text.trim fresh) c k ∧
      c.config.userAgent = (userAgent.filter (!·.isEmpty)).getD ClientConfig.derivedUserAgent :=
  Manager.credential_of_exchanged h

/-- A caller's token goes to the exchanger at most once, after the target was found, and as the
settings say.  A failed exchange ends the request.  After one that succeeds the manager sees the
caller with the same user agent and the token that came back, and a handle that it derives acts
with this token, without the blanks around it, and with nothing else. -/
theorem tokens_go_where_the_settings_say (m : Type → Type) [Monad m] [Network m] {W : Type}
    [Runs m W] :
    (∀ (exchange : Exchanger m) (p : HubProvider) (caller : Caller) (target : String) (w : W),
      p.Ends exchange caller target w
        (run (derive (recorded exchange) caller target) (p, [], w))) ∧
    (∀ (p : HubProvider) (t : ExchangeTarget) (token v : String),
      ("subject_issuer", v) ∈ form t token (p.realmOf t) →
      t.subjectIssuer = some v ∧
        ∀ hubUrl, p.table.tokenUrl = some hubUrl → normalize hubUrl ≠ normalize t.tokenUrl) ∧
    (∀ (p : HubProvider) (cluster : String) (t : ExchangeTarget) (token v : String),
      p.table.target? cluster = none → p.Chooses cluster (some t) →
      ("subject_issuer", v) ∉ form t token (p.realmOf t)) ∧
    (∀ (t : ExchangeTarget) (token : String) (realm : Realm) (r : HttpRequest),
      request? t token realm = some r →
      r.method = .post ∧ r.body = .bytes (Text.Utf8.encode (Form.encode (form t token realm)))) ∧
    (∀ (q : HubProvider) (seat : Seat) (fresh : String) (userAgent : Option String)
      (asked : List Asked) (w : W) (c : Client) (k : Kubeconfig),
      (q.deriveAt m seat (.withToken fresh userAgent) asked w).1 = .ok (.derived c k) →
      Manager.ActsAs (Text.trim fresh) c k ∧
        (∀ token, c.config.connection.credentials.token = some token → Text.trim fresh = token) ∧
        c.config.userAgent =
          (userAgent.filter (!·.isEmpty)).getD ClientConfig.derivedUserAgent) := by
  refine ⟨ends_derive, fun p t token v h => ?_, fun p cluster t token v hown hchosen h => ?_,
    fun t token realm r h => body_of_request h, fun q seat fresh userAgent asked w c k h => ?_⟩
  · obtain ⟨hrealm, hissuer⟩ := issuer_of_mem_form h
    exact ⟨hissuer, Realm.detect_eq_cross_iff.mp hrealm⟩
  · obtain ⟨hrealm, -⟩ := issuer_of_mem_form h
    rw [(hchosen.realm_eq_same hown).2] at hrealm
    cases hrealm
  · obtain ⟨hacts, hagent⟩ := credential_of_deriveAt h
    refine ⟨hacts, fun token htoken => ?_, hagent⟩
    rw [hacts.credentials_eq] at htoken
    exact Option.some.inj htoken

/-- How tokens for the hub's own cluster are obtained. -/
def ownTarget : ExchangeTarget where
  tokenUrl := "https://sts.example.com/token"
  clientId := "gate"
  subjectIssuer := some "hub"

/-- A provider whose own cluster wants another token. -/
def exchangeProvider : HubProvider :=
  { ownProvider with
    table := { tokenUrl := some "https://hub.example.com/token"
               clusters := [("local-cluster", ownTarget)] } }

/-- An exchanger that always returns the same. -/
def returning (fresh : String) : Exchanger Simulation.Simulated := fun _ _ _ => pure (.ok fresh)

theorem exists_handle_of_hubManager {token : String} (userAgent : Option String)
    (h : (hubManager.derivedClient token userAgent).isOk = true) :
    ∃ c k, hubManager.handleFor token userAgent = .ok (.derived c k) := by
  cases hc : hubManager.derivedClient token userAgent with
  | error e => simp [hc, Except.isOk, Except.toBool] at h
  | ok c => exact ⟨c, _, Manager.handleFor_of_built rfl hc⟩

theorem seatOf_exchangeProvider :
    exchangeProvider.seatOf (exchangeProvider.chosen "local-cluster") =
      .ok (.hub, exchangeProvider) :=
  seatOf_of_hub (Or.inr (by decide))

theorem token?_of_tok (userAgent : Option String) :
    Caller.token? ⟨some "Bearer tok", userAgent⟩ = some "tok" :=
  show Caller.token? ⟨some "Bearer tok", none⟩ = some "tok" by decide

theorem run_exchangeFor_exchangeProvider (fresh : String) (userAgent : Option String)
    (w : Simulation.World × Unit) :
    run (exchangeProvider.exchangeFor (returning fresh) ⟨some "Bearer tok", userAgent⟩
      (exchangeProvider.chosen "local-cluster")) w = (.ok (.withToken fresh userAgent), w) := by
  rw [run_exchangeFor (token?_of_tok userAgent) (show _ = some ownTarget by decide)]
  exact congrArg₂ Prod.mk rfl rfl

/-- The settings of a fleet whose clusters all take tokens of the hub's own service. -/
def sharedProvider : HubProvider :=
  { exchangeProvider with
    table := { tokenUrl := some "https://hub.example.com/token" }
    hub := { hubManager with settings := { stsClientId := some "gate" } } }

/-- The hub's own cluster, with a service of its own and with the shared one. -/
theorem tokens_go_where_the_settings_say_own_cluster :
    ∃ c k,
      run (derive (recorded (returning "new")) ⟨some "Bearer tok", some "cli"⟩ "local-cluster")
        (exchangeProvider, [], {}, ()) =
        exchangeProvider.deriveAt Simulation.Simulated .hub (.withToken "new" (some "cli"))
          [⟨ownTarget, "tok", .cross⟩] ({}, ()) ∧
      (exchangeProvider.deriveAt Simulation.Simulated .hub (.withToken "new" (some "cli"))
        [⟨ownTarget, "tok", .cross⟩] ({}, ())).1 = .ok (.derived c k) ∧
      Manager.ActsAs "new" c k ∧ c.config.userAgent = "cli" ∧
      normalize "https://hub.example.com/token" ≠ normalize ownTarget.tokenUrl ∧
      (∃ t, sharedProvider.Chooses "local-cluster" (some t) ∧
        ("subject_issuer", "hub") ∉ form t "tok" (sharedProvider.realmOf t)) ∧
      ∃ r, request? ownTarget "tok" .cross = some r ∧ r.method = .post := by
  obtain ⟨hends, hform, hshared, hrequest, hcredential⟩ :=
    tokens_go_where_the_settings_say Simulation.Simulated
  have hrealm : exchangeProvider.realmOf ownTarget = .cross := by decide +kernel
  have hclient : (hubManager.derivedClient "new" (some "cli")).isOk = true := by decide +kernel
  obtain ⟨c, k, hhandle⟩ := exists_handle_of_hubManager (some "cli") hclient
  have htoken : (Caller.withToken "new" (some "cli")).token? = some "new" := by decide
  have hderived : (exchangeProvider.deriveAt Simulation.Simulated .hub
      (.withToken "new" (some "cli")) [⟨ownTarget, "tok", .cross⟩] ({}, ())).1 =
      .ok (.derived c k) := by
    dsimp only [deriveAt]
    rw [Manager.run_derive_of_unreviewed htoken rfl]
    exact hhandle
  obtain ⟨hacts, -, hagent⟩ := hcredential _ _ _ _ _ _ c k hderived
  refine ⟨c, k, ?_, hderived, hacts, hagent, ?_, ?_, ?_⟩
  · rw [← hrealm]
    exact (hends (returning "new") exchangeProvider ⟨some "Bearer tok", some "cli"⟩
      "local-cluster" ({}, ())).eq_of_exchanged seatOf_exchangeProvider (token?_of_tok _)
      (.own (by decide)) (Runs.run_pure _ _)
  · exact (hform exchangeProvider ownTarget "tok" "hub" (by rw [hrealm]; decide)).2 _ rfl
  · have hchosen : sharedProvider.Chooses "local-cluster" (some
        { tokenUrl := "https://hub.example.com/token", clientId := "gate" }) :=
      .shared (by decide) rfl (by decide) rfl (by decide)
    exact ⟨_, hchosen, hshared _ _ _ "tok" "hub" (by decide) hchosen⟩
  · have hsome : (request? ownTarget "tok" .cross).isSome = true := by decide +kernel
    obtain ⟨r, hr⟩ := Option.isSome_iff_exists.mp hsome
    exact ⟨r, hr, (hrequest _ _ _ r hr).1⟩

/-- The caller's own token is the credential of a handle only if the exchange returned it. -/
def OwnTokenOnlyIfReturned (m : Type → Type) [Monad m] [Network m] {W : Type} [Runs m W] : Prop :=
  ∀ (exchange : Exchanger m) (p q : HubProvider) (seat : Seat) (caller : Caller)
    (target token fresh : String) (t : ExchangeTarget) (w w' : W) (c : Client) (k : Kubeconfig),
    p.seatOf (p.chosen target) = .ok (seat, q) → caller.token? = some token →
    p.Chooses (p.chosen target) (some t) →
    run (exchange t token (p.realmOf t)) w = (.ok fresh, w') →
    (run (derive exchange caller target) (p, w)).1 = .ok (.derived c k) →
    c.config.connection.credentials.token = some token → fresh = token

/-- A token that comes back with blanks around it is not the caller's own, but the handle acts with
the caller's own token. -/
theorem not_ownTokenOnlyIfReturned_of_blanks : ¬ OwnTokenOnlyIfReturned Simulation.Simulated := by
  intro honly
  have hclient : (hubManager.derivedClient "tok" none).isOk = true := by decide +kernel
  obtain ⟨c, k, hhandle⟩ := exists_handle_of_hubManager none hclient
  have htoken : (Caller.withToken " tok " none).token? = some "tok" := by decide
  have hderive : (run (derive (returning " tok ") ⟨some "Bearer tok", none⟩ "local-cluster")
      (exchangeProvider, {}, ())).1 = .ok (.derived c k) := by
    rw [run_derive, seatOf_exchangeProvider]
    dsimp only
    rw [run_exchangeFor_exchangeProvider]
    dsimp only
    rw [Manager.run_derive_of_unreviewed htoken rfl]
    exact hhandle
  have hacts : Manager.ActsAs "tok" c k := by
    obtain ⟨hk, hc⟩ := Manager.built_of_handleFor hhandle
    exact Manager.actsAs_of_derivedClient hc hk
  have hreturned := honly (returning " tok ") exchangeProvider exchangeProvider .hub
    ⟨some "Bearer tok", none⟩ "local-cluster" "tok" " tok " ownTarget ({}, ()) ({}, ()) c k
    seatOf_exchangeProvider (token?_of_tok none) (.own (by decide)) (Runs.run_pure _ _) hderive
    (by rw [hacts.credentials_eq])
  exact absurd hreturned (by decide)

end HubProvider

end FleetGate
