import FleetGate.Proofs.Journals

/-!
# How calls nest

The gate of a client calls the server through the same gate.  That comes to an end, because each
call is judged with less than what it is for.

* A discovery or a fetch of definitions is judged with nothing (`Traces.nested_outside`).
* A review is judged with at most a discovery (`Traces.nested_review`).
* Any other request is judged with a discovery, a review and a fetch at most (`Traces.pass_nested`).

So `Admits` describes all that is done for a request, however deep calls may nest.  No part of the
gate is asked for something while it is at work on something else.
-/

namespace FleetGate

open Runs (run bind_of)

/-! ## What is done for a request -/

/-- The deeds of asking for a kind. -/
def Maps (ds : List Deed) : Prop := ∃ inner, Discovers inner ∧ ds = [.consult .mapper inner]

/-- The deeds of a validator. -/
inductive Checks : ValidatorKind → List Deed → Prop where
  | idle (kind : ValidatorKind) : Checks kind []
  | review {r : HttpRequest} {inner : List Deed} : AccessReview.IsCall r → Maps inner →
      Checks .rbac [.call r inner]
  | fetch {r : HttpRequest} : SchemaCheck.IsCall r → Checks .schema [.call r []]

/-- The deeds of validators in order, up to one of them. -/
inductive Validates : List ValidatorKind → List Deed → Prop where
  | stop (kinds : List ValidatorKind) : Validates kinds []
  | next {kind : ValidatorKind} {kinds : List ValidatorKind} {inner ds : List Deed} :
      Checks kind inner → Validates kinds ds →
      Validates (kind :: kinds) (.consult (.validator kind) inner :: ds)

/-- The deeds of admitting a request. -/
inductive Admits (kinds : List ValidatorKind) : List Deed → Prop where
  | freely : Admits kinds []
  | judged {inner ds : List Deed} : Discovers inner → Validates kinds ds →
      Admits kinds (.consult .mapper inner :: ds)

variable {m : Type → Type} [Monad m] {W : Type} [Runs m W] {α : Type}

/-- The server at the end of a route names groups and versions as it should. -/
def Route.NamesWell (m : Type → Type) [Monad m] {W : Type} [Runs m W] [Network m] (route : Route) :
    Prop :=
  ∀ (r prepared : HttpRequest) (w : W) (reply : HttpReply), route.prepare r = .ok prepared →
    (run (Network.send prepared : m _) w).1 = .ok reply → Discovery.Told r reply

namespace Traces

variable {built : Client} {call : Nat → Api.Call (StateT Client (StateT (List Deed) m))}
  {call' : Nat → Api.Call (StateT Client m)}

/-- What holds at every depth holds one level deeper. -/
theorem shift {P : List Deed → α → Prop} {x : Nat → StateT Client (StateT (List Deed) m) α}
    {y : Nat → StateT Client m α} (h : Traces built P x y) :
    Traces built P (fun depth => x (depth + 1)) fun depth => y (depth + 1) := by
  intro c log w hc
  obtain ⟨ds, a, c', w', hP, hc', hrun⟩ := h c log w hc
  exact ⟨ds, a, c', w', hP, hc', fun depth => hrun (depth + 1)⟩

/-! ## The way out -/

/-- What is delivered is no deed, and its answer is what the exchange comes to. -/
theorem deliver {F : Except CallError α → Prop} {exchange : HttpRequest → m (Except String α)}
    (r : HttpRequest) (herror : ∀ e, F (.error e))
    (hok : ∀ prepared w a, built.route.prepare r = .ok prepared →
      (run (exchange prepared) w).1 = .ok a → F (.ok a)) :
    Traces built (fun ds answer => ds = [] ∧ F answer)
      (fun _ => Client.deliver (fun r => StateT.lift (exchange r)) r)
      fun _ => Client.deliver exchange r := by
  refine bind_quiet gets fun c hc => ?_
  rw [hc.route_eq]
  cases hprepared : built.route.prepare r with
  | error reason => exact pure ⟨rfl, herror _⟩
  | ok prepared =>
    refine bind_quiet (F := fun answer => ∀ a, answer = .ok a → F (.ok a))
      (lifts (exchange prepared) fun w a ha => hok prepared w a hprepared ha) fun answer hF => ?_
    cases answer with
    | error reason => exact pure ⟨rfl, herror _⟩
    | ok a => exact pure ⟨rfl, hF a rfl⟩

/-! ## Validators -/

/-- A review calls once, and only to learn the kind of what it sends. -/
theorem reviewCheck (hreview : ∀ r, AccessReview.IsCall r → Traces built
      (fun ds _ => ∃ inner, Maps inner ∧ ds = [.call r inner]) (fun depth => call depth r)
      fun depth => call' depth r) (s : Subject) :
    Traces built (fun ds _ => Checks .rbac ds)
      (fun depth => AccessReview.check (some (call depth)) s)
      fun depth => AccessReview.check (some (call' depth)) s := by
  have hcalls : AccessReview.IsCall (AccessReview.posted s) := ⟨rfl, AccessReview.parse?_path⟩
  unfold AccessReview.check
  split
  · exact pure (.idle _)
  · simp only [AccessReview.ask_ofSubject]
    refine bind (value_of_deeds (hreview _ hcalls)) fun ds answer hds => pure ?_
    obtain ⟨inner, hinner, rfl⟩ := hds
    exact .review hcalls hinner

variable [Network m]

theorem now : Traces built (fun ds _ => ds = [] ∧ True) (fun _ => Clock.now)
    fun _ => (Clock.now : StateT Client m Nat) :=
  lifts Clock.now fun _ => trivial

/-- A check fetches the definitions or does nothing. -/
theorem schemaCheck (hfetch : ∀ r, SchemaCheck.IsCall r → Traces built
      (fun ds _ => ds = [.call r []]) (fun depth => call depth r) fun depth => call' depth r)
    (s : Subject) (cache : SchemaCache) :
    Traces built (fun ds _ => Checks .schema ds)
      (fun depth => SchemaCheck.check (some (call depth)) Clock.now s cache)
      fun depth => SchemaCheck.check (some (call' depth)) Clock.now s cache := by
  have hcalls : SchemaCheck.IsCall SchemaCheck.request := ⟨rfl, SchemaCheck.parse?_path⟩
  have hindex : Traces built (fun ds _ => Checks .schema ds)
      (fun depth => SchemaCheck.index (some (call depth)) Clock.now cache)
      fun depth => SchemaCheck.index (some (call' depth)) Clock.now cache := by
    refine bind_quiet now fun time _ => ?_
    cases cache.fresh? time with
    | some index => exact pure (.idle _)
    | none =>
      simp only [SchemaCheck.fetch_eq]
      refine bind (value_of_deeds (hfetch _ hcalls)) fun ds found hds => ?_
      subst hds
      cases found with
      | error e => exact pure (.fetch hcalls)
      | ok index => exact bind_quiet now fun time _ => pure (.fetch hcalls)
  unfold SchemaCheck.check
  split
  · exact pure (.idle _)
  · refine bind hindex ?_
    rintro ds ⟨found, cache'⟩ hds
    cases found with
    | none => exact pure (by simpa using hds)
    | some index => exact pure (by simpa using hds)

/-- Each validator does what its check does. -/
theorem check (hreview : ∀ r, AccessReview.IsCall r → Traces built
      (fun ds _ => ∃ inner, Maps inner ∧ ds = [.call r inner]) (fun depth => call depth r)
      fun depth => call' depth r)
    (hfetch : ∀ r, SchemaCheck.IsCall r → Traces built
      (fun ds _ => ds = [.call r []]) (fun depth => call depth r) fun depth => call' depth r)
    (kind : ValidatorKind) (s : Subject) :
    Traces built (fun ds _ => Checks kind ds)
      (fun depth => (Client.validatorAt (call depth) kind).check s)
      fun depth => (Client.validatorAt (call' depth) kind).check s := by
  cases kind with
  | rbac => exact reviewCheck hreview s
  | schema =>
    refine bind_quiet gets fun c _ => bind (schemaCheck hfetch s c.schemas) ?_
    rintro ds ⟨answer, cache⟩ hds
    refine bind_quiet (modifies fun _ => ⟨rfl, rfl, rfl, rfl⟩) fun _ _ => pure ?_
    simpa using hds

/-! ## The gate -/

/-- Validators work one after the other, up to the first that refuses. -/
theorem validate {kinds : List ValidatorKind} (s : Subject)
    (hcheck : ∀ kind ∈ kinds, Traces built (fun ds _ => Checks kind ds)
      (fun depth => (Client.validatorAt (call depth) kind).check s)
      fun depth => (Client.validatorAt (call' depth) kind).check s) :
    Traces built (fun ds _ => Validates kinds ds)
      (fun depth => Policy.validate s (kinds.map (Journal.validatorAt (call depth))))
      fun depth => Policy.validate s (kinds.map (Client.validatorAt (call' depth))) := by
  induction kinds with
  | nil => exact pure (.stop _)
  | cons kind kinds ih =>
    obtain ⟨hkind, hkinds⟩ := List.forall_mem_cons.mp hcheck
    have hconsult : Traces built (fun ds _ => ∃ inner, Checks kind inner ∧
        ds = [.consult (.validator kind) inner]) _ _ :=
      hkind.within fun ds _ hds => ⟨ds, hds, rfl⟩
    refine bind hconsult ?_
    rintro ds answer ⟨inner, hinner, rfl⟩
    cases answer with
    | error e => exact pure (.next hinner (.stop _))
    | ok _ => exact (ih hkinds).mono fun ds _ hds => .next hinner hds

theorem review {rules : Rules} (path : ResourcePath) (gvk : Gvk) (r : HttpRequest)
    (hcheck : ∀ kind s, Traces built (fun ds _ => Checks kind ds)
      (fun depth => (Client.validatorAt (call depth) kind).check s)
      fun depth => (Client.validatorAt (call' depth) kind).check s) :
    Traces built (fun ds _ => Validates rules.validators ds)
      (fun depth => (Journal.policyAt (call depth) rules).review path gvk r)
      fun depth => (Client.policyAt (call' depth) rules).review path gvk r := by
  unfold Policy.review
  cases r.method.verb? path.isCollection with
  | none => exact pure (.stop _)
  | some verb =>
    cases Policy.bodyFor r with
    | error e => exact pure (.stop _)
    | ok body? => exact validate _ fun kind _ => hcheck kind _

/-- A request for a resource is judged with a question for its kind, and with what a review of it
comes to if it is not exempt. -/
theorem judgeResource {D : List Deed → Prop} {rules : Rules} {path : ResourcePath}
    {r : HttpRequest} (hD : D [])
    (hkind : ∀ gvr, Traces built (fun ds _ => Discovers ds)
      (fun depth => Client.kindAt (call depth) gvr) fun depth => Client.kindAt (call' depth) gvr)
    (hreview : path.isSelfReview r.method = false → ∀ gvk, Traces built (fun ds _ => D ds)
      (fun depth => (Journal.policyAt (call depth) rules).review path gvk r)
      fun depth => (Client.policyAt (call' depth) rules).review path gvk r) :
    Traces built (fun ds _ => ∃ inner rest, Discovers inner ∧ D rest ∧
        ds = .consult .mapper inner :: rest)
      (fun depth => (Journal.policyAt (call depth) rules).judgeResource path r)
      fun depth => (Client.policyAt (call' depth) rules).judgeResource path r := by
  have hconsult : Traces built (fun ds _ => ∃ inner, Discovers inner ∧
      ds = [.consult .mapper inner]) _ _ :=
    (hkind path.gvr).within fun ds _ hds => ⟨ds, hds, rfl⟩
  refine bind hconsult ?_
  rintro ds kind ⟨inner, hinner, rfl⟩
  cases kind with
  | error e => exact pure ⟨inner, [], hinner, hD, rfl⟩
  | ok gvk =>
    dsimp only [Journal.policyAt, Client.policyAt]
    cases DenyList.check rules.denied gvk with
    | error e => exact pure ⟨inner, [], hinner, hD, rfl⟩
    | ok _ =>
      simp only [Policy.isExempt, List.isEmpty_map]
      split
      · exact pure ⟨inner, [], hinner, hD, rfl⟩
      · next hexempt =>
        simp only [Bool.or_eq_true, not_or, Bool.not_eq_true] at hexempt
        exact (hreview hexempt.2 gvk).mono fun ds _ hds => ⟨inner, ds, hinner, hds, rfl⟩

theorem start : Traces built (fun ds _ => ds = [] ∧ True) (fun _ => Client.start)
    fun _ => (Client.start : StateT Client m Unit) := by
  refine bind_quiet gets fun c hc => bind_quiet now fun time _ => ?_
  refine bind_quiet (lifts (F := fun _ => True) (Clock.waitUntil _) fun _ => trivial) fun _ _ => ?_
  exact sets (Client.SameMake.trans hc ⟨rfl, rfl, rfl, rfl⟩)

/-- A request that passes is judged, and what is delivered then is what comes back. -/
theorem pass {D : List Deed → Prop} {F : Except CallError α → Prop}
    {exchange : HttpRequest → m (Except String α)} {r : HttpRequest}
    (hjudge : ∀ agent, Traces built (fun ds _ => D ds)
      (fun depth => (Journal.policyAt (call depth) built.rules).judge
        (r.setHeader "user-agent" agent))
      fun depth => (Client.policyAt (call' depth) built.rules).judge
        (r.setHeader "user-agent" agent))
    (herror : ∀ e, F (.error e))
    (hok : ∀ agent prepared w a,
      built.route.prepare (r.setHeader "user-agent" agent) = .ok prepared →
        (run (exchange prepared) w).1 = .ok a → F (.ok a)) :
    Traces built (fun ds answer => D ds ∧ F answer)
      (fun depth => Journal.pass (call depth) exchange r)
      fun depth => Client.pass (call' depth) exchange r := by
  refine bind_quiet start fun _ _ => bind_quiet gets fun c hc => ?_
  rw [hc.rules_eq, hc.agent_eq]
  refine bind (hjudge _) fun ds verdict hds => ?_
  cases verdict with
  | error e => exact pure ⟨by simpa using hds, herror _⟩
  | ok _ =>
    refine bind_quiet (F := fun ready => ready = .ok ()) (pure ⟨rfl, rfl⟩) ?_
    rintro _ rfl
    refine (deliver _ herror (hok _)).mono ?_
    rintro ds' answer ⟨rfl, hF⟩
    exact ⟨by simpa using hds, hF⟩

/-! ## Calls within calls -/

/-- A call of a client passes its gate with a level less to go, and is one deed around what is done
there. -/
theorem nested_of_pass {P P' : List Deed → Except CallError HttpReply → Prop} {r : HttpRequest}
    (spare : Nat)
    (h : Traces built P
      (fun depth => Journal.pass (m := m) (Journal.nested (depth + spare)) Network.send r)
      fun depth => Client.pass (Client.nested (depth + spare)) Network.send r)
    (hP : ∀ ds a, P ds a → P' [.call r ds] a) :
    Traces built P' (fun depth => Journal.nested (m := m) (depth + spare + 1) r)
      fun depth => Client.nested (depth + spare + 1) r := by
  have hplain : (fun depth => Client.nested (m := m) (depth + spare + 1) r) =
      fun depth => Client.pass (Client.nested (depth + spare)) Network.send r :=
    funext fun depth => congrFun (Client.nested_succ (depth + spare)) r
  rw [hplain]
  exact h.within hP

/-- Nothing is done for a call to a path that is no resource path. -/
theorem nested_outside (hserver : built.route.NamesWell m) {r : HttpRequest}
    (h : ResourcePath.parse? r.target.path = none) :
    Traces built
      (fun ds answer => ds = [.call r []] ∧ ∀ reply, answer = .ok reply → Discovery.Told r reply)
      (fun depth => Journal.nested (m := m) (depth + 1) r)
      fun depth => Client.nested (depth + 1) r := by
  have hpass : Traces built
      (fun ds answer => ds = [] ∧ ∀ reply, answer = .ok reply → Discovery.Told r reply)
      (fun depth => Journal.pass (m := m) (Journal.nested depth) Network.send r)
      fun depth => Client.pass (Client.nested depth) Network.send r := by
    refine pass (fun agent => ?_) (fun e => nofun) fun agent prepared w reply hprepared hreply => ?_
    · have hout : ResourcePath.parse? (r.setHeader "user-agent" agent).target.path = none := h
      simp only [Policy.judge_of_outside _ hout]
      exact pure rfl
    · intro reply' heq
      cases heq
      have htold := hserver _ prepared w _ hprepared hreply
      exact ⟨htold.groups, htold.core⟩
  exact nested_of_pass 0 hpass fun ds answer hds => ⟨by rw [hds.1], hds.2⟩

theorem kindAt_nested (hserver : built.route.NamesWell m) (gvr : Gvr) :
    Traces built (fun ds _ => Discovers ds)
      (fun depth => Client.kindAt (Journal.nested (m := m) (depth + 1)) gvr)
      fun depth => Client.kindAt (Client.nested (depth + 1)) gvr :=
  kindAt (fun _ hr => nested_outside hserver hr.outside) gvr

/-- A review is judged with a question for its kind and nothing else. -/
theorem nested_review (hserver : built.route.NamesWell m) {r : HttpRequest}
    (h : AccessReview.IsCall r) :
    Traces built (fun ds _ => ∃ inner, Maps inner ∧ ds = [.call r inner])
      (fun depth => Journal.nested (m := m) (depth + 2) r)
      fun depth => Client.nested (depth + 2) r := by
  have hpass : Traces built (fun ds _ => Maps ds ∧ True)
      (fun depth => Journal.pass (m := m) (Journal.nested (depth + 1)) Network.send r)
      fun depth => Client.pass (Client.nested (depth + 1)) Network.send r := by
    refine pass (fun agent => ?_) (fun _ => trivial) fun _ _ _ _ _ _ => trivial
    have hcalls : AccessReview.IsCall (r.setHeader "user-agent" agent) :=
      ⟨h.method_eq, h.target_eq⟩
    obtain ⟨path, hpath, hself⟩ := hcalls.exists_path
    unfold Policy.judge
    rw [hpath]
    refine (judgeResource (D := fun ds => ds = []) rfl (kindAt_nested hserver) ?_).mono ?_
    · intro hnot
      rw [hself] at hnot
      cases hnot
    · rintro ds _ ⟨inner, _, hinner, rfl, rfl⟩
      exact ⟨inner, hinner, rfl⟩
  exact nested_of_pass 1 hpass fun ds _ hds => ⟨ds, hds.1, rfl⟩

/-- Whatever the request, it is admitted with deeds of this form. -/
theorem pass_nested (hserver : built.route.NamesWell m)
    (exchange : HttpRequest → m (Except String α)) (r : HttpRequest) :
    Traces built (fun ds _ => Admits built.rules.validators ds)
      (fun depth => Journal.pass (Journal.nested (depth + 2)) exchange r)
      fun depth => Client.pass (Client.nested (depth + 2)) exchange r := by
  have hfetch (r : HttpRequest) (hr : SchemaCheck.IsCall r) :
      Traces built (fun ds _ => ds = [.call r []])
        (fun depth => Journal.nested (m := m) (depth + 2) r)
        fun depth => Client.nested (depth + 2) r :=
    (nested_outside hserver hr.outside).shift.mono fun _ _ hds => hds.1
  refine (pass (F := fun _ => True) (fun agent => ?_) (fun _ => trivial)
    fun _ _ _ _ _ _ => trivial).mono fun _ _ hds => hds.1
  unfold Policy.judge
  cases ResourcePath.parse? (r.setHeader "user-agent" agent).target.path with
  | none => exact pure .freely
  | some path =>
    refine (judgeResource (D := Validates built.rules.validators) (.stop _)
      (fun gvr => (kindAt_nested hserver gvr).shift) fun _ gvk => ?_).mono ?_
    · exact review path gvk _ (check (fun r hr => nested_review hserver hr) hfetch)
    · rintro ds _ ⟨inner, rest, hinner, hrest, rfl⟩
      exact .judged hinner hrest

end Traces

/-! ## What follows from the form of the deeds -/

theorem Discovers.free {ds : List Deed} (h : Discovers ds) (busy : List Part) :
    ∀ d ∈ ds, d.Free busy := by
  intro d hd
  obtain ⟨r, -, rfl⟩ := h d hd
  exact .call nofun

theorem Maps.free {ds : List Deed} (h : Maps ds) {busy : List Part} (hbusy : .mapper ∉ busy) :
    ∀ d ∈ ds, d.Free busy := by
  obtain ⟨inner, hinner, rfl⟩ := h
  intro d hd
  cases List.mem_singleton.mp hd
  exact .consult hbusy (hinner.free _)

/-- A validator is not asked for anything while it is at work. -/
theorem Checks.free {kind : ValidatorKind} {ds : List Deed} (h : Checks kind ds) :
    ∀ d ∈ ds, d.Free [.validator kind] := by
  cases h with
  | idle => exact nofun
  | review _ hinner =>
    intro d hd
    cases List.mem_singleton.mp hd
    exact .call (hinner.free (by decide))
  | fetch =>
    intro d hd
    cases List.mem_singleton.mp hd
    exact .call nofun

theorem Validates.free {kinds : List ValidatorKind} {ds : List Deed} (h : Validates kinds ds) :
    ∀ d ∈ ds, d.Free [] := by
  induction h with
  | stop => exact nofun
  | next hinner _ ih => exact List.forall_mem_cons.mpr ⟨.consult List.not_mem_nil hinner.free, ih⟩

/-- Nothing that the gate asks waits for itself. -/
theorem Admits.free {kinds : List ValidatorKind} {ds : List Deed} (h : Admits kinds ds) :
    ∀ d ∈ ds, d.Free [] := by
  cases h with
  | freely => exact nofun
  | judged hinner hds =>
    exact List.forall_mem_cons.mpr ⟨.consult List.not_mem_nil (hinner.free _), hds.free⟩

/-- A call that the gate makes of its own accord. -/
inductive OwnCall (r : HttpRequest) : Prop where
  | discovery : Discovery.IsCall r → OwnCall r
  | review : AccessReview.IsCall r → OwnCall r
  | definitions : SchemaCheck.IsCall r → OwnCall r

theorem Discovers.calls {ds : List Deed} (h : Discovers ds) :
    ∀ r ∈ callsWithin ds, Discovery.IsCall r := by
  induction ds with
  | nil => exact nofun
  | cons d ds ih =>
    obtain ⟨hd, hds⟩ := List.forall_mem_cons.mp h
    obtain ⟨r, hr, rfl⟩ := hd
    exact List.forall_mem_cons.mpr ⟨hr, ih hds⟩

theorem Maps.calls {ds : List Deed} (h : Maps ds) : ∀ r ∈ callsWithin ds, Discovery.IsCall r := by
  obtain ⟨inner, hinner, rfl⟩ := h
  intro r hr
  exact hinner.calls r (by simpa [callsWithin, Deed.calls] using hr)

/-- A validator makes no calls but the gate's own. -/
theorem Checks.ownCalls {kind : ValidatorKind} {ds : List Deed} (h : Checks kind ds) :
    ∀ r ∈ callsWithin ds, OwnCall r := by
  cases h with
  | idle => exact nofun
  | review hr hinner =>
    intro r' hr'
    rcases List.mem_cons.mp (by simpa [callsWithin, Deed.calls] using hr') with rfl | hr'
    · exact .review hr
    · exact .discovery (hinner.calls r' hr')
  | fetch hr =>
    intro r' hr'
    cases List.mem_singleton.mp (by simpa [callsWithin, Deed.calls] using hr')
    exact .definitions hr

theorem Validates.ownCalls {kinds : List ValidatorKind} {ds : List Deed} (h : Validates kinds ds) :
    ∀ r ∈ callsWithin ds, OwnCall r := by
  induction h with
  | stop => exact nofun
  | next hinner _ ih =>
    intro r hr
    rcases List.mem_append.mp hr with hr | hr
    · exact hinner.ownCalls r hr
    · exact ih r hr

theorem Admits.ownCalls {kinds : List ValidatorKind} {ds : List Deed} (h : Admits kinds ds) :
    ∀ r ∈ callsWithin ds, OwnCall r := by
  cases h with
  | freely => exact nofun
  | judged hinner hds =>
    intro r hr
    rcases List.mem_append.mp hr with hr | hr
    · exact .discovery (hinner.calls r hr)
    · exact hds.ownCalls r hr

/-- Calls that only one kind of validator makes, and that only once. -/
structure OnceFor (kind : ValidatorKind) (P : HttpRequest → Bool) : Prop where
  discovery : ∀ r, Discovery.IsCall r → P r = false
  own : ∀ {ds}, Checks kind ds → (callsWithin ds).countP P ≤ 1
  other : ∀ {other ds}, other ≠ kind → Checks other ds → (callsWithin ds).countP P = 0

theorem Maps.countP {P : HttpRequest → Bool} (hP : ∀ r, Discovery.IsCall r → P r = false)
    {ds : List Deed} (h : Maps ds) : (callsWithin ds).countP P = 0 :=
  List.countP_eq_zero.mpr fun r hr => by simp [hP r (h.calls r hr)]

/-- Each validator of a kind makes the call of this kind once at most. -/
theorem Validates.countP_le {kind : ValidatorKind} {P : HttpRequest → Bool} (hP : OnceFor kind P)
    {kinds : List ValidatorKind} {ds : List Deed} (h : Validates kinds ds) :
    (callsWithin ds).countP P ≤ kinds.count kind := by
  induction h with
  | stop => exact Nat.zero_le _
  | @next kind' kinds inner ds hinner _ ih =>
    rw [callsWithin, Deed.calls, List.countP_append, List.count_cons]
    by_cases hkind : kind' = kind
    · subst hkind
      rw [if_pos (beq_self_eq_true _)]
      have := hP.own hinner
      omega
    · rw [if_neg (by simpa using hkind), hP.other hkind hinner]
      omega

/-- Each kind of validator makes its call once at most. -/
theorem Admits.countP_le {kind : ValidatorKind} {P : HttpRequest → Bool} (hP : OnceFor kind P)
    {kinds : List ValidatorKind} (hkinds : kinds.Nodup) {ds : List Deed} (h : Admits kinds ds) :
    (callsWithin ds).countP P ≤ 1 := by
  cases h with
  | freely => exact Nat.zero_le _
  | @judged inner ds hinner hds =>
    have hnone := Maps.countP hP.discovery ⟨inner, hinner, rfl⟩
    rw [callsWithin, callsWithin, List.append_nil] at hnone
    rw [callsWithin, List.countP_append, hnone, Nat.zero_add]
    exact (hds.countP_le hP).trans (List.nodup_iff_count.mp hkinds kind)

theorem callsWithin_call (r : HttpRequest) (inner : List Deed) :
    callsWithin [.call r inner] = r :: callsWithin inner := by
  rw [callsWithin, callsWithin, List.append_nil, Deed.calls]

/-- Only the review posts reviews. -/
theorem onceFor_review : OnceFor .rbac fun r => decide (AccessReview.IsCall r) where
  discovery r h := decide_eq_false fun hreview => hreview.not_get h.method_eq
  own h := by
    cases h with
    | idle => exact Nat.zero_le _
    | review _ hinner =>
      have hnone := Maps.countP (P := fun r => decide (AccessReview.IsCall r))
        (fun r h => decide_eq_false fun hreview => hreview.not_get h.method_eq) hinner
      rw [callsWithin_call, List.countP_cons, hnone]
      split <;> omega
  other hne h := by
    cases h with
    | idle => rfl
    | review => exact absurd rfl hne
    | fetch hr =>
      rw [callsWithin_call, callsWithin, List.countP_singleton, if_neg]
      exact fun hreview => (of_decide_eq_true hreview).not_get hr.method_eq

/-- Only the check asks for definitions. -/
theorem onceFor_definitions : OnceFor .schema fun r => decide (SchemaCheck.IsCall r) where
  discovery r h := decide_eq_false h.not_definitions
  own h := by
    cases h with
    | idle => exact Nat.zero_le _
    | fetch =>
      rw [callsWithin_call, callsWithin, List.countP_singleton]
      split <;> omega
  other hne h := by
    cases h with
    | idle => rfl
    | review hr hinner =>
      have hnone := Maps.countP (P := fun r => decide (SchemaCheck.IsCall r))
        (fun r h => decide_eq_false h.not_definitions) hinner
      rw [callsWithin_call, List.countP_cons, hnone, if_neg]
      exact fun hschema => hr.not_get (of_decide_eq_true hschema).method_eq
    | fetch => exact absurd rfl hne

/-! ## The end of admission -/

/-- Admission comes to an end and does not wait for itself.

* Discovery and fetches of definitions pass every policy, and nobody is asked.
* A review is judged by every policy as if it had no validators.
* However deep calls may nest, at least two, the same deeds are done for a request, and they are of
  the form that `Admits` describes.  None of the parts of the gate is asked while it is at work.
  All calls are the gate's own, and of these one at most is a review and one a fetch of
  definitions. -/
theorem admission_comes_to_an_end [Network m] (exchange : HttpRequest → m (Except String α))
    (r : HttpRequest) (c : Client) (w : W) (hserver : c.route.NamesWell m)
    (hvalidators : c.rules.validators.Nodup) :
    (∀ (n : Type → Type) [Monad n] (p : Policy n) (own : HttpRequest),
      Discovery.IsCall own ∨ SchemaCheck.IsCall own → p.judge own = pure (.ok ())) ∧
    (∀ (n : Type → Type) [Monad n] (p : Policy n) (own : HttpRequest),
      AccessReview.IsCall own → p.judge own = { p with validators := [] }.judge own) ∧
    ∃ deeds answer after world,
      (∀ depth,
        run (Journal.pass (Journal.nested (depth + 2)) exchange r) (c, [], w) =
            (answer, after, deeds, world) ∧
          run (Client.pass (Client.sendAt (depth + 1)) exchange r) (c, w) =
            (answer, after, world)) ∧
      Admits c.rules.validators deeds ∧ (∀ d ∈ deeds, d.Free []) ∧
      (∀ own ∈ callsWithin deeds, OwnCall own) ∧
      (callsWithin deeds).countP (fun own => decide (AccessReview.IsCall own)) ≤ 1 ∧
      (callsWithin deeds).countP (fun own => decide (SchemaCheck.IsCall own)) ≤ 1 := by
  refine ⟨fun n _ p own hown => ?_, fun n _ p own hown => hown.judge_eq p, ?_⟩
  · rcases hown with hown | hown
    · exact hown.judge_eq p
    · exact hown.judge_eq p
  · obtain ⟨deeds, answer, after, world, hadmits, -, hrun⟩ :=
      Traces.pass_nested hserver exchange r c [] w (.refl c)
    refine ⟨deeds, answer, after, world, hrun, hadmits, hadmits.free, hadmits.ownCalls, ?_, ?_⟩
    · exact hadmits.countP_le onceFor_review hvalidators
    · exact hadmits.countP_le onceFor_definitions hvalidators

/-- Programs in a world with one server, which never changes. -/
def Served (α : Type) : Type := α

instance : Monad Served := inferInstanceAs (Monad Id)

instance : Runs Served Unit := inferInstanceAs (Runs Id Unit)

/-- What the server says of its groups. -/
def servedGroups : String :=
  "\x7b\"groups\":[\x7b\"name\":\"apps\",\"versions\":" ++
    "[\x7b\"groupVersion\":\"apps/v1\",\"version\":\"v1\"\x7d]\x7d]\x7d"

/-- What the server says of the versions of the core group. -/
def servedVersions : String := "\x7b\"versions\":[\"v1\"]\x7d"

/-- What the server says at a path. -/
def served (path : String) : HttpReply :=
  if path = "/apis" then .ofText 200 servedGroups
  else if path = "/api" then .ofText 200 servedVersions
  else .ofText 200 "\x7b\x7d"

instance : Network Served where
  now := (0 : Nat)
  waitUntil _ := ()
  send r := (.ok (served r.target.path) : Except String HttpReply)
  listen _ := (.ok none : Except String (Option HttpReply))

/-- A client of this server, which asks both validators. -/
def servedClient : Client where
  config := ClientConfig.ofConnection
    { address := ⟨some "https", some "hub.example.com:6443", "/", none⟩ }
  route := .atHand
  rules := { validates := true, validators := [.rbac, .schema] }
  limiter := .start ⟨100, 2000000000⟩ 0
  discovery := some ⟨[("apps", [("v1", [⟨"deployments", ⟨"apps", "v1", "Deployment"⟩⟩])])]⟩

theorem servedClient_namesWell : servedClient.route.NamesWell Served := by
  intro r prepared w reply hprepared hreply
  cases hprepared
  cases hreply
  constructor
  · intro hpath text listed htext hlisted
    have hsaid : Api.textOf (.ofText 200 servedGroups) = .ok servedGroups := by decide +kernel
    have hread : Api.decode Discovery.listedGroups servedGroups =
        .ok [("apps", [("v1", "apps/v1")])] := by decide +kernel
    dsimp only at htext
    rw [served, if_pos hpath, hsaid] at htext
    cases htext
    cases hread.symm.trans hlisted
    simp only [List.mem_singleton, forall_eq]
    exact ⟨"apps", "v1", by decide, by decide, rfl⟩
  · intro hpath text versions htext hversions
    have hsaid : Api.textOf (.ofText 200 servedVersions) = .ok servedVersions := by decide +kernel
    have hread : Api.decode Discovery.coreVersions servedVersions = .ok ["v1"] := by decide +kernel
    dsimp only at htext
    rw [served, if_neg (by rw [hpath]; decide), if_pos hpath, hsaid] at htext
    cases htext
    cases hread.symm.trans hversions
    simp only [List.mem_singleton, forall_eq]
    decide

/-- A request of this client to create a deployment. -/
def servedRequest : HttpRequest :=
  { method := .post, target := ⟨none, none, "/apis/apps/v1/namespaces/prod/deployments", none⟩
    body := .bytes [0x7b, 0x7d] }

/-- This request is reviewed and checked once, whatever else is done for it. -/
theorem admission_comes_to_an_end_served :
    servedClient.route.NamesWell Served ∧ servedClient.rules.validators.Nodup ∧
      ∃ deeds answer after,
        (∀ depth, run (Client.pass (Client.sendAt (depth + 1)) (Network.send (m := Served))
          servedRequest) (servedClient, ()) = (answer, after, ())) ∧
        Admits [.rbac, .schema] deeds ∧
        (callsWithin deeds).countP (fun own => decide (AccessReview.IsCall own)) = 1 ∧
        (callsWithin deeds).countP (fun own => decide (SchemaCheck.IsCall own)) = 1 := by
  have hvalidators : servedClient.rules.validators.Nodup := by decide
  obtain ⟨-, -, deeds, answer, after, world, hrun, hadmits, -⟩ :=
    admission_comes_to_an_end (Network.send (m := Served)) servedRequest servedClient ()
      servedClient_namesWell hvalidators
  have hdeeds : (run (Journal.pass (Journal.nested 2) (Network.send (m := Served)) servedRequest)
      (servedClient, [], ())).2.2.1 = deeds := by rw [(hrun 0).1]
  refine ⟨servedClient_namesWell, hvalidators, deeds, answer, after, fun depth => (hrun depth).2,
    hadmits, ?_, ?_⟩
  · rw [← hdeeds]
    decide +kernel
  · rw [← hdeeds]
    decide +kernel

end FleetGate
