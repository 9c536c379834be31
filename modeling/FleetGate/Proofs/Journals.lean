import FleetGate.Proofs.Clients
import FleetGate.Proofs.OwnCalls
import FleetGate.Proofs.Verdicts

/-!
# Clients that keep a journal

To judge a request a client may ask for kinds and have the request validated, and each of these may
call the server through the same client.  `Journal.pass` does what `Client.pass` does, and writes
down what is asked and called within what.  `Journal.nested` is a client whose calls nest no deeper
than it is told.

`Traces` is about a program with a journal and one without, both told how deep calls may nest.
Whatever they are told, they run alike, the journal grows by the same deeds, and what is claimed of
deeds and answer holds.  It passes from the parts of a program to the whole, and so there is a lemma
for each program of the gate.
-/

namespace FleetGate

open Runs (run bind_of)
open ResourcePath (IsSegment)

/-- Whom the gate of a client asks. -/
inductive Part where
  | mapper
  | validator (kind : ValidatorKind)
deriving DecidableEq

/-- What is done to judge a request, and all that is done within it. -/
inductive Deed where
  | consult (part : Part) (inner : List Deed)
  | call (r : HttpRequest) (inner : List Deed)

mutual

/-- The calls within a deed, and within these, and so on. -/
def Deed.calls : Deed → List HttpRequest
  | .consult _ inner => callsWithin inner
  | .call r inner => r :: callsWithin inner
termination_by structural d => d

/-- The calls within deeds. -/
def callsWithin : List Deed → List HttpRequest
  | [] => []
  | d :: ds => d.calls ++ callsWithin ds
termination_by structural ds => ds

end

/-- While parts of the gate are at work, none of them is asked for anything else. -/
inductive Deed.Free : List Part → Deed → Prop where
  | consult {busy : List Part} {part : Part} {inner : List Deed} : part ∉ busy →
      (∀ d ∈ inner, Free (part :: busy) d) → Free busy (.consult part inner)
  | call {busy : List Part} {r : HttpRequest} {inner : List Deed} :
      (∀ d ∈ inner, Free busy d) → Free busy (.call r inner)

variable {m : Type → Type} [Monad m] {α β : Type}

instance [Network m] : Network (StateT (List Deed) m) where
  send r := StateT.lift (Network.send r)
  listen r := StateT.lift (Network.listen r)

/-! ## Clients with a journal -/

namespace Journal

/-- Does what a program does, and writes down one deed around its deeds. -/
def within (deed : List Deed → Deed) (x : StateT Client (StateT (List Deed) m) α) :
    StateT Client (StateT (List Deed) m) α := do
  let before ← StateT.lift (modifyGet fun log => (log, []))
  let a ← x
  StateT.lift (modify fun log => before ++ [deed log])
  pure a

variable [Network m]

/-- A validator of a client with a journal. -/
def validatorAt (call : Api.Call (StateT Client (StateT (List Deed) m))) (kind : ValidatorKind) :
    Validator (StateT Client (StateT (List Deed) m)) :=
  ⟨kind.name, fun s => within (.consult (.validator kind)) ((Client.validatorAt call kind).check s)⟩

/-- The policy of a client with a journal. -/
def policyAt (call : Api.Call (StateT Client (StateT (List Deed) m))) (rules : Rules) :
    Policy (StateT Client (StateT (List Deed) m)) where
  kindFor gvr := within (.consult .mapper) (Client.kindAt call gvr)
  denied := rules.denied
  validators := rules.validators.map (validatorAt call)
  validates := rules.validates

/-- Lets a request start, passes it through the gate and delivers it. -/
def pass (call : Api.Call (StateT Client (StateT (List Deed) m)))
    (exchange : HttpRequest → m (Except String α)) (r : HttpRequest) :
    StateT Client (StateT (List Deed) m) (Except CallError α) := do
  Client.start
  let c ← get
  (policyAt call c.rules).guard (Client.outlet fun r => StateT.lift (exchange r))
    (r.setHeader "user-agent" c.agent)

/-- Sends a request that is called for by another, with so many calls within each other. -/
def nested : Nat → Api.Call (StateT Client (StateT (List Deed) m))
  | 0 => fun _ => pure (.error .unaskable)
  | depth + 1 => fun r => within (.call r) (pass (nested depth) Network.send r)

end Journal

/-- A call of a client of which so many more may nest. -/
def Client.nested [Network m] : Nat → Api.Call (StateT Client m)
  | 0 => fun _ => pure (.error .unaskable)
  | depth + 1 => Client.sendAt depth

/-- A call within calls passes the gate with one level less to go. -/
theorem Client.nested_succ [Network m] (depth : Nat) :
    Client.nested (m := m) (depth + 1) = Client.pass (Client.nested depth) Network.send := by
  cases depth <;> rfl

/-! ## Programs that run alike -/

variable {W : Type} [Runs m W]

/-- However deep calls may nest, two programs of a client of this make run alike, the first of them
writes down the same deeds, and these and the answer are as claimed. -/
def Traces (built : Client) (P : List Deed → α → Prop)
    (x : Nat → StateT Client (StateT (List Deed) m) α) (y : Nat → StateT Client m α) : Prop :=
  ∀ (c : Client) (log : List Deed) (w : W), built.SameMake c →
    ∃ ds a c' w', P ds a ∧ built.SameMake c' ∧ ∀ depth,
      run (x depth) (c, log, w) = (a, c', log ++ ds, w') ∧ run (y depth) (c, w) = (a, c', w')

namespace Traces

variable {built : Client} {P P' : List Deed → α → Prop} {Q : List Deed → β → Prop}
  {x : Nat → StateT Client (StateT (List Deed) m) α} {y : Nat → StateT Client m α}

/-- What is claimed of deeds and answers may be weakened. -/
theorem mono (h : Traces built P x y) (hP : ∀ ds a, P ds a → P' ds a) :
    Traces built P' x y := by
  intro c log w hc
  obtain ⟨ds, a, c', w', ha, hrest⟩ := h c log w hc
  exact ⟨ds, a, c', w', hP ds a ha, hrest⟩

/-- A program that does nothing writes nothing down. -/
theorem pure {a : α} (h : P [] a) :
    Traces built P (fun _ => Pure.pure a) fun _ => (Pure.pure a : StateT Client m α) := by
  intro c log w hc
  refine ⟨[], a, c, w, h, hc, fun depth => ⟨?_, Runs.run_pure a _⟩⟩
  rw [Runs.run_pure, List.append_nil]

/-- The deeds of two programs are those of the first and then those of the second. -/
theorem bind {f : Nat → α → StateT Client (StateT (List Deed) m) β}
    {g : Nat → α → StateT Client m β} (h : Traces built P x y)
    (hf : ∀ ds a, P ds a → Traces built (fun ds' b => Q (ds ++ ds') b)
      (fun depth => f depth a) fun depth => g depth a) :
    Traces built Q (fun depth => x depth >>= f depth) fun depth => y depth >>= g depth := by
  intro c log w hc
  obtain ⟨ds, a, c', w', ha, hc', hrun⟩ := h c log w hc
  obtain ⟨ds', b, c'', w'', hb, hc'', hrun'⟩ := hf ds a ha c' (log ++ ds) w' hc'
  refine ⟨ds ++ ds', b, c'', w'', hb, hc'', fun depth => ⟨?_, ?_⟩⟩
  · rw [bind_of (hrun depth).1, (hrun' depth).1, List.append_assoc]
  · rw [bind_of (hrun depth).2, (hrun' depth).2]

/-- What follows a program of which only the answer counts. -/
theorem bind_quiet {F : α → Prop} {f : Nat → α → StateT Client (StateT (List Deed) m) β}
    {g : Nat → α → StateT Client m β} (h : Traces built (fun ds a => ds = [] ∧ F a) x y)
    (hf : ∀ a, F a → Traces built Q (fun depth => f depth a) fun depth => g depth a) :
    Traces built Q (fun depth => x depth >>= f depth) fun depth => y depth >>= g depth :=
  h.bind fun _ a ha => ha.1 ▸ hf a ha.2

/-- What is done within a deed is written down as this one deed. -/
theorem within {deed : List Deed → Deed} (h : Traces built P x y)
    (hP : ∀ ds a, P ds a → P' [deed ds] a) :
    Traces built P' (fun depth => Journal.within deed (x depth)) y := by
  intro c log w hc
  obtain ⟨ds, a, c', w', ha, hc', hrun⟩ := h c [] w hc
  refine ⟨[deed ds], a, c', w', hP ds a ha, hc', fun depth => ⟨?_, (hrun depth).2⟩⟩
  have hopen : run (StateT.lift (modifyGet fun log => (log, [])) :
      StateT Client (StateT (List Deed) m) (List Deed)) (c, log, w) = (log, c, [], w) := by
    rw [Runs.run_lift, Runs.run_modifyGet]
  unfold Journal.within
  rw [bind_of hopen, bind_of (hrun depth).1, Runs.run_bind, Runs.run_lift, Runs.run_modify,
    Runs.run_pure]
  rfl

/-! ## What a client does by itself -/

/-- To look at the client is no deed, and what is seen is the client in some state. -/
theorem gets : Traces built (fun ds c => ds = [] ∧ built.SameMake c) (fun _ => get)
    fun _ => (get : StateT Client m Client) := by
  intro c log w hc
  refine ⟨[], c, c, w, ⟨rfl, hc⟩, hc, fun depth => ⟨?_, Runs.run_get _⟩⟩
  rw [Runs.run_get, List.append_nil]

theorem sets {c : Client} (hc : built.SameMake c) :
    Traces built (fun ds _ => ds = [] ∧ True) (fun _ => set c)
      fun _ => (set c : StateT Client m PUnit) := by
  intro c' log w _
  refine ⟨[], ⟨⟩, c, w, ⟨rfl, trivial⟩, hc, fun depth => ⟨?_, Runs.run_set _ _⟩⟩
  rw [Runs.run_set, List.append_nil]

/-- To change what a client remembers is no deed. -/
theorem modifies {f : Client → Client} (hf : ∀ c : Client, c.SameMake (f c)) :
    Traces built (fun ds _ => ds = [] ∧ True) (fun _ => modify f)
      fun _ => (modify f : StateT Client m PUnit) := by
  intro c log w hc
  refine ⟨[], ⟨⟩, f c, w, ⟨rfl, trivial⟩, hc.trans (hf c), fun depth => ⟨?_, Runs.run_modify _ _⟩⟩
  rw [Runs.run_modify, List.append_nil]

/-- What goes on outside the client is no deed. -/
theorem lifts {F : α → Prop} (z : m α) (h : ∀ w, F (run z w).1) :
    Traces built (fun ds a => ds = [] ∧ F a) (fun _ => StateT.lift (StateT.lift z))
      fun _ => StateT.lift z := by
  intro c log w hc
  refine ⟨[], (run z w).1, c, (run z w).2, ⟨rfl, h w⟩, hc, fun depth => ⟨?_, Runs.run_lift z _⟩⟩
  rw [Runs.run_lift, Runs.run_lift, List.append_nil]

/-! ## Calls for values -/

section Calls

variable {call : Nat → Api.Call (StateT Client (StateT (List Deed) m))}
  {call' : Nat → Api.Call (StateT Client m)} {R : List Deed → Except CallError HttpReply → Prop}
  {Q : List Deed → Except CallError β → Prop}

/-- A call for a value has the deeds of the call.  What is claimed of the value must hold of every
reply that decodes to it. -/
theorem value {form : Api.Wanted β} {r : HttpRequest}
    (h : Traces built R (fun depth => call depth r) fun depth => call' depth r)
    (herror : ∀ ds answer e, R ds answer → Q ds (.error e))
    (hok : ∀ ds reply text b, R ds (.ok reply) → Api.textOf reply = .ok text →
      Api.decode form text = .ok b → Q ds (.ok b)) :
    Traces built Q (fun depth => Api.value (call depth) form r)
      fun depth => Api.value (call' depth) form r := by
  unfold Api.value Api.text
  refine bind (P := fun ds text => (∃ answer, R ds answer) ∧ ∀ t, text = .ok t →
    ∃ reply, R ds (.ok reply) ∧ Api.textOf reply = .ok t) (bind h ?_) ?_
  · intro ds answer hanswer
    cases answer with
    | error e => exact pure ⟨⟨_, by simpa using hanswer⟩, nofun⟩
    | ok reply =>
      exact pure ⟨⟨_, by simpa using hanswer⟩, fun t ht => ⟨reply, by simpa using hanswer, ht⟩⟩
  · rintro ds text ⟨⟨answer, hanswer⟩, htext⟩
    cases text with
    | error e => exact pure (by simpa using herror ds answer e hanswer)
    | ok t =>
      refine pure ?_
      rw [List.append_nil]
      cases hb : Api.decode form t with
      | error e => exact herror ds answer e hanswer
      | ok b =>
        obtain ⟨reply, hreply, ht⟩ := htext t rfl
        exact hok ds reply t b hreply ht hb

/-- If only the deeds count, they are those of the call. -/
theorem value_of_deeds {D : List Deed → Prop} {form : Api.Wanted β} {r : HttpRequest}
    (h : Traces built (fun ds _ => D ds) (fun depth => call depth r) fun depth => call' depth r) :
    Traces built (fun ds _ => D ds) (fun depth => Api.value (call depth) form r)
      fun depth => Api.value (call' depth) form r :=
  h.value (fun _ _ _ hD => hD) fun _ _ _ _ hD _ _ => hD

end Calls

end Traces

/-! ## Discovery -/

/-- The deeds of a discovery: calls that nothing is done for. -/
def Discovers (ds : List Deed) : Prop := ∀ d ∈ ds, ∃ r, Discovery.IsCall r ∧ d = .call r []

theorem Discovers.nil : Discovers [] := nofun

theorem Discovers.call {r : HttpRequest} (h : Discovery.IsCall r) : Discovers [.call r []] :=
  fun _ hd => ⟨r, h, List.mem_singleton.mp hd⟩

theorem Discovers.append {ds ds' : List Deed} (h : Discovers ds) (h' : Discovers ds') :
    Discovers (ds ++ ds') :=
  fun d hd => (List.mem_append.mp hd).elim (h d) (h' d)

/-- The full name of a version has a group and a version. -/
def Discovery.Named (full : String) : Prop :=
  ∃ g v, IsSegment g ∧ IsSegment v ∧ full = g ++ "/" ++ v

/-- What a server says to a request of its groups and of the versions of the core group names
groups and versions as they should be. -/
structure Discovery.Told (r : HttpRequest) (reply : HttpReply) : Prop where
  groups : r.target.path = "/apis" → ∀ text listed, Api.textOf reply = .ok text →
    Api.decode listedGroups text = .ok listed → ∀ group ∈ listed, ∀ version ∈ group.2,
      Named version.2
  core : r.target.path = "/api" → ∀ text versions, Api.textOf reply = .ok text →
    Api.decode coreVersions text = .ok versions → ∀ v ∈ versions, IsSegment v

namespace Traces

section Discovery

variable {built : Client} {call : Nat → Api.Call (StateT Client (StateT (List Deed) m))}
  {call' : Nat → Api.Call (StateT Client m)}

/-- Two discoveries one after the other, the second of which goes by the answer of the first. -/
theorem bind_discovers_of {F : α → Prop} {x : Nat → StateT Client (StateT (List Deed) m) α}
    {y : Nat → StateT Client m α} {f : Nat → α → StateT Client (StateT (List Deed) m) β}
    {g : Nat → α → StateT Client m β} (h : Traces built (fun ds a => Discovers ds ∧ F a) x y)
    (hf : ∀ a, F a → Traces built (fun ds _ => Discovers ds) (fun depth => f depth a)
      fun depth => g depth a) :
    Traces built (fun ds _ => Discovers ds) (fun depth => x depth >>= f depth)
      fun depth => y depth >>= g depth :=
  h.bind fun _ a ha => (hf a ha.2).mono fun _ _ hds => ha.1.append hds

/-- Two discoveries one after the other are a discovery. -/
theorem bind_discovers {x : Nat → StateT Client (StateT (List Deed) m) α}
    {y : Nat → StateT Client m α} {f : Nat → α → StateT Client (StateT (List Deed) m) β}
    {g : Nat → α → StateT Client m β} (h : Traces built (fun ds _ => Discovers ds) x y)
    (hf : ∀ a, Traces built (fun ds _ => Discovers ds) (fun depth => f depth a)
      fun depth => g depth a) :
    Traces built (fun ds _ => Discovers ds) (fun depth => x depth >>= f depth)
      fun depth => y depth >>= g depth :=
  h.bind fun _ a hds => (hf a).mono fun _ _ hds' => hds.append hds'

theorem pure_discovers (a : α) :
    Traces built (fun ds _ => Discovers ds) (fun _ => Pure.pure a)
      fun _ => (Pure.pure a : StateT Client m α) :=
  pure .nil

variable (hcall : ∀ r, Discovery.IsCall r → Traces built
  (fun ds answer => ds = [.call r []] ∧ ∀ reply, answer = .ok reply → Discovery.Told r reply)
  (fun depth => call depth r) fun depth => call' depth r)

include hcall

/-- A question of discovery is one call at most, and its answer is told by the reply. -/
theorem ask {F : β → Prop} (form : Api.Wanted β) {path : String} (hpath : Discovery.Path path)
    (hF : ∀ r reply text b, HttpRequest.ofText? .get path [] = some r → Discovery.Told r reply →
      Api.textOf reply = .ok text → Api.decode form text = .ok b → F b) :
    Traces built (fun ds found => Discovers ds ∧ ∀ b, found = .ok b → F b)
      (fun depth => Api.get (call depth) form path)
      fun depth => Api.get (call' depth) form path := by
  unfold Api.get
  cases hr : HttpRequest.ofText? .get path [] with
  | none => exact pure ⟨.nil, nofun⟩
  | some r =>
    obtain ⟨target, htarget, rfl⟩ := Option.map_eq_some_iff.mp hr
    have hcalls : Discovery.IsCall ⟨.get, target, [], .bytes []⟩ :=
      ⟨rfl, path, hpath, htarget⟩
    refine (hcall _ hcalls).value ?_ ?_
    · rintro ds answer e ⟨rfl, -⟩
      exact ⟨.call hcalls, nofun⟩
    · rintro ds reply text b ⟨rfl, htold⟩ htext hb
      refine ⟨.call hcalls, fun b' hb' => ?_⟩
      cases hb'
      exact hF _ reply text b hr (htold reply rfl) htext hb

/-- The versions of a group are asked for on paths of discovery. -/
theorem fetchVersions {versions : List (String × String)}
    (h : ∀ version ∈ versions, Discovery.Path version.2) :
    Traces built (fun ds _ => Discovers ds)
      (fun depth => Discovery.fetchVersions (call depth) versions)
      fun depth => Discovery.fetchVersions (call' depth) versions := by
  induction versions with
  | nil => exact pure_discovers _
  | cons version rest ih =>
    obtain ⟨hversion, hrest⟩ := List.forall_mem_cons.mp h
    have hentries := ask hcall (F := fun _ => True) Discovery.entries hversion
      fun _ _ _ _ _ _ _ _ => trivial
    refine bind_discovers (hentries.mono fun _ _ h => h.1) fun entries => ?_
    cases entries with
    | error e => exact pure_discovers _
    | ok entries =>
      refine bind_discovers (ih hrest) fun group => ?_
      cases group with
      | error e => exact pure_discovers _
      | ok group => exact pure_discovers _

theorem fetchGroup {versions : List (String × String)}
    (h : ∀ version ∈ versions, Discovery.Path version.2) :
    Traces built (fun ds _ => Discovers ds)
      (fun depth => Discovery.fetchGroup (call depth) versions)
      fun depth => Discovery.fetchGroup (call' depth) versions := by
  unfold Discovery.fetchGroup
  split
  · exact pure_discovers _
  · exact fetchVersions hcall h

/-- So are those of all groups, if the listing names them well. -/
theorem fetchGroups {listed : List (String × List (String × String))}
    (h : ∀ group ∈ listed, ∀ version ∈ group.2, Discovery.Named version.2)
    (found : List (String × Discovery.Group)) :
    Traces built (fun ds _ => Discovers ds)
      (fun depth => Discovery.fetchGroups (call depth) found listed)
      fun depth => Discovery.fetchGroups (call' depth) found listed := by
  induction listed generalizing found with
  | nil => exact pure_discovers _
  | cons group rest ih =>
    obtain ⟨hgroup, hrest⟩ := List.forall_mem_cons.mp h
    have hpaths : ∀ version ∈ group.2.map fun v => (v.1, "/apis/" ++ v.2),
        Discovery.Path version.2 := by
      intro version hversion
      obtain ⟨v, hv, rfl⟩ := List.mem_map.mp hversion
      obtain ⟨g, n, hg, hn, hname⟩ := hgroup v hv
      rw [hname]
      exact .version hg hn
    refine bind_discovers (fetchGroup hcall hpaths) fun group => ?_
    cases group with
    | error e => exact pure_discovers _
    | ok group => exact ih hrest _

theorem fetchCore : Traces built (fun ds _ => Discovers ds)
    (fun depth => Discovery.fetchCore (call depth))
    fun depth => Discovery.fetchCore (call' depth) := by
  refine bind_discovers_of (ask hcall (F := fun versions => ∀ v ∈ versions, IsSegment v)
    Discovery.coreVersions .core ?_) fun versions hversions => ?_
  · intro r reply text versions hr htold
    have hr' : HttpRequest.ofText? .get "/api" [] =
        some ⟨.get, ⟨none, none, "/api", none⟩, [], .bytes []⟩ := by decide +kernel
    refine htold.core ?_ text versions
    rw [← Option.some.inj (hr'.symm.trans hr)]
  · cases versions with
    | error e => exact pure_discovers _
    | ok versions =>
      refine fetchGroup hcall fun version hversion => ?_
      obtain ⟨v, hv, rfl⟩ := List.mem_map.mp hversion
      exact .coreVersion (hversions versions rfl v hv)

theorem fetch : Traces built (fun ds _ => Discovers ds)
    (fun depth => Discovery.fetch (call depth)) fun depth => Discovery.fetch (call' depth) := by
  refine bind_discovers_of (ask hcall (F := fun listed => ∀ group ∈ listed, ∀ version ∈ group.2,
    Discovery.Named version.2) Discovery.listedGroups .groups ?_) fun listed hlisted => ?_
  · intro r reply text listed hr htold
    have hr' : HttpRequest.ofText? .get "/apis" [] =
        some ⟨.get, ⟨none, none, "/apis", none⟩, [], .bytes []⟩ := by decide +kernel
    refine htold.groups ?_ text listed
    rw [← Option.some.inj (hr'.symm.trans hr)]
  · cases listed with
    | error e => exact pure_discovers _
    | ok listed =>
      refine bind_discovers (fetchGroups hcall (hlisted listed rfl) []) fun groups => ?_
      cases groups with
      | error e => exact pure_discovers _
      | ok groups =>
        refine bind_discovers (fetchCore hcall) fun core => ?_
        cases core with
        | error e => exact pure_discovers _
        | ok core => exact pure_discovers _

/-- A snapshot takes discovery and nothing else. -/
theorem snapshot (cache : DiscoveryCache) : Traces built (fun ds _ => Discovers ds)
    (fun depth => cache.snapshot (some (call depth)))
    fun depth => cache.snapshot (some (call' depth)) := by
  cases cache with
  | some d => exact pure_discovers _
  | none =>
    refine bind_discovers (fetch hcall) fun found => ?_
    cases found with
    | error e => exact pure_discovers _
    | ok d => exact pure_discovers _

/-- So does the kind of a resource, which the client then remembers. -/
theorem kindAt (gvr : Gvr) : Traces built (fun ds _ => Discovers ds)
    (fun depth => Client.kindAt (call depth) gvr)
    fun depth => Client.kindAt (call' depth) gvr := by
  refine bind_quiet gets fun c _ => bind_discovers (bind_discovers (snapshot hcall c.discovery) ?_)
    fun found => bind_quiet (modifies fun _ => ⟨rfl, rfl, rfl, rfl⟩) fun _ _ => pure_discovers _
  rintro ⟨found, cache⟩
  cases found with
  | error e => exact pure_discovers _
  | ok d => exact pure_discovers _

end Discovery

end Traces

end FleetGate
