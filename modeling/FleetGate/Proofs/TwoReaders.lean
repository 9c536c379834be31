import FleetGate.Handle
import FleetGate.Proofs.Admission
import FleetGate.Proofs.Clients
import FleetGate.Proofs.Nesting
import FleetGate.Proofs.Reviews

/-!
# Two readers of one review

A caller asks whether it may do something (`AccessReview.canI`), and the gate has the same reviewed
before it lets a request pass (`AccessReview.check`).  Both ask the same server through the same
client.  Where there is an answer they go by it.  Where there is none, a caller is told no, and a
request passes.

* `AccessReview.Concurs` is what the two come to when they are asked in one state of the world.
* `AccessReview.Agrees` is what they come to at two moments, when a server answers a review always
  alike.  What the client does with the review in between is left open.  The list of what the
  server serves may be there or not, the kind of reviews may be known or not, denied or not.
-/

namespace FleetGate

open Runs (run bind_of)
open Client (SameMake)

namespace AccessReview

/-! ## At one moment -/

section OneMoment

variable {m : Type → Type} [Monad m] {W : Type} [Runs m W]

/-- A server gave an answer with a status, which allows or does not. -/
def Answered (call : Api.Call m) (s : Subject) (w : W) (allowed : Bool) : Prop :=
  Api.Answers call answer (posted s) w (some allowed)

variable {call : Api.Call m} {s : Subject} {w : W} {allowed : Bool}

theorem ask_eq_iff_answered :
    (run (ask call (ofSubject s)) w).1 = .ok (some allowed) ↔ Answered call s w allowed := by
  rw [ask_ofSubject, Api.value_eq_ok_iff, Answered]

/-- A caller that asks about a request without a subresource has the same reviewed as the gate. -/
theorem ofCaller_eq_ofSubject (hwhole : s.subresource? = none) :
    ofCaller s.verb s.gvr s.ns? s.name? = ofSubject s := by
  rw [ofSubject, hwhole, ofCaller]

theorem run_canI (call : Api.Call m) (hwhole : s.subresource? = none) (w : W) :
    run (canI call s.verb s.gvr s.ns? s.name?) w =
      (isAllowed (run (ask call (ofSubject s)) w).1, (run (ask call (ofSubject s)) w).2) := by
  rw [canI, ofCaller_eq_ofSubject hwhole, Runs.run_bind, Runs.run_pure]

theorem run_check (call : Api.Call m) (hverb : s.verb ≠ "") (hresource : s.gvr.resource ≠ "")
    (w : W) : run (check (some call) s) w =
      (decide s (run (ask call (ofSubject s)) w).1, (run (ask call (ofSubject s)) w).2) := by
  have hasked : ¬((s.verb.isEmpty || s.gvr.resource.isEmpty) = true) := by
    simp [hverb, hresource]
  rw [check, if_neg hasked, Runs.run_bind, Runs.run_pure]

theorem isAllowed_eq_true_iff {found : Except CallError (Option Bool)} :
    isAllowed found = true ↔ found = .ok (some true) := by
  rcases found with e | (- | allowed) <;> simp [isAllowed]

theorem decide_eq_ok_iff {found : Except CallError (Option Bool)} :
    decide s found = .ok () ↔ found ≠ .ok (some false) := by
  rcases found with e | (- | - | -) <;> simp [decide]

theorem canI_eq_true_iff (hwhole : s.subresource? = none) :
    (run (canI call s.verb s.gvr s.ns? s.name?) w).1 = true ↔ Answered call s w true := by
  rw [run_canI call hwhole, isAllowed_eq_true_iff, ask_eq_iff_answered]

theorem check_eq_ok_iff_answered (hverb : s.verb ≠ "") (hresource : s.gvr.resource ≠ "") :
    (run (check (some call) s) w).1 = .ok () ↔ ¬Answered call s w false := by
  rw [run_check call hverb hresource, decide_eq_ok_iff, ne_eq, ask_eq_iff_answered]

theorem Answered.eq {allowed' : Bool} (h : Answered call s w allowed)
    (h' : Answered call s w allowed') : allowed = allowed' := by
  have heq := (ask_eq_iff_answered.mpr h).symm.trans (ask_eq_iff_answered.mpr h')
  cases heq
  rfl

/-- What a caller and the gate come to when they ask about the same in one state of the world. -/
structure Concurs (call : Api.Call m) (s : Subject) (w : W) : Prop where
  /-- A caller sends the review, and nothing else. -/
  caller_sends :
    (run (canI (Api.recorded call) s.verb s.gvr s.ns? s.name?) ([], w)).2.1 = [posted s]
  /-- So does the gate. -/
  gate_sends : (run (check (some (Api.recorded call)) s) ([], w)).2.1 = [posted s]
  /-- The two leave the same world behind. -/
  leave_same :
    (run (canI call s.verb s.gvr s.ns? s.name?) w).2 = (run (check (some call) s) w).2
  /-- Both go by an answer with a status. -/
  answered {allowed : Bool} : Answered call s w allowed →
    (run (canI call s.verb s.gvr s.ns? s.name?) w).1 = allowed ∧
      ((run (check (some call) s) w).1 = .ok () ↔ allowed = true)
  /-- They differ exactly if there is no such answer.  A caller is told no then, and a request
  passes. -/
  differ_iff : ((run (canI call s.verb s.gvr s.ns? s.name?) w).1 = false ∧
      (run (check (some call) s) w).1 = .ok ()) ↔ ∀ allowed, ¬Answered call s w allowed
  /-- A call that fails is no answer, whether it was refused on its way or failed at the server. -/
  failed {e : CallError} : (run (call (posted s)) w).1 = .error e →
    ∀ allowed, ¬Answered call s w allowed

theorem concurs (call : Api.Call m) (hwhole : s.subresource? = none) (hverb : s.verb ≠ "")
    (hresource : s.gvr.resource ≠ "") (w : W) : Concurs call s w where
  caller_sends := by
    rw [run_canI _ hwhole, ask_ofSubject, Api.sent_of_value, List.nil_append]
  gate_sends := by
    rw [sent_of_check, if_neg (not_or.mpr ⟨hverb, hresource⟩)]
  leave_same := by rw [run_canI call hwhole, run_check call hverb hresource]
  answered {allowed} h := by
    rw [check_eq_ok_iff_answered hverb hresource]
    cases allowed with
    | true =>
      have hno : ¬Answered call s w false := fun hno => Bool.false_ne_true (hno.eq h)
      exact ⟨(canI_eq_true_iff hwhole).mpr h, by simpa using hno⟩
    | false =>
      have hyes : ¬Answered call s w true := fun hyes => Bool.false_ne_true (h.eq hyes)
      exact ⟨by rwa [← Bool.not_eq_true, canI_eq_true_iff hwhole], by simpa using h⟩
  differ_iff := by
    rw [check_eq_ok_iff_answered hverb hresource, ← Bool.not_eq_true, canI_eq_true_iff hwhole,
      Bool.forall_bool, and_comm]
  failed {e} he allowed := by
    rintro ⟨reply, text, hreply, -⟩
    cases he.symm.trans hreply

end OneMoment

end AccessReview

/-! ## At two moments -/

namespace Client

open AccessReview (Answered Concurs ofSubject posted)

variable {m : Type → Type} [Monad m] {W : Type} [Runs m W] {α : Type}

/-- To judge a request changes nothing of what a client was made from. -/
theorem keeps_judge [Network m] {call : Api.Call (StateT Client m)}
    (hcall : ∀ r, Keeps m _ (call r)) (rules : Rules) (r : HttpRequest) :
    Keeps m _ ((policyAt call rules).judge r) := by
  refine keeps_closed.judge (keeps_carried.kindAt hcall) ?_ r
  intro v hv subject
  obtain ⟨kind, -, rfl⟩ := List.mem_map.mp hv
  exact keeps_carriedOut.check hcall kind subject

/-- What came back for a request came for what the route makes of it. -/
theorem exists_sent_of_deliver {c : Client} {exchange : HttpRequest → m (Except String α)}
    {r : HttpRequest} {w : W} {a : α} (h : (run (deliver exchange r) (c, w)).1 = .ok a) :
    ∃ sent, c.route.prepare r = .ok sent ∧ (run (exchange sent) w).1 = .ok a := by
  rw [deliver, Runs.run_bind, Runs.run_get] at h
  dsimp only at h
  cases hsent : c.route.prepare r with
  | error reason =>
    rw [hsent, Runs.run_pure] at h
    cases h
  | ok sent =>
    rw [hsent, Runs.run_bind, Runs.run_monadLift] at h
    refine ⟨sent, rfl, ?_⟩
    cases hanswer : (run (exchange sent) w).1 with
    | error reason =>
      rw [hanswer, Runs.run_pure] at h
      cases h
    | ok a' =>
      rw [hanswer, Runs.run_pure] at h
      cases h
      rfl

/-- What came back for a request that a client passed came from its server, for the request with
the name of the client and as its route makes it. -/
theorem exists_sent_of_pass [Network m] {built c : Client} (hsame : SameMake built c)
    {call : Api.Call (StateT Client m)} (hcall : ∀ r, Keeps m _ (call r))
    {exchange : HttpRequest → m (Except String α)} {r : HttpRequest} {w : W} {a : α}
    (h : (run (pass call exchange r) (c, w)).1 = .ok a) :
    ∃ sent w', built.route.prepare (r.setHeader "user-agent" built.agent) = .ok sent ∧
      (run (exchange sent) w').1 = .ok a := by
  have hturn : SameMake built (run (start (m := m)) (c, w)).2.1 := hsame.trans (keeps_start c w)
  rw [pass, Runs.run_bind, Runs.run_bind, Runs.run_get, hturn.agent_eq, Policy.guard,
    Runs.run_bind] at h
  generalize (run (start (m := m)) (c, w)).2 = turn at hturn h
  have hjudged := hturn.trans (keeps_judge hcall turn.1.rules
    (r.setHeader "user-agent" built.agent) turn.1 turn.2)
  generalize run ((policyAt call turn.1.rules).judge (r.setHeader "user-agent" built.agent))
    turn = judged at hjudged h
  obtain ⟨verdict, c', w'⟩ := judged
  cases verdict with
  | error e =>
    rw [Runs.run_pure] at h
    cases h
  | ok =>
    rw [Service.take, outlet, Runs.bind_of (Runs.run_pure _ _)] at h
    obtain ⟨sent, hsent, hanswer⟩ := exists_sent_of_deliver h
    exact ⟨sent, w', hjudged.route_eq ▸ hsent, hanswer⟩

variable [Network m]

/-- What a server says to a review of a client is a function of the review. -/
def HearsFrom (m : Type → Type) [Monad m] [Network m] {W : Type} [Runs m W] (c : Client)
    (server : AccessReview → Except String HttpReply) : Prop :=
  ∀ (s : Subject) (sent : HttpRequest) (w : W),
    c.route.prepare ((posted s).setHeader "user-agent" c.agent) = .ok sent →
      (run (Network.send sent : m _) w).1 = server (ofSubject s)

variable {built c c' : Client} {server : AccessReview → Except String HttpReply} {s : Subject}
  {w w' : W}

/-- A review that a client has an answer to was answered by its server. -/
theorem server_eq_of_sendAt (hserver : built.HearsFrom m server) (hsame : SameMake built c)
    {depth : Nat} {reply : HttpReply}
    (h : (run (sendAt (m := m) depth (posted s)) (c, w)).1 = .ok reply) :
    server (ofSubject s) = .ok reply := by
  have hpass : ∃ sent w', built.route.prepare ((posted s).setHeader "user-agent" built.agent) =
      .ok sent ∧ (run (Network.send sent : m _) w').1 = .ok reply := by
    cases depth with
    | zero => exact exists_sent_of_pass hsame (fun _ => keeps_closed.pure _) h
    | succ depth => exact exists_sent_of_pass hsame (keeps_carriedOut.sendAt depth) h
  obtain ⟨sent, w', hsent, hreply⟩ := hpass
  rw [← hserver s sent w' hsent, hreply]

/-- Two answers to one review are the same, whenever and however deep in other calls they came. -/
theorem answered_eq (hserver : built.HearsFrom m server) (hsame : SameMake built c)
    (hsame' : SameMake built c') {depth depth' : Nat} {allowed allowed' : Bool}
    (h : Answered (sendAt (m := m) depth) s (c, w) allowed)
    (h' : Answered (sendAt (m := m) depth') s (c', w') allowed') : allowed = allowed' := by
  obtain ⟨reply, text, hreply, -, htext, hread⟩ := h
  obtain ⟨reply', text', hreply', -, htext', hread'⟩ := h'
  cases (server_eq_of_sendAt hserver hsame hreply).symm.trans
    (server_eq_of_sendAt hserver hsame' hreply')
  cases htext.symm.trans htext'
  cases hread.symm.trans hread'
  rfl

/-- What a caller and the gate of a client come to when they ask about the same, each at a moment
of its own. -/
structure Agrees (m : Type → Type) [Monad m] [Network m] {W : Type} [Runs m W] (depth : Nat)
    (s : Subject) (asked reviewed : Client × W) : Prop where
  /-- What a caller was told that it may do passes. -/
  passes : (run (canI (m := m) s.verb s.gvr s.ns? s.name?) asked).1 = true →
    (run ((validatorAt (m := m) (sendAt depth) .rbac).check s) reviewed).1 = .ok ()
  /-- What does not pass a caller is told that it may not do. -/
  told_no : (run ((validatorAt (m := m) (sendAt depth) .rbac).check s) reviewed).1 ≠ .ok () →
    (run (canI (m := m) s.verb s.gvr s.ns? s.name?) asked).1 = false
  /-- If they differ, then a caller is told no and the request passes, since one of the two got no
  answer with a status. -/
  differ : ¬((run (canI (m := m) s.verb s.gvr s.ns? s.name?) asked).1 = true ↔
      (run ((validatorAt (m := m) (sendAt depth) .rbac).check s) reviewed).1 = .ok ()) →
    (run (canI (m := m) s.verb s.gvr s.ns? s.name?) asked).1 = false ∧
      (run ((validatorAt (m := m) (sendAt depth) .rbac).check s) reviewed).1 = .ok () ∧
      ((∀ allowed, ¬Answered (send (m := m)) s asked allowed) ∨
        ∀ allowed, ¬Answered (sendAt (m := m) depth) s reviewed allowed)

theorem agrees (hserver : built.HearsFrom m server) (hsame : SameMake built c)
    (hsame' : SameMake built c') (hwhole : s.subresource? = none) (hverb : s.verb ≠ "")
    (hresource : s.gvr.resource ≠ "") (depth : Nat) : Agrees m depth s (c, w) (c', w') := by
  have hyes : (run (canI (m := m) s.verb s.gvr s.ns? s.name?) (c, w)).1 = true ↔
      Answered (send (m := m)) s (c, w) true := AccessReview.canI_eq_true_iff hwhole
  have hpass : (run ((validatorAt (m := m) (sendAt depth) .rbac).check s) (c', w')).1 = .ok () ↔
      ¬Answered (sendAt (m := m) depth) s (c', w') false :=
    AccessReview.check_eq_ok_iff_answered hverb hresource
  have hpasses : (run (canI (m := m) s.verb s.gvr s.ns? s.name?) (c, w)).1 = true →
      (run ((validatorAt (m := m) (sendAt depth) .rbac).check s) (c', w')).1 = .ok () := by
    intro htold
    refine hpass.mpr fun hno => ?_
    exact Bool.false_ne_true (answered_eq hserver hsame' hsame hno (hyes.mp htold))
  refine ⟨hpasses, fun hrefused => ?_, fun hdiffer => ?_⟩
  · exact Bool.eq_false_iff.mpr fun htold => hrefused (hpasses htold)
  · obtain ⟨hpassed, hnot⟩ : (run ((validatorAt (m := m) (sendAt depth) .rbac).check s)
        (c', w')).1 = .ok () ∧
          (run (canI (m := m) s.verb s.gvr s.ns? s.name?) (c, w)).1 ≠ true := by
      by_contra hcontra
      refine hdiffer ⟨hpasses, fun hpassed => ?_⟩
      exact Classical.byContradiction fun hnot => hcontra ⟨hpassed, hnot⟩
    refine ⟨Bool.eq_false_iff.mpr hnot, hpassed, ?_⟩
    by_contra hboth
    obtain ⟨hasked, hreviewed⟩ := not_or.mp hboth
    obtain ⟨allowed, hallowed⟩ := not_forall_not.mp hasked
    obtain ⟨allowed', hallowed'⟩ := not_forall_not.mp hreviewed
    cases answered_eq hserver hsame hsame' hallowed hallowed'
    cases allowed with
    | true => exact hnot (hyes.mpr hallowed)
    | false => exact hpass.mp hpassed hallowed'

end Client

/-- A caller and the gate of a client never contradict each other about a verb and a resource, in
any namespace and of any name.  They send the same review.  In one state of the client and the
world they differ exactly if there is no answer with a status.  At two moments, with a server that
answers a review always alike, neither refuses what the other was allowed, whatever the client
denies, knows and remembers. -/
theorem caller_and_gate_never_contradict {m : Type → Type} [Monad m] [Network m] {W : Type}
    [Runs m W] (built : Client) (server : AccessReview → Except String HttpReply)
    (hserver : built.HearsFrom m server) {verb : String} {gvr : Gvr} (hverb : verb ≠ "")
    (hresource : gvr.resource ≠ "") (ns? name? : Option String) (gvk : Gvk)
    (body? : Option (List UInt8)) :
    let s : Subject := { gvr, gvk, verb, ns?, name?, body? }
    (∀ (call : Api.Call (StateT Client m)) (moment : Client × W),
      AccessReview.Concurs call s moment) ∧
    ∀ (c c' : Client) (w w' : W) (depth : Nat), SameMake built c → SameMake built c' →
      Client.Agrees m depth s (c, w) (c', w') := by
  intro s
  have hwhole : s.subresource? = none := rfl
  have hverb : s.verb ≠ "" := hverb
  have hresource : s.gvr.resource ≠ "" := hresource
  exact ⟨fun call moment => AccessReview.concurs call hwhole hverb hresource moment,
    fun c c' w w' depth hsame hsame' =>
      Client.agrees hserver hsame hsame' hwhole hverb hresource depth⟩

/-- A request for the pods of all namespaces. -/
def listingPods : Subject :=
  { gvr := ⟨"", "v1", "pods"⟩, gvk := ⟨"", "v1", "Pod"⟩, verb := "list" }

/-- The client of a server that is not known to serve reviews.  A caller is told that it may not
list pods, and a request for them passes. -/
theorem caller_and_gate_never_contradict_served :
    servedClient.HearsFrom Served (fun _ => .ok (served AccessReview.path)) ∧
      listingPods.verb ≠ "" ∧ listingPods.gvr.resource ≠ "" ∧
      (run (Client.canI (m := Served) "list" ⟨"", "v1", "pods"⟩ none none)
        (servedClient, ())).1 = false ∧
      (run ((Client.validatorAt (m := Served) Client.send .rbac).check listingPods)
        (servedClient, ())).1 = .ok () := by
  have hserver : servedClient.HearsFrom Served fun _ => .ok (served AccessReview.path) := by
    intro s sent w hsent
    cases hsent
    rfl
  have hverb : listingPods.verb ≠ "" := by decide
  have hresource : listingPods.gvr.resource ≠ "" := by decide
  obtain ⟨hconcurs, -⟩ := caller_and_gate_never_contradict servedClient _ hserver hverb hresource
    none none listingPods.gvk none
  refine ⟨hserver, hverb, hresource, (hconcurs Client.send (servedClient, ())).differ_iff.mpr ?_⟩
  have hrefused : (run (Client.send (m := Served) (AccessReview.posted listingPods))
      (servedClient, ())).1.toBool = false := by decide +kernel
  cases hanswer : (run (Client.send (m := Served) (AccessReview.posted listingPods))
      (servedClient, ())).1 with
  | error e => exact (hconcurs Client.send (servedClient, ())).failed hanswer
  | ok reply =>
    rw [hanswer] at hrefused
    cases hrefused

end FleetGate
