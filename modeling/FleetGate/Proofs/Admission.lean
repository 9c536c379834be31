import FleetGate.Gate
import FleetGate.Proofs.Running

/-!
# What passes the gate

`Policy.judge` decides on a request.  This module says what it decides by rules that
do not follow its text.

* `Policy.Admits` has a rule for each way to pass: the path is no resource path, the
  request is cleared and spared, or it is cleared and every validator accepts it.
* `Policy.Refuses` has a rule for each way to fail, with the failure that the caller
  sees: the mapper's own, the denied kind, a body that breaks off, and the failure of
  the first validator that refuses.

A request is *cleared* when its kind is known and not denied, and *spared* when
validation is off, when there are no validators, when it asks what its own caller may
do, or when its method has no verb.

The judgement is what the rules say (`judge_of_admits` and `judge_of_refuses`), and one of
the rules always applies (`admits_or_refuses`).

`Policy.Admission` is about the service behind the gate.  It counts the requests that
the service takes by a record that mapping, validating and the service itself know
nothing of.  `Policy.admission` says that it holds of every policy, service,
request and world.
-/

namespace FleetGate

open Runs (run bind_of)

/-! ## Denied kinds -/

/-- A kind is denied when an entry of its group and version names it or names no kind. -/
def Gvk.DeniedBy (denied : List Gvk) (kind : Gvk) : Prop :=
  ∃ entry ∈ denied, entry.group = kind.group ∧ entry.version = kind.version ∧
    (entry.kind = "" ∨ entry.kind = kind.kind)

namespace DenyList

/-- A kind on the deny list is refused by its name. -/
theorem check_of_deniedBy {denied : List Gvk} {kind : Gvk} (h : kind.DeniedBy denied) :
    check denied kind = .error (.resourceDenied kind) := by
  rw [check, if_pos (denies_iff.mpr h)]

theorem check_of_not_deniedBy {denied : List Gvk} {kind : Gvk} (h : ¬ kind.DeniedBy denied) :
    check denied kind = .ok () := by
  rw [check, if_neg (fun hd => h (denies_iff.mp hd))]

end DenyList

namespace Policy

variable {m : Type → Type}

/-! ## Requests that need no validation -/

/-- A request that need not be validated. -/
inductive Spared (p : Policy m) (path : ResourcePath) (r : HttpRequest) : Prop where
  /-- Nothing is validated. -/
  | off : p.validates = false → Spared p path r
  /-- There is nobody to validate it. -/
  | unguarded : p.validators = [] → Spared p path r
  /-- It asks what its own caller may do. -/
  | selfReview : r.method = .post → path.gvr.group = "authorization.k8s.io" →
      path.gvr.resource = "selfsubjectaccessreviews" → Spared p path r
  /-- Its method has no verb. -/
  | noVerb : r.method.verb? path.isCollection = none → Spared p path r

/-- A request that is spared is exempt, or no verb stands for its method. -/
theorem isExempt_or_noVerb_of_spared {p : Policy m} {path : ResourcePath} {r : HttpRequest}
    (h : Spared p path r) :
    p.isExempt path r = true ∨ r.method.verb? path.isCollection = none := by
  cases h with
  | off h => exact Or.inl (by simp [isExempt, h])
  | unguarded h => exact Or.inl (by simp [isExempt, h])
  | selfReview hm hg hr =>
    exact Or.inl (by simp [isExempt, ResourcePath.isSelfReview, hm, hg, hr])
  | noVerb h => exact Or.inr h

/-- A request that is not spared is reviewed. -/
theorem isExempt_of_not_spared {p : Policy m} {path : ResourcePath} {r : HttpRequest}
    (h : ¬ Spared p path r) : p.isExempt path r = false := by
  have hoff : p.validates = true := by
    cases hv : p.validates with
    | true => rfl
    | false => exact absurd (.off hv) h
  have hvs : p.validators.isEmpty = false := by
    cases hv : p.validators with
    | nil => exact absurd (.unguarded hv) h
    | cons _ _ => rfl
  have hself : path.isSelfReview r.method = false := by
    rw [Bool.eq_false_iff]
    intro hs
    simp only [ResourcePath.isSelfReview, Bool.and_eq_true, beq_iff_eq] at hs
    exact h (.selfReview hs.1.1 hs.1.2 hs.2)
  simp [isExempt, hoff, hvs, hself]

theorem exists_verb_of_not_spared {p : Policy m} {path : ResourcePath} {r : HttpRequest}
    (h : ¬ Spared p path r) : ∃ verb, r.method.verb? path.isCollection = some verb := by
  cases hv : r.method.verb? path.isCollection with
  | some verb => exact ⟨verb, rfl⟩
  | none => exact absurd (.noVerb hv) h

/-! ## Bodies -/

/-- A method whose requests are read before they are forwarded. -/
def SendsBody (method : Method) : Prop := method = .post ∨ method = .put ∨ method = .patch

/-- What validators see of a body. -/
inductive Reads (r : HttpRequest) : Option (List UInt8) → Prop where
  /-- All of it. -/
  | body {content : List UInt8} : SendsBody r.method → r.body = .bytes content →
      Reads r (some content)
  /-- Nothing. -/
  | nothing : ¬ SendsBody r.method → Reads r none

theorem hasBody_eq_true_iff {method : Method} : method.hasBody = true ↔ SendsBody method := by
  cases method <;> simp [Method.hasBody, SendsBody]

theorem bodyFor_of_reads {r : HttpRequest} {body? : Option (List UInt8)} (h : Reads r body?) :
    bodyFor r = .ok body? := by
  cases h with
  | body hs hb => rw [bodyFor, if_pos (hasBody_eq_true_iff.mpr hs), hb]
  | nothing hs => rw [bodyFor, if_neg (fun hb => hs (hasBody_eq_true_iff.mp hb))]

/-- A body that breaks off is a failure only where a body is looked at. -/
theorem bodyFor_of_unreadable {r : HttpRequest} {reason : String} (hs : SendsBody r.method)
    (hb : r.body = .unreadable reason) :
    bodyFor r = .error (.transport ("failed to read request body: " ++ reason)) := by
  rw [bodyFor, if_pos (hasBody_eq_true_iff.mpr hs), hb]

/-- A body is read, is not looked at, or breaks off. -/
theorem reads_or_unreadable (r : HttpRequest) :
    (∃ body?, Reads r body?) ∨ (SendsBody r.method ∧ ∃ reason, r.body = .unreadable reason) := by
  by_cases hs : SendsBody r.method
  · cases hb : r.body with
    | bytes content => exact Or.inl ⟨some content, .body hs hb⟩
    | unreadable reason => exact Or.inr ⟨hs, reason, rfl⟩
  · exact Or.inl ⟨none, .nothing hs⟩

/-! ## The rules -/

variable [Monad m] {W : Type} [Runs m W] {α : Type}

/-- Every validator accepts, one after the other. -/
inductive Accepts (subject : Subject) : List (Validator m) → W → W → Prop where
  | nil {w : W} : Accepts subject [] w w
  | cons {v : Validator m} {vs : List (Validator m)} {w w' w'' : W} :
      run (v.check subject) w = (.ok (), w') → Accepts subject vs w' w'' →
      Accepts subject (v :: vs) w w''

/-- A validator refuses, and those before it accept. -/
inductive Rejects (subject : Subject) : List (Validator m) → W → AccessError → W → Prop where
  | first {v : Validator m} {vs : List (Validator m)} {w w' : W} {e : AccessError} :
      run (v.check subject) w = (.error e, w') → Rejects subject (v :: vs) w e w'
  | later {v : Validator m} {vs : List (Validator m)} {w w' w'' : W} {e : AccessError} :
      run (v.check subject) w = (.ok (), w') → Rejects subject vs w' e w'' →
      Rejects subject (v :: vs) w e w''

/-- A request for a resource whose kind is known and not denied. -/
structure Cleared (p : Policy m) (r : HttpRequest) (w : W) (path : ResourcePath) (gvk : Gvk)
    (w' : W) : Prop where
  /-- The path is a resource path. -/
  path_eq : ResourcePath.parse? r.target.path = some path
  /-- The resource is mapped. -/
  kind_eq : run (p.kindFor path.gvr) w = (.ok gvk, w')
  /-- Its kind may be touched. -/
  allowed : ¬ gvk.DeniedBy p.denied

/-- A request passes, and in which world. -/
inductive Admits (p : Policy m) (r : HttpRequest) (w : W) : W → Prop where
  | noResource : ResourcePath.parse? r.target.path = none → Admits p r w w
  | spared {path : ResourcePath} {gvk : Gvk} {w' : W} :
      Cleared p r w path gvk w' → Spared p path r → Admits p r w w'
  | validated {path : ResourcePath} {gvk : Gvk} {verb : String} {body? : Option (List UInt8)}
      {w' w'' : W} :
      Cleared p r w path gvk w' → ¬ Spared p path r →
      r.method.verb? path.isCollection = some verb → Reads r body? →
      Accepts (path.subject gvk verb body?) p.validators w' w'' → Admits p r w w''

/-- A request does not pass, why, and in which world. -/
inductive Refuses (p : Policy m) (r : HttpRequest) (w : W) : AccessError → W → Prop where
  | unmapped {path : ResourcePath} {e : AccessError} {w' : W} :
      ResourcePath.parse? r.target.path = some path →
      run (p.kindFor path.gvr) w = (.error e, w') → Refuses p r w e w'
  | denied {path : ResourcePath} {gvk : Gvk} {w' : W} :
      ResourcePath.parse? r.target.path = some path →
      run (p.kindFor path.gvr) w = (.ok gvk, w') → gvk.DeniedBy p.denied →
      Refuses p r w (.resourceDenied gvk) w'
  | unreadable {path : ResourcePath} {gvk : Gvk} {reason : String} {w' : W} :
      Cleared p r w path gvk w' → ¬ Spared p path r → SendsBody r.method →
      r.body = .unreadable reason →
      Refuses p r w (.transport ("failed to read request body: " ++ reason)) w'
  | rejected {path : ResourcePath} {gvk : Gvk} {verb : String} {body? : Option (List UInt8)}
      {e : AccessError} {w' w'' : W} :
      Cleared p r w path gvk w' → ¬ Spared p path r →
      r.method.verb? path.isCollection = some verb → Reads r body? →
      Rejects (path.subject gvk verb body?) p.validators w' e w'' → Refuses p r w e w''

/-! ## Validators -/

theorem validate_of_accepts {subject : Subject} {vs : List (Validator m)} {w w' : W}
    (h : Accepts subject vs w w') : run (validate subject vs) w = (.ok (), w') := by
  induction h with
  | nil => exact Runs.run_pure _ _
  | cons hv _ ih => rw [validate, bind_of hv]; exact ih

/-- The first validator that refuses has the last word. -/
theorem validate_of_rejects {subject : Subject} {vs : List (Validator m)} {w w' : W}
    {e : AccessError} (h : Rejects subject vs w e w') :
    run (validate subject vs) w = (.error e, w') := by
  induction h with
  | first hv => rw [validate, bind_of hv]; exact Runs.run_pure _ _
  | later hv _ ih => rw [validate, bind_of hv]; exact ih

/-- Either all validators accept or one is the first to refuse. -/
theorem accepts_or_rejects (subject : Subject) (vs : List (Validator m)) (w : W) :
    (∃ w', Accepts subject vs w w') ∨ ∃ e w', Rejects subject vs w e w' := by
  induction vs generalizing w with
  | nil => exact Or.inl ⟨w, .nil⟩
  | cons v vs ih =>
    match hv : run (v.check subject) w with
    | (.error e, w') => exact Or.inr ⟨e, w', .first hv⟩
    | (.ok (), w') =>
      cases ih w' with
      | inl h => exact Or.inl (h.imp fun _ ha => .cons hv ha)
      | inr h =>
        obtain ⟨e, w'', hr⟩ := h
        exact Or.inr ⟨e, w'', .later hv hr⟩

/-! ## The judgement by the rules -/

/-- Once a request is cleared, it passes or is reviewed. -/
theorem judge_of_cleared {p : Policy m} {r : HttpRequest} {w w' : W} {path : ResourcePath}
    {gvk : Gvk} (hc : Cleared p r w path gvk w') :
    run (p.judge r) w =
      run (if p.isExempt path r then pure (.ok ()) else p.review path gvk r) w' := by
  rw [judge, hc.path_eq]
  simp only [judgeResource]
  rw [bind_of hc.kind_eq]
  simp only [DenyList.check_of_not_deniedBy hc.allowed]

theorem judge_of_spared {p : Policy m} {r : HttpRequest} {w w' : W} {path : ResourcePath}
    {gvk : Gvk} (hc : Cleared p r w path gvk w') (hs : Spared p path r) :
    run (p.judge r) w = (.ok (), w') := by
  rw [judge_of_cleared hc]
  cases isExempt_or_noVerb_of_spared hs with
  | inl h => rw [if_pos h]; exact Runs.run_pure _ _
  | inr h =>
    rw [review, h]
    split
    · exact Runs.run_pure _ _
    · exact Runs.run_pure _ _

theorem judge_of_not_spared {p : Policy m} {r : HttpRequest} {w w' : W} {path : ResourcePath}
    {gvk : Gvk} (hc : Cleared p r w path gvk w') (hs : ¬ Spared p path r) :
    run (p.judge r) w = run (p.review path gvk r) w' := by
  rw [judge_of_cleared hc, isExempt_of_not_spared hs]
  rfl

/-- A request that is admitted passes. -/
theorem judge_of_admits {p : Policy m} {r : HttpRequest} {w w' : W} (h : Admits p r w w') :
    run (p.judge r) w = (.ok (), w') := by
  cases h with
  | noResource h => rw [judge, h]; exact Runs.run_pure _ _
  | spared hc hs => exact judge_of_spared hc hs
  | validated hc hs hv hb ha =>
    rw [judge_of_not_spared hc hs, review, hv]
    simp only [bodyFor_of_reads hb]
    exact validate_of_accepts ha

/-- A request that is refused fails for the reason of the rule. -/
theorem judge_of_refuses {p : Policy m} {r : HttpRequest} {w w' : W} {e : AccessError}
    (h : Refuses p r w e w') : run (p.judge r) w = (.error e, w') := by
  cases h with
  | unmapped hp hk =>
    rw [judge, hp]
    simp only [judgeResource]
    rw [bind_of hk]
    exact Runs.run_pure _ _
  | denied hp hk hd =>
    rw [judge, hp]
    simp only [judgeResource]
    rw [bind_of hk]
    simp only [DenyList.check_of_deniedBy hd]
    exact Runs.run_pure _ _
  | unreadable hc hs hm hb =>
    obtain ⟨verb, hv⟩ := exists_verb_of_not_spared hs
    rw [judge_of_not_spared hc hs, review, hv]
    simp only [bodyFor_of_unreadable hm hb]
    exact Runs.run_pure _ _
  | rejected hc hs hv hb hr =>
    rw [judge_of_not_spared hc hs, review, hv]
    simp only [bodyFor_of_reads hb]
    exact validate_of_rejects hr

/-- The rules leave no request undecided. -/
theorem admits_or_refuses (p : Policy m) (r : HttpRequest) (w : W) :
    (∃ w', Admits p r w w') ∨ ∃ e w', Refuses p r w e w' := by
  cases hp : ResourcePath.parse? r.target.path with
  | none => exact Or.inl ⟨w, .noResource hp⟩
  | some path =>
    match hk : run (p.kindFor path.gvr) w with
    | (.error e, w') => exact Or.inr ⟨e, w', .unmapped hp hk⟩
    | (.ok gvk, w') =>
      by_cases hd : gvk.DeniedBy p.denied
      · exact Or.inr ⟨_, w', .denied hp hk hd⟩
      have hc : Cleared p r w path gvk w' := ⟨hp, hk, hd⟩
      by_cases hs : Spared p path r
      · exact Or.inl ⟨w', .spared hc hs⟩
      obtain ⟨verb, hv⟩ := exists_verb_of_not_spared hs
      rcases reads_or_unreadable r with ⟨body?, hb⟩ | ⟨hm, reason, hb⟩
      · rcases accepts_or_rejects (path.subject gvk verb body?) p.validators w' with
          ⟨w'', ha⟩ | ⟨e, w'', hr⟩
        · exact Or.inl ⟨w'', .validated hc hs hv hb ha⟩
        · exact Or.inr ⟨e, w'', .rejected hc hs hv hb hr⟩
      · exact Or.inr ⟨_, w', .unreadable hc hs hm hb⟩

/-! ## The service behind the gate -/

/-- What passes is up to the service. -/
theorem guard_of_admits {p : Policy m} {service : Service m α} {r : HttpRequest} {w w' : W}
    (h : Admits p r w w') : run (p.guard service r) w = run (service.take r) w' := by
  rw [guard, bind_of (judge_of_admits h)]

/-- What is refused does not reach the service. -/
theorem guard_of_refuses {p : Policy m} {service : Service m α} {r : HttpRequest} {w w' : W}
    {e : AccessError} (h : Refuses p r w e w') :
    run (p.guard service r) w = (.error (.refused e), w') := by
  rw [guard, bind_of (judge_of_refuses h)]
  exact Runs.run_pure _ _

end Policy

/-- A validator beside a state that it knows nothing of. -/
def Validator.beside {m : Type → Type} [Monad m] (σ : Type) (v : Validator m) :
    Validator (StateT σ m) :=
  ⟨v.name, fun subject => StateT.lift (v.check subject)⟩

/-- A policy beside a state that it knows nothing of. -/
def Policy.beside {m : Type → Type} [Monad m] (σ : Type) (p : Policy m) :
    Policy (StateT σ m) where
  kindFor gvr := StateT.lift (p.kindFor gvr)
  denied := p.denied
  validators := p.validators.map (Validator.beside σ)
  validates := p.validates

/-- A service beside a record of the requests that it takes. -/
def Service.recorded {m : Type → Type} [Monad m] {α : Type} (service : Service m α) :
    Service (StateT (List HttpRequest) m) α where
  ready := StateT.lift service.ready
  call r := do
    modify (· ++ [r])
    StateT.lift (service.call r)

section Beside

variable {m : Type → Type} [Monad m] {W : Type} [Runs m W] {α σ : Type}

/-! ## Beside a record -/

namespace Policy

/-- Validators beside a state accept what they accept without it, and leave it alone. -/
theorem Accepts.beside {subject : Subject} {vs : List (Validator m)} {w w' : W} (s : σ)
    (h : Accepts subject vs w w') :
    Accepts subject (vs.map (Validator.beside σ)) (s, w) (s, w') := by
  induction h with
  | nil => exact .nil
  | cons hv _ ih => exact .cons (by rw [Validator.beside, Runs.run_lift, hv]) ih

theorem Rejects.beside {subject : Subject} {vs : List (Validator m)} {w w' : W} {e : AccessError}
    (s : σ) (h : Rejects subject vs w e w') :
    Rejects subject (vs.map (Validator.beside σ)) (s, w) e (s, w') := by
  induction h with
  | first hv => exact .first (by rw [Validator.beside, Runs.run_lift, hv])
  | later hv _ ih => exact .later (by rw [Validator.beside, Runs.run_lift, hv]) ih

theorem Cleared.beside {p : Policy m} {r : HttpRequest} {w w' : W} {path : ResourcePath}
    {gvk : Gvk} (s : σ) (h : Cleared p r w path gvk w') :
    Cleared (p.beside σ) r (s, w) path gvk (s, w') :=
  ⟨h.path_eq, by rw [Policy.beside, Runs.run_lift, h.kind_eq], h.allowed⟩

theorem spared_beside_iff {p : Policy m} {path : ResourcePath} {r : HttpRequest} :
    Spared (p.beside σ) path r ↔ Spared p path r := by
  constructor
  · intro h
    cases h with
    | off h => exact .off h
    | unguarded h => exact .unguarded (List.map_eq_nil_iff.mp h)
    | selfReview hm hg hr => exact .selfReview hm hg hr
    | noVerb h => exact .noVerb h
  · intro h
    cases h with
    | off h => exact .off h
    | unguarded h => exact .unguarded (List.map_eq_nil_iff.mpr h)
    | selfReview hm hg hr => exact .selfReview hm hg hr
    | noVerb h => exact .noVerb h

/-- So a policy beside a state admits the same. -/
theorem Admits.beside {p : Policy m} {r : HttpRequest} {w w' : W} (s : σ)
    (h : Admits p r w w') : Admits (p.beside σ) r (s, w) (s, w') := by
  cases h with
  | noResource h => exact .noResource h
  | spared hc hs => exact .spared (hc.beside s) (spared_beside_iff.mpr hs)
  | validated hc hs hv hb ha =>
    exact .validated (hc.beside s) (fun h => hs (spared_beside_iff.mp h)) hv hb (ha.beside s)

/-- And it refuses the same, for the same reason. -/
theorem Refuses.beside {p : Policy m} {r : HttpRequest} {w w' : W} {e : AccessError} (s : σ)
    (h : Refuses p r w e w') : Refuses (p.beside σ) r (s, w) e (s, w') := by
  cases h with
  | unmapped hp hk => exact .unmapped hp (by rw [Policy.beside, Runs.run_lift, hk])
  | denied hp hk hd => exact .denied hp (by rw [Policy.beside, Runs.run_lift, hk]) hd
  | unreadable hc hs hm hb =>
    exact .unreadable (hc.beside s) (fun h => hs (spared_beside_iff.mp h)) hm hb
  | rejected hc hs hv hb hr =>
    exact .rejected (hc.beside s) (fun h => hs (spared_beside_iff.mp h)) hv hb (hr.beside s)

end Policy

namespace Service

/-- A service that does not become ready takes nothing. -/
theorem take_of_not_ready {service : Service m α} {r : HttpRequest} {w w' : W} {reason : String}
    (h : run service.ready w = (.error reason, w')) :
    run (service.take r) w = (.error (.service reason), w') := by
  rw [take, bind_of h]
  exact Runs.run_pure _ _

theorem take_of_ready {service : Service m α} {r : HttpRequest} {w w' : W}
    (h : run service.ready w = (.ok (), w')) :
    run (service.take r) w = run (service.call r) w' := by
  rw [take, bind_of h]

theorem recorded_ready {service : Service m α} {w w' : W} {ready : Except String Unit}
    (rs : List HttpRequest) (h : run service.ready w = (ready, w')) :
    run service.recorded.ready (rs, w) = (ready, rs, w') := by
  rw [recorded, Runs.run_lift, h]

/-- A service with a record writes a request down and does what it does. -/
theorem recorded_call (service : Service m α) (r : HttpRequest) (rs : List HttpRequest) (w : W) :
    run (service.recorded.call r) (rs, w) =
      ((run (service.call r) w).1, rs ++ [r], (run (service.call r) w).2) :=
  Runs.run_noted service.call r rs w

end Service

/-! ## Admission -/

namespace Policy

/-- What comes of a request, the requests that the service has taken, and the world after
it. -/
def record (p : Policy m) (service : Service m α) (r : HttpRequest) (w : W) :
    Except CallError α × List HttpRequest × W :=
  run ((p.beside (List HttpRequest)).guard service.recorded r) ([], w)

variable {p : Policy m} {service : Service m α} {r : HttpRequest} {w w' w'' : W}

theorem record_of_refuses {e : AccessError} (h : Refuses p r w e w') :
    p.record service r w = (.error (.refused e), [], w') := by
  rw [record, guard_of_refuses (h.beside [])]

theorem record_of_not_ready {reason : String} (h : Admits p r w w')
    (hs : run service.ready w' = (.error reason, w'')) :
    p.record service r w = (.error (.service reason), [], w'') := by
  rw [record, guard_of_admits (h.beside []),
    Service.take_of_not_ready (Service.recorded_ready [] hs)]

theorem record_of_ready (h : Admits p r w w') (hs : run service.ready w' = (.ok (), w'')) :
    p.record service r w =
      ((run (service.call r) w'').1, [r], (run (service.call r) w'').2) := by
  rw [record, guard_of_admits (h.beside []), Service.take_of_ready (Service.recorded_ready [] hs),
    Service.recorded_call, List.nil_append]

theorem not_admits_of_refuses {e : AccessError} (h : Refuses p r w e w') :
    ¬ ∃ w'', Admits p r w w'' := by
  rintro ⟨w'', ha⟩
  have heq := (judge_of_admits ha).symm.trans (judge_of_refuses h)
  cases heq

/-- The world in which a request passes is settled. -/
theorem Admits.unique (h : Admits p r w w') (h' : Admits p r w w'') : w' = w'' := by
  have heq := (judge_of_admits h).symm.trans (judge_of_admits h')
  cases heq
  rfl

/-- The record is of what happens.  The service takes nothing when the policy refuses or
when the service does not get ready, and otherwise it takes the request. -/
theorem record_cases (p : Policy m) (service : Service m α) (r : HttpRequest) (w : W) :
    ∃ result taken w', p.record service r w = (result, taken, w') ∧
      run (p.guard service r) w = (result, w') ∧
      ((taken = [] ∧ ¬ ∃ v, Admits p r w v ∧ (run service.ready v).1 = .ok ()) ∨
        (taken = [r] ∧ ∃ v, Admits p r w v ∧ (run service.ready v).1 = .ok ())) := by
  rcases admits_or_refuses p r w with ⟨v, ha⟩ | ⟨e, v, hr⟩
  · match hs : run service.ready v with
    | (.error reason, v') =>
      refine ⟨_, _, _, record_of_not_ready ha hs, ?_, Or.inl ⟨rfl, ?_⟩⟩
      · rw [guard_of_admits ha, Service.take_of_not_ready hs]
      · rintro ⟨u, hu, hready⟩
        rw [← ha.unique hu, hs] at hready
        cases hready
    | (.ok (), v') =>
      refine ⟨_, _, _, record_of_ready ha hs, ?_, Or.inr ⟨rfl, v, ha, ?_⟩⟩
      · rw [guard_of_admits ha, Service.take_of_ready hs]
      · rw [hs]
  · refine ⟨_, _, _, record_of_refuses hr, guard_of_refuses hr, Or.inl ⟨rfl, ?_⟩⟩
    rintro ⟨u, hu, _⟩
    exact not_admits_of_refuses hr ⟨u, hu⟩

/-- How a policy mediates between a request and the service behind the gate. -/
structure Admission (p : Policy m) (service : Service m α) (r : HttpRequest) (w : W) : Prop where
  /-- The record is of what happens. -/
  faithful : run (p.guard service r) w = ((p.record service r w).1, (p.record service r w).2.2)
  /-- The service takes the request as it came and once, or nothing. -/
  once : (p.record service r w).2.1 = [] ∨ (p.record service r w).2.1 = [r]
  /-- It takes the request exactly when the policy admits it and the service gets ready. -/
  taken_iff : (p.record service r w).2.1 = [r] ↔
    ∃ w', Admits p r w w' ∧ (run service.ready w').1 = .ok ()
  /-- Whoever passes gets what the service says. -/
  passed : ∀ w', Admits p r w w' → run (p.guard service r) w = run (service.take r) w'
  /-- Whoever does not pass gets the cause. -/
  refused : (¬ ∃ w', Admits p r w w') →
    ∃ e w', Refuses p r w e w' ∧ run (p.guard service r) w = (.error (.refused e), w')

/-- A policy mediates every request to every service in every world. -/
theorem admission (p : Policy m) (service : Service m α) (r : HttpRequest) (w : W) :
    Admission p service r w := by
  obtain ⟨result, taken, w', hrec, hrun, htaken⟩ := record_cases p service r w
  refine ⟨by rw [hrec, hrun], ?_, ?_, fun _ => guard_of_admits, fun hn => ?_⟩
  · rw [hrec]
    exact htaken.imp And.left And.left
  · rw [hrec]
    rcases htaken with ⟨rfl, hn⟩ | ⟨rfl, hv⟩
    · exact ⟨fun h => (nomatch h), fun hv => absurd hv hn⟩
    · exact ⟨fun _ => hv, fun _ => rfl⟩
  · rcases admits_or_refuses p r w with ha | ⟨e, v, hr⟩
    · exact absurd ha hn
    · exact ⟨e, v, hr, guard_of_refuses hr⟩

end Policy

end Beside

end FleetGate
