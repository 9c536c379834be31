import FleetGate.Client
import FleetGate.Proofs.Admission
import FleetGate.Proofs.Reviews

/-!
# What validators go by

A validator refuses a request only if it was told so: by a review, or by the definitions that the
server publishes for its objects.

* `SchemaCheck.Violates` is the one way to be refused by the definitions of a server
  (`SchemaCheck.check_eq_error_iff`).  They are what was kept of them or what a fetch comes to
  (`SchemaCheck.Knows`).
* `Policy.asked` is what validators are asked about when a policy decides.  To note it changes
  nothing (`Policy.run_noting_judge`), and it is about the request that passes if they accept
  (`Policy.Hands`).
-/

namespace FleetGate

open Runs (run bind_of)
open Json (Draft)

/-! ## Definitions -/

namespace SchemaCheck

open Schema (Violation)

variable {m : Type → Type} [Monad m] {W : Type} [Runs m W]

/-- The object of a body: what it is in JSON, or else in YAML. -/
inductive Holds (body : List UInt8) : Json → Prop where
  | json {object : Json} : Json.ofBytes? body = some object → object.isObject = true →
      Holds body object
  | yaml {object : Json} {text : String} : Json.ofBytes? body = none →
      Text.Utf8.decode? body = some text → Yaml.json? text = some object →
      object.isObject = true → Holds body object

/-- A body is read as JSON, and as YAML if it is none. -/
theorem objectOf?_eq_some_iff {body : List UInt8} {object : Json} :
    objectOf? body = some object ↔ Holds body object := by
  rw [objectOf?, Option.filter_eq_some_iff, Option.or_eq_some_iff, Option.bind_eq_some_iff]
  constructor
  · rintro ⟨hjson | ⟨hnone, text, htext, hyaml⟩, hobject⟩
    · exact .json hjson hobject
    · exact .yaml hnone htext hyaml hobject
  · intro h
    cases h with
    | json hjson hobject => exact ⟨Or.inl hjson, hobject⟩
    | yaml hnone htext hyaml hobject => exact ⟨Or.inr ⟨hnone, _, htext, hyaml⟩, hobject⟩

/-- A request that a body is checked for, and the object in it. -/
structure Concerns (s : Subject) (object : Json) : Prop where
  writes : s.verb = "create" ∨ s.verb = "update"
  body : ∃ body, s.body? = some body ∧ body ≠ [] ∧ Holds body object

/-- Only a request that writes an object is checked. -/
theorem candidate?_eq_some_iff {s : Subject} {object : Json} :
    candidate? s = some object ↔ Concerns s object := by
  have hwrites : writes s.verb = true ↔ s.verb = "create" ∨ s.verb = "update" := by
    simp [writes]
  have hbody : (s.body?.filter (!·.isEmpty)).bind objectOf? = some object ↔
      ∃ body, s.body? = some body ∧ body ≠ [] ∧ Holds body object := by
    simp only [Option.bind_eq_some_iff, Option.filter_eq_some_iff, objectOf?_eq_some_iff, and_assoc,
      Bool.not_eq_true', List.isEmpty_eq_false_iff]
  unfold candidate?
  constructor
  · intro h
    split at h
    · next hw => exact ⟨hwrites.mp hw, hbody.mp h⟩
    · cases h
  · intro h
    rw [if_pos (hwrites.mpr h.writes)]
    exact hbody.mpr h.body

/-- What is asked for the definitions of a server. -/
def request : HttpRequest := ⟨.get, ⟨none, none, path, none⟩, [], .bytes []⟩

/-- The definitions that there are: those that were kept, while they are fresh, and after that
those that a fetch comes to. -/
inductive Knows (call? : Option (Api.Call m)) (clock : m Nat) (cache : SchemaCache) (w : W) :
    Schema.Index → Prop where
  | kept {snapshot : SchemaSnapshot} : cache.snapshot? = some snapshot →
      (run clock w).1 - snapshot.takenAt < cache.ttl → Knows call? clock cache w snapshot.index
  | fetched {call : Api.Call m} {document : Json} :
      (∀ snapshot, cache.snapshot? = some snapshot →
        cache.ttl ≤ (run clock w).1 - snapshot.takenAt) →
      call? = some call →
      Api.Answers call (Draft.value Json.maxDepth) request (run clock w).2 document →
      Knows call? clock cache w (.ofDocument document)

/-- A request is faulty: the definitions of the server are known, and the object of its body
violates them. -/
structure Violates (call? : Option (Api.Call m)) (clock : m Nat) (s : Subject)
    (cache : SchemaCache) (w : W) (violations : List Violation) : Prop where
  found : ∃ object index, Concerns s object ∧ Knows call? clock cache w index ∧
    index.validate object = violations
  some_violation : violations ≠ []

/-- The failure that violations amount to. -/
def failure (violations : List Violation) : AccessError :=
  .invalidField (fieldOf (violations.map Violation.message))
    ("; ".intercalate (violations.map Violation.message))

/-- An object is refused exactly if it has violations, and the failure lists them all. -/
theorem decide_eq_error_iff {index : Schema.Index} {object : Json} {e : AccessError} :
    decide index object = .error e ↔
      index.validate object ≠ [] ∧ e = failure (index.validate object) := by
  unfold decide failure
  cases index.validate object with
  | nil => simp
  | cons violation violations => simp [eq_comm]

theorem fetch_eq (call : Api.Call m) : fetch call = Api.value call document request := by
  have htarget : Uri.parse? path = some ⟨none, none, path, none⟩ := by decide +kernel
  rw [fetch, Api.get, HttpRequest.ofText?, htarget]
  rfl

/-- The definitions that are fetched are those of a document of the server. -/
theorem fetch_eq_ok_iff {call : Api.Call m} {w : W} {index : Schema.Index} :
    (run (fetch call) w).1 = .ok index ↔ ∃ document,
      Api.Answers call (Draft.value Json.maxDepth) request w document ∧
        Schema.Index.ofDocument document = index := by
  have hdocument : document = fun draft =>
    (Draft.value Json.maxDepth draft).map Schema.Index.ofDocument := rfl
  rw [fetch_eq, Api.value_eq_ok_iff, hdocument, Api.answers_map_iff]

theorem fresh?_eq_some_iff {now : Nat} {cache : SchemaCache} {index : Schema.Index} :
    cache.fresh? now = some index ↔ ∃ snapshot, cache.snapshot? = some snapshot ∧
      now - snapshot.takenAt < cache.ttl ∧ snapshot.index = index := by
  simp [SchemaCache.fresh?, Option.filter_eq_some_iff, and_assoc]

/-- What was kept does not count from the moment that its time is up. -/
theorem fresh?_eq_none_iff {now : Nat} {cache : SchemaCache} :
    cache.fresh? now = none ↔ ∀ snapshot, cache.snapshot? = some snapshot →
      cache.ttl ≤ now - snapshot.takenAt := by
  simp [SchemaCache.fresh?, Option.filter_eq_none_iff]

/-- What definitions there are is what was kept of them, or else what a fetch comes to. -/
theorem index_eq_some_iff {call? : Option (Api.Call m)} {clock : m Nat} {cache : SchemaCache}
    {w : W} {found : Schema.Index} :
    (run (index call? clock cache) w).1.1 = some found ↔ Knows call? clock cache w found := by
  unfold index
  rw [Runs.run_bind]
  cases hfresh : cache.fresh? (run clock w).1 with
  | some kept =>
    obtain ⟨snapshot, hsnapshot, hage, rfl⟩ := fresh?_eq_some_iff.mp hfresh
    simp only [Runs.run_pure, Option.some_inj]
    constructor
    · rintro rfl
      exact .kept hsnapshot hage
    · intro h
      cases h with
      | kept hsnapshot' _ =>
        cases hsnapshot.symm.trans hsnapshot'
        rfl
      | fetched hold _ _ => exact absurd hage (Nat.not_lt.mpr (hold snapshot hsnapshot))
  | none =>
    have hold := fresh?_eq_none_iff.mp hfresh
    have hknows : Knows call? clock cache w found ↔ ∃ call, call? = some call ∧
        (run (fetch call) (run clock w).2).1 = .ok found := by
      constructor
      · intro h
        cases h with
        | kept hsnapshot hage => exact absurd hage (Nat.not_lt.mpr (hold _ hsnapshot))
        | fetched _ hcall hanswers => exact ⟨_, hcall, fetch_eq_ok_iff.mpr ⟨_, hanswers, rfl⟩⟩
      · rintro ⟨call, hcall, hfetch⟩
        obtain ⟨document, hanswers, rfl⟩ := fetch_eq_ok_iff.mp hfetch
        exact .fetched hold hcall hanswers
    rw [hknows]
    cases call? with
    | none => simp
    | some call =>
      simp only [Runs.run_bind, Option.some_inj, exists_eq_left']
      cases (run (fetch call) (run clock w).2).1 with
      | error e => simp
      | ok index => simp [Runs.run_bind]

/-- The definitions that are known do not depend on how they are looked for. -/
theorem Knows.unique {call? : Option (Api.Call m)} {clock : m Nat} {cache : SchemaCache} {w : W}
    {index index' : Schema.Index} (h : Knows call? clock cache w index)
    (h' : Knows call? clock cache w index') : index = index' :=
  Option.some.inj ((index_eq_some_iff.mpr h).symm.trans (index_eq_some_iff.mpr h'))

/-- An object is refused exactly if it violates the definitions that are known. -/
theorem check_eq_error_iff {call? : Option (Api.Call m)} {clock : m Nat} {s : Subject}
    {cache : SchemaCache} {w : W} {e : AccessError} :
    (run (check call? clock s cache) w).1.1 = .error e ↔
      ∃ violations, Violates call? clock s cache w violations ∧ e = failure violations := by
  unfold check
  cases hcandidate : candidate? s with
  | none =>
    rw [Runs.run_pure]
    refine ⟨fun h => (nomatch h), ?_⟩
    rintro ⟨violations, ⟨⟨object, index, hobject, -, -⟩, -⟩, -⟩
    cases hcandidate.symm.trans (candidate?_eq_some_iff.mpr hobject)
  | some object =>
    have hobject := candidate?_eq_some_iff.mp hcandidate
    dsimp only
    rw [Runs.run_bind]
    match hindex : run (index call? clock cache) w with
    | ((none, kept), w') =>
      rw [Runs.run_pure]
      refine ⟨fun h => (nomatch h), ?_⟩
      rintro ⟨violations, ⟨⟨_, index, -, hknows, -⟩, -⟩, -⟩
      have hfound := index_eq_some_iff.mpr hknows
      rw [hindex] at hfound
      cases hfound
    | ((some found, kept), w') =>
      have hknows : Knows call? clock cache w found := index_eq_some_iff.mp (by rw [hindex])
      rw [Runs.run_pure, decide_eq_error_iff]
      constructor
      · rintro ⟨hsome, rfl⟩
        exact ⟨_, ⟨⟨object, found, hobject, hknows, rfl⟩, hsome⟩, rfl⟩
      · rintro ⟨violations, ⟨⟨object', index, hobject', hknows', rfl⟩, hsome⟩, rfl⟩
        cases hknows.unique hknows'
        cases hcandidate.symm.trans (candidate?_eq_some_iff.mpr hobject')
        exact ⟨hsome, rfl⟩

/-- A request passes if nothing is known that its object violates, also if nothing is known at all.
-/
theorem check_eq_ok_iff {call? : Option (Api.Call m)} {clock : m Nat} {s : Subject}
    {cache : SchemaCache} {w : W} :
    (run (check call? clock s cache) w).1.1 = .ok () ↔
      ¬ ∃ violations, Violates call? clock s cache w violations := by
  rw [eq_ok_iff_of_eq_error_iff fun e => check_eq_error_iff]
  simp

/-- How a request is checked against definitions, wherever they come from. -/
structure Verdict (s : Subject) (call? : Option (Api.Call m)) (clock : m Nat)
    (cache : SchemaCache) (w : W) : Prop where
  /-- It is refused if it violates them. -/
  refused_iff (e : AccessError) : (run (check call? clock s cache) w).1.1 = .error e ↔
    ∃ violations, Violates call? clock s cache w violations ∧ e = failure violations
  /-- Otherwise it is allowed. -/
  allowed_iff : (run (check call? clock s cache) w).1.1 = .ok () ↔
    ¬ ∃ violations, Violates call? clock s cache w violations

end SchemaCheck

/-! ## What validators are asked about -/

section Asked

variable {m : Type → Type} [Monad m]

/-- A validator beside a record of what it is asked about. -/
def Validator.noting (v : Validator m) : Validator (StateT (List Subject) m) :=
  ⟨v.name, Runs.noted v.check⟩

namespace Policy

/-- A policy whose validators note what they are asked about. -/
def noting (p : Policy m) : Policy (StateT (List Subject) m) :=
  { p.beside (List Subject) with validators := p.validators.map Validator.noting }

variable {W : Type} [Runs m W]

/-- What validators are asked about when a policy decides on a request. -/
def asked (p : Policy m) (r : HttpRequest) (w : W) : List Subject :=
  (run (p.noting.judge r) ([], w)).2.1

/-- What a policy hands to validators for a request is what the path, the method and the body of
this request say. -/
structure Hands (p : Policy m) (r : HttpRequest) (w : W) (path : ResourcePath) (verb : String)
    (s : Subject) : Prop where
  path_eq : ResourcePath.parse? r.target.path = some path
  verb_eq : r.method.verb? path.isCollection = some verb
  kind_eq : (run (p.kindFor path.gvr) w).1 = .ok s.gvk
  reads : Reads r s.body?
  subject_eq : s = path.subject s.gvk verb s.body?

variable {p : Policy m} {r : HttpRequest} {w : W}

/-- All validators are asked about one subject, up to the first that refuses it. -/
theorem run_validate_noting (subject : Subject) (vs : List (Validator m)) (seen : List Subject)
    (w : W) :
    ∃ count, run (validate subject (vs.map Validator.noting)) (seen, w) =
      ((run (validate subject vs) w).1, seen ++ List.replicate count subject,
        (run (validate subject vs) w).2) := by
  induction vs generalizing seen w with
  | nil => exact ⟨0, by simp [validate]⟩
  | cons v vs ih =>
    rw [List.map_cons, validate, validate, Validator.noting, bind_of (Runs.run_noted _ _ _ _),
      Runs.run_bind]
    cases (run (v.check subject) w).1 with
    | error e => exact ⟨1, by simp⟩
    | ok _ =>
      obtain ⟨count, hrest⟩ := ih (seen ++ [subject]) (run (v.check subject) w).2
      exact ⟨count + 1, by rw [hrest]; simp [List.replicate_succ]⟩

theorem reads_of_bodyFor {body? : Option (List UInt8)} (h : bodyFor r = .ok body?) :
    Reads r body? := by
  rcases reads_or_unreadable r with ⟨found?, hreads⟩ | ⟨hsends, reason, hbody⟩
  · cases h.symm.trans (bodyFor_of_reads hreads)
    exact hreads
  · cases h.symm.trans (bodyFor_of_unreadable hsends hbody)

/-- A review that is noted comes to what it comes to, and it asks about the request as it is. -/
theorem run_review_noting (p : Policy m) (path : ResourcePath) (gvk : Gvk) (r : HttpRequest)
    (w : W) :
    ∃ noted, run (p.noting.review path gvk r) ([], w) =
      ((run (p.review path gvk r) w).1, noted, (run (p.review path gvk r) w).2) ∧
      ∀ s ∈ noted, ∃ verb, r.method.verb? path.isCollection = some verb ∧ Reads r s.body? ∧
        s = path.subject gvk verb s.body? := by
  unfold review
  cases hverb : r.method.verb? path.isCollection with
  | none => exact ⟨[], by simp⟩
  | some verb =>
    cases hbody : bodyFor r with
    | error e => exact ⟨[], by simp⟩
    | ok body? =>
      obtain ⟨count, hrun⟩ := run_validate_noting (path.subject gvk verb body?) p.validators [] w
      refine ⟨_, hrun, fun s hs => ⟨verb, rfl, ?_⟩⟩
      rw [List.nil_append] at hs
      cases List.eq_of_mem_replicate hs
      exact ⟨reads_of_bodyFor hbody, rfl⟩

/-- To note what validators are asked about does not change what is decided. -/
theorem run_noting_judge (p : Policy m) (r : HttpRequest) (w : W) :
    ∃ noted, run (p.noting.judge r) ([], w) =
      ((run (p.judge r) w).1, noted, (run (p.judge r) w).2) ∧
      ∀ s ∈ noted, ∃ path verb, p.Hands r w path verb s := by
  unfold judge
  cases hpath : ResourcePath.parse? r.target.path with
  | none => exact ⟨[], by simp⟩
  | some path =>
    have hkind : run (p.noting.kindFor path.gvr) ([], w) =
        ((run (p.kindFor path.gvr) w).1, [], (run (p.kindFor path.gvr) w).2) := Runs.run_lift _ _
    have hexempt : p.noting.isExempt path r = p.isExempt path r := by
      simp [isExempt, noting, beside]
    have hdenied : p.noting.denied = p.denied := rfl
    dsimp only [judgeResource]
    rw [bind_of hkind, Runs.run_bind, hexempt, hdenied]
    cases hgvk : (run (p.kindFor path.gvr) w).1 with
    | error e => exact ⟨[], by simp⟩
    | ok gvk =>
      cases hcheck : DenyList.check p.denied gvk with
      | error e => exact ⟨[], by simp [hcheck]⟩
      | ok _ =>
        simp only [hcheck]
        split
        · exact ⟨[], by simp⟩
        · obtain ⟨noted, hrun, hnoted⟩ :=
            run_review_noting p path gvk r (run (p.kindFor path.gvr) w).2
          refine ⟨noted, hrun, fun s hs => ?_⟩
          obtain ⟨verb, hverb, hreads, hs⟩ := hnoted s hs
          have hkind : s.gvk = gvk := by rw [hs]; rfl
          exact ⟨path, verb, hpath, hverb, by rw [hgvk, hkind], hreads, by rw [hkind]; exact hs⟩

theorem exists_hands_of_mem_asked {s : Subject} (h : s ∈ p.asked r w) :
    ∃ path verb, p.Hands r w path verb s := by
  obtain ⟨noted, hrun, hnoted⟩ := run_noting_judge p r w
  rw [asked, hrun] at h
  exact hnoted s h

end Policy

theorem Client.answer_of_schema [Network m] {W : Type} [Runs m W]
    (call : Api.Call (StateT Client m)) (s : Subject) (c : Client) (w : W) :
    (run ((validatorAt call .schema).check s) (c, w)).1 =
      (run (SchemaCheck.check (some call) Clock.now s c.schemas) (c, w)).1.1 := by
  rw [validatorAt, Runs.run_bind, Runs.run_get, Runs.run_bind, Runs.run_bind, Runs.run_pure]

/-! ## Verdicts -/

/-- The validators of a client are the two checks.  They are asked about the request that passes
if they accept, a review asks the server about just this request, and they refuse it only if the
server denies it or its object violates the definitions of the server. -/
theorem Policy.validators_refuse_only_on_a_no {W : Type} [Runs m W] (p : Policy m)
    (r : HttpRequest) (w : W) :
    (∀ {α : Type} (service : Service m α),
      (p.record service r w).2.1 = [] ∨ (p.record service r w).2.1 = [r]) ∧
    (∀ s ∈ p.asked r w, ∃ path verb, p.Hands r w path verb s ∧
      (∀ (call? : Option (Api.Call m)) (v : W), AccessReview.Verdict path verb s call? v) ∧
      ∀ (call? : Option (Api.Call m)) (clock : m Nat) (cache : SchemaCache) (v : W),
        SchemaCheck.Verdict s call? clock cache v) ∧
    ∀ [Network m] (call : Api.Call (StateT Client m)) (s : Subject) (c : Client) (v : W),
      (run ((Client.validatorAt call .rbac).check s) (c, v)).1 =
          (run (AccessReview.check (some call) s) (c, v)).1 ∧
        (run ((Client.validatorAt call .schema).check s) (c, v)).1 =
          (run (SchemaCheck.check (some call) Clock.now s c.schemas) (c, v)).1.1 := by
  refine ⟨fun service => (p.admission service r w).once, fun s hs => ?_, fun call s c v => ?_⟩
  · obtain ⟨path, verb, hhands⟩ := exists_hands_of_mem_asked hs
    refine ⟨path, verb, hhands, fun call? v => ?_, fun call? clock cache v => ?_⟩
    · rw [hhands.subject_eq]
      exact AccessReview.verdict path s.gvk verb s.body? call? v
    · exact ⟨fun e => SchemaCheck.check_eq_error_iff, SchemaCheck.check_eq_ok_iff⟩
  · exact ⟨rfl, Client.answer_of_schema call s c v⟩

end Asked

/-- A policy that reviews all requests at a server that denies them. -/
def deniedPolicy : Policy Id where
  kindFor _ := .ok ⟨"apps", "v1", "Deployment"⟩
  denied := []
  validators := [⟨ValidatorKind.rbac.name, AccessReview.check (some fun _ =>
    .ok (.ofText 201 "\x7b\"status\":\x7b\"allowed\":false\x7d\x7d"))⟩]
  validates := true

/-- One of these requests, what is asked about it, and how it fails. -/
theorem Policy.validators_refuse_only_on_a_no_denied :
    let r : HttpRequest :=
      { method := .post, target := ⟨none, none, "/apis/apps/v1/namespaces/prod/deployments", none⟩
        body := .bytes [0x7b, 0x7d] }
    let s : Subject :=
      { gvr := ⟨"apps", "v1", "deployments"⟩, gvk := ⟨"apps", "v1", "Deployment"⟩, verb := "create"
        ns? := some "prod", body? := some [0x7b, 0x7d] }
    s ∈ deniedPolicy.asked r () ∧
      (run (deniedPolicy.judge r) ()).1 =
        .error (.permissionDenied "create" "deployments.apps" (some "prod")) ∧
      ∃ path verb, deniedPolicy.Hands r () path verb s ∧
        (∀ (call? : Option (Api.Call Id)) (v : Unit), AccessReview.Verdict path verb s call? v) ∧
        ∀ (call? : Option (Api.Call Id)) (clock : Id Nat) (cache : SchemaCache) (v : Unit),
          SchemaCheck.Verdict s call? clock cache v := by
  intro r s
  have hasked : s ∈ deniedPolicy.asked r () := by decide +kernel
  refine ⟨hasked, ?_, (deniedPolicy.validators_refuse_only_on_a_no r ()).2.1 s hasked⟩
  decide +kernel

end FleetGate
