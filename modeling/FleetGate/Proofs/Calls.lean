import FleetGate.AccessReview
import FleetGate.Discovery
import FleetGate.SchemaCheck
import FleetGate.TokenReview

/-!
# Programs made of calls

Discovery, reviews and the check of bodies reach a server only by the call that they are
given.  So whatever holds of that call, of programs that do nothing and of programs
one after the other holds of all of them.

`Closed P` says that `P` holds of programs that do nothing and passes from the parts of
a program to the whole.  There is a lemma for each program that calls: it has `P` if
the call has it, for every request.
-/

namespace FleetGate

variable {m : Type → Type} [Monad m]

/-- A property that passes from the parts of a program to the whole. -/
structure Closed (P : (α : Type) → m α → Prop) : Prop where
  /-- It holds of a program that does nothing. -/
  pure {α : Type} (a : α) : P α (pure a)
  /-- It holds of two programs one after the other. -/
  bind {α β : Type} {x : m α} {f : α → m β} : P α x → (∀ a, P β (f a)) → P β (x >>= f)

namespace Closed

variable {P : (α : Type) → m α → Prop} {call : Api.Call m} {α : Type}

/-! ## Calls for texts and values -/

/-- A reply is asked for once, and what is read off it calls no more. -/
theorem text (h : Closed P) (hc : ∀ r, P _ (call r)) (r : HttpRequest) :
    P _ (Api.text call r) := by
  refine h.bind (hc r) fun answer => ?_
  cases answer with
  | error e => exact h.pure _
  | ok reply => exact h.pure _

theorem value (h : Closed P) (hc : ∀ r, P _ (call r)) (form : Api.Wanted α) (r : HttpRequest) :
    P _ (Api.value call form r) := by
  refine h.bind (h.text hc r) fun answer => ?_
  cases answer with
  | error e => exact h.pure _
  | ok text => exact h.pure _

/-- A target that is no URI fails without a call. -/
theorem get (h : Closed P) (hc : ∀ r, P _ (call r)) (form : Api.Wanted α) (target : String) :
    P _ (Api.get call form target) := by
  unfold Api.get
  split
  · exact h.pure _
  · exact h.value hc form _

theorem post (h : Closed P) (hc : ∀ r, P _ (call r)) (form : Api.Wanted α) (target : String)
    (body : Json) : P _ (Api.post call form target body) := by
  unfold Api.post
  split
  · exact h.pure _
  · exact h.value hc form _

/-! ## Discovery -/

/-- There is a call for each version, up to the first that fails. -/
theorem fetchVersions (h : Closed P) (hc : ∀ r, P _ (call r)) (versions : List (String × String)) :
    P _ (Discovery.fetchVersions call versions) := by
  induction versions with
  | nil => exact h.pure _
  | cons version rest ih =>
    refine h.bind (h.get hc _ _) fun entries => ?_
    cases entries with
    | error e => exact h.pure _
    | ok entries =>
      refine h.bind ih fun group => ?_
      cases group with
      | error e => exact h.pure _
      | ok group => exact h.pure _

theorem fetchGroup (h : Closed P) (hc : ∀ r, P _ (call r)) (versions : List (String × String)) :
    P _ (Discovery.fetchGroup call versions) := by
  unfold Discovery.fetchGroup
  split
  · exact h.pure _
  · exact h.fetchVersions hc versions

/-- The groups are asked for in turn, and the first that fails ends it. -/
theorem fetchGroups (h : Closed P) (hc : ∀ r, P _ (call r))
    (listed : List (String × List (String × String))) (found : List (String × Discovery.Group)) :
    P _ (Discovery.fetchGroups call found listed) := by
  induction listed generalizing found with
  | nil => exact h.pure _
  | cons group rest ih =>
    refine h.bind (h.fetchGroup hc _) fun group => ?_
    cases group with
    | error e => exact h.pure _
    | ok group => exact ih _

theorem fetchCore (h : Closed P) (hc : ∀ r, P _ (call r)) : P _ (Discovery.fetchCore call) := by
  refine h.bind (h.get hc _ _) fun versions => ?_
  cases versions with
  | error e => exact h.pure _
  | ok versions => exact h.fetchGroup hc _

/-- The whole of discovery: the groups, what is in each, and the core. -/
theorem fetch (h : Closed P) (hc : ∀ r, P _ (call r)) : P _ (Discovery.fetch call) := by
  refine h.bind (h.get hc _ _) fun listed => ?_
  cases listed with
  | error e => exact h.pure _
  | ok listed =>
    refine h.bind (h.fetchGroups hc listed _) fun groups => ?_
    cases groups with
    | error e => exact h.pure _
    | ok groups =>
      refine h.bind (h.fetchCore hc) fun core => ?_
      cases core with
      | error e => exact h.pure _
      | ok core => exact h.pure _

/-- A snapshot that is kept calls nothing, and one that is not is fetched. -/
theorem snapshot (h : Closed P) (hc : ∀ r, P _ (call r)) (cache : DiscoveryCache) :
    P _ (cache.snapshot (some call)) := by
  cases cache with
  | some d => exact h.pure _
  | none =>
    refine h.bind (h.fetch hc) fun found => ?_
    cases found with
    | error e => exact h.pure _
    | ok d => exact h.pure _

/-- To look up a kind takes a snapshot if there is none, and nothing else. -/
theorem kindFor (h : Closed P) (hc : ∀ r, P _ (call r)) (gvr : Gvr) (cache : DiscoveryCache) :
    P _ (cache.kindFor (some call) gvr) := by
  refine h.bind (h.snapshot hc cache) fun found => ?_
  match found with
  | (.error e, _) => exact h.pure _
  | (.ok d, _) => exact h.pure _

/-! ## Reviews and checks -/

/-- A review calls once at most. -/
theorem reviewCheck (h : Closed P) (hc : ∀ r, P _ (call r)) (subject : Subject) :
    P _ (AccessReview.check (some call) subject) := by
  unfold AccessReview.check
  split
  · exact h.pure _
  · exact h.bind (h.post hc _ _ _) fun answer => h.pure _

theorem verify (h : Closed P) (hc : ∀ r, P _ (call r)) (token : String)
    (audience : Option String) : P _ (TokenReview.verify call token audience) := by
  refine h.bind (h.post hc _ _ _) fun answer => ?_
  cases answer with
  | error e => exact h.pure _
  | ok status =>
    dsimp only
    split
    · exact h.pure _
    · exact h.pure _

/-- The definitions are those that are kept, or they are fetched.  The time is asked for besides. -/
theorem schemaIndex (h : Closed P) (hc : ∀ r, P _ (call r)) {clock : m Nat} (ht : P _ clock)
    (cache : SchemaCache) : P _ (SchemaCheck.index (some call) clock cache) := by
  refine h.bind ht fun now => ?_
  cases cache.fresh? now with
  | some index => exact h.pure _
  | none =>
    refine h.bind (h.get hc _ _) fun fetched => ?_
    cases fetched with
    | error e => exact h.pure _
    | ok index => exact h.bind ht fun now => h.pure _

theorem schemaCheck (h : Closed P) (hc : ∀ r, P _ (call r)) {clock : m Nat} (ht : P _ clock)
    (subject : Subject) (cache : SchemaCache) :
    P _ (SchemaCheck.check (some call) clock subject cache) := by
  unfold SchemaCheck.check
  split
  · exact h.pure _
  · refine h.bind (h.schemaIndex hc ht cache) fun found => ?_
    match found with
    | (none, _) => exact h.pure _
    | (some index, _) => exact h.pure _

/-! ## The gate -/

theorem validate (h : Closed P) (subject : Subject) {vs : List (Validator m)}
    (hv : ∀ v ∈ vs, P _ (v.check subject)) : P _ (Policy.validate subject vs) := by
  induction vs with
  | nil => exact h.pure _
  | cons v vs ih =>
    refine h.bind (hv v (List.mem_cons_self ..)) fun answer => ?_
    cases answer with
    | error e => exact h.pure _
    | ok _ => exact ih fun v' hv' => hv v' (List.mem_cons_of_mem _ hv')

/-- A review of a request does what its validators do. -/
theorem review (h : Closed P) {p : Policy m}
    (hv : ∀ v ∈ p.validators, ∀ subject, P _ (v.check subject)) (path : ResourcePath) (gvk : Gvk)
    (r : HttpRequest) : P _ (p.review path gvk r) := by
  unfold Policy.review
  split
  · exact h.pure _
  · split
    · exact h.pure _
    · exact h.validate _ fun v hmem => hv v hmem _

/-- To judge a request is to look up its kind, and to have it reviewed if it is not exempt. -/
theorem judge (h : Closed P) {p : Policy m} (hk : ∀ gvr, P _ (p.kindFor gvr))
    (hv : ∀ v ∈ p.validators, ∀ subject, P _ (v.check subject)) (r : HttpRequest) :
    P _ (p.judge r) := by
  unfold Policy.judge
  split
  · exact h.pure _
  · refine h.bind (hk _) fun kind => ?_
    cases kind with
    | error e => exact h.pure _
    | ok gvk =>
      dsimp only
      split
      · exact h.pure _
      · split
        · exact h.pure _
        · exact h.review hv _ _ _

/-- A request is judged first.  If it passes, the service gets ready and is called. -/
theorem guard (h : Closed P) {p : Policy m} (hk : ∀ gvr, P _ (p.kindFor gvr))
    (hv : ∀ v ∈ p.validators, ∀ subject, P _ (v.check subject)) {service : Service m α}
    (hr : P _ service.ready) (hs : ∀ r, P _ (service.call r)) (r : HttpRequest) :
    P _ (p.guard service r) := by
  refine h.bind (h.judge hk hv r) fun verdict => ?_
  cases verdict with
  | error e => exact h.pure _
  | ok _ =>
    refine h.bind hr fun ready => ?_
    cases ready with
    | error reason => exact h.pure _
    | ok _ => exact hs r

end Closed

end FleetGate
