import FleetGate.Proofs.Reviews
import FleetGate.Proofs.SharedCaches

/-!
# Snapshots of what a server serves

What a server serves is found out by the first call that needs it, and used until it is forgotten.

* `Discovery.Serves` says that a snapshot has a resource: in the first listing of the version in the
  group there is an entry with its plural name.  Only a snapshot that does not have it makes a
  resource unknown (`Discovery.kindFor_eq_notFound_iff`).
* `DiscoveryCache.cacheKind` is how calls share the cache, and `DiscoveryCache.answer?` is the
  answer of a call, whatever it comes to.
* `DiscoveryCache.serves_calls` says that the program is a call that shares the cache, and that it
  sends requests only if this call asks.
* `DiscoveryCache.Coherent` is what follows for each section of a run of many calls and resets.
-/

namespace FleetGate

open Runs (run bind_of)
open Sharing (Event Course Use Rests idle)

namespace Discovery

/-! ## What a snapshot has -/

/-- What stands first under a name. -/
def First {α : Type} (l : List (String × α)) (name : String) (a : α) : Prop :=
  ∃ before after, l = before ++ (name, a) :: after ∧ ∀ other ∈ before, other.1 ≠ name

theorem find?_eq_some_iff_first {α : Type} {l : List (String × α)} {name : String}
    {found : String × α} :
    l.find? (·.1 == name) = some found ↔ found.1 = name ∧ First l name found.2 := by
  rw [List.find?_eq_some_iff_append]
  constructor
  · rintro ⟨hname, before, after, rfl, hbefore⟩
    obtain rfl := eq_of_beq hname
    exact ⟨rfl, before, after, rfl, fun other hother => by simpa using hbefore other hother⟩
  · rintro ⟨rfl, before, after, rfl, hbefore⟩
    exact ⟨beq_self_eq_true _, before, after, rfl, fun other hother => by
      simpa using hbefore other hother⟩

/-- Where each name stands only once, what stands under it is the first. -/
theorem first_iff_mem {α : Type} {l : List (String × α)} {name : String} {a : α}
    (h : (l.map (·.1)).Nodup) : First l name a ↔ (name, a) ∈ l := by
  constructor
  · rintro ⟨before, after, rfl, -⟩
    simp
  · intro hmem
    obtain ⟨before, after, rfl⟩ := List.append_of_mem hmem
    refine ⟨before, after, rfl, fun other hother hname => ?_⟩
    rw [List.map_append, List.map_cons, List.nodup_append] at h
    exact h.2.2 other.1 (List.mem_map_of_mem hother) name List.mem_cons_self hname

/-- The entries of a version in a group. -/
def Lists (d : Discovery) (group version : String) (entries : List Entry) : Prop :=
  ∃ versions, First d.groups group versions ∧ First versions version entries

/-- There is a resource with this plural name in this version and group. -/
def Serves (d : Discovery) (gvr : Gvr) : Prop :=
  ∃ entries, d.Lists gvr.group gvr.version entries ∧
    ∃ entry ∈ entries, entry.plural = gvr.resource

/-- Groups and versions are listed once. -/
structure Distinct (d : Discovery) : Prop where
  groups : (d.groups.map (·.1)).Nodup
  versions : ∀ group ∈ d.groups, (group.2.map (·.1)).Nodup

theorem serves_iff_of_distinct {d : Discovery} (h : d.Distinct) {gvr : Gvr} :
    d.Serves gvr ↔ ∃ group ∈ d.groups, group.1 = gvr.group ∧ ∃ version ∈ group.2,
      version.1 = gvr.version ∧ ∃ entry ∈ version.2, entry.plural = gvr.resource := by
  constructor
  · rintro ⟨entries, ⟨versions, hgroup, hversion⟩, hentry⟩
    have hmem := (first_iff_mem h.groups).mp hgroup
    exact ⟨_, hmem, rfl, _, (first_iff_mem (h.versions _ hmem)).mp hversion, rfl, hentry⟩
  · rintro ⟨group, hgroup, hname, version, hversion, hversionName, hentry⟩
    refine ⟨version.2, ⟨group.2, ?_, ?_⟩, hentry⟩
    · exact (first_iff_mem h.groups).mpr (hname ▸ hgroup)
    · exact (first_iff_mem (h.versions group hgroup)).mpr (hversionName ▸ hversion)

theorem kind?_isSome_iff {d : Discovery} {gvr : Gvr} :
    (d.kind? gvr).isSome = true ↔ d.Serves gvr := by
  have hentry : ∀ entries : List Entry,
      ((entries.find? (·.plural == gvr.resource)).map (·.kind)).isSome = true ↔
        ∃ entry ∈ entries, entry.plural = gvr.resource := by
    intro entries
    rw [Option.isSome_map, List.find?_isSome]
    simp
  constructor
  · intro h
    obtain ⟨kind, hkind⟩ := Option.isSome_iff_exists.mp h
    obtain ⟨group, hgroup, hrest⟩ := Option.bind_eq_some_iff.mp hkind
    obtain ⟨⟨version, entries⟩, hversion, hfound⟩ := Option.bind_eq_some_iff.mp hrest
    obtain ⟨found, hfind, rfl⟩ := Option.map_eq_some_iff.mp hgroup
    have hlists : d.Lists gvr.group gvr.version entries :=
      ⟨found.2, (find?_eq_some_iff_first.mp hfind).2, (find?_eq_some_iff_first.mp hversion).2⟩
    exact ⟨entries, hlists, (hentry entries).mp (Option.isSome_iff_exists.mpr ⟨kind, hfound⟩)⟩
  · rintro ⟨entries, ⟨versions, hgroup, hversion⟩, hmem⟩
    have hfindGroup : d.groups.find? (·.1 == gvr.group) = some (gvr.group, versions) :=
      find?_eq_some_iff_first.mpr ⟨rfl, hgroup⟩
    have hfindVersion : versions.find? (·.1 == gvr.version) = some (gvr.version, entries) :=
      find?_eq_some_iff_first.mpr ⟨rfl, hversion⟩
    simp only [kind?, group?, hfindGroup, Option.map_some, bind, Option.bind_some, hfindVersion]
    exact (hentry entries).mpr hmem

/-- A resource is unknown just if the snapshot does not have it. -/
theorem kindFor_eq_notFound_iff {d : Discovery} {gvr : Gvr} {e : AccessError} :
    d.kindFor gvr = .error e ↔ ¬ d.Serves gvr ∧ e = .resourceNotFound gvr := by
  rw [← kind?_isSome_iff, kindFor]
  cases d.kind? gvr <;> simp [eq_comm]

end Discovery

namespace DiscoveryCache

/-! ## The cache -/

theorem lasts_for_ever (taken now : Nat) : Lasts none taken now := nofun

/-- What was stored is found at any time. -/
theorem fresh?_store {now taken : Nat} {d found : Discovery} :
    (some d : DiscoveryCache) = some found ↔ found = d ∧ Lasts none taken now := by
  simp [lasts_for_ever, eq_comm]

/-- How calls share snapshots.  They are about the kind of a resource or about the whole
snapshot. -/
def cacheKind : CacheKind where
  Query := Option Gvr
  Value := Discovery
  Kept := DiscoveryCache
  lifetime? := none
  needs _ := true
  forgets := true
  empty := reset
  fresh? _ cache := cache
  store _ d _ := some d
  fresh?_empty _ := rfl
  fresh?_store := fresh?_store
  fresh?_later h _ := h

/-- What a call answers with a snapshot. -/
def answerOf (query : Option Gvr) (d : Discovery) : Except AccessError (Discovery ⊕ Gvk) :=
  match query with
  | none => .ok (.inl d)
  | some gvr => (d.kindFor gvr).map .inr

/-- The answer of a call, if it is not dropped. -/
def answer? (query : Option Gvr) :
    Outcome Discovery → Option (Except AccessError (Discovery ⊕ Gvk))
  | .found d => some (answerOf query d)
  | .unbound => some (.error Discovery.unbound)
  | .failed cause => some (.error (Discovery.failed cause))
  | .spared | .dropped => none

/-- The resource of a call is unknown just if it has found a snapshot without it. -/
theorem answer?_eq_notFound_iff {query : Option Gvr} {outcome : Outcome Discovery} {gvr : Gvr} :
    answer? query outcome = some (.error (.resourceNotFound gvr)) ↔
      query = some gvr ∧ ∃ d, outcome = .found d ∧ ¬ d.Serves gvr := by
  cases outcome with
  | spared | unbound | failed | dropped => simp [answer?, Discovery.unbound, Discovery.failed]
  | found d =>
    cases query with
    | none => simp [answer?, answerOf]
    | some asked =>
      have hmap : ∀ r : Except AccessError Gvk, r.map (Sum.inr : Gvk → Discovery ⊕ Gvk) =
          .error (.resourceNotFound gvr) ↔ r = .error (.resourceNotFound gvr) := by
        intro r
        cases r <;> simp [Except.map]
      simp only [answer?, answerOf, Option.some_inj, hmap, Discovery.kindFor_eq_notFound_iff,
        Outcome.found.injEq, exists_eq_left', AccessError.resourceNotFound.injEq]
      constructor
      · rintro ⟨hserves, rfl⟩
        exact ⟨rfl, hserves⟩
      · rintro ⟨rfl, hserves⟩
        exact ⟨hserves, rfl⟩

/-- Without a snapshot a call fails, and does not say that the resource is unknown. -/
theorem answer?_of_no_snapshot (query : Option Gvr) {outcome : Outcome Discovery}
    (h : outcome = .unbound ∨ ∃ cause, outcome = .failed cause) :
    ∃ reason, answer? query outcome = some (.error (.mapper reason)) := by
  rcases h with rfl | ⟨cause, rfl⟩
  · exact ⟨_, rfl⟩
  · exact ⟨_, rfl⟩

/-! ## The program -/

section Program

variable {m : Type → Type} [Monad m] {W : Type} [Runs m W] {cache : DiscoveryCache} {w : W}

/-- How the program looks for a snapshot. -/
structure Follows (call? : Option (Api.Call m)) (cache : DiscoveryCache) (w : W)
    (course : Course Discovery) : Prop where
  fits (query : Option Gvr) : course.Fits (K := cacheKind) call?.isSome 0 cache query
  answer_eq : answer? none course.outcome = some ((run (cache.snapshot call?) w).1.1.map .inl)
  kept_eq : (run (cache.snapshot call?) w).1.2 = course.keep (K := cacheKind) 0 cache
  /-- Nothing is sent unless the call asks. -/
  sent : (run (cache.snapshot (call?.map Api.recorded)) ([], w)).2.1 ≠ [] → course.asks = true
  /-- If it asks, a snapshot is fetched. -/
  fetches : course.asks = true → ∃ call, call? = some call ∧
    (run (cache.snapshot call?) w).2 = (run (Discovery.fetch call) w).2

theorem exists_follows (call? : Option (Api.Call m)) (cache : DiscoveryCache) (w : W) :
    ∃ course, Follows call? cache w course := by
  cases cache with
  | some d =>
    have hrun : run (snapshot call? (some d)) w = ((.ok d, some d), w) := by simp [snapshot]
    refine ⟨.kept d, fun _ => .kept rfl rfl, ?_, ?_, ?_, nofun⟩
    · rw [hrun]
      rfl
    · rw [hrun]
      rfl
    · simp [snapshot]
  | none =>
    cases call? with
    | none =>
      have hrun : run (snapshot (none : Option (Api.Call m)) none) w =
          ((.error Discovery.unbound, none), w) := by simp [snapshot]
      refine ⟨.unbound, fun _ => .unbound rfl rfl rfl, ?_, ?_, ?_, nofun⟩
      · rw [hrun]
        rfl
      · rw [hrun]
        rfl
      · simp [snapshot]
    | some call =>
      cases hfetch : (run (Discovery.fetch call) w).1 with
      | error e =>
        have hrun : run (snapshot (some call) none) w =
            ((.error (Discovery.failed e), none), (run (Discovery.fetch call) w).2) := by
          simp [snapshot, Runs.run_bind, hfetch]
        refine ⟨.failed e, fun _ => .failed e rfl rfl rfl, ?_, ?_, fun _ => rfl,
          fun _ => ⟨call, rfl, by rw [hrun]⟩⟩
        · rw [hrun]
          rfl
        · rw [hrun]
          rfl
      | ok d =>
        have hrun : run (snapshot (some call) none) w =
            ((.ok d, some d), (run (Discovery.fetch call) w).2) := by
          simp [snapshot, Runs.run_bind, hfetch]
        have hfits : ∀ query, Course.Fits (K := cacheKind) true 0 reset query (.fetched d) :=
          fun query => Course.Fits.fetched (K := cacheKind) d rfl rfl rfl
        refine ⟨.fetched d, hfits, ?_, ?_, fun _ => rfl, fun _ => ⟨call, rfl, by rw [hrun]⟩⟩
        · rw [hrun]
          rfl
        · rw [hrun]
          rfl

/-- A call about a resource answers with the snapshot that it looks for. -/
theorem run_kindFor (call? : Option (Api.Call m)) (gvr : Gvr) (cache : DiscoveryCache) (w : W) :
    run (cache.kindFor call? gvr) w =
      (((run (cache.snapshot call?) w).1.1.bind fun d => d.kindFor gvr,
        (run (cache.snapshot call?) w).1.2), (run (cache.snapshot call?) w).2) := by
  rw [kindFor, Runs.run_bind]
  match run (cache.snapshot call?) w with
  | ((.error e, cache'), w') => simp [Except.bind]
  | ((.ok d, cache'), w') => simp [Except.bind]

theorem answer?_some {outcome : Outcome Discovery} {found : Except AccessError Discovery}
    (h : answer? none outcome = some (found.map .inl)) (gvr : Gvr) :
    answer? (some gvr) outcome = some ((found.bind fun d => d.kindFor gvr).map .inr) := by
  cases outcome with
  | spared | dropped => cases h
  | unbound | failed =>
    cases found with
    | error e =>
      cases h
      rfl
    | ok d => cases h
  | found d =>
    cases found with
    | error e => cases h
    | ok d' =>
      cases h
      rfl

/-- The program is a call that shares the cache, whatever it meets with. -/
theorem serves_calls (call? : Option (Api.Call m)) (cache : DiscoveryCache) (w : W) :
    ∃ course, Follows call? cache w course ∧
      Sharing.Serves (K := cacheKind) (fun _ : W => 0) answer? call?.isSome none cache w course
        ((run (cache.snapshot call?) w).1.1.map .inl) (run (cache.snapshot call?) w).1.2
        (run (cache.snapshot call?) w).2 ∧
      ∀ gvr, Sharing.Serves (K := cacheKind) (fun _ : W => 0) answer? call?.isSome (some gvr) cache
        w course ((run (cache.kindFor call? gvr) w).1.1.map .inr)
        (run (cache.kindFor call? gvr) w).1.2 (run (cache.kindFor call? gvr) w).2 := by
  obtain ⟨course, hcourse⟩ := exists_follows call? cache w
  refine ⟨course, hcourse, ⟨⟨0, le_rfl, le_rfl, hcourse.fits none⟩, hcourse.answer_eq,
    hcourse.kept_eq⟩, fun gvr => ?_⟩
  rw [run_kindFor]
  exact ⟨⟨0, le_rfl, le_rfl, hcourse.fits (some gvr)⟩, answer?_some hcourse.answer_eq gvr,
    hcourse.kept_eq⟩

end Program

/-! ## Coherence -/

/-- What can be said of a section of calls that share snapshots, after a row of sections. -/
structure Coherent (es : List (Event cacheKind)) (s : Sharing cacheKind) (e : Event cacheKind)
    (s' : Sharing cacheKind) : Prop where
  /-- A call ends with a snapshot whose fetch was over after every reset before. -/
  after_reset {i time : Nat} {query : Option Gvr} {d : Discovery}
    {before after : List (Event cacheKind)} : s'.calls i = .done query (.found d) →
    s.calls i ≠ .done query (.found d) → es = before ++ ⟨time, .reset⟩ :: after →
    ∃ j taken, ⟨taken, .fetched j d⟩ ∈ after ++ [e]
  /-- Between two fetches that succeed there is a reset. -/
  once {i j taken : Nat} {d d' : Discovery} {before after : List (Event cacheKind)} :
    e.act = .fetched i d → es = before ++ ⟨taken, .fetched j d'⟩ :: after →
    ∃ x ∈ after, x.act = .reset
  /-- Without a client, and after a fetch that fails, nothing is stored. -/
  unchanged {i : Nat} : (e.act = .unbound i ∨ ∃ cause, e.act = .failed i cause) → s'.kept = s.kept
  orderly : Sharing.Orderly es s e s'

theorem coherent_of_run {start : Nat} {bound : Bool} {es : List (Event cacheKind)}
    {s s' : Sharing cacheKind} {e : Event cacheKind} (h : (idle cacheKind bound start).Run es s)
    (hx : s.Step e s') : Coherent es s e s' where
  after_reset {i time query d before after} hi hbefore hes := by
    obtain ⟨now, a⟩ := e
    rcases (h.orderly hx).found hi with hsame | hfetched | ⟨-, taken, htaken, -⟩
    · exact absurd hsame hbefore
    · cases hfetched
      exact ⟨i, now, by simp⟩
    · rw [hes] at htaken
      obtain ⟨j, hmem⟩ := htaken.mem_of_reset
      exact ⟨j, taken, List.mem_append_left _ hmem⟩
  once {i j taken d d' before after} he hes := by
    refine Classical.byContradiction fun hnone => ?_
    have hkept : ∀ x ∈ after, x.act ≠ .reset := fun x hx hreset => hnone ⟨x, hx, hreset⟩
    exact (h.orderly hx).apart he hes hkept (lasts_for_ever _ _)
  unchanged {i} he := by
    refine (h.orderly hx).kept fun hchanges => ?_
    rcases he with he | ⟨cause, he⟩
    · rw [he] at hchanges
      cases hchanges
    · rw [he] at hchanges
      cases hchanges
  orderly := h.orderly hx

/-- Calls share snapshots of what a server serves: each is a call that looks at the cache and sends
requests only if it asks, and calls that are made one after the other are a run.  In all runs,
with whatever other calls and resets are under way, snapshots are coherent.  A resource is unknown
just if a snapshot was found that does not have it. -/
theorem snapshots_are_coherent {m : Type → Type} [Monad m] {W : Type} [Runs m W] :
    (∀ (call? : Option (Api.Call m)) (cache : DiscoveryCache) (w : W),
      ∃ course, Follows call? cache w course ∧
        Sharing.Serves (K := cacheKind) (fun _ : W => 0) answer? call?.isSome none cache w course
          ((run (cache.snapshot call?) w).1.1.map .inl) (run (cache.snapshot call?) w).1.2
          (run (cache.snapshot call?) w).2 ∧
        ∀ gvr, Sharing.Serves (K := cacheKind) (fun _ : W => 0) answer? call?.isSome (some gvr)
          cache w course ((run (cache.kindFor call? gvr) w).1.1.map .inr)
          (run (cache.kindFor call? gvr) w).1.2 (run (cache.kindFor call? gvr) w).2) ∧
    (∀ (bound : Bool) (w : W) xs t,
      Steps (Use (K := cacheKind) (fun _ : W => 0) answer?) (reset, bound, w) xs t →
      ∃ es s, (idle cacheKind bound 0).Run es s ∧ s.kept = t.1 ∧ s.bound = t.2.1 ∧
        s.time ≤ 0 ∧ Rests answer? (xs.filterMap id) s) ∧
    (∀ (bound : Bool) (start : Nat) es s e s',
      (idle cacheKind bound start).Run es s → s.Step e s' → Coherent es s e s') ∧
    (∀ (query : Option Gvr) outcome gvr,
      answer? query outcome = some (.error (.resourceNotFound gvr)) ↔
        query = some gvr ∧ ∃ d, outcome = .found d ∧ ¬ d.Serves gvr) ∧
    (∀ (query : Option Gvr) outcome, (outcome = .unbound ∨ ∃ cause, outcome = .failed cause) →
      ∃ reason, answer? query outcome = some (.error (.mapper reason))) ∧
    ∀ (d : Discovery) (gvr : Gvr), d.Distinct → (d.Serves gvr ↔
      ∃ group ∈ d.groups, group.1 = gvr.group ∧ ∃ version ∈ group.2,
        version.1 = gvr.version ∧ ∃ entry ∈ version.2, entry.plural = gvr.resource) :=
  ⟨serves_calls, fun _ _ _ _ h => Sharing.exists_run_of_uses h,
    fun _ _ _ _ _ _ h hx => coherent_of_run h hx, fun _ _ _ => answer?_eq_notFound_iff,
    fun query _ h => answer?_of_no_snapshot query h,
    fun _ _ h => Discovery.serves_iff_of_distinct h⟩

/-- A snapshot with one resource. -/
def podsOnly : Discovery := ⟨[("", [("v1", [⟨"pods", ⟨"", "v1", "Pod"⟩⟩])])]⟩

/-- After a reset a call does not find a resource that was there before. -/
theorem snapshots_are_coherent_pods :
    ∃ before after s s',
      (idle cacheKind true 0).Run (before ++ ⟨0, .reset⟩ :: after) s ∧
      (∃ s₀, (idle cacheKind true 0).Run before s₀ ∧ s₀.kept = some podsOnly) ∧
      s.Step ⟨0, .fetched 1 ⟨[]⟩⟩ s' ∧
      s'.calls 1 = .done (some ⟨"", "v1", "pods"⟩) (.found ⟨[]⟩) ∧
      (∃ j taken, (⟨taken, .fetched j ⟨[]⟩⟩ : Event cacheKind) ∈
        after ++ [⟨0, .fetched 1 ⟨[]⟩⟩]) ∧
      answer? (some ⟨"", "v1", "pods"⟩) (.found ⟨[]⟩) =
        some (.error (.resourceNotFound ⟨"", "v1", "pods"⟩)) := by
  have hfetched : Course.Fits (K := cacheKind) true 0 reset (some ⟨"", "v1", "pods"⟩)
    (.fetched podsOnly) := Course.Fits.fetched (K := cacheKind) podsOnly rfl rfl rfl
  obtain ⟨es, s, hes, hs⟩ := Sharing.exists_run_of_course (s := idle cacheKind true 0) (i := 0)
    rfl rfl le_rfl le_rfl hfetched
  let forgot : Sharing cacheKind := { s with kept := reset, time := 0 }
  have hreset : s.Step ⟨0, .reset⟩ forgot := .mk hs.time (.reset rfl hs.holder)
  have hwaiting : forgot.calls 1 = .waiting := by simp [forgot, hs.calls, idle]
  obtain ⟨fs, hfs⟩ := Sharing.exists_run_to_fetching (s := forgot)
    (q := some ⟨"", "v1", "pods"⟩) hs.holder hwaiting (le_refl 0) rfl rfl hs.bound
  have hrun := hes.append (.step hreset hfs)
  let asked : Sharing cacheKind :=
    { forgot.call 1 (.fetching (some ⟨"", "v1", "pods"⟩)) with time := 0, holder := some 1 }
  let answered : Sharing cacheKind :=
    { asked.call 1 (.done (some ⟨"", "v1", "pods"⟩) (.found ⟨[]⟩)) with
      kept := some ⟨[]⟩, holder := none }
  have hasked : asked.calls 1 = .fetching (some ⟨"", "v1", "pods"⟩) := rfl
  have hanswered : answered.calls 1 = .done (some ⟨"", "v1", "pods"⟩) (.found ⟨[]⟩) := rfl
  have hlast : asked.Step ⟨0, .fetched 1 ⟨[]⟩⟩ answered :=
    .mk (s := asked) (le_refl 0) (.fetched (K := cacheKind) (s := asked) ⟨[]⟩ hasked)
  have hbefore : asked.calls 1 ≠ .done (some ⟨"", "v1", "pods"⟩) (.found ⟨[]⟩) := by
    rw [hasked]
    nofun
  obtain ⟨-, -, hall, -⟩ := snapshots_are_coherent (m := Id)
  have hnew := (hall true 0 _ _ _ _ hrun hlast).after_reset hanswered hbefore rfl
  exact ⟨es, fs, asked, answered, hrun, ⟨s, hes, hs.kept⟩, hlast, hanswered, hnew, rfl⟩

end DiscoveryCache

end FleetGate
