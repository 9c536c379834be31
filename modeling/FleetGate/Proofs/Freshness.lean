import FleetGate.Proofs.SharedCaches
import FleetGate.Proofs.Verdicts

/-!
# Definitions are fresh

The definitions of a server are fetched by the first request that is checked against them, and
used for all others while they last.

* `SchemaCheck.cacheKind` is how the check of bodies shares its cache.  A request without an object
  to check needs no definitions (`SchemaCheck.candidate?`).
* `SchemaCheck.verdict?` is the answer of a check, whatever it comes to.  It refuses a request only
  if definitions were found.
* `SchemaCheck.serves_check` says that the program is a call that shares the cache, and that it
  sends a request exactly if this call asks.
* `SchemaCheck.Fresh` is what follows for each section of a run of many calls.
-/

namespace FleetGate

open Runs (run bind_of)
open Sharing (Event Taken Course Use Rests idle)

/-- A clock shows the time, and to look at it takes none. -/
def ShowsTime {m : Type → Type} [Monad m] {W : Type} [Runs m W] (clock : m Nat)
    (time : W → Nat) : Prop :=
  ∀ w, run clock w = (time w, w)

/-- A call does not turn the time back. -/
def Api.TakesTime {m : Type → Type} [Monad m] {W : Type} [Runs m W] (call : Api.Call m)
    (time : W → Nat) : Prop :=
  ∀ r w, time w ≤ time (run (call r) w).2

/-- To ask for what is wanted takes the time of the call. -/
theorem Api.run_value_snd {m : Type → Type} [Monad m] {W : Type} [Runs m W] {α : Type}
    (call : Api.Call m) (form : Api.Wanted α) (r : HttpRequest) (w : W) :
    (run (Api.value call form r) w).2 = (run (call r) w).2 := by
  rw [Api.value, Api.text, Runs.run_bind, Runs.run_bind]
  cases (run (call r) w).1 with
  | error e => simp
  | ok reply =>
    rw [Runs.run_pure]
    cases Api.textOf reply <;> simp

namespace SchemaCheck

/-! ## The cache -/

theorem fresh?_start (ttl now : Nat) : (SchemaCache.start ttl).fresh? now = none := rfl

/-- Definitions that were stored are fresh for as long as they last. -/
theorem fresh?_store {now taken : Nat} {index found : Schema.Index} {c : SchemaCache} :
    (c.store taken index).fresh? now = some found ↔
      found = index ∧ Lasts (some c.ttl) taken now := by
  rw [fresh?_eq_some_iff]
  simp [SchemaCache.store, Lasts, eq_comm, and_comm]

/-- What is not fresh does not become so by waiting. -/
theorem fresh?_later {now later : Nat} {c : SchemaCache} (h : c.fresh? now = none)
    (hle : now ≤ later) : c.fresh? later = none := by
  rw [fresh?_eq_none_iff] at h ⊢
  intro snapshot hsnapshot
  have hold := h snapshot hsnapshot
  omega

/-- A cache whose definitions may be used for a while. -/
abbrev Cache (ttl : Nat) : Type := { c : SchemaCache // c.ttl = ttl }

theorem fresh?_store_of_ttl {ttl now taken : Nat} {index found : Schema.Index} {c : Cache ttl} :
    (c.1.store taken index).fresh? now = some found ↔
      found = index ∧ Lasts (some ttl) taken now := by
  rw [fresh?_store, c.2]

/-- How checks share definitions. -/
def cacheKind (ttl : Nat) : CacheKind where
  Query := Subject
  Value := Schema.Index
  Kept := Cache ttl
  lifetime? := some ttl
  needs s := (candidate? s).isSome
  forgets := false
  empty := ⟨.start ttl, rfl⟩
  fresh? now c := c.1.fresh? now
  store taken index c := ⟨c.1.store taken index, c.2⟩
  fresh?_empty := fresh?_start ttl
  fresh?_store := fresh?_store_of_ttl
  fresh?_later := fresh?_later

/-- Only a request that a body is checked for needs definitions. -/
theorem needs_iff {ttl : Nat} {s : Subject} :
    (cacheKind ttl).needs s = true ↔ ∃ object, Concerns s object := by
  simp only [cacheKind, Option.isSome_iff_exists, candidate?_eq_some_iff]

/-- The answer of a check, if it is not dropped. -/
def verdict? (s : Subject) : Outcome Schema.Index → Option (Except AccessError Unit)
  | .found index => some ((candidate? s).elim (.ok ()) (decide index))
  | .spared | .unbound | .failed _ => some (.ok ())
  | .dropped => none

/-- A request is refused only by definitions that were found. -/
theorem found_of_refused {s : Subject} {outcome : Outcome Schema.Index} {e : AccessError}
    (h : verdict? s outcome = some (.error e)) :
    ∃ object index,
      outcome = .found index ∧ Concerns s object ∧ decide index object = .error e := by
  cases outcome with
  | found index =>
    cases hcandidate : candidate? s with
    | none => simp [verdict?, hcandidate] at h
    | some object =>
      refine ⟨object, index, rfl, candidate?_eq_some_iff.mp hcandidate, ?_⟩
      simpa [verdict?, hcandidate] using h
  | spared | unbound | failed | dropped => cases h

/-! ## The program -/

section Program

variable {m : Type → Type} [Monad m] {W : Type} [Runs m W] {clock : m Nat} {c : SchemaCache}
  {w : W}

/-- Fresh definitions are taken as they are. -/
theorem run_index_of_fresh (call? : Option (Api.Call m)) {found : Schema.Index}
    (h : c.fresh? (run clock w).1 = some found) :
    run (index call? clock c) w = ((some found, c), (run clock w).2) := by
  rw [index, Runs.run_bind, h]
  simp

theorem run_index_of_unbound (h : c.fresh? (run clock w).1 = none) :
    run (index (none : Option (Api.Call m)) clock c) w = ((none, c), (run clock w).2) := by
  rw [index, Runs.run_bind, h]
  simp

/-- A fetch that fails leaves the cache as it is. -/
theorem run_index_of_failed {call : Api.Call m} {e : CallError}
    (h : c.fresh? (run clock w).1 = none)
    (hfetch : (run (fetch call) (run clock w).2).1 = .error e) :
    run (index (some call) clock c) w = ((none, c), (run (fetch call) (run clock w).2).2) := by
  rw [index, Runs.run_bind, h]
  dsimp only
  rw [Runs.run_bind, hfetch]
  simp

/-- What is fetched counts from the moment that it is there. -/
theorem run_index_of_fetched {call : Api.Call m} {found : Schema.Index}
    (h : c.fresh? (run clock w).1 = none)
    (hfetch : (run (fetch call) (run clock w).2).1 = .ok found) :
    run (index (some call) clock c) w =
      ((some found, c.store (run clock (run (fetch call) (run clock w).2).2).1 found),
        (run clock (run (fetch call) (run clock w).2).2).2) := by
  rw [index, Runs.run_bind, h]
  dsimp only
  rw [Runs.run_bind, hfetch]
  dsimp only
  rw [Runs.run_bind, Runs.run_pure]

theorem run_check_of_spared (call? : Option (Api.Call m)) {s : Subject} (h : candidate? s = none) :
    run (check call? clock s c) w = ((.ok (), c), w) := by
  rw [check, h]
  simp

/-- Without any definitions a request passes. -/
theorem run_check_of_some (call? : Option (Api.Call m)) {s : Subject} {object : Json}
    {found? : Option Schema.Index} {c' : SchemaCache} {w' : W} (h : candidate? s = some object)
    (hindex : run (index call? clock c) w = ((found?, c'), w')) :
    run (check call? clock s c) w =
      ((found?.elim (.ok ()) fun found => decide found object, c'), w') := by
  rw [check, h]
  dsimp only
  rw [bind_of hindex]
  cases found? <;> simp

/-- A request is sent for the definitions if they are needed and none are fresh, and if there is
somebody to send it to. -/
theorem sent_of_check {time : W → Nat} (hclock : ShowsTime clock time) (call? : Option (Api.Call m))
    (s : Subject) (c : SchemaCache) (w : W) :
    (run (check (call?.map Api.recorded) (StateT.lift clock) s c) ([], w)).2.1 =
      if (candidate? s).isSome ∧ c.fresh? (time w) = none ∧ call?.isSome then [request]
      else [] := by
  have hlook : run (StateT.lift clock : StateT (List HttpRequest) m Nat) ([], w) =
      (time w, [], w) := by
    rw [Runs.run_lift, hclock]
  have hnow : (run (StateT.lift clock : StateT (List HttpRequest) m Nat) ([], w)).1 = time w := by
    rw [hlook]
  cases hcandidate : candidate? s with
  | none =>
    rw [run_check_of_spared _ hcandidate]
    simp
  | some object =>
    cases hfresh : c.fresh? (time w) with
    | some found =>
      rw [run_check_of_some _ hcandidate (run_index_of_fresh _ (hnow ▸ hfresh)), hlook]
      simp
    | none =>
      cases call? with
      | none =>
        rw [Option.map_none, run_check_of_some _ hcandidate (run_index_of_unbound (hnow ▸ hfresh)),
          hlook]
        simp
      | some call =>
        have hsent := Api.sent_of_value call document request [] w
        rw [← fetch_eq] at hsent
        rw [Option.map_some]
        cases hfetch : (run (fetch (Api.recorded call)) ([], w)).1 with
        | error e =>
          have hindex := run_index_of_failed (hnow ▸ hfresh) (by rw [hlook]; exact hfetch)
          rw [run_check_of_some _ hcandidate hindex, hlook]
          simpa using hsent
        | ok found =>
          have hindex := run_index_of_fetched (hnow ▸ hfresh) (by rw [hlook]; exact hfetch)
          rw [run_check_of_some _ hcandidate hindex, hlook, Runs.run_lift]
          simpa using hsent

/-- The program is a call that shares the cache, whatever it meets with. -/
theorem serves_check {time : W → Nat} (hclock : ShowsTime clock time)
    {call? : Option (Api.Call m)} (hcall : ∀ call, call? = some call → Api.TakesTime call time)
    (s : Subject) (c : SchemaCache) (w : W) :
    ∃ (course : Course Schema.Index) (c' : Cache c.ttl),
      (run (check call? clock s c) w).1.2 = c'.1 ∧
      Sharing.Serves (K := cacheKind c.ttl) time verdict? call?.isSome s ⟨c, rfl⟩ w course
        (run (check call? clock s c) w).1.1 c' (run (check call? clock s c) w).2 ∧
      (run (check (call?.map Api.recorded) (StateT.lift clock) s c) ([], w)).2.1 =
        if course.asks then [request] else [] := by
  rw [sent_of_check hclock]
  cases hcandidate : candidate? s with
  | none =>
    have hneeds : (cacheKind c.ttl).needs s = false := by simp [cacheKind, hcandidate]
    rw [run_check_of_spared call? hcandidate]
    refine ⟨.spared, ⟨c, rfl⟩, rfl, ⟨⟨_, le_rfl, le_rfl, .spared hneeds⟩, rfl, rfl⟩, ?_⟩
    simp [Course.asks]
  | some object =>
    have hneeds : (cacheKind c.ttl).needs s = true := by simp [cacheKind, hcandidate]
    have hnow : (run clock w).1 = time w := by rw [hclock w]
    have hworld : (run clock w).2 = w := by rw [hclock w]
    cases hfresh : c.fresh? (time w) with
    | some found =>
      rw [run_check_of_some call? hcandidate (run_index_of_fresh call? (hnow ▸ hfresh)), hworld]
      have hanswer : verdict? s (.found found) = some (decide found object) := by
        simp [verdict?, hcandidate]
      refine ⟨.kept found, ⟨c, rfl⟩, rfl,
        ⟨⟨_, le_rfl, le_rfl, .kept hneeds hfresh⟩, hanswer, rfl⟩, ?_⟩
      simp [Course.asks]
    | none =>
      cases call? with
      | none =>
        rw [run_check_of_some none hcandidate (run_index_of_unbound (hnow ▸ hfresh)), hworld]
        refine ⟨.unbound, ⟨c, rfl⟩, rfl,
          ⟨⟨_, le_rfl, le_rfl, .unbound hneeds hfresh rfl⟩, rfl, rfl⟩, ?_⟩
        simp [Course.asks]
      | some call =>
        have hlater : time w ≤ time (run (fetch call) w).2 := by
          rw [fetch_eq, Api.run_value_snd]
          exact hcall call rfl request w
        cases hfetch : (run (fetch call) w).1 with
        | error e =>
          have hindex := run_index_of_failed (hnow ▸ hfresh) (hworld.symm ▸ hfetch)
          rw [run_check_of_some _ hcandidate hindex, hworld]
          refine ⟨.failed e, ⟨c, rfl⟩, rfl,
            ⟨⟨_, le_rfl, hlater, .failed e hneeds hfresh rfl⟩, rfl, rfl⟩, ?_⟩
          simp [Course.asks]
        | ok found =>
          have hindex := run_index_of_fetched (hnow ▸ hfresh) (hworld.symm ▸ hfetch)
          rw [run_check_of_some _ hcandidate hindex, hworld, hclock]
          have hanswer : verdict? s (.found found) = some (decide found object) := by
            simp [verdict?, hcandidate]
          have hfits : Course.Fits (K := cacheKind c.ttl) true (time w) ⟨c, rfl⟩ s
            (.fetched found) := .fetched _ hneeds hfresh rfl
          refine ⟨.fetched found, ⟨c.store _ found, rfl⟩, rfl,
            ⟨⟨_, le_rfl, hlater, hfits⟩, hanswer, rfl⟩, ?_⟩
          simp [Course.asks]

end Program

/-! ## Freshness -/

/-- What can be said of a section of checks that share definitions, after a row of sections. -/
structure Fresh {ttl : Nat} (es : List (Event (cacheKind ttl))) (s : Sharing (cacheKind ttl))
    (e : Event (cacheKind ttl)) (s' : Sharing (cacheKind ttl)) : Prop where
  /-- A body is checked against definitions whose fetch was over in this very check, or less than
  `ttl` earlier. -/
  checked {i : Nat} {subject : Subject} {index : Schema.Index} :
    s'.calls i = .done subject (.found index) → s.calls i = .done subject (.found index) ∨
      e.act = .fetched i index ∨
      e.act = .hit i index ∧ ∃ taken, Taken es taken index ∧ e.time - taken < ttl
  /-- Fetches that succeed are over at least `ttl` apart. -/
  apart {i j taken : Nat} {index index' : Schema.Index} : e.act = .fetched i index →
    ⟨taken, .fetched j index'⟩ ∈ es → ttl ≤ e.time - taken
  /-- A fetch that fails leaves the cache as it was, and the next check asks again. -/
  orderly : Sharing.Orderly es s e s'

theorem fresh_of_run {ttl start : Nat} {bound : Bool} {es : List (Event (cacheKind ttl))}
    {s s' : Sharing (cacheKind ttl)} {e : Event (cacheKind ttl)}
    (h : (idle (cacheKind ttl) bound start).Run es s) (hx : s.Step e s') : Fresh es s e s' where
  checked hi := by
    rcases (h.orderly hx).found hi with hsame | hfetched | ⟨hhit, taken, htaken, hlasts⟩
    · exact Or.inl hsame
    · exact Or.inr (Or.inl hfetched)
    · exact Or.inr (Or.inr ⟨hhit, taken, htaken, hlasts ttl rfl⟩)
  apart {i j taken index index'} he hmem := by
    obtain ⟨before, after, rfl⟩ := List.append_of_mem hmem
    have hnone : ∀ x ∈ after, x.act ≠ .reset := fun x hx =>
      Sharing.Run.not_reset h rfl x (by simp [hx])
    have hold := (h.orderly hx).apart he rfl hnone
    simpa [Lasts, cacheKind] using hold
  orderly := h.orderly hx

/-- Checks share the definitions of a server: each is a call that looks at the cache and sends a
request if it asks, and checks that are made one after the other are a run.  In all runs, with
whatever other checks are under way, definitions are fresh. -/
theorem definitions_stay_fresh {m : Type → Type} [Monad m] {W : Type} [Runs m W] {clock : m Nat}
    {time : W → Nat} (hclock : ShowsTime clock time) :
    (∀ (call? : Option (Api.Call m)) (s : Subject) (c : SchemaCache) (w : W),
      (∀ call, call? = some call → Api.TakesTime call time) →
      ∃ (course : Course Schema.Index) (c' : Cache c.ttl),
        (run (check call? clock s c) w).1.2 = c'.1 ∧
        Sharing.Serves (K := cacheKind c.ttl) time verdict? call?.isSome s ⟨c, rfl⟩ w course
          (run (check call? clock s c) w).1.1 c' (run (check call? clock s c) w).2 ∧
        (run (check (call?.map Api.recorded) (StateT.lift clock) s c) ([], w)).2.1 =
          if course.asks then [request] else []) ∧
    (∀ (ttl : Nat) (bound : Bool) (w : W) xs t,
      Steps (Use (K := cacheKind ttl) time verdict?) ((cacheKind ttl).empty, bound, w) xs t →
      ∃ es s, (idle (cacheKind ttl) bound (time w)).Run es s ∧ s.kept = t.1 ∧ s.bound = t.2.1 ∧
        s.time ≤ time t.2.2 ∧ Rests verdict? (xs.filterMap id) s) ∧
    (∀ (ttl : Nat) (bound : Bool) (start : Nat) es s e s',
      (idle (cacheKind ttl) bound start).Run es s → s.Step e s' → Fresh es s e s') ∧
    (∀ (ttl : Nat) (s : Subject),
      (cacheKind ttl).needs s = true ↔ ∃ object, Concerns s object) ∧
    ∀ (s : Subject) outcome e, verdict? s outcome = some (.error e) →
      ∃ object index, outcome = .found index ∧ Concerns s object ∧
        decide index object = .error e := by
  refine ⟨fun call? s c w hcall => serves_check hclock hcall s c w,
    fun ttl bound w xs t h => Sharing.exists_run_of_uses h,
    fun ttl bound start es s e s' h hx => fresh_of_run h hx, fun ttl s => needs_iff,
    fun s outcome e h => found_of_refused h⟩

/-- A request to create an object without any fields. -/
def creatingNothing : Subject where
  gvr := ⟨"", "v1", "pods"⟩
  gvk := ⟨"", "v1", "Pod"⟩
  verb := "create"
  body? := some [0x7b, 0x7d]

/-- Two of these requests with the same definitions, which were fetched for the first. -/
theorem definitions_stay_fresh_twice :
    ShowsTime (get : StateM Nat Nat) (fun w : Nat × Unit => w.1) ∧
    ∃ es s s', (idle (cacheKind 1000) true 0).Run es s ∧
      s.Step ⟨20, .hit 1 ⟨[], []⟩⟩ s' ∧
      s'.calls 1 = .done creatingNothing (.found ⟨[], []⟩) ∧
      ∃ taken, Taken es taken ⟨[], []⟩ ∧ 20 - taken < 1000 := by
  have hclock : ShowsTime (get : StateM Nat Nat) (fun w : Nat × Unit => w.1) := Runs.run_get
  have hneeds : (cacheKind 1000).needs creatingNothing = true := by decide +kernel
  have hfetched : Course.Fits (K := cacheKind 1000) true 5 (cacheKind 1000).empty creatingNothing
    (.fetched ⟨[], []⟩) := .fetched _ hneeds rfl rfl
  obtain ⟨es, s, hes, hs⟩ := Sharing.exists_run_of_course (s := idle (cacheKind 1000) true 0)
    (i := 0) rfl rfl (Nat.zero_le 5) (Nat.le_add_right 5 4) hfetched
  let later : Sharing (cacheKind 1000) := { s with time := 20 }
  have hwaiting : later.calls 1 = .waiting := by simp [later, hs.calls, idle]
  let begun := later.call 1 (.begun creatingNothing)
  have hbegin : s.Step ⟨20, .begin 1 creatingNothing⟩ begun :=
    .mk (hs.time.trans (by decide)) (.begin creatingNothing hwaiting)
  have hlooks : (begun.calls 1).Looks creatingNothing := .first hneeds
  have hfresh : (cacheKind 1000).fresh? 20 s.kept = some ⟨[], []⟩ := by
    rw [hs.kept]
    exact (cacheKind 1000).fresh?_store.mpr ⟨rfl, fun span hspan => by cases hspan; decide⟩
  have hhit : begun.Step ⟨20, .hit 1 ⟨[], []⟩⟩ (begun.call 1 (.done creatingNothing (.found _))) :=
    .mk le_rfl (.hit hlooks hs.holder hfresh)
  have hrun := hes.append (.step hbegin .done)
  obtain ⟨-, -, hall, -⟩ := definitions_stay_fresh hclock
  have hdone : (begun.call 1 (.done creatingNothing (.found ⟨[], []⟩))).calls 1 =
      .done creatingNothing (.found ⟨[], []⟩) := rfl
  rcases (hall 1000 true 0 _ _ _ _ hrun hhit).checked hdone with hbefore | hown | ⟨-, hold⟩
  · cases hbefore
  · cases hown
  · exact ⟨hclock, _, _, _, hrun, hhit, hdone, hold⟩

end SchemaCheck

end FleetGate
