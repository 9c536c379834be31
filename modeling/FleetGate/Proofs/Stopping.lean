import FleetGate.Proofs.Closing
import FleetGate.Proofs.HubLives
import FleetGate.Proofs.Polling

/-!
# Loops that stop for good

The provider of a hub starts a loop that follows the hub, and a watcher of a cluster's state is
made with a loop that polls it.  Both are closed in the same way (`HubLoop.kind`,
`StateLoop.kind`).

* `Turn` has one rule for whatever a loop does next, made of the functions with which the
  program follows a hub or polls a state.  Between two turns anything else may happen.
* A loop that is told to end does so only where it waits: for a stream, for a line, for a
  poll, or for the next attempt.  It does not while it reloads, lists clusters or captures a state.
  A loop that follows a hub also looks before it asks for a stream.
* What the program does in one go is a row of these: `does_startWatching`, `does_close`,
  `exists_turns_of_turnWatch` and `steps_turnWatch`.

`closing_stops_watching` is what holds of all of them, in whatever order the sections come.
-/

namespace FleetGate

open Runs (run)

/-! ## The flag of a topology -/

theorem Topology.isWatched_foldl_adopt {μ : Type} (objects : List ApiObject)
    (state : Topology μ × Fields (Option μ)) :
    (objects.foldl adopt state).1.isWatched = state.1.isWatched := by
  induction objects generalizing state with
  | nil => rfl
  | cons o objects ih =>
    rw [List.foldl_cons, ih]
    unfold adopt
    cases o.name? <;> rfl

/-- What is heard of the clusters does not tell whether they are watched. -/
theorem Membership.lasts_isWatched {μ : Type} (isWatched : Bool) :
    Lasts fun t : Topology μ => t.isWatched = isWatched where
  upsert o t h := by
    unfold Topology.upsert
    cases o.name? <;> exact h
  remove o t h := by
    unfold Topology.remove
    cases o.name? <;> exact h
  replace objects version t h := (Topology.isWatched_foldl_adopt objects _).trans h
  note _ _ h := h

/-! ## Following a hub -/

namespace HubLoop

/-- Where a loop stands that follows a hub. -/
inductive Place where
  /-- It looks whether it is to end. -/
  | looking
  /-- It is about to ask for a stream. -/
  | asking
  /-- It has asked for a stream. -/
  | asked
  /-- It waits before the next attempt. -/
  | resting
  | reading
  /-- The clusters are to be listed anew. -/
  | expired
  /-- It is about to reload. -/
  | due (next : Place)
  | reloading (next : Place)
  | ended
deriving DecidableEq, Repr

/-- What a loop does. -/
inductive Deed where
  | look
  | ask (version : String)
  | hear (x : Happening)
  | rest
  | reload
  | reloaded
  /-- The reload breaks down, and the loop with it. -/
  | breakDown
  | leave

/-- The loop ends here if it is told to. -/
def Place.Heeds : Place → Prop
  | .looking | .asking | .asked | .resting | .reading => True
  | .expired | .due _ | .reloading _ | .ended => False

/-- Where a loop goes after a change. -/
def Place.after (effect : Membership.Effect Manager) (next : Place) : Place :=
  if effect.reloads then .due next else next

/-- Where a loop goes after a stream. -/
def Place.ofEnding : Membership.Ending → Place
  | .clean => .looking
  | .failed => .resting
  | .expired => .expired

/-- What each thing that a loop does comes to. -/
inductive Turn : HubProvider × Place → Deed → HubProvider × Place → Prop where
  | look {p : HubProvider} : p.isClosed = false → Turn (p, .looking) .look (p, .asking)
  | ask {p : HubProvider} : Turn (p, .asking) (.ask p.topology.version) (p, .asked)
  | refused {p : HubProvider} : Turn (p, .asked) (.hear .refused)
      ({ p with membership := p.membership.fail.2 }, .resting)
  | opened {p : HubProvider} :
      Turn (p, .asked) (.hear (.opened p.topology.version)) (p, .reading)
  | delivered {p : HubProvider} {line : WatchLine} {effect : Membership.Effect Manager}
      {k : Membership Manager} : p.membership.deliver line = .ok (effect, k) →
      Turn (p, .reading) (.hear (.line line)) ({ p with membership := k }, .after effect .reading)
  | ended {p : HubProvider} {line : WatchLine} (ending : Membership.Ending) :
      p.membership.deliver line = .error ending → Turn (p, .reading) (.hear (.line line))
        ({ p with membership := (ending.leave p.membership).membership }, .ofEnding ending)
  | closed {p : HubProvider} : Turn (p, .reading) (.hear .closed) (p, .ofEnding .clean)
  | listed {p : HubProvider} {list : ApiList} : Turn (p, .expired) (.hear (.listed list))
      ({ p with membership := (p.membership.relist list).2 },
        .after (p.membership.relist list).1 .looking)
  | unlisted {p : HubProvider} : Turn (p, .expired) (.hear .unlisted)
      ({ p with membership := p.membership.forgetVersion.fail.2 }, .resting)
  | rest {p : HubProvider} : Turn (p, .resting) .rest (p, .looking)
  | reload {p : HubProvider} {next : Place} : Turn (p, .due next) .reload (p, .reloading next)
  | reloaded {p : HubProvider} {next : Place} : Turn (p, .reloading next) .reloaded (p, next)
  | breakDown {p : HubProvider} {next : Place} : Turn (p, .reloading next) .breakDown (p, .ended)
  | leave {p : HubProvider} {l : Place} : p.isClosed = true → l.Heeds →
      Turn (p, l) .leave (p, .ended)

/-- What the calls do to a provider. -/
inductive Does : Chore → HubProvider → HubProvider → Prop where
  /-- The state of the hub is watched. -/
  | begin {p : HubProvider} : Does .begin p { p with hub := p.hub.watch p.env.watchSettings }
  | note {p : HubProvider} :
      Does .note p (p.setTopology { p.topology with isWatched := true })
  | cancel {p : HubProvider} : Does .cancel p { p with isClosed := true }
  | drain {p : HubProvider} : Does .drain p (p.setTopology p.topology.drain.2)
  | finish {p : HubProvider} : Does .finish p { p with hub := p.hub.close }
  /-- Managers are made and used. -/
  | elsewhere {p q : HubProvider} : q.isClosed = p.isClosed →
      q.topology.isWatched = p.topology.isWatched → Does .elsewhere p q

namespace Turn

variable {p p' : HubProvider} {l l' : Place} {x : Deed}

/-- A loop changes nothing but what is known of the clusters. -/
theorem eq_membership (h : Turn (p, l) x (p', l')) :
    p' = { p with membership := p'.membership } := by
  cases h <;> rfl

theorem isWatched_eq (h : Turn (p, l) x (p', l')) :
    p'.topology.isWatched = p.topology.isWatched := by
  cases h with
  | look | ask | opened | closed | rest | reload | reloaded | breakDown | leave => rfl
  | refused => exact congrArg Topology.isWatched p.membership.topology_fail
  | delivered hd => exact (Membership.lasts_isWatched _).deliver hd rfl
  | ended _ hd => exact congrArg Topology.isWatched Membership.Ending.topology_leave
  | listed => exact (Membership.lasts_isWatched _).replace _ _ rfl
  | unlisted =>
    have ht := p.membership.forgetVersion.topology_fail
    exact (congrArg Topology.isWatched ht :)

theorem looking_iff (hc : p.isClosed = true) :
    Turn (p, .looking) x (p', l') ↔ x = .leave ∧ p' = p ∧ l' = .ended := by
  constructor
  · intro h
    cases h with
    | look ho => exact nomatch hc.symm.trans ho
    | leave => exact ⟨rfl, rfl, rfl⟩
  · rintro ⟨rfl, rfl, rfl⟩
    exact .leave hc trivial

end Turn

/-- The loops that follow a hub. -/
def kind : WatchKind where
  Shared := HubProvider
  Place := Place
  Deed := Deed
  home? := some .looking
  ended := .ended
  leave := .leave
  isClosed := HubProvider.isClosed
  isWatched p := p.topology.isWatched
  Does := Does
  Turn := Turn
  isClosed_of_cancel h := by
    cases h
    rfl
  isClosed_of_does h hc := by
    cases h with
    | begin | note | drain | finish => exact hc
    | cancel => rfl
    | elsewhere he => exact he.trans hc
  isWatched_of_note h := by
    cases h
    rfl
  isWatched_of_does h hne := by
    cases h with
    | begin | cancel | drain | finish => rfl
    | note => exact absurd rfl hne
    | elsewhere _ he => exact he
  flags_of_turn h := ⟨by rw [h.eq_membership], h.isWatched_eq⟩
  ne_ended_of_turn h := by
    rintro rfl
    cases h with
    | leave _ hl => exact hl
  turn_home_iff hl hc := by
    cases hl
    exact Turn.looking_iff hc

/-- A provider for which no call has begun. -/
def idle (p : HubProvider) : Watching kind := .idle p

theorem sound_idle (p : HubProvider) : (idle p).Sound := Watching.sound_idle (K := kind) p

/-! ### What the program does in one go -/

/-- A start does its sections one after the other.  What the provider's loop does next is not
among what the loops share. -/
theorem does_startWatching (p : HubProvider) (now : Nat) : ∃ q, Does .begin p q ∧
    if q.topology.isWatched then p.startWatching now = q
    else Does .note q { p.startWatching now with watch := p.watch } := by
  refine ⟨_, .begin, ?_⟩
  unfold HubProvider.startWatching
  dsimp only
  split
  · rfl
  · exact .note

/-- A close does its sections one after the other. -/
theorem does_close (p : HubProvider) : ∃ q r, Does .cancel p q ∧ Does .drain q r ∧
    Does .finish r { p.close with watch := p.watch } :=
  ⟨_, _, .cancel, .drain, .finish⟩

/-- What a loop follows. -/
def Place.stage : Place → Stage
  | .reading => .reading
  | .expired => .expired
  | .due next | .reloading next => next.stage
  | .looking | .asking | .asked | .resting | .ended => .idle

/-- The loop is done with the last thing that it heard. -/
def Place.Settled : Place → Prop
  | .looking | .resting | .reading | .expired => True
  | .asking | .asked | .due _ | .reloading _ | .ended => False

def Deed.heard? : Deed → Option Happening
  | .hear x => some x
  | _ => none

theorem stage_after (effect : Membership.Effect Manager) (next : Place) :
    (Place.after effect next).stage = next.stage := by
  unfold Place.after
  cases effect.reloads <;> rfl

theorem stage_ofEnding {ending : Membership.Ending} {k : Membership Manager} :
    (Place.ofEnding ending).stage = (ending.leave k).stage := by
  cases ending <;> rfl

section

variable {p p' : HubProvider} {l l' : Place} {x : Happening} {xs : List Happening}
  {f : Follower Manager}

/-- A loop that hears something is one who follows its hub. -/
theorem Turn.follows (h : Turn (p, l) (.hear x) (p', l')) :
    Follower.Step ⟨l.stage, p.membership⟩ x ⟨l'.stage, p'.membership⟩ := by
  cases h with
  | refused => exact .refused
  | opened => exact .opened
  | @delivered _ line effect k hd =>
    rw [stage_after]
    exact .delivered hd
  | @ended _ line ending hd =>
    rw [stage_ofEnding (k := p.membership)]
    exact .ended ending hd
  | closed => exact .closed
  | listed =>
    rw [stage_after]
    exact .listed
  | unlisted => exact .unlisted

/-- A loop that goes on from a change reloads first. -/
theorem exists_turns_after (p : HubProvider) (effect : Membership.Effect Manager) (next : Place) :
    ∃ ys, Steps Turn (p, .after effect next) ys (p, next) ∧ ys.filterMap Deed.heard? = [] := by
  unfold Place.after
  cases effect.reloads with
  | false => exact ⟨[], .done, rfl⟩
  | true => exact ⟨[.reload, .reloaded], .step .reload (.step .reloaded .done), rfl⟩

/-- A loop that is idle comes to ask for a stream. -/
theorem exists_turns_to_ask (hc : p.isClosed = false) (hl : l.Settled) (hs : l.stage = .idle) :
    ∃ ys, Steps Turn (p, l) ys (p, .asked) ∧ ys.filterMap Deed.heard? = [] := by
  have hask : Steps Turn (p, .looking) [.look, .ask p.topology.version] (p, .asked) :=
    .step (.look hc) (.step .ask .done)
  cases l with
  | looking => exact ⟨_, hask, rfl⟩
  | resting => exact ⟨_, .step .rest hask, rfl⟩
  | reading | expired => cases hs
  | asking | asked | due | reloading | ended => exact hl.elim

theorem settled_ofEnding (ending : Membership.Ending) : (Place.ofEnding ending).Settled := by
  cases ending <;> exact trivial

theorem Place.Settled.eq_reading (hl : l.Settled) (hs : l.stage = .reading) : l = .reading := by
  cases l with
  | reading => rfl
  | looking | resting | expired => cases hs
  | asking | asked | due | reloading | ended => exact hl.elim

theorem Place.Settled.eq_expired (hl : l.Settled) (hs : l.stage = .expired) : l = .expired := by
  cases l with
  | expired => rfl
  | looking | resting | reading => cases hs
  | asking | asked | due | reloading | ended => exact hl.elim

/-- Whatever happens to one who follows a hub, a loop hears it. -/
theorem exists_turns_of_step (hc : p.isClosed = false) (hl : l.Settled)
    (h : Follower.Step ⟨l.stage, p.membership⟩ x f) (hx : x ≠ .elsewhere) :
    ∃ ys l', Steps Turn (p, l) ys ({ p with membership := f.membership }, l') ∧
      l'.Settled ∧ l'.stage = f.stage ∧ ys.filterMap Deed.heard? = [x] := by
  -- the rules for streams begin at one stage each, which tells where the loop stands
  generalize hs : l.stage = stage at h
  cases h with
  | elsewhere => exact absurd rfl hx
  | refused =>
    obtain ⟨ys, hys, hheard⟩ := exists_turns_to_ask hc hl hs
    refine ⟨ys ++ [.hear .refused], .resting, hys.append (.step .refused .done), trivial, rfl, ?_⟩
    rw [List.filterMap_append, hheard]
    rfl
  | opened =>
    obtain ⟨ys, hys, hheard⟩ := exists_turns_to_ask hc hl hs
    refine ⟨ys ++ [.hear (.opened _)], .reading, hys.append (.step .opened .done), trivial, rfl, ?_⟩
    rw [List.filterMap_append, hheard]
    rfl
  | @delivered _ k line effect hd =>
    obtain rfl := hl.eq_reading hs
    obtain ⟨ys, hys, hheard⟩ := exists_turns_after { p with membership := k } effect .reading
    exact ⟨.hear (.line line) :: ys, .reading, .step (.delivered hd) hys, trivial, rfl,
      congrArg (List.cons _) hheard⟩
  | ended ending hd =>
    obtain rfl := hl.eq_reading hs
    exact ⟨[.hear (.line _)], _, .step (.ended ending hd) .done, settled_ofEnding ending,
      stage_ofEnding, rfl⟩
  | closed =>
    obtain rfl := hl.eq_reading hs
    exact ⟨[.hear .closed], _, .step .closed .done, trivial, rfl, rfl⟩
  | @listed _ list =>
    obtain rfl := hl.eq_expired hs
    obtain ⟨ys, hys, hheard⟩ := exists_turns_after
      { p with membership := (p.membership.relist list).2 } (p.membership.relist list).1 .looking
    exact ⟨.hear (.listed list) :: ys, .looking, .step .listed hys, trivial, rfl,
      congrArg (List.cons _) hheard⟩
  | unlisted =>
    obtain rfl := hl.eq_expired hs
    exact ⟨[.hear .unlisted], _, .step .unlisted .done, trivial, rfl, rfl⟩

/-- So a loop hears whatever happens in a run. -/
theorem exists_turns_of_run {f₀ : Follower Manager} (h : f₀.Run xs f) (hx : .elsewhere ∉ xs)
    (hc : p.isClosed = false) (hl : l.Settled) (hf : f₀ = ⟨l.stage, p.membership⟩) :
    ∃ ys l', Steps Turn (p, l) ys ({ p with membership := f.membership }, l') ∧
      l'.Settled ∧ ys.filterMap Deed.heard? = xs := by
  induction h generalizing p l with
  | done =>
    subst hf
    exact ⟨[], l, .done, hl, rfl⟩
  | @step f₀ f₁ f₂ x xs hstep _ ih =>
    subst hf
    obtain ⟨hne, hrest⟩ := List.ne_and_not_mem_of_not_mem_cons hx
    obtain ⟨ys, l₁, hys, hl₁, hs₁, hheard⟩ := exists_turns_of_step hc hl hstep (Ne.symm hne)
    obtain ⟨zs, l₂, hzs, hl₂, hlate⟩ :=
      @ih { p with membership := f₁.membership } l₁ hrest hc hl₁ (by rw [hs₁])
    exact ⟨ys ++ zs, l₂, hys.append hzs, hl₂, by rw [List.filterMap_append, hheard, hlate]; rfl⟩

end

variable {m : Type → Type} [Monad m] [Network m] {W : Type} [Runs m W]

/-- A turn of a provider that is not closed is a row of turns of its loop. -/
theorem exists_turns_of_turnWatch (reload : m Bool) (p : HubProvider) (w : W)
    (h : p.topology.Reachable) (hc : p.isClosed = false) :
    ∃ ys l, Steps Turn (p, .looking) ys
        ({ p with membership := (run (HubProvider.turnWatch reload) (p, w)).2.1.membership }, l) ∧
      l.Settled ∧ ys.filterMap Deed.heard? = p.record reload w :=
  exists_turns_of_run (p.run_record reload w h) HubProvider.elsewhere_not_mem_record hc trivial rfl

end HubLoop

/-! ## Polling a state -/

namespace StateLoop

/-- Where a loop stands that polls the state of a cluster. -/
inductive Place where
  /-- It captures the state for the first time. -/
  | starting
  | waiting (watch : ClusterWatch)
  | polling (watch : ClusterWatch)
  | reloading (watch : ClusterWatch)
  /-- It captures the state after a reload. -/
  | reloaded (watch : ClusterWatch)
  | ended
deriving DecidableEq, Repr

/-- What a loop does. -/
inductive Deed where
  | capture (captured : Option ClusterState)
  | poll
  | reload
  | succeed
  | fail
  | breakDown
  | leave
deriving DecidableEq, Repr

/-- The loop ends here if it is told to. -/
def Place.Heeds : Place → Prop
  | .starting | .waiting _ => True
  | .polling _ | .reloading _ | .reloaded _ | .ended => False

/-- What each thing that a loop does comes to.  The flag says whether the loop is to end. -/
inductive Turn (settings : WatchSettings) : Bool × Place → Deed → Bool × Place → Prop where
  | start {c : Bool} {now : Nat} (captured : Option ClusterState) : settings.poll ≠ 0 →
      Turn settings (c, .starting) (.capture captured) (c, .waiting (.start settings now captured))
  /-- A loop that is never to pause between polls breaks down before the first of them. -/
  | stumble {c : Bool} : settings.poll = 0 →
      Turn settings (c, .starting) .breakDown (c, .ended)
  | poll {c : Bool} {w : ClusterWatch} {now : Nat} : w.nextPoll ≤ now →
      Turn settings (c, .waiting w) .poll (c, .polling (w.beginPoll now))
  | polled {c : Bool} {w : ClusterWatch} {now : Nat} (captured : Option ClusterState) :
      Turn settings (c, .polling w) (.capture captured) (c, .waiting (w.endPoll now captured))
  | reload {c : Bool} {w : ClusterWatch} {now deadline : Nat} :
      w.debouncer.deadline? = some deadline → deadline ≤ now →
      Turn settings (c, .waiting w) .reload (c, .reloading w.beginReload)
  | succeed {c : Bool} {w : ClusterWatch} :
      Turn settings (c, .reloading w) .succeed (c, .reloaded w)
  | fail {c : Bool} {w : ClusterWatch} :
      Turn settings (c, .reloading w) .fail (c, .waiting w)
  | breakDown {c : Bool} {w : ClusterWatch} :
      Turn settings (c, .reloading w) .breakDown (c, .ended)
  | recapture {c : Bool} {w : ClusterWatch} (captured : Option ClusterState) :
      Turn settings (c, .reloaded w) (.capture captured) (c, .waiting (w.endReload captured))
  | leave {l : Place} : l.Heeds → Turn settings (true, l) .leave (true, .ended)

/-- What the calls do: a close has only to wait.  A loop may also be told to end by whoever the
watcher belongs to. -/
inductive Does : Chore → Bool → Bool → Prop where
  | cancel {c : Bool} : Does .cancel c true
  | drain {c : Bool} : Does .drain c c
  | finish {c : Bool} : Does .finish c c
  | elsewhere {c : Bool} : Does .elsewhere c true

/-- The loops that poll the state of a cluster.  No call starts one. -/
def kind (settings : WatchSettings) : WatchKind where
  Shared := Bool
  Place := Place
  Deed := Deed
  home? := none
  ended := .ended
  leave := .leave
  isClosed := id
  isWatched _ := true
  Does := Does
  Turn := Turn settings
  isClosed_of_cancel h := by
    cases h
    rfl
  isClosed_of_does h hc := by
    cases h with
    | cancel | elsewhere => rfl
    | drain | finish => exact hc
  isWatched_of_note _ := rfl
  isWatched_of_does _ _ := rfl
  flags_of_turn h := by
    cases h <;> exact ⟨rfl, rfl⟩
  ne_ended_of_turn h := by
    rintro rfl
    cases h with
    | leave hl => exact hl
  turn_home_iff hl := nomatch hl

/-- A watcher that was started, or one that never was. -/
def watcher (settings : WatchSettings) (isClosed : Bool) : Bool → Watching (kind settings)
  | true => .started isClosed Place.starting
  | false => .idle isClosed

theorem sound_watcher (settings : WatchSettings) (isClosed isStarted : Bool) :
    (watcher settings isClosed isStarted).Sound := by
  cases isStarted with
  | false => exact Watching.sound_idle _
  | true => exact Watching.sound_started rfl _

/-- The turns of a loop in each act of a watch. -/
def deeds : Poller.Act → List Deed
  | .poll _ _ captured => [.poll, .capture captured]
  | .failed _ _ => [.reload, .fail]
  | .reloaded _ _ captured => [.reload, .succeed, .capture captured]

theorem steps_deeds {settings : WatchSettings} {s s' : Poller} {x : Poller.Act} (h : s.Step x s')
    (c : Bool) :
    Steps (Turn settings) (c, .waiting s.watch) (deeds x) (c, .waiting s'.watch) := by
  cases h with
  | poll captured _ hdue => exact .step (.poll hdue) (.step (.polled captured) .done)
  | failed _ hdeadline hdue => exact .step (.reload hdeadline hdue) (.step .fail .done)
  | reloaded captured _ hdeadline hdue =>
    exact .step (.reload hdeadline hdue) (.step .succeed (.step (.recapture captured) .done))

/-- A turn of the program is a row of turns of the loop. -/
theorem steps_turnWatch {m : Type → Type} [Monad m] [Clock m] {W : Type} [Runs m W]
    {source : StateSource m} {time : W → Nat} (hclock : Timekeeping m time)
    (hsource : source.GoesForward time) (settings : WatchSettings) (w : ClusterWatch) (v : W) :
    Steps (Turn settings) (false, .waiting w) (deeds (w.act source time v))
      (false, .waiting (run (ClusterWatcher.turnWatch source w) v).1) :=
  steps_deeds (ClusterWatch.step_turnWatch hclock hsource w v le_rfl) false

end StateLoop

/-! ## Stopping -/

/-- For every order of the sections of starts and closes and of the turns of loops:

* At most one loop of a provider is ever started.  Once a close has returned, the loop that was
  there when the close took the lock is over for good, and whatever a later one does is to leave.
* A close of a watcher returns only when its loop is over, and no loop does anything after. -/
theorem closing_stops_watching :
    (∀ (p : HubProvider) {as : List (Watching.Act HubLoop.kind)} {b : Watching HubLoop.kind},
      (HubLoop.idle p).Run as b → b.loops.length ≤ 1) ∧
    (∀ p : HubProvider, (HubLoop.idle p).EndsForGood) ∧
    ∀ (settings : WatchSettings) (isClosed isStarted : Bool)
      {as cs : List (Watching.Act (StateLoop.kind settings))}
      {b b' : Watching (StateLoop.kind settings)} {j : Nat},
      (StateLoop.watcher settings isClosed isStarted).Run as b → b.closers j = .returned →
      b.Run cs b' →
      (∀ l ∈ b.loops, l = .ended) ∧ ∀ k x b'', ¬ b'.Step (.turn k x) b'' := by
  refine ⟨fun p as b has => (has.sound (HubLoop.sound_idle p)).once,
    fun p => (HubLoop.sound_idle p).endsForGood, ?_⟩
  intro settings isClosed isStarted as cs b b' j has hj hcs
  have hb := StateLoop.sound_watcher settings isClosed isStarted
  have hw : (StateLoop.watcher settings isClosed isStarted).closers j = .waiting := by
    cases isStarted <;> rfl
  have hstopped := has.stopped_of_returned hb hw hj
  exact ⟨fun l => hstopped.eq_ended rfl, fun k x b'' => (hstopped.run hcs).not_turn rfl x⟩

/-- A close overtakes a start, whose loop leaves at once.  A watcher is closed twice at the same
time. -/
theorem closing_stops_watching_overtaking :
    (∃ b b₁ b₂ b₃ : Watching HubLoop.kind, (HubLoop.idle default).Run [.begin 0, .cancel 0] b ∧
      b.Step (.take 0) b₁ ∧ b₁.Run [.join 0, .drain 0, .finish 0] b₂ ∧ b₂.Run [.start 0] b₃ ∧
      b₃.loops = [.looking] ∧ (∀ k x b₄, b₃.Step (.turn k x) b₄ → x = .leave) ∧
      b₃.Step (.turn 0 .leave) (b₃.halt 0)) ∧
    ∃ b : Watching (StateLoop.kind default),
      (StateLoop.watcher default false true).Run
        [.cancel 0, .cancel 1, .take 1, .turn 0 .leave, .join 1, .drain 1, .finish 1] b ∧
      ∀ l ∈ b.loops, l = .ended := by
  constructor
  · obtain ⟨b, b₁, b₂, b₃, has, htake, hbs, hj, hcs, hl⟩ : ∃ b b₁ b₂ b₃ : Watching HubLoop.kind,
        (HubLoop.idle default).Run [.begin 0, .cancel 0] b ∧ b.Step (.take 0) b₁ ∧
        b₁.Run [.join 0, .drain 0, .finish 0] b₂ ∧ b₂.closers 0 = .returned ∧
        b₂.Run [.start 0] b₃ ∧ b₃.loops = [.looking] :=
      ⟨_, _, _, _, .step (.begin rfl .begin) (.step (.cancel rfl .cancel) .done), .take rfl rfl,
        .step (.join rfl nofun) (.step (.drain rfl .drain) (.step (.finish rfl .finish) .done)),
        rfl, .step (.start rfl rfl rfl rfl .note) .done, rfl⟩
    obtain ⟨-, hturn, hleave⟩ := closing_stops_watching.2.1 default has htake hbs hj hcs
    exact ⟨b, b₁, b₂, b₃, has, htake, hbs, hcs, hl, fun k x b₄ h => (hturn k x b₄ h).2.1,
      hleave 0 .looking (by rw [hl]; rfl) nofun⟩
  · obtain ⟨b, has, hj⟩ : ∃ b : Watching (StateLoop.kind default),
        (StateLoop.watcher default false true).Run
          [.cancel 0, .cancel 1, .take 1, .turn 0 .leave, .join 1, .drain 1, .finish 1] b ∧
        b.closers 1 = .returned := by
      refine ⟨_, .step (.cancel rfl .cancel) (.step (.cancel rfl .cancel) (.step (.take rfl rfl)
        (.step (.turn rfl (.leave trivial)) (.step (.join rfl ?_) (.step (.drain rfl .drain)
        (.step (.finish rfl .finish) .done)))))), rfl⟩
      rintro k ⟨⟩
      rfl
    exact ⟨b, has, (closing_stops_watching.2.2 default false true has hj .done).1⟩

end FleetGate
