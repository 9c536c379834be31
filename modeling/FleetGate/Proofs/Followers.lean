import FleetGate.Proofs.Turns

/-!
# Following step by step

A turn of the watch is a row of smaller steps, between which anything may happen at the hub.
`Follower.Step` has one rule for each thing that can happen to whoever follows a hub.

* No stream is opened, or one is opened from the version that is known.
* A line of the stream is delivered or ends it, or the stream is over.
* The clusters are listed anew when the hub does not go back as far, or cannot be listed.
* Meanwhile the slots of the clusters may be filled and emptied.

The rules are made of the functions with which a provider follows its hub.
`HubProvider.record` is what happens in a turn of a provider, and `run_record` says that this
is a run of a follower.  `hasListed_of_ofHub` says how a provider begins.
-/

namespace FleetGate

open Runs (run)

/-- One step after the other, and what each of them is. -/
inductive Steps {α β : Type} (R : α → β → α → Prop) : α → List β → α → Prop where
  | done {a : α} : Steps R a [] a
  | step {a b c : α} {x : β} {xs : List β} :
      R a x b → Steps R b xs c → Steps R a (x :: xs) c

/-- Steps may go on where others have ended. -/
theorem Steps.append {α β : Type} {R : α → β → α → Prop} {a b c : α} {xs ys : List β}
    (h : Steps R a xs b) (h' : Steps R b ys c) : Steps R a (xs ++ ys) c := by
  induction h with
  | done => exact h'
  | step hs _ ih => exact .step hs (ih h')

theorem Steps.split {α β : Type} {R : α → β → α → Prop} {a c : α} {xs ys : List β}
    (h : Steps R a (xs ++ ys) c) : ∃ b, Steps R a xs b ∧ Steps R b ys c := by
  induction xs generalizing a with
  | nil => exact ⟨a, .done, h⟩
  | cons x xs ih =>
    cases h with
    | step hx hrest =>
      obtain ⟨b, hxs, hys⟩ := ih hrest
      exact ⟨b, .step hx hxs, hys⟩

theorem Steps.of_concat {α β : Type} {R : α → β → α → Prop} {a c : α} {xs : List β} {x : β}
    (h : Steps R a (xs ++ [x]) c) : ∃ b, Steps R a xs b ∧ R b x c := by
  obtain ⟨b, hxs, hrest⟩ := h.split
  cases hrest with
  | step hx hdone =>
    cases hdone
    exact ⟨b, hxs, hx⟩

/-- What holds of no steps and lasts through one more at the end holds of all steps. -/
theorem Steps.concat_induction {α β : Type} {R : α → β → α → Prop} {a : α}
    {motive : ∀ ys d, Steps R a ys d → Prop} (done : motive [] a .done)
    (step : ∀ {xs b x c} (h : Steps R a xs b) (hx : R b x c), motive xs b h →
      motive (xs ++ [x]) c (h.append (.step hx .done)))
    {ys : List β} {d : α} (h : Steps R a ys d) : motive ys d h := by
  have hrest : ∀ {xs b ys d} (hxs : Steps R a xs b) (hys : Steps R b ys d), motive xs b hxs →
      motive (xs ++ ys) d (hxs.append hys) := by
    intro xs b ys d hxs hys hb
    induction hys generalizing xs with
    | done => simpa using hb
    | step hx _ ih => simpa using ih (hxs.append (.step hx .done)) (step hxs hx hb)
  exact hrest .done h done

/-- Where whoever follows a hub stands. -/
inductive Stage where
  | idle
  | reading
  /-- The clusters are to be listed anew. -/
  | expired
deriving DecidableEq, Repr

/-- Whoever follows a hub. -/
structure Follower (μ : Type) where
  stage : Stage
  membership : Membership μ

/-- What happens to whoever follows a hub. -/
inductive Happening where
  /-- Something that has nothing to do with following. -/
  | elsewhere
  | refused
  | opened (version : String)
  | line (line : WatchLine)
  | closed
  | listed (list : ApiList)
  | unlisted

/-- A line that tells of a failure. -/
def WatchLine.IsFailure : WatchLine → Prop
  | .event (.failed _) | .failure _ => True
  | .event _ => False

/-- What the end of a stream leaves. -/
def Membership.Ending.leave {μ : Type} (k : Membership μ) : Ending → Follower μ
  | .clean => ⟨.idle, k⟩
  | .failed => ⟨.idle, k.fail.2⟩
  | .expired => ⟨.expired, k⟩

namespace Membership.Ending

variable {μ : Type} {ending : Ending} {k : Membership μ}

theorem topology_leave : (ending.leave k).membership.topology = k.topology := by
  cases ending with
  | clean => rfl
  | failed => exact k.topology_fail
  | expired => rfl

theorem stage_leave : (ending.leave k).stage ≠ .reading := by
  cases ending <;> exact Stage.noConfusion

end Membership.Ending

namespace Follower

variable {μ : Type}

/-- The names of the clusters that are known. -/
def names (f : Follower μ) : List String := f.membership.topology.names

/-- The version that is known. -/
def version (f : Follower μ) : String := f.membership.topology.version

/-- What each thing that happens comes to. -/
inductive Step : Follower μ → Happening → Follower μ → Prop where
  | elsewhere {stage : Stage} {k : Membership μ} {t : Topology μ} :
      k.topology.Handled t → Step ⟨stage, k⟩ .elsewhere ⟨stage, { k with topology := t }⟩
  | refused {k : Membership μ} : Step ⟨.idle, k⟩ .refused ⟨.idle, k.fail.2⟩
  | opened {k : Membership μ} : Step ⟨.idle, k⟩ (.opened k.topology.version) ⟨.reading, k⟩
  | delivered {k k' : Membership μ} {line : WatchLine} {effect : Membership.Effect μ} :
      k.deliver line = .ok (effect, k') → Step ⟨.reading, k⟩ (.line line) ⟨.reading, k'⟩
  | ended {k : Membership μ} {line : WatchLine} (ending : Membership.Ending) :
      k.deliver line = .error ending → Step ⟨.reading, k⟩ (.line line) (ending.leave k)
  | closed {k : Membership μ} : Step ⟨.reading, k⟩ .closed (Membership.Ending.clean.leave k)
  | listed {k : Membership μ} {list : ApiList} :
      Step ⟨.expired, k⟩ (.listed list) ⟨.idle, (k.relist list).2⟩
  | unlisted {k : Membership μ} :
      Step ⟨.expired, k⟩ .unlisted ⟨.idle, k.forgetVersion.fail.2⟩

/-- One thing after the other happens. -/
abbrev Run : Follower μ → List Happening → Follower μ → Prop := Steps Step

/-- What is known of the clusters and the version stay. -/
structure Keeps (f f' : Follower μ) : Prop where
  visible_eq : f'.membership.topology.visible = f.membership.topology.visible
  version_eq : f'.version = f.version

theorem Keeps.names_eq {f f' : Follower μ} (h : f.Keeps f') : f'.names = f.names :=
  (Topology.visible_eq_iff.mp h.visible_eq).1

namespace Step

variable {f f' : Follower μ} {line : WatchLine}

/-- What happens to its slots elsewhere does not concern a follower. -/
theorem keeps_of_elsewhere (h : f.Step .elsewhere f') (hs : f.membership.topology.Sound) :
    f.Keeps f' ∧ f'.stage = f.stage := by
  cases h with
  | elsewhere ht => exact ⟨⟨(hs.handled ht).1, (hs.handled ht).2⟩, rfl⟩

theorem keeps_of_refused (h : f.Step .refused f') : f.Keeps f' ∧ f'.stage ≠ .reading := by
  cases h with
  | @refused k =>
    have ht : k.fail.2.topology = k.topology := k.topology_fail
    exact ⟨⟨congrArg Topology.visible ht, congrArg Topology.version ht⟩, Stage.noConfusion⟩

/-- A stream is opened from the version that is known. -/
theorem keeps_of_opened {version : String} (h : f.Step (.opened version) f') :
    f.Keeps f' ∧ f.version = version := by
  cases h with
  | opened => exact ⟨⟨rfl, rfl⟩, rfl⟩

/-- A failure on a stream ends it and changes no name. -/
theorem keeps_of_failure (h : f.Step (.line line) f') (hl : line.IsFailure) :
    f.Keeps f' ∧ f'.stage ≠ .reading := by
  cases h with
  | delivered hd =>
    match line, hl with
    | .event (.failed _), _ => cases hd
    | .failure e, _ => cases e <;> cases hd
  | ended _ hd =>
    exact ⟨⟨congrArg Topology.visible Membership.Ending.topology_leave,
      congrArg Topology.version Membership.Ending.topology_leave⟩, Membership.Ending.stage_leave⟩

theorem keeps_of_closed (h : f.Step .closed f') : f.Keeps f' ∧ f'.stage ≠ .reading := by
  cases h with
  | closed => exact ⟨⟨rfl, rfl⟩, Stage.noConfusion⟩

/-- A line that tells of no failure is delivered. -/
theorem delivered_of_line (h : f.Step (.line line) f') (hl : ¬ line.IsFailure) :
    f.stage = .reading ∧ ∃ effect, f.membership.deliver line = .ok (effect, f'.membership) := by
  cases h with
  | delivered hd => exact ⟨rfl, _, hd⟩
  | ended _ hd =>
    match line, hl with
    | .event (.added o), _ | .event (.modified o), _ | .event (.deleted o), _ => cases hd
    | .event (.bookmark version), _ => cases hd
    | .event (.failed s), hl | .failure e, hl => exact absurd trivial hl

/-- A cluster that is added is taken up. -/
theorem upserted_of_added {o : ApiObject} (h : f.Step (.line (.event (.added o))) f') :
    f.stage = .reading ∧ f'.membership.topology = (f.membership.topology.upsert o).2 := by
  obtain ⟨hr, effect, hd⟩ := h.delivered_of_line id
  exact ⟨hr, congrArg Membership.topology (Prod.mk.inj (Except.ok.inj hd)).2.symm⟩

/-- A bookmark moves the version and nothing else. -/
theorem noted_of_bookmark {version : String}
    (h : f.Step (.line (.event (.bookmark version))) f') :
    f.stage = .reading ∧ f'.version = version ∧
      f'.membership.topology.visible = f.membership.topology.visible := by
  obtain ⟨hr, effect, hd⟩ := h.delivered_of_line id
  have hk := (Prod.mk.inj (Except.ok.inj hd)).2.symm
  rw [Follower.version, hk]
  exact ⟨hr, rfl, rfl⟩

/-- A list that fails makes the follower forget its version and keep its names. -/
theorem forgotten_of_unlisted (h : f.Step .unlisted f') :
    f'.stage ≠ .reading ∧ f'.version = "" ∧
      f'.membership.topology.visible = f.membership.topology.visible := by
  cases h with
  | @unlisted k =>
    have ht : k.forgetVersion.fail.2.topology = k.topology.forgetVersion :=
      k.forgetVersion.topology_fail
    have hv : k.forgetVersion.fail.2.topology.visible = k.topology.visible := by
      rw [ht]
      rfl
    exact ⟨Stage.noConfusion, congrArg Topology.version ht, hv⟩

/-- A list replaces what there was. -/
theorem relisted_of_listed {list : ApiList} (h : f.Step (.listed list) f') :
    f' = ⟨.idle, (f.membership.relist list).2⟩ := by
  cases h with
  | listed => rfl

end Step

end Follower

/-! ## Streams -/

namespace Membership

variable {μ : Type}

/-- What happens while a stream is followed. -/
def happenings : List WatchLine → Membership μ → List Happening
  | [], _ => [.closed]
  | line :: lines, k => match k.deliver line with
      | .error _ => [.line line]
      | .ok (_, k') => .line line :: happenings lines k'

/-- To follow a stream to its end is to take a step for each line. -/
theorem run_happenings (lines : List WatchLine) (k : Membership μ) :
    Follower.Run ⟨.reading, k⟩ (k.happenings lines)
      ((k.hear lines).1.leave (k.hear lines).2) := by
  induction lines generalizing k with
  | nil => exact .step .closed .done
  | cons line lines ih =>
    unfold happenings hear
    cases hd : k.deliver line with
    | error ending => exact .step (.ended ending hd) .done
    | ok delivered => exact .step (.delivered hd) (ih delivered.2)

end Membership

/-! ## Turns -/

namespace HubProvider

variable {m : Type → Type} [Monad m] [Network m] {W : Type} [Runs m W]

/-- The provider as one who follows its hub. -/
def follower (p : HubProvider) : Follower Manager :=
  ⟨match p.watch with
    | .silent => .reading
    | _ => .idle, p.membership⟩

theorem follower_openNow (p : HubProvider) (w : W) :
    (run (openNow (m := m)) (p, w)).2.1.follower = ⟨.idle, p.membership⟩ := by
  unfold openNow
  rw [Runs.run_bind, Runs.run_modify]
  show (⟨.idle, (run (StateT.lift Clock.now : StateT HubProvider m Nat) (p, w)).2.1.membership⟩ :
    Follower Manager) = _
  rw [Runs.run_lift]

/-- A follower that backs off counts one more failure. -/
theorem follower_backOff (p : HubProvider) (w : W) :
    (run (backOff (m := m)) (p, w)).2.1.follower = ⟨.idle, p.membership.fail.2⟩ := by
  unfold backOff
  rw [Runs.run_bind, Runs.run_modify]
  show (⟨.idle, (run (StateT.lift Clock.now : StateT HubProvider m Nat)
    (p, w)).2.1.membership.fail.2⟩ : Follower Manager) = _
  rw [Runs.run_lift]

/-- What happens to a provider in a turn. -/
def record (reload : m Bool) (p : HubProvider) (w : W) : List Happening :=
  match run (openStream (m := m)) (p, w) with
  | (.error _, _) => [.refused]
  | (.ok none, _) => [.opened p.topology.version]
  | (.ok (some reply), opened) =>
      let lines := WatchLine.ofReply reply
      let heard := p.membership.hear lines
      .opened p.topology.version :: (p.membership.happenings lines ++
        match heard.1 with
        | .clean | .failed => []
        | .expired =>
            match run (listClusters (m := m)) ({ opened.1 with membership := heard.2 },
              (reloaded reload)^[p.membership.changes lines] opened.2) with
            | (.error _, _) => [.unlisted]
            | (.ok list, _) => [.listed list])

/-- A turn of a provider is a run of a follower. -/
theorem run_record (reload : m Bool) (p : HubProvider) (w : W) (h : p.topology.Reachable) :
    Follower.Run ⟨.idle, p.membership⟩ (p.record reload w)
      (run (turnWatch reload) (p, w)).2.1.follower := by
  rw [run_turn reload p w h]
  have hk := membership_openStream (m := m) p w
  unfold record turn
  generalize run (openStream (m := m)) (p, w) = opened at hk ⊢
  match opened, hk with
  | (.error e, p', w'), (hk : p'.membership = p.membership) =>
    dsimp only
    rw [follower_backOff, hk]
    exact .step .refused .done
  | (.ok none, p', w'), (hk : p'.membership = p.membership) =>
    have hf : ({ p' with watch := .silent } : HubProvider).follower = ⟨.reading, p.membership⟩ :=
      congrArg _ hk
    dsimp only
    rw [hf]
    exact .step .opened .done
  | (.ok (some reply), p', w'), _ =>
    have hrun := Membership.run_happenings (WatchLine.ofReply reply) p.membership
    dsimp only
    refine .step .opened ?_
    generalize p.membership.hear (WatchLine.ofReply reply) = heard at hrun ⊢
    obtain ⟨ending, k⟩ := heard
    refine hrun.append ?_
    cases ending with
    | clean =>
      dsimp only
      rw [follower_openNow]
      exact .done
    | failed =>
      dsimp only
      rw [follower_backOff]
      exact .done
    | expired =>
      dsimp only
      generalize run (listClusters (m := m)) ({ p' with membership := k },
        (reloaded reload)^[p.membership.changes (WatchLine.ofReply reply)] w') = listed
      match listed with
      | (.error e, s) =>
        dsimp only
        rw [follower_backOff]
        exact .step .unlisted .done
      | (.ok list, s) =>
        dsimp only
        rw [follower_openNow]
        exact .step .listed .done

/-! ## Beginnings -/

/-- The provider knows what its hub has just listed, and nothing else. -/
def HasListed (m : Type → Type) [Monad m] [Network m] {W : Type} [Runs m W] (p : HubProvider) :
    Prop :=
  ∃ q q' w w' list, run (listClusters (m := m)) (q, w) = (.ok list, q', w') ∧
    p.follower = ⟨.idle, (({} : Membership Manager).relist list).2⟩

theorem HasListed.reachable {p : HubProvider} (h : p.HasListed m) : p.topology.Reachable := by
  obtain ⟨_, _, _, _, list, -, hp⟩ := h
  have hk : p.membership = (({} : Membership Manager).relist list).2 :=
    congrArg Follower.membership hp
  rw [topology, hk]
  exact .replace list.items _ .empty

/-- A provider that is made with a list of its clusters has heard of nothing else. -/
theorem hasListed_of_relist {p q : HubProvider} {w w' : W} (hk : q.membership = {})
    (hq : q.watch = .idle)
    (h : run (do
      match ← (relist (m := m)).run q with
      | (.error e, _) => pure (.error (.call e))
      | (.ok _, p) => pure (.ok p) : m (Except FleetError HubProvider)) w = (.ok p, w')) :
    p.HasListed m := by
  rw [Runs.run_bind] at h
  have hrun := Runs.run_stateT (relist (m := m)) q w
  generalize run ((relist (m := m)).run q) w = relisted at h hrun
  obtain ⟨⟨answer, p'⟩, w₁⟩ := relisted
  match hl : run (listClusters (m := m)) (q, w) with
  | (.error e, q', w₂) =>
    rw [run_relist_of_unlisted hl] at hrun
    cases hrun
    rw [Runs.run_pure] at h
    cases h
  | (.ok list, q', w₂) =>
    rw [run_relist_of_listed hl] at hrun
    cases hrun
    rw [Runs.run_pure] at h
    cases h
    refine ⟨q, q', w, _, list, hl, ?_⟩
    rw [listClusters, run_onSeat_hub] at hl
    obtain ⟨rfl, -⟩ := Prod.mk.inj (Prod.mk.inj hl).2
    rw [follower, hq, hk]

/-- A provider begins with a list of the clusters of its hub. -/
theorem hasListed_of_ofHub {env : Environment} {strategy : String} {hub : Manager} {w w' : W}
    {p : HubProvider} (h : run (ofHub (m := m) env strategy hub) w = (.ok p, w')) :
    p.HasListed m := by
  unfold ofHub at h
  rw [Runs.run_bind] at h
  generalize run ((Manager.onClient (m := m) checkHub).run hub) w = checked at h
  obtain ⟨⟨checked, hub'⟩, w₁⟩ := checked
  match checked with
  | .error e =>
    rw [Runs.run_pure] at h
    cases h
  | .ok () =>
    dsimp only at h
    split at h
    · rw [Runs.run_bind, Runs.run_pure] at h
      exact hasListed_of_relist rfl rfl h
    · rw [Runs.run_bind] at h
      generalize run ((Manager.onClient (m := m) findProxy).run hub') w₁ = found at h
      obtain ⟨⟨host, hub''⟩, w₂⟩ := found
      match host with
      | .error e =>
        rw [Runs.run_pure] at h
        cases h
      | .ok proxyHost => exact hasListed_of_relist rfl rfl h

end HubProvider

end FleetGate
