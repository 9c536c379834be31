import FleetGate.Proofs.Followers
import FleetGate.Proofs.Nesting
import FleetGate.Proofs.Openings
import FleetGate.Report.Settings

/-!
# The rounds of a session

While a session goes through its rounds, files change, the provider works, and watchers call for a
reload whenever they like, also those of providers that were closed long ago.  Everything that
happens is an act, and a run is one act after the other.

* `State.Step` has a rule for each act.  `history` is what a session does in its surroundings, and
  `exists_run_of_run` says that this is such a run.
* `Rounds` and `Unfinished` say what a session has done by itself: whole rounds, each of which opens
  a provider and closes it again, and the beginning of another (`done_of_run`).
* `held` are the providers that are open, of which there is at most one (`held_eq`).
* A call that waits is not lost (`State.Step.stays`), and it brings about one reload
  (`Endless.reloads_once`).
-/

namespace FleetGate

open Config (Complaint)

/-! ## Calls -/

namespace Mailbox

theorem exists_take?_iff {box : Mailbox} : (∃ rest, box.take? = some rest) ↔ 0 < box.calls := by
  unfold take?
  cases box.calls <;> simp

/-- However many calls there are, one waits. -/
theorem calls_leave_pos (box : Mailbox) : 0 < box.leave.calls := by
  unfold leave
  split
  · exact Nat.succ_pos _
  · next hfull => simpa [capacity, Nat.pos_iff_ne_zero] using hfull

end Mailbox

/-- Surroundings in which a provider that is served stays the provider that it is. -/
def Surroundings.Faithful {m : Type → Type} [Monad m] {W : Type} [Runs m W]
    (around : Surroundings m) : Prop :=
  ∀ env, Provider.Keeps m Signal (around.serve env)

namespace Session

/-! ## Acts -/

/-- Where a session stands. -/
inductive Stage where
  /-- The next thing is to read the configuration. -/
  | between
  /-- The next thing is to make a provider. -/
  | ready (env : Environment)
  /-- A provider is served. -/
  | serving (env : Environment) (p : Provider) (box : Mailbox)
  /-- A signal was taken, and the next thing is to close the provider. -/
  | leaving (env : Environment) (p : Provider) (signal : Signal)
  /-- The session is over. -/
  | ended (e : SessionEnd)

/-- The end that a signal brings about, if it does. -/
def endAfter : Signal → Option SessionEnd
  | .reload => none
  | .interrupt => some .interrupted

namespace Stage

/-- Where a session stands after rounds that came to an end, or to none yet. -/
def ofEnd : Option SessionEnd → Stage
  | none => .between
  | some e => .ended e

/-- A provider is served. -/
def IsServing : Stage → Prop
  | serving .. => True
  | _ => False

/-- The providers that are open, if the last one that was opened has this number. -/
def held (number : Nat) : Stage → List Nat
  | serving .. | leaving .. => [number]
  | between | ready _ | ended _ => []

/-- There is something that the session can do by itself. -/
def Due : Stage → Prop
  | serving _ _ box => 0 < box.calls
  | between | ready _ | leaving .. => True
  | ended _ => False

/-- A stage without an act of the session itself in between.  No call is lost. -/
inductive Stays : Stage → Stage → Prop where
  | same {stage : Stage} : Stays stage stage
  | served {env : Environment} {p p' : Provider} {box box' : Mailbox} :
      p.SameMain p' → (0 < box.calls → 0 < box'.calls) →
      Stays (serving env p box) (serving env p' box')

end Stage

/-- What happens to a session, and what it does.  The providers are numbered as they are opened. -/
inductive Act where
  /-- Something happens in the world. -/
  | elsewhere
  /-- A watcher of a provider calls for a reload. -/
  | called (number : Nat)
  /-- The provider that is served does something. -/
  | worked
  | read (env : Environment)
  | opened (number : Nat) (p : Provider)
  /-- No provider can be made. -/
  | failed (e : SessionEnd)
  | took (number : Nat) (signal : Signal)
  | closed (number : Nat) (p : Provider)

namespace Act

/-- Whether an act is one of the session itself. -/
def isOwn : Act → Bool
  | elsewhere | called _ | worked => false
  | read _ | opened .. | failed _ | took .. | closed .. => true

/-- The providers that are open after an act. -/
def hold (numbers : List Nat) : Act → List Nat
  | opened number _ => number :: numbers
  | closed number _ => numbers.erase number
  | _ => numbers

end Act

/-- The providers that are open. -/
def held (acts : List Act) : List Nat := acts.foldl Act.hold []

/-- A session in a world. -/
structure State (W : Type) where
  world : W
  /-- How many providers were opened. -/
  count : Nat
  stage : Stage

/-- A session before its first round. -/
def State.start {W : Type} (w : W) : State W := ⟨w, 0, .between⟩

variable {m : Type → Type} [Monad m] [Network m] {W : Type} [Runs m W]

/-- A session does something, or something happens to it. -/
inductive State.Step [Complaint] (look : m Environment) (line : CommandLine) :
    State W → Act → State W → Prop where
  | elsewhere {w : W} {n : Nat} {stage : Stage} (w' : W) :
      Step look line ⟨w, n, stage⟩ .elsewhere ⟨w', n, stage⟩
  | called {w : W} {n : Nat} {env : Environment} {p : Provider} {box : Mailbox} :
      Step look line ⟨w, n, .serving env p box⟩ (.called n) ⟨w, n, .serving env p box.leave⟩
  /-- Nobody hears a call for a provider that is no longer served. -/
  | unheard {w : W} {n k : Nat} {stage : Stage} :
      k < n ∨ k = n ∧ ¬stage.IsServing →
      Step look line ⟨w, n, stage⟩ (.called k) ⟨w, n, stage⟩
  | worked {w w' : W} {n : Nat} {env : Environment} {p p' : Provider} {box : Mailbox} :
      p.SameMain p' →
      Step look line ⟨w, n, .serving env p box⟩ .worked ⟨w', n, .serving env p' box⟩
  | read {w w' : W} {n : Nat} {env : Environment} :
      Runs.run look w = (env, w') →
      Step look line ⟨w, n, .between⟩ (.read env) ⟨w', n, .ready env⟩
  | opened {w w' : W} {n : Nat} {env : Environment} {p : Provider} :
      Runs.run (make (m := m) line env) w = (.ok p, w') →
      Step look line ⟨w, n, .ready env⟩ (.opened (n + 1) p) ⟨w', n + 1, .serving env p {}⟩
  | failed {w w' : W} {n : Nat} {env : Environment} {e : SessionEnd} :
      Runs.run (make (m := m) line env) w = (.error e, w') →
      Step look line ⟨w, n, .ready env⟩ (.failed e) ⟨w', n, .ended e⟩
  /-- A reload is taken if a call for it waits. -/
  | reloaded {w : W} {n : Nat} {env : Environment} {p : Provider} {box rest : Mailbox} :
      box.take? = some rest →
      Step look line ⟨w, n, .serving env p box⟩ (.took n .reload) ⟨w, n, .leaving env p .reload⟩
  | interrupted {w : W} {n : Nat} {env : Environment} {p : Provider} {box : Mailbox} :
      Step look line ⟨w, n, .serving env p box⟩ (.took n .interrupt)
        ⟨w, n, .leaving env p .interrupt⟩
  | closed {w : W} {n : Nat} {env : Environment} {p : Provider} {signal : Signal} :
      Step look line ⟨w, n, .leaving env p signal⟩ (.closed n p.close)
        ⟨w, n, .ofEnd (endAfter signal)⟩

/-- One act after the other. -/
abbrev State.Run [Complaint] (look : m Environment) (line : CommandLine) :
    State W → List Act → State W → Prop :=
  Steps (State.Step look line)

section

variable {look : m Environment} {line : CommandLine} {s s' : State W} {x : Act} {acts : List Act}
  {w : W}

/-! ## What is open -/

theorem held_concat (acts : List Act) (x : Act) : held (acts ++ [x]) = x.hold (held acts) := by
  simp [held]

/-- The provider that is served, or about to be closed, is the only one that is open. -/
theorem held_eq [Complaint] (h : State.Run look line (.start w) acts s) :
    held acts = s.stage.held s.count := by
  refine Steps.concat_induction
    (motive := fun acts s _ => held acts = s.stage.held s.count) rfl ?_ h
  intro acts s x s' _ hx ih
  rw [held_concat, ih]
  cases hx with
  | @closed _ n _ _ signal =>
    cases signal with
    | reload => simp [Act.hold, Stage.held, Stage.ofEnd, endAfter]
    | interrupt => simp [Act.hold, Stage.held, Stage.ofEnd, endAfter]
  | _ => rfl

theorem length_held_le [Complaint] (h : State.Run look line (.start w) acts s) :
    (held acts).length ≤ 1 := by
  rw [held_eq h]
  cases s.stage <;> simp [Stage.held]

/-! ## What a session has done -/

/-- Something that a session may have found around it. -/
def Found {m : Type → Type} [Monad m] {W : Type} [Runs m W] (look : m Environment)
    (env : Environment) : Prop :=
  ∃ w, (Runs.run look w).1 = env

/-- What a session does in whole rounds that end with a reload, and how many these are.  In each it
reads the configuration, opens a provider that is made of what was read, takes a reload and closes
the provider, in this order. -/
inductive Rounds [Complaint] {m : Type → Type} [Monad m] {W : Type} [Runs m W]
    (look : m Environment) (line : CommandLine) : Nat → List Act → Prop where
  | none : Rounds look line 0 []
  | more {n : Nat} {acts : List Act} {env : Environment} {p q : Provider} :
      Rounds look line n acts → Found look env → MadeBy line env p → p.SameMain q →
      q.mainManager.isClosed = true →
      Rounds look line (n + 1) (acts ++
        [.read env, .opened (n + 1) p, .took (n + 1) .reload, .closed (n + 1) q])

/-- What a session does in a round that does not end with a reload, or not yet, if so many rounds
came before.  The second number counts the providers that were opened. -/
inductive Unfinished [Complaint] {m : Type → Type} [Monad m] {W : Type} [Runs m W]
    (look : m Environment) (line : CommandLine) (n : Nat) : Nat → Stage → List Act → Prop where
  | between : Unfinished look line n n .between []
  | ready {env : Environment} : Found look env → Unfinished look line n n (.ready env) [.read env]
  | serving {env : Environment} {p q : Provider} {box : Mailbox} :
      Found look env → MadeBy line env p → p.SameMain q →
      Unfinished look line n (n + 1) (.serving env q box) [.read env, .opened (n + 1) p]
  | leaving {env : Environment} {p q : Provider} {signal : Signal} :
      Found look env → MadeBy line env p → p.SameMain q →
      Unfinished look line n (n + 1) (.leaving env q signal)
        [.read env, .opened (n + 1) p, .took (n + 1) signal]
  | failed {env : Environment} {e : SessionEnd} : Found look env →
      Unfinished look line n n (.ended e) [.read env, .failed e]
  | interrupted {env : Environment} {p q : Provider} :
      Found look env → MadeBy line env p → p.SameMain q → q.mainManager.isClosed = true →
      Unfinished look line n (n + 1) (.ended .interrupted)
        [.read env, .opened (n + 1) p, .took (n + 1) .interrupt, .closed (n + 1) q]

/-- The acts of the session itself. -/
def own (acts : List Act) : List Act := acts.filter Act.isOwn

theorem own_append (acts acts' : List Act) : own (acts ++ acts') = own acts ++ own acts' :=
  List.filter_append ..

/-- What a session has done by itself: so many whole rounds, and what is left. -/
def Done [Complaint] {m : Type → Type} [Monad m] {W : Type} [Runs m W]
    (look : m Environment) (line : CommandLine) (count : Nat) (stage : Stage)
    (acts : List Act) : Prop :=
  ∃ n whole rest, acts = whole ++ rest ∧ Rounds look line n whole ∧
    Unfinished look line n count stage rest

/-- One more act goes on with what the session has done. -/
theorem State.Step.done [Complaint] (h : State.Step look line s x s')
    (hs : Done look line s.count s.stage acts) :
    Done look line s'.count s'.stage (acts ++ own [x]) := by
  obtain ⟨n, whole, rest, rfl, hwhole, hrest⟩ := hs
  cases h with
  | elsewhere w' => exact ⟨n, whole, rest, by simp [own, Act.isOwn], hwhole, hrest⟩
  | called =>
    refine ⟨n, whole, rest, by simp [own, Act.isOwn], hwhole, ?_⟩
    cases hrest with
    | serving hfound hmade hsame => exact .serving hfound hmade hsame
  | unheard => exact ⟨n, whole, rest, by simp [own, Act.isOwn], hwhole, hrest⟩
  | worked hworked =>
    refine ⟨n, whole, rest, by simp [own, Act.isOwn], hwhole, ?_⟩
    cases hrest with
    | serving hfound hmade hsame => exact .serving hfound hmade (hsame.trans hworked)
  | @read w w' count env hread =>
    cases hrest with
    | between =>
      exact ⟨_, whole, [.read env], by simp [own, Act.isOwn], hwhole, .ready ⟨w, by rw [hread]⟩⟩
  | @opened w w' count env p hmake =>
    cases hrest with
    | ready hfound =>
      exact ⟨_, whole, [.read env, .opened (count + 1) p], by simp [own, Act.isOwn], hwhole,
        .serving hfound (madeBy_of_make hmake) (.refl p)⟩
  | @failed w w' count env e hmake =>
    cases hrest with
    | ready hfound =>
      exact ⟨_, whole, [.read env, .failed e], by simp [own, Act.isOwn], hwhole, .failed hfound⟩
  | reloaded htake =>
    cases hrest with
    | serving hfound hmade hsame =>
      exact ⟨n, whole, _, by simp [own, Act.isOwn], hwhole, .leaving hfound hmade hsame⟩
  | interrupted =>
    cases hrest with
    | serving hfound hmade hsame =>
      exact ⟨n, whole, _, by simp [own, Act.isOwn], hwhole, .leaving hfound hmade hsame⟩
  | @closed w count env q signal =>
    cases hrest with
    | leaving hfound hmade hsame =>
      have hclosed := hsame.trans (.close q)
      cases signal with
      | reload =>
        exact ⟨n + 1, _, [], by simp [own, Act.isOwn],
          .more hwhole hfound hmade hclosed (Provider.isClosed_close q), .between⟩
      | interrupt =>
        exact ⟨n, whole, _, by simp [own, Act.isOwn], hwhole,
          .interrupted hfound hmade hclosed (Provider.isClosed_close q)⟩

theorem done_of_run [Complaint] (h : State.Run look line (.start w) acts s) :
    Done look line s.count s.stage (own acts) := by
  refine Steps.concat_induction
    (motive := fun acts s _ => Done look line s.count s.stage (own acts)) ?_ ?_ h
  · exact ⟨0, [], [], rfl, .none, .between⟩
  · intro acts s x s' _ hx ih
    rw [own_append]
    exact hx.done ih

/-- A provider is opened when none is open, from what the session has just read. -/
theorem opened_of_run [Complaint] {pre post : List Act} {n : Nat} {p : Provider}
    (h : State.Run look line (.start w) (pre ++ .opened n p :: post) s) :
    held pre = [] ∧
      ∃ env, (own pre).getLast? = some (.read env) ∧ Found look env ∧ MadeBy line env p := by
  obtain ⟨s₁, hpre, hpost⟩ := h.split
  have hheld := held_eq hpre
  obtain ⟨k, whole, rest, hown, -, hrest⟩ := done_of_run hpre
  cases hpost with
  | step hx _ =>
    cases hx with
    | opened hmake =>
      refine ⟨hheld, ?_⟩
      cases hrest with
      | ready hfound => exact ⟨_, by simp [hown], hfound, madeBy_of_make hmake⟩

/-- While a provider is served it is the last one that was opened, and there has been a call for it
if one waits. -/
theorem served_of_run [Complaint] (h : State.Run look line (.start w) acts s) :
    ∀ {env p box}, s.stage = .serving env p box →
      ∃ before q since, acts = before ++ .opened s.count q :: since ∧
        (0 < box.calls → .called s.count ∈ since) := by
  refine Steps.concat_induction (motive := fun acts s _ => ∀ {env p box},
    s.stage = .serving env p box → ∃ before q since, acts = before ++ .opened s.count q :: since ∧
      (0 < box.calls → .called s.count ∈ since)) (fun hs => by cases hs) ?_ h
  intro acts s x s' _ hx ih env p box hs
  -- any act but an opening goes on with what was there
  have hgo : ∀ {env' p' box'}, s.stage = .serving env' p' box' → s'.count = s.count →
      (0 < box.calls → 0 < box'.calls ∨ x = .called s.count) →
      ∃ before q since, acts ++ [x] = before ++ .opened s'.count q :: since ∧
        (0 < box.calls → .called s'.count ∈ since) := by
    intro env' p' box' hserving hcount hwaits
    obtain ⟨before, q, since, rfl, hcalled⟩ := ih hserving
    refine ⟨before, q, since ++ [x], by rw [hcount]; simp, fun hcalls => ?_⟩
    rw [hcount]
    rcases hwaits hcalls with hbefore | rfl
    · exact List.mem_append_left _ (hcalled hbefore)
    · simp
  cases hx with
  | elsewhere w' => exact hgo hs rfl Or.inl
  | called => exact hgo rfl rfl fun _ => Or.inr rfl
  | unheard => exact hgo hs rfl Or.inl
  | worked =>
    cases hs
    exact hgo rfl rfl Or.inl
  | opened =>
    cases hs
    exact ⟨acts, _, [], rfl, fun hcalls => absurd hcalls (Nat.lt_irrefl 0)⟩
  | @closed _ _ _ _ signal => cases signal <;> cases hs
  | _ => cases hs

/-- A reload is taken for a call that came while its provider was served. -/
theorem called_of_reloaded [Complaint] {pre post : List Act} {n : Nat}
    (h : State.Run look line (.start w) (pre ++ .took n .reload :: post) s) :
    ∃ before p since, pre = before ++ .opened n p :: since ∧ .called n ∈ since := by
  obtain ⟨s₁, hpre, hpost⟩ := h.split
  cases hpost with
  | step hx _ =>
    cases hx with
    | reloaded htake =>
      obtain ⟨before, p, since, happ, hcalled⟩ := served_of_run hpre rfl
      exact ⟨before, p, since, happ, hcalled (Mailbox.exists_take?_iff.mp ⟨_, htake⟩)⟩

/-! ## Calls that wait -/

namespace Stage

variable {stage stage' stage'' : Stage}

theorem Stays.trans (h : Stays stage stage') (h' : Stays stage' stage'') : Stays stage stage'' := by
  cases h with
  | same => exact h'
  | served hsame hcalls => cases h' with
    | same => exact .served hsame hcalls
    | served hsame' hcalls' => exact .served (hsame.trans hsame') fun h => hcalls' (hcalls h)

theorem Stays.eq (h : Stays stage stage') (hs : ¬stage.IsServing) : stage' = stage := by
  cases h with
  | same => rfl
  | served => exact absurd trivial hs

theorem Stays.isServing (h : Stays stage stage') (hs : stage.IsServing) : stage'.IsServing := by
  cases h with
  | same => exact hs
  | served => exact trivial

theorem IsServing.exists_eq (h : stage.IsServing) : ∃ env p box, stage = .serving env p box := by
  cases stage with
  | serving env p box => exact ⟨env, p, box, rfl⟩
  | _ => exact h.elim

theorem Stays.due (h : Stays stage stage') (hdue : stage.Due) : stage'.Due := by
  cases h with
  | same => exact hdue
  | served _ hcalls => exact hcalls hdue

end Stage

namespace State.Step

variable [Complaint]

/-- What is not an act of the session itself leaves it where it is, and takes no call. -/
theorem stays (h : State.Step look line s x s') (hx : x.isOwn = false) :
    s'.count = s.count ∧ s.stage.Stays s'.stage := by
  cases h with
  | elsewhere w' => exact ⟨rfl, .same⟩
  | called => exact ⟨rfl, .served (.refl _) fun _ => Mailbox.calls_leave_pos _⟩
  | unheard => exact ⟨rfl, .same⟩
  | worked hsame => exact ⟨rfl, .served hsame id⟩
  | _ => cases hx

theorem due_of_called (h : State.Step look line s (.called s.count) s') (hs : s.stage.IsServing) :
    s'.stage.Due := by
  cases h with
  | called => exact Mailbox.calls_leave_pos _
  | unheard hlate =>
    rcases hlate with hlt | ⟨-, hnot⟩
    · exact absurd hlt (Nat.lt_irrefl _)
    · exact absurd hs hnot

variable {env : Environment} {p : Provider} {box : Mailbox} {signal : Signal}

theorem own_of_between (h : State.Step look line s x s') (hx : x.isOwn = true)
    (hs : s.stage = .between) :
    ∃ env, x = .read env ∧ s'.count = s.count ∧ s'.stage = .ready env := by
  cases h with
  | read => exact ⟨_, rfl, rfl, rfl⟩
  | elsewhere | called | unheard | worked => cases hx
  | _ => cases hs

theorem own_of_ready (h : State.Step look line s x s') (hx : x.isOwn = true)
    (hs : s.stage = .ready env) :
    (∃ p, x = .opened (s.count + 1) p) ∨ ∃ e, x = .failed e := by
  cases h with
  | opened => exact Or.inl ⟨_, rfl⟩
  | failed => exact Or.inr ⟨_, rfl⟩
  | elsewhere | called | unheard | worked => cases hx
  | _ => cases hs

theorem own_of_serving (h : State.Step look line s x s') (hx : x.isOwn = true)
    (hs : s.stage = .serving env p box) :
    ∃ signal, x = .took s.count signal ∧ s'.count = s.count ∧
      s'.stage = .leaving env p signal := by
  cases h with
  | reloaded =>
    cases hs
    exact ⟨_, rfl, rfl, rfl⟩
  | interrupted =>
    cases hs
    exact ⟨_, rfl, rfl, rfl⟩
  | elsewhere | called | unheard | worked => cases hx
  | _ => cases hs

theorem own_of_leaving (h : State.Step look line s x s') (hx : x.isOwn = true)
    (hs : s.stage = .leaving env p signal) :
    x = .closed s.count p.close ∧ s'.count = s.count ∧ s'.stage = .ofEnd (endAfter signal) := by
  cases h with
  | closed =>
    cases hs
    exact ⟨rfl, rfl, rfl⟩
  | elsewhere | called | unheard | worked => cases hx
  | _ => cases hs

end State.Step

/-! ## Endless runs -/

/-- What a session does by itself from one moment to another. -/
def ownFrom (acts : Nat → Act) (k l : Nat) : List Act := own ((List.range' k (l - k)).map acts)

/-- A run that never ends.  What the session can do by itself does not wait for ever. -/
structure Endless [Complaint] (look : m Environment) (line : CommandLine) (acts : Nat → Act)
    (states : Nat → State W) : Prop where
  step (k : Nat) : State.Step look line (states k) (acts k) (states (k + 1))
  fair (k : Nat) : (∀ j, k ≤ j → (states j).stage.Due) → ∃ j, k ≤ j ∧ (acts j).isOwn = true

/-- From a call on, a session takes one signal by itself.  If that is a reload, it closes the
provider and opens another, unless that cannot be made.  It does nothing else until then. -/
def ReloadsOnce (acts : Nat → Act) (k n : Nat) : Prop :=
  ∃ l q, ownFrom acts k l = [.took n .interrupt, .closed n q] ∨
    ∃ env x, ownFrom acts k l = [.took n .reload, .closed n q, .read env, x] ∧
      ((∃ p, x = .opened (n + 1) p) ∨ ∃ e, x = .failed e)

theorem ownFrom_append (acts : Nat → Act) {k l j : Nat} (hkl : k ≤ l) (hlj : l ≤ j) :
    ownFrom acts k j = ownFrom acts k l ++ ownFrom acts l j := by
  have hrange : List.range' k (j - k) = List.range' k (l - k) ++ List.range' l (j - l) := by
    have hsplit : j - k = (l - k) + (j - l) := by omega
    have hstart : k + 1 * (l - k) = l := by omega
    rw [hsplit, ← List.range'_append, hstart]
  rw [ownFrom, hrange, List.map_append, own_append, ownFrom, ownFrom]

theorem ownFrom_eq_nil {acts : Nat → Act} {k l : Nat}
    (h : ∀ i, k ≤ i → i < l → (acts i).isOwn = false) : ownFrom acts k l = [] := by
  refine List.filter_eq_nil_iff.mpr fun x hx hown => ?_
  obtain ⟨i, hi, rfl⟩ := List.mem_map.mp hx
  rw [List.mem_range'_1] at hi
  exact absurd (h i hi.1 (by omega)) (by simp [hown])

namespace Endless

variable [Complaint] {acts : Nat → Act} {states : Nat → State W} {k : Nat}

/-- Without an act of its own a session stays where it is. -/
theorem stays (h : Endless look line acts states) {l : Nat} (hkl : k ≤ l)
    (hquiet : ∀ i, k ≤ i → i < l → (acts i).isOwn = false) :
    (states l).count = (states k).count ∧ (states k).stage.Stays (states l).stage := by
  induction l, hkl using Nat.le_induction with
  | base => exact ⟨rfl, .same⟩
  | succ l hkl ih =>
    obtain ⟨hcount, hstays⟩ := ih fun i hki hil => hquiet i hki (Nat.lt_succ_of_lt hil)
    obtain ⟨hcount', hstays'⟩ := (h.step l).stays (hquiet l hkl (Nat.lt_succ_self l))
    exact ⟨hcount'.trans hcount, hstays.trans hstays'⟩

/-- What a session can do by itself comes, and until then it stays where it is. -/
theorem exists_own (h : Endless look line acts states) (hdue : (states k).stage.Due) :
    ∃ l, k ≤ l ∧ (acts l).isOwn = true ∧ ownFrom acts k (l + 1) = [acts l] ∧
      (states l).count = (states k).count ∧ (states k).stage.Stays (states l).stage := by
  have hsome : ∃ l, k ≤ l ∧ (acts l).isOwn = true := by
    by_contra hnone
    have hquiet : ∀ i, k ≤ i → (acts i).isOwn = false := fun i hi =>
      Bool.eq_false_iff.mpr fun hown => hnone ⟨i, hi, hown⟩
    exact hnone (h.fair k fun j hj => (h.stays hj fun i hi _ => hquiet i hi).2.due hdue)
  have hquiet : ∀ i, k ≤ i → i < Nat.find hsome → (acts i).isOwn = false := fun i hi hlt =>
    Bool.eq_false_iff.mpr fun hown => Nat.find_min hsome hlt ⟨hi, hown⟩
  obtain ⟨hle, hown⟩ := Nat.find_spec hsome
  obtain ⟨hcount, hstays⟩ := h.stays hle hquiet
  refine ⟨Nat.find hsome, hle, hown, ?_, hcount, hstays⟩
  rw [ownFrom_append acts hle (Nat.le_succ _), ownFrom_eq_nil hquiet]
  simp [ownFrom, own, hown]

/-- The same where no provider is served: nothing about the session changes until then. -/
theorem exists_own_of_not_isServing (h : Endless look line acts states) {stage : Stage} {n : Nat}
    (hcount : (states k).count = n) (hstage : (states k).stage = stage) (hdue : stage.Due)
    (hnot : ¬stage.IsServing) :
    ∃ l, k ≤ l ∧ (acts l).isOwn = true ∧ ownFrom acts k (l + 1) = [acts l] ∧
      (states l).count = n ∧ (states l).stage = stage := by
  subst hstage
  obtain ⟨l, hkl, hown, hfrom, hcount', hstays⟩ := h.exists_own hdue
  exact ⟨l, hkl, hown, hfrom, hcount'.trans hcount, hstays.eq hnot⟩

/-- After a signal the provider is closed, and after a reload another one is opened, if it can be
made.  The session does nothing else. -/
theorem goes_on (h : Endless look line acts states) {n : Nat} {env : Environment} {p : Provider}
    {signal : Signal} (hcount : (states k).count = n)
    (hstage : (states k).stage = .leaving env p signal) :
    ∃ l q, k ≤ l ∧ match signal with
      | .interrupt => ownFrom acts k l = [.closed n q]
      | .reload => ∃ env x, ownFrom acts k l = [.closed n q, .read env, x] ∧
          ((∃ p, x = .opened (n + 1) p) ∨ ∃ e, x = .failed e) := by
  obtain ⟨l₁, hk₁, hown₁, hfrom₁, hcount₁, hstage₁⟩ :=
    h.exists_own_of_not_isServing hcount hstage trivial id
  obtain ⟨hclosed, hcount₁', hafter⟩ := (h.step l₁).own_of_leaving hown₁ hstage₁
  rw [hcount₁] at hclosed hcount₁'
  cases signal with
  | interrupt => exact ⟨l₁ + 1, p.close, by omega, by rw [hfrom₁, hclosed]⟩
  | reload =>
    obtain ⟨l₂, hk₂, hown₂, hfrom₂, hcount₂, hstage₂⟩ :=
      h.exists_own_of_not_isServing hcount₁' hafter trivial id
    obtain ⟨env', hread, hcount₂', hready⟩ := (h.step l₂).own_of_between hown₂ hstage₂
    rw [hcount₂] at hcount₂'
    obtain ⟨l₃, hk₃, hown₃, hfrom₃, hcount₃, hstage₃⟩ :=
      h.exists_own_of_not_isServing hcount₂' hready trivial id
    have hmade := (h.step l₃).own_of_ready hown₃ hstage₃
    rw [hcount₃] at hmade
    refine ⟨l₃ + 1, p.close, by omega, env', acts l₃, ?_, hmade⟩
    rw [ownFrom_append acts (Nat.le_succ_of_le hk₁) (by omega : l₁ + 1 ≤ l₃ + 1),
      ownFrom_append acts (Nat.le_succ_of_le hk₂) (by omega : l₂ + 1 ≤ l₃ + 1), hfrom₁, hfrom₂,
      hfrom₃, hclosed, hread]
    rfl

/-- A call for the provider that is served brings about one reload, unless the session is
interrupted first. -/
theorem reloads_once (h : Endless look line acts states) {n : Nat} (hcount : (states k).count = n)
    (hserving : (states k).stage.IsServing) (hcall : acts k = .called n) :
    ReloadsOnce acts k n := by
  have hquiet : (acts k).isOwn = false := by rw [hcall]; rfl
  obtain ⟨hcount₁, hstays₁⟩ := (h.step k).stays hquiet
  have hstep := h.step k
  rw [hcall, ← hcount] at hstep
  obtain ⟨l, hkl, hown, hfrom, hcount₂, hstays₂⟩ := h.exists_own (hstep.due_of_called hserving)
  obtain ⟨env, p, box, hstage⟩ := (hstays₂.isServing (hstays₁.isServing hserving)).exists_eq
  obtain ⟨signal, htook, hcount₃, hleaving⟩ := (h.step l).own_of_serving hown hstage
  have hn : (states l).count = n := hcount₂.trans (hcount₁.trans hcount)
  rw [hn] at htook hcount₃
  obtain ⟨l', q, hle, hrest⟩ := h.goes_on hcount₃ hleaving
  have hall : ownFrom acts k l' = .took n signal :: ownFrom acts (l + 1) l' := by
    have hnone : ownFrom acts k (k + 1) = [] := ownFrom_eq_nil fun i hki hik => by
      rwa [show i = k by omega]
    rw [ownFrom_append acts (Nat.le_succ k) (by omega : k + 1 ≤ l'), hnone, List.nil_append,
      ownFrom_append acts (by omega : k + 1 ≤ l + 1) hle, hfrom, htook]
    rfl
  cases signal with
  | interrupt => exact ⟨l', q, Or.inl (by rw [hall, hrest])⟩
  | reload =>
    obtain ⟨env', x, hfrom', hx⟩ := hrest
    exact ⟨l', q, Or.inr ⟨env', x, by rw [hall, hfrom'], hx⟩⟩

end Endless

/-! ## Sessions that run -/

variable [Complaint]

/-- A round, and what the session does in it, if so many providers were opened before. -/
def roundHistory (around : Surroundings m) (line : CommandLine) (n : Nat) :
    m (List Act × Option SessionEnd) := do
  let env ← around.environment
  match ← make line env with
  | .error e => pure ([.read env, .failed e], some e)
  | .ok p =>
      around.announce p
      let now ← Clock.now
      let (signal, q) ← (around.serve env).run (p.startWatching env now)
      around.dismiss q.close
      pure ([.read env, .opened (n + 1) p, .took (n + 1) signal, .closed (n + 1) q.close],
        endAfter signal)

/-- So many rounds at most, and what the session does in them. -/
def history (around : Surroundings m) (line : CommandLine) :
    Nat → Nat → m (List Act × Option SessionEnd)
  | 0, _ => pure ([], none)
  | limit + 1, n => do
      let (acts, ending) ← roundHistory around line n
      match ending with
      | some e => pure (acts, some e)
      | none =>
          let (rest, ending) ← history around line limit (n + 1)
          pure (acts ++ rest, ending)

/-- A provider that is served until a signal comes is closed then. -/
theorem exists_run_of_signal (look : m Environment) (line : CommandLine) (env : Environment)
    {p q : Provider} (hsame : p.SameMain q) (signal : Signal) (w w' : W) (n : Nat) :
    ∃ acts, State.Run look line ⟨w, n, .serving env p {}⟩ acts ⟨w', n, .ofEnd (endAfter signal)⟩ ∧
      own acts = [.took n signal, .closed n q.close] := by
  have hclosed : State.Run look line (⟨w', n, .leaving env q signal⟩ : State W) [.closed n q.close]
      ⟨w', n, .ofEnd (endAfter signal)⟩ := .step .closed .done
  cases signal with
  | interrupt => exact ⟨_, .step (.worked hsame) (.step .interrupted hclosed), rfl⟩
  | reload =>
    obtain ⟨rest, htake⟩ := Mailbox.exists_take?_iff.mpr (Mailbox.calls_leave_pos {})
    exact ⟨_, .step (.worked hsame) (.step .called (.step (.reloaded htake) hclosed)), rfl⟩

/-- What a round does in any surroundings is a run.  A round that is followed by another has opened
a provider. -/
theorem exists_run_of_round {around : Surroundings m} (hserve : around.Faithful)
    (line : CommandLine) (w : W) (n : Nat) :
    ∃ acts n', State.Run around.environment line ⟨w, n, .between⟩ acts
        ⟨(Runs.run (round around line) w).2, n', .ofEnd (Runs.run (round around line) w).1⟩ ∧
      Runs.run (roundHistory around line n) w =
        ((own acts, (Runs.run (round around line) w).1), (Runs.run (round around line) w).2) ∧
      ((Runs.run (round around line) w).1 = none → n' = n + 1) := by
  rcases hread : Runs.run around.environment w with ⟨env, w₁⟩
  rcases hmake : Runs.run (make (m := m) line env) w₁ with ⟨made, w₂⟩
  rw [round, roundHistory, Runs.bind_of hread, Runs.bind_of hread, Runs.bind_of hmake,
    Runs.bind_of hmake]
  cases made with
  | error e =>
    dsimp only
    rw [Runs.run_pure, Runs.run_pure]
    exact ⟨[.read env, .failed e], n, .step (.read hread) (.step (.failed hmake) .done), rfl,
      fun h => by cases h⟩
  | ok p =>
    simp only [Runs.run_bind, Runs.run_pure]
    generalize Runs.run (Clock.now : m Nat) (Runs.run (around.announce p) w₂).2 = now
    have hkept := hserve env (p.startWatching env now.1) now.2
    rw [Runs.run_stateT] at hkept
    generalize Runs.run ((around.serve env).run (p.startWatching env now.1)) now.2 = served
      at hkept ⊢
    obtain ⟨⟨signal, q⟩, w₃⟩ := served
    dsimp only at hkept ⊢
    obtain ⟨acts, hacts, hown⟩ := exists_run_of_signal around.environment line env
      ((Provider.SameMain.startWatching env now.1 p).trans hkept) signal w₂
      (Runs.run (around.dismiss q.close) w₃).2 (n + 1)
    have hall : own (.read env :: .opened (n + 1) p :: acts) =
        [.read env, .opened (n + 1) p, .took (n + 1) signal, .closed (n + 1) q.close] := by
      show own ([.read env, .opened (n + 1) p] ++ acts) = _
      rw [own_append, hown]
      rfl
    refine ⟨.read env :: .opened (n + 1) p :: acts, n + 1, .step (.read hread) ?_, ?_,
      fun _ => rfl⟩
    · cases signal with
      | reload => exact .step (.opened hmake) hacts
      | interrupt => exact .step (.opened hmake) hacts
    · rw [hall]
      cases signal with
      | reload => rfl
      | interrupt => rfl

/-- What a session does in any surroundings is a run. -/
theorem exists_run_of_run {around : Surroundings m} (hserve : around.Faithful)
    (line : CommandLine) (limit : Nat) (w : W) (n : Nat) :
    ∃ acts n', State.Run around.environment line ⟨w, n, .between⟩ acts
        ⟨(Runs.run (run around line limit) w).2, n',
          .ofEnd (Runs.run (run around line limit) w).1⟩ ∧
      Runs.run (history around line limit n) w =
        ((own acts, (Runs.run (run around line limit) w).1),
          (Runs.run (run around line limit) w).2) := by
  induction limit generalizing w n with
  | zero =>
    rw [run, history, Runs.run_pure, Runs.run_pure]
    exact ⟨[], n, .done, rfl⟩
  | succ limit ih =>
    obtain ⟨acts, n', hround, hhistory, hnext⟩ := exists_run_of_round hserve line w n
    rw [run, history, Runs.run_bind, Runs.run_bind, hhistory]
    generalize Runs.run (round around line) w = done at hround hnext ⊢
    obtain ⟨ending, w'⟩ := done
    cases ending with
    | some e =>
      dsimp only
      rw [Runs.run_pure, Runs.run_pure]
      exact ⟨acts, n', hround, rfl⟩
    | none =>
      obtain rfl := hnext rfl
      obtain ⟨acts', n'', hrest, hhistory'⟩ := ih w' (n + 1)
      refine ⟨acts ++ acts', n'', hround.append hrest, ?_⟩
      dsimp only
      rw [Runs.bind_of hhistory', Runs.run_pure, own_append]

end

/-! ## Reloads -/

/-- How a session goes on, whatever happens to it. -/
structure InOrder [Complaint] {m : Type → Type} [Monad m] {W : Type} [Runs m W]
    (look : m Environment) (line : CommandLine) (acts : List Act) (s : State W) : Prop where
  /-- What it has done are whole rounds, and perhaps the beginning of another. -/
  done : Done look line s.count s.stage (own acts)
  /-- At most one provider is open. -/
  one_open : (held acts).length ≤ 1
  /-- A provider is opened when all others are closed, and it is made of the files as they have just
  been read, with the command line applied to what they say. -/
  opened {pre post : List Act} {n : Nat} {p : Provider} : acts = pre ++ .opened n p :: post →
    held pre = [] ∧
      ∃ env, (own pre).getLast? = some (.read env) ∧ Found look env ∧ MadeBy line env p
  /-- So it is as long as it is served. -/
  serving {env : Environment} {p : Provider} {box : Mailbox} : s.stage = .serving env p box →
    MadeBy line env p
  /-- A session that is over has closed what it has opened. -/
  ended {e : SessionEnd} : s.stage = .ended e → held acts = []
  /-- A reload is taken for a call that came while its provider was served. -/
  called {pre post : List Act} {n : Nat} : acts = pre ++ .took n .reload :: post →
    ∃ before p since, pre = before ++ .opened n p :: since ∧ .called n ∈ since

section

variable {m : Type → Type} [Monad m] [Network m] {W : Type} [Runs m W]

theorem inOrder [Complaint] {look : m Environment} {line : CommandLine} {w : W}
    {acts : List Act} {s : State W} (h : State.Run look line (.start w) acts s) :
    InOrder look line acts s where
  done := done_of_run h
  one_open := length_held_le h
  opened hacts := by
    subst hacts
    exact opened_of_run h
  serving hs := by
    obtain ⟨n, whole, rest, -, -, hrest⟩ := done_of_run h
    generalize s.count = count at hrest
    rw [hs] at hrest
    cases hrest with
    | serving _ hmade hsame => exact hsame.madeBy hmade
  ended hs := by rw [held_eq h, hs, Stage.held]
  called hacts := by
    subst hacts
    exact called_of_reloaded h

/-- What is due can be done. -/
theorem exists_step_of_due [Complaint] (look : m Environment) (line : CommandLine) {s : State W}
    (hdue : s.stage.Due) : ∃ x s', x.isOwn = true ∧ State.Step look line s x s' := by
  obtain ⟨w, n, stage⟩ := s
  cases stage with
  | between => exact ⟨_, _, rfl, .read rfl⟩
  | ready env =>
    cases hmake : Runs.run (make (m := m) line env) w with
    | mk made w' =>
    cases made with
    | error e => exact ⟨_, _, rfl, .failed hmake⟩
    | ok p => exact ⟨_, _, rfl, .opened hmake⟩
  | serving env p box =>
    obtain ⟨rest, htake⟩ := Mailbox.exists_take?_iff.mpr hdue
    exact ⟨_, _, rfl, .reloaded htake⟩
  | leaving env p signal => exact ⟨_, _, rfl, .closed⟩
  | ended e => exact hdue.elim

end

/-- Whatever happens to a session, at most one provider is open, each is made of the files as they
were read for it and of the command line, and each is closed before the next is opened and before
the session is over.  Any number of calls while a provider is served bring about one reload, and not
none.  This holds of all that sessions do in any surroundings. -/
theorem sessions_reload_in_order [Complaint] (m : Type → Type) [Monad m] [Network m] {W : Type}
    [Runs m W] (line : CommandLine) :
    (∀ (look : m Environment) (w : W) (acts : List Act) (s : State W),
      State.Run look line (.start w) acts s → InOrder look line acts s) ∧
    (∀ (look : m Environment) (s : State W), s.stage.Due →
      ∃ x s', x.isOwn = true ∧ State.Step look line s x s') ∧
    (∀ (look : m Environment) (acts : Nat → Act) (states : Nat → State W) (k n : Nat),
      Endless look line acts states → (states k).count = n → (states k).stage.IsServing →
      acts k = .called n → ReloadsOnce acts k n) ∧
    ∀ (around : Surroundings m) (limit : Nat) (w : W), around.Faithful →
      ∃ acts n, State.Run around.environment line (.start w) acts
          ⟨(Runs.run (run around line limit) w).2, n,
            .ofEnd (Runs.run (run around line limit) w).1⟩ ∧
        Runs.run (history around line limit 0) w =
          ((own acts, (Runs.run (run around line limit) w).1),
            (Runs.run (run around line limit) w).2) :=
  ⟨fun _ _ _ _ h => inOrder h, fun look _ hdue => exists_step_of_due look line hdue,
    fun _ _ _ _ _ h hcount hserving hcall => h.reloads_once hcount hserving hcall,
    fun _ limit w hserve => exists_run_of_run hserve line limit w 0⟩

/-! ### A gate in a pod -/

/-- A pod in which a file turns tokens off. -/
def podEnvironment : Environment where
  files := ⟨"/", [(["gate.toml"], some "require_oauth = false\n"),
    (["var", "run", "secrets", "kubernetes.io", "serviceaccount", "ca.crt"], some ""),
    (["var", "run", "secrets", "kubernetes.io", "serviceaccount", "namespace"], some "gate"),
    (["var", "run", "secrets", "kubernetes.io", "serviceaccount", "token"], some "t")]⟩
  runsInCluster := true

/-- A command line that requires tokens. -/
def podLine : CommandLine :=
  { config := some "gate.toml", strategy := some Strategy.inCluster, requireOauth := true }

/-- It can be opened, since a pod knows how to reach its cluster. -/
theorem exists_make_podLine :
    ∃ p, Runs.run (make (m := Served) podLine podEnvironment) () = (.ok p, ()) := by
  have hopens : (podLine.settings podEnvironment.files).toOption.any (fun settings =>
      settings.resolvedStrategy podEnvironment.runsInCluster == Strategy.inCluster &&
        (SingleProvider.create podEnvironment settings ValidatorRegistry.standard.values
          Strategy.inCluster).isOk) = true := by decide +kernel
  have hresolve : ProviderRegistry.standard.resolve Strategy.inCluster = .ok .single :=
    ProviderRegistry.resolve_standard_iff.mpr (by simp [ProviderRegistry.strategies])
  cases hsettings : podLine.settings podEnvironment.files with
  | error e =>
    rw [hsettings] at hopens
    cases hopens
  | ok settings =>
    rw [hsettings, Except.toOption, Option.any_some, Bool.and_eq_true, beq_iff_eq] at hopens
    obtain ⟨hstrategy, hopens⟩ := hopens
    cases hcreate : SingleProvider.create podEnvironment settings ValidatorRegistry.standard.values
        Strategy.inCluster with
    | error e =>
      rw [hcreate] at hopens
      cases hopens
    | ok q =>
      have hprovider : Runs.run (Provider.create (m := Served) ProviderRegistry.standard
          podEnvironment settings ValidatorRegistry.standard.values) () =
            (.ok (.single q), ()) := by
        unfold Provider.create
        dsimp only
        rw [hstrategy, hresolve, Runs.run_pure, hcreate]
        rfl
      refine ⟨.single q, ?_⟩
      unfold make
      rw [hsettings, Runs.bind_of hprovider, Runs.run_pure]
      rfl

/-- The gate in the pod is called once for a reload, and interrupted after it. -/
def podRun (p : Provider) : List (Act × State Unit) :=
  [(.read podEnvironment, ⟨(), 0, .between⟩),
    (.opened 1 p, ⟨(), 0, .ready podEnvironment⟩),
    (.called 1, ⟨(), 1, .serving podEnvironment p {}⟩),
    (.took 1 .reload, ⟨(), 1, .serving podEnvironment p ⟨1⟩⟩),
    (.closed 1 p.close, ⟨(), 1, .leaving podEnvironment p .reload⟩),
    (.read podEnvironment, ⟨(), 1, .between⟩),
    (.opened 2 p, ⟨(), 1, .ready podEnvironment⟩),
    (.took 2 .interrupt, ⟨(), 2, .serving podEnvironment p {}⟩),
    (.closed 2 p.close, ⟨(), 2, .leaving podEnvironment p .interrupt⟩)]

/-- Nothing of its own happens when it is over. -/
def podMoment (p : Provider) (k : Nat) : Act × State Unit :=
  (podRun p)[k]?.getD (.elsewhere, ⟨(), 2, .ended .interrupted⟩)

theorem endless_pod {p : Provider}
    (hmake : Runs.run (make (m := Served) podLine podEnvironment) () = (.ok p, ())) :
    Endless (m := Served) podEnvironment podLine (fun k => (podMoment p k).1)
      fun k => (podMoment p k).2 where
  step k := by
    match k with
    | 0 => exact .read rfl
    | 1 => exact .opened hmake
    | 2 => exact .called
    | 3 => exact .reloaded (show Mailbox.take? ⟨1⟩ = some {} from rfl)
    | 4 => exact .closed
    | 5 => exact .read rfl
    | 6 => exact .opened hmake
    | 7 => exact .interrupted
    | 8 => exact .closed
    | k + 9 => exact .elsewhere ()
  fair k hdue := (hdue (k + 9) (Nat.le_add_right k 9)).elim

/-- What is around the gate in the pod does not change, and it is interrupted at once. -/
def podSurroundings : Surroundings Served where
  environment := podEnvironment
  announce _ := pure ()
  serve _ := pure .interrupt
  dismiss _ := pure ()

theorem run_podSurroundings {p : Provider}
    (hmake : Runs.run (make (m := Served) podLine podEnvironment) () = (.ok p, ())) :
    Runs.run (run podSurroundings podLine 1) () = (some .interrupted, ()) := by
  have hround : Runs.run (round podSurroundings podLine) () = (some .interrupted, ()) := by
    have hread : Runs.run podSurroundings.environment () = (podEnvironment, ()) := rfl
    rw [round, Runs.bind_of hread, Runs.bind_of hmake]
    rfl
  rw [run, Runs.bind_of hround]
  rfl

/-- A call brings about one reload of the gate in the pod, and it still requires tokens. -/
theorem sessions_reload_in_order_pod :
    (∃ p acts, Endless (m := Served) podEnvironment podLine (fun k => (podMoment p k).1)
        (fun k => (podMoment p k).2) ∧
      ReloadsOnce (fun k => (podMoment p k).1) 2 1 ∧
      State.Run (m := Served) podEnvironment podLine (.start ()) acts (podMoment p 7).2 ∧
      InOrder (m := Served) podEnvironment podLine acts (podMoment p 7).2 ∧
      held acts = [2] ∧ p.mainManager.settings.requireOauth = true) ∧
    podSurroundings.Faithful ∧
    ∃ acts n, State.Run podSurroundings.environment podLine (.start ()) acts
        ⟨(), n, .ended .interrupted⟩ ∧ held acts = [] := by
  obtain ⟨horder, -, hreloads, hruns⟩ := sessions_reload_in_order Served podLine
  obtain ⟨p, hmake⟩ := exists_make_podLine
  have hendless := endless_pod hmake
  have hfaithful : podSurroundings.Faithful := fun _ p _ => .refl p
  refine ⟨?_, hfaithful, ?_⟩
  · have hrun : State.Run (m := Served) podEnvironment podLine (.start ())
        ((List.range 7).map fun k => (podMoment p k).1) (podMoment p 7).2 :=
      .step (hendless.step 0) (.step (hendless.step 1) (.step (hendless.step 2)
        (.step (hendless.step 3) (.step (hendless.step 4) (.step (hendless.step 5)
          (.step (hendless.step 6) .done))))))
    have hheld : InOrder (m := Served) podEnvironment podLine _ (podMoment p 7).2 :=
      horder podEnvironment () _ _ hrun
    exact ⟨p, _, hendless, hreloads podEnvironment _ _ 2 1 hendless rfl trivial rfl, hrun, hheld,
      rfl, (hheld.serving rfl).requireOauth rfl⟩
  · obtain ⟨acts, n, hrun, -⟩ := hruns podSurroundings 1 () hfaithful
    rw [run_podSurroundings hmake] at hrun
    exact ⟨acts, n, hrun, (horder _ () _ _ hrun).ended rfl⟩

end Session

end FleetGate
