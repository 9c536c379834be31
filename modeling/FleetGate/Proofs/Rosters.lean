import FleetGate.Proofs.Makes
import FleetGate.Proofs.Seats
import FleetGate.Proofs.Staffing

/-!
# Rosters of providers

The provider of a hub and that of a kubeconfig make managers in the same way.  Both look a target
up in slots, build a manager if its slot is empty, and claim the slot.  `LazyKind` says what all
this does to the slots.  The hub's are those of its topology (`HubProvider.lazyKind`), the
kubeconfig's those of its contexts (`ContextProvider.roster`, `ContextProvider.lazyKind`).
-/

namespace FleetGate

open FleetGate.Topology (Edit)

/-! ## Kinds of providers -/

/-- A kind of providers that make managers when they are needed.  All that is done with these is
done to the slots of a roster. -/
structure LazyKind where
  Provider : Type
  Seat : Type
  /-- What a target is called. -/
  parameter : String
  roster : Provider → Topology Manager
  /-- The seat of the manager that is there from the start. -/
  main : Seat
  other : String → Seat
  managerAt : Provider → Seat → Manager
  setManager : Manager → Provider → Seat → Provider
  lookup : Provider → String → Except FleetError (Seat × Bool)
  build : Provider → String → Except FleetError Manager
  seat : String → Manager → Provider → Except FleetError (Seat × Provider)
  /-- All that a call does if nothing comes between. -/
  seatOf : String → Provider → Except FleetError (Seat × Provider)
  /-- The edits that are made to the roster, and what they hand out to be closed. -/
  Edits : Edit → Provider → List Manager → Provider → Prop
  /-- No target comes or goes. -/
  isSteady : Prop
  other_ne_main (target : String) : other target ≠ main
  lookup_eq (p : Provider) (target : String) : lookup p target =
    match (roster p).find target with
    | .hub => .ok (main, true)
    | .held _ => .ok (other target, true)
    | .vacant => .ok (other target, false)
    | .unknown => .error (.unknownTarget parameter target)
  managerAt_eq {p : Provider} {target : String} {g : Manager} :
    (roster p).held? target = some g → managerAt p (other target) = g
  setManager_eq (g : Manager) (p : Provider) (target : String) :
    roster (setManager g p (other target)) = (roster p).update target g
  setManager_main {g : Manager} {p : Provider} :
    (managerAt p main).SameMake g → roster (setManager g p main) = roster p
  seat_eq {p : Provider} {target : String} {g held : Manager} {t : Topology Manager} :
    (roster p).claim target g = some (held, t) →
      ∃ q, seat target g p = .ok (other target, q) ∧ roster q = t
  seat_none {p : Provider} {target : String} {g : Manager} : ¬ isSteady →
    (roster p).claim target g = none →
      seat target g p = .error (.unknownTarget parameter target)
  seatOf_eq (target : String) (p : Provider) : seatOf target p =
    lookup p target >>= fun found =>
      if found.2 then .ok (found.1, p) else build p target >>= fun g => seat target g p
  edits_eq {e : Edit} {p q : Provider} {out : List Manager} : Edits e p out q →
    e.NamesOnce ∧ e.apply (roster p) = (out, roster q)
  steady_of_edits {e : Edit} {p q : Provider} {out : List Manager} : Edits e p out q →
    isSteady → (Section.edit e).Steady

/-! ## A hub -/

/-- What is heard of the clusters changes them, unless it ends the stream. -/
def WatchLine.edit? : WatchLine → Option Edit
  | .event (.added o) | .event (.modified o) => some (.upsert o)
  | .event (.deleted o) => some (.remove o)
  | .event (.bookmark version) => some (.note version)
  | .event (.failed _) | .failure _ => none

/-- An event that is taken up is one edit of the clusters, and hands out the managers that this edit
sends away. -/
theorem Membership.edit_of_deliver {μ : Type} {k k' : Membership μ} {line : WatchLine}
    {effect : Effect μ} (h : k.deliver line = .ok (effect, k')) :
    ∃ e : Edit, line.edit? = some e ∧ e.NamesOnce ∧
      e.apply k.topology = (effect.closes, k'.topology) := by
  match line with
  | .event (.added o) | .event (.modified o) | .event (.deleted o) | .event (.bookmark version) =>
    cases h
    exact ⟨_, rfl, trivial, rfl⟩
  | .event (.failed s) => cases h
  | .failure e => cases e <;> cases h

namespace HubProvider

/-- What is done to the clusters of a hub. -/
inductive Edits : Edit → HubProvider → List Manager → HubProvider → Prop where
  | delivered {p : HubProvider} {line : WatchLine} {effect : Membership.Effect Manager}
      {k : Membership Manager} {e : Edit} :
      p.membership.deliver line = .ok (effect, k) → line.edit? = some e →
      Edits e p effect.closes { p with membership := k }
  /-- A list names each cluster once. -/
  | relisted {p : HubProvider} (list : ApiList) : (ApiObject.names list.items).Nodup →
      Edits (.replace list.items (list.version?.getD "")) p (p.membership.relist list).1.closes
        { p with membership := (p.membership.relist list).2 }
  | forgotten {p : HubProvider} :
      Edits (.note "") p [] { p with membership := p.membership.forgetVersion }
  | watched {p : HubProvider} (now : Nat) : Edits .watch p [] (p.startWatching now)
  | closed {p : HubProvider} : Edits .drain p p.topology.drain.1 p.close

/-- To watch clusters is to say so, and changes none of them. -/
theorem topology_startWatching (p : HubProvider) (now : Nat) :
    (p.startWatching now).topology = { p.topology with isWatched := true } := by
  unfold startWatching
  dsimp only
  split
  · next hw => exact congrArg (fun isWatched => { p.topology with isWatched }) hw
  · rfl

/-- Whatever edits the clusters of a hub does to the slots what the edit says. -/
theorem Edits.apply_eq {e : Edit} {p q : HubProvider} {out : List Manager}
    (h : Edits e p out q) : e.NamesOnce ∧ e.apply p.topology = (out, q.topology) := by
  cases h with
  | delivered hd he =>
    obtain ⟨e', he', ho, happly⟩ := Membership.edit_of_deliver hd
    cases he.symm.trans he'
    exact ⟨ho, happly⟩
  | relisted list hd => exact ⟨hd, rfl⟩
  | forgotten => exact ⟨trivial, rfl⟩
  | watched now => exact ⟨trivial, by rw [topology_startWatching]; rfl⟩
  | closed => exact ⟨trivial, rfl⟩

theorem spoke_ne_hub (cluster : String) : Seat.spoke cluster ≠ .hub := nofun

/-- A call for a cluster looks it up, builds a manager if the slot is empty, and seats this manager.
-/
theorem seatOf_eq_bind (target : String) (p : HubProvider) : p.seatOf target =
    p.lookup target >>= fun found =>
      if found.2 then .ok (found.1, p) else p.build target >>= fun g => p.seat target g := by
  unfold seatOf
  cases p.build target <;> rcases p.lookup target with e | ⟨seat, _ | _⟩ <;> rfl

/-- The clusters of a hub have slots, except the hub. -/
def lazyKind : LazyKind where
  Provider := HubProvider
  Seat := Seat
  parameter := parameter
  roster := topology
  main := .hub
  other := .spoke
  managerAt := managerAt
  setManager := setManager
  lookup := lookup
  build := build
  seat := seat
  seatOf := seatOf
  Edits := Edits
  isSteady := False
  other_ne_main := spoke_ne_hub
  lookup_eq p target := by
    unfold lookup
    cases p.topology.find target <;> rfl
  managerAt_eq h := by rw [managerAt, h, Option.getD_some]
  setManager_eq g p target := rfl
  setManager_main _ := rfl
  seat_eq {p target g held t} h := ⟨p.setTopology t, by rw [seat, h], rfl⟩
  seat_none _ h := by rw [seat, h]
  seatOf_eq := seatOf_eq_bind
  edits_eq := Edits.apply_eq
  steady_of_edits _ := False.elim

end HubProvider

/-! ## A kubeconfig -/

namespace Fields

variable {α : Type} {key : String} {keys : List String} {fields : Fields α}

/-- A slot for each of some keys. -/
def slots (keys : List String) (fields : Fields α) : Fields (Option α) :=
  keys.map fun key => (key, get? key fields)

theorem keys_slots (keys : List String) (fields : Fields α) :
    (slots keys fields).map (·.1) = keys := by
  rw [slots, List.map_map]
  exact List.map_id _

theorem sorted_slots (h : keys.Pairwise (· < ·)) : Sorted (slots keys fields) := by
  rwa [Sorted, keys_slots]

/-- Every key has a slot, and it holds what the fields have under the key. -/
theorem get?_slots :
    get? key (slots keys fields) = if key ∈ keys then some (get? key fields) else none := by
  induction keys with
  | nil => rfl
  | cons first keys ih =>
    rw [slots, List.map_cons, get?]
    split
    · next he => rw [he, if_pos List.mem_cons_self]
    · next he =>
      rw [← slots, ih]
      simp only [List.mem_cons, Ne.symm he, false_or]

/-- A value under a key fills the slot of the key. -/
theorem slots_insert (h : keys.Pairwise (· < ·)) (hmem : key ∈ keys) (value : α) :
    slots keys (insert key value fields) = insert key (some value) (slots keys fields) := by
  refine (sorted_slots h).ext ((sorted_slots h).insert _ _) fun other => ?_
  by_cases he : other = key
  · subst he
    rw [get?_slots, if_pos hmem, get?_insert_self, get?_insert_self]
  · rw [get?_slots, get?_insert_ne he, get?_insert_ne he, get?_slots]

/-- A value under any other key shows nowhere. -/
theorem slots_insert_of_not_mem (hmem : key ∉ keys) (value : α) :
    slots keys (insert key value fields) = slots keys fields := by
  refine List.map_congr_left fun other hother => ?_
  have hne : other ≠ key := fun he => hmem (he ▸ hother)
  rw [get?_insert_ne hne]

end Fields

namespace ContextProvider

variable {p : ContextProvider} {context : String}

/-- The contexts of a kubeconfig, with a slot for the manager of each.  The current context has
a manager of its own. -/
def roster (p : ContextProvider) : Topology Manager where
  slots := Fields.slots p.targets p.others
  hub? := some p.defaultTarget

theorem names_roster (p : ContextProvider) : p.roster.names = p.targets := Fields.keys_slots _ _

/-- A slot holds the manager of its context, unless the kubeconfig has no such context. -/
theorem held?_roster (p : ContextProvider) (context : String) :
    p.roster.held? context =
      if context ∈ p.targets then Fields.get? context p.others else none := by
  rw [Topology.held?, roster, Fields.get?_slots]
  split <;> rfl

/-- A manager that is put at its seat fills the slot of its context. -/
theorem roster_setManager (g : Manager) (p : ContextProvider) (context : String) :
    (p.setManager g (.other context)).roster = p.roster.update context g := by
  unfold Topology.update
  split
  · next hhas =>
    have hmem : context ∈ p.targets := p.names_roster ▸ Topology.has_iff.mp hhas
    have hslots := @Fields.slots_insert _ context _ p.others p.targets_sorted hmem g
    exact congrArg (fun slots => { p.roster with slots }) hslots
  · next hhas =>
    have hmem : context ∉ p.targets := fun hmem =>
      hhas (Topology.has_iff.mpr (p.names_roster ▸ hmem))
    have hslots := @Fields.slots_insert_of_not_mem _ context _ p.others hmem g
    exact congrArg (fun slots => { p.roster with slots }) hslots

/-- The roster of a provider whose current manager has done something. -/
theorem roster_eq_of_sameMake {q : ContextProvider} (hk : q.kubeconfig = p.kubeconfig)
    (hg : p.current.SameMake q.current) :
    q.roster = { p.roster with slots := Fields.slots p.targets q.others } := by
  have htargets : q.targets = p.targets := by rw [targets, hk, targets]
  have hdefault : q.defaultTarget = p.defaultTarget :=
    congrArg Kubeconfig.currentName hg.kubeconfig_eq
  rw [roster, htargets, hdefault, roster]

/-- To close a provider empties its slots. -/
theorem roster_close (p : ContextProvider) : p.close.roster = p.roster.drain.2 := by
  rw [roster_eq_of_sameMake (p := p) (q := p.close) rfl (.close p.current)]
  have hslots : Fields.slots p.targets ([] : Fields Manager) =
      (Fields.slots p.targets p.others).map fun slot => (slot.1, none) := by
    rw [Fields.slots, Fields.slots, List.map_map]
    rfl
  exact congrArg (fun slots => { p.roster with slots }) hslots

/-- To look a target up is to find its slot. -/
theorem lookup_eq_find (p : ContextProvider) (target : String) :
    p.lookup target = match p.roster.find target with
      | .hub => .ok (.current, true)
      | .held _ => .ok (.other target, true)
      | .vacant => .ok (.other target, false)
      | .unknown => .error (.unknownTarget parameter target) := by
  by_cases hcurrent : target = "" ∨ target = p.defaultTarget
  · have hhub : target = "" ∨ p.roster.hub? = some target :=
      hcurrent.imp id fun he => congrArg some he.symm
    rw [lookup_of_current hcurrent, Topology.find_of_hub hhub]
  · obtain ⟨hne, hd⟩ := not_or.mp hcurrent
    have hhub : p.roster.hub? ≠ some target := fun he => hd (Option.some.inj he).symm
    by_cases hmem : target ∈ p.targets
    · have hname : target ∈ p.roster.names := p.names_roster.symm ▸ hmem
      rw [lookup_of_other hne hd hmem]
      have hheld := p.held?_roster target
      rw [if_pos hmem] at hheld
      cases hg : Fields.get? target p.others with
      | none => rw [Topology.find_of_vacant hne hhub hname (hheld.trans hg)]; rfl
      | some g => rw [Topology.find_of_held hne hhub (hheld.trans hg)]; rfl
    · have hname : target ∉ p.roster.names := p.names_roster.symm ▸ hmem
      rw [lookup_of_unknown hne hd hmem, Topology.find_of_unknown hne hhub hname]

/-- To seat a manager is to claim the slot of its context. -/
theorem seat_eq_claim {g held : Manager} {t : Topology Manager}
    (h : p.roster.claim context g = some (held, t)) :
    (p.seat context g).1 = .other context ∧ (p.seat context g).2.roster = t := by
  refine ⟨rfl, ?_⟩
  obtain ⟨hname, ⟨hheld, rfl⟩ | ⟨hheld, rfl, rfl⟩⟩ := Topology.claim_cases h
  all_goals
    have hmem : context ∈ p.targets := p.names_roster ▸ hname
    rw [held?_roster, if_pos hmem] at hheld
  · have hseat : (p.seat context g).2 = p := by simp [seat, Fields.insertNew, hheld]
    rw [hseat]
  · have hseat : (p.seat context held).2 = p.setManager held (.other context) := by
      simp [seat, setManager, Fields.insertNew, hheld]
    rw [hseat, roster_setManager, Topology.update, if_pos (Topology.has_iff.mpr hname)]

theorem other_ne_current (context : String) : Seat.other context ≠ .current := nofun

/-- A call for a context looks it up, builds a manager if there is none, and seats this manager. -/
theorem seatOf_eq_bind (target : String) (p : ContextProvider) : p.seatOf target =
    p.lookup target >>= fun found =>
      if found.2 then .ok (found.1, p) else p.build target >>= fun g => .ok (p.seat target g) := by
  unfold seatOf
  cases p.build target <;> rcases p.lookup target with e | ⟨seat, _ | _⟩ <;> rfl

/-- All that is done to the roster of a kubeconfig is to empty it. -/
inductive Edits : Edit → ContextProvider → List Manager → ContextProvider → Prop where
  | closed {p : ContextProvider} : Edits .drain p p.roster.drain.1 p.close

/-- The contexts of a kubeconfig have slots, except the current one. -/
def lazyKind : LazyKind where
  Provider := ContextProvider
  Seat := Seat
  parameter := parameter
  roster := roster
  main := .current
  other := .other
  managerAt := managerAt
  setManager := setManager
  lookup := lookup
  build := build
  seat context g p := .ok (p.seat context g)
  seatOf := seatOf
  Edits := Edits
  isSteady := True
  other_ne_main := other_ne_current
  lookup_eq := lookup_eq_find
  managerAt_eq {p context g} h := by
    rw [held?_roster] at h
    split at h
    · rw [managerAt, h, Option.getD_some]
    · cases h
  setManager_eq := roster_setManager
  setManager_main {g p} h := roster_eq_of_sameMake (p := p) (q := p.setManager g .current) rfl h
  seat_eq h := ⟨_, congrArg Except.ok (Prod.ext (seat_eq_claim h).1 rfl), (seat_eq_claim h).2⟩
  seat_none h := absurd trivial h
  seatOf_eq := seatOf_eq_bind
  edits_eq h := by
    cases h
    exact ⟨trivial, Prod.ext rfl (roster_close _).symm⟩
  steady_of_edits h _ := by
    cases h
    trivial

end ContextProvider

end FleetGate
