import FleetGate.Proofs.Turns
import Mathlib

/-!
# Histories of clusters

What happens to the managed clusters of a hub is a sequence of changes.  A cluster is created,
modified or deleted, and `Clusters.after` is what there is afterwards.  For each name the last
change decides.

A hub numbers the changes.  `History` is all that has happened, in order, with the number of
each change, and `History.clustersAt` is what there was at a number.

* Later changes do not alter what there was before (`clustersAt_grown`).
* A step to the next change applies this change (`clustersAt_next`), and where nothing happens
  nothing alters (`clustersAt_of_unchanged`).
-/

namespace FleetGate

/-! ## Changes -/

/-- What happens to a managed cluster. -/
inductive ChangeKind where
  | created
  | modified
  | deleted
deriving DecidableEq, Repr

/-- A change of a managed cluster. -/
structure Change where
  kind : ChangeKind
  /-- The cluster after the change, or as it was when it was deleted. -/
  object : ApiObject
  name : String
  named : object.name? = some name

namespace Change

/-- The event that tells of a change. -/
def event (c : Change) : WatchEvent :=
  match c.kind with
  | .created => .added c.object
  | .modified => .modified c.object
  | .deleted => .deleted c.object

/-- The cluster after a change, if it is still there. -/
def after? (c : Change) : Option ApiObject := if c.kind = .deleted then none else some c.object

theorem after?_eq_some_iff {c : Change} {o : ApiObject} :
    c.after? = some o ↔ c.kind ≠ .deleted ∧ c.object = o := by
  unfold after?
  split
  · next h => simp [h]
  · next h => simp [h]

theorem isSome_after? {c : Change} : c.after?.isSome = true ↔ c.kind ≠ .deleted := by
  unfold after?
  split
  · next h => simp [h]
  · next h => simp [h]

end Change

/-- The managed clusters of a hub at a moment, by name. -/
abbrev Clusters := String → Option ApiObject

namespace Clusters

variable {σ τ : Clusters} {c : Change} {changes : List Change} {name : String}

/-- No clusters. -/
def empty : Clusters := fun _ => none

/-- The clusters after a change. -/
def apply (σ : Clusters) (c : Change) : Clusters := fun name =>
  if name = c.name then c.after? else σ name

/-- The clusters after a sequence of changes. -/
def after (σ : Clusters) (changes : List Change) : Clusters := changes.foldl apply σ

@[simp] theorem after_nil : σ.after [] = σ := rfl

@[simp] theorem after_cons : σ.after (c :: changes) = (σ.apply c).after changes := rfl

theorem after_append (changes' : List Change) :
    σ.after (changes ++ changes') = (σ.after changes).after changes' := List.foldl_append

/-- The last change comes last. -/
theorem after_concat : σ.after (changes ++ [c]) = (σ.after changes).apply c := after_append [c]

/-- The objects are the clusters, in any order. -/
def Listed (σ : Clusters) (objects : List ApiObject) : Prop :=
  ∀ o, o ∈ objects ↔ ∃ name, σ name = some o

/-- Every cluster bears its name. -/
def Named (σ : Clusters) : Prop := ∀ name o, σ name = some o → o.name? = some name

/-- What holds of the clusters at first and of each that comes in holds of the clusters
afterwards. -/
theorem after_induction {P : String → ApiObject → Prop} (hσ : ∀ name o, σ name = some o → P name o)
    (hc : ∀ c ∈ changes, ∀ o, c.after? = some o → P c.name o) :
    ∀ name o, σ.after changes name = some o → P name o := by
  induction changes generalizing σ with
  | nil => exact hσ
  | cons c changes ih =>
    refine ih (fun name o h => ?_) fun c' hc' => hc c' (List.mem_cons_of_mem c hc')
    unfold apply at h
    split at h
    · next he =>
      subst he
      exact hc c List.mem_cons_self o h
    · exact hσ name o h

theorem Named.after (h : σ.Named) (changes : List Change) : (σ.after changes).Named :=
  after_induction h fun c _ o ho => by
    rw [← (Change.after?_eq_some_iff.mp ho).2]
    exact c.named

/-- The names in a list of clusters are those of the clusters. -/
theorem Listed.exists_named_iff {objects : List ApiObject} (h : σ.Listed objects) (hn : σ.Named) :
    (∃ o ∈ objects, o.name? = some name) ↔ (σ name).isSome = true := by
  rw [Option.isSome_iff_exists]
  constructor
  · rintro ⟨o, ho, hname⟩
    obtain ⟨other, hother⟩ := (h o).mp ho
    rw [hn other o hother] at hname
    cases hname
    exact ⟨o, hother⟩
  · rintro ⟨o, ho⟩
    exact ⟨o, (h o).mpr ⟨name, ho⟩, hn name o ho⟩

/-- A cluster does not alter with the changes of others. -/
theorem apply_of_ne (h : c.name ≠ name) : σ.apply c name = σ name := if_neg (Ne.symm h)

/-- Only its own changes matter to a cluster. -/
theorem after_filter_congr {α : Type} {f : α → Change} {p q : α → Bool} {as : List α}
    (hσ : σ name = τ name) (h : ∀ a ∈ as, (f a).name = name → p a = q a) :
    σ.after ((as.filter p).map f) name = τ.after ((as.filter q).map f) name := by
  induction as generalizing σ τ with
  | nil => exact hσ
  | cons a as ih =>
    -- a change of the cluster itself is in both lists or in neither, and no other touches it
    have hrest : ∀ a' ∈ as, (f a').name = name → p a' = q a' :=
      fun a' ha' => h a' (List.mem_cons_of_mem a ha')
    rw [List.filter_cons, List.filter_cons]
    by_cases hn : (f a).name = name
    · rw [h a List.mem_cons_self hn]
      split
      · refine ih ?_ hrest
        rw [apply, apply, if_pos hn.symm, if_pos hn.symm]
      · exact ih hσ hrest
    · have hleft : σ.apply (f a) name = τ name := (apply_of_ne hn).trans hσ
      split
      · split
        · exact ih (hleft.trans (apply_of_ne hn).symm) hrest
        · exact ih hleft hrest
      · split
        · exact ih (hσ.trans (apply_of_ne hn).symm) hrest
        · exact ih hσ hrest

/-- A list of the clusters after a change, from one before. -/
def amend (objects : List ApiObject) (c : Change) : List ApiObject :=
  objects.filter (·.name? != some c.name) ++ c.after?.toList

theorem Listed.apply {objects : List ApiObject} (h : σ.Listed objects) (hn : σ.Named)
    (c : Change) : (σ.apply c).Listed (amend objects c) := by
  intro o
  rw [amend, List.mem_append, List.mem_filter, bne_iff_ne, Option.mem_toList, h o]
  constructor
  · rintro (⟨⟨name, ho⟩, hne⟩ | ho)
    · refine ⟨name, (apply_of_ne fun he => hne ?_).trans ho⟩
      rw [hn name o ho, he]
    · exact ⟨c.name, (if_pos rfl).trans ho⟩
  · rintro ⟨name, ho⟩
    unfold Clusters.apply at ho
    split at ho
    · exact Or.inr ho
    · next hne =>
      refine Or.inl ⟨⟨name, ho⟩, fun he => hne ?_⟩
      rw [hn name o ho] at he
      exact Option.some.inj he

/-- A list is kept up by amending it with each change. -/
theorem Listed.after {objects : List ApiObject} (h : σ.Listed objects) (hn : σ.Named)
    (changes : List Change) : (σ.after changes).Listed (changes.foldl amend objects) := by
  induction changes generalizing σ objects with
  | nil => exact h
  | cons c changes ih => exact ih (h.apply hn c) (hn.after [c])

theorem listed_empty : empty.Listed [] := fun o =>
  iff_of_false List.not_mem_nil fun ⟨_, ho⟩ => Option.some_ne_none o ho.symm

theorem named_empty : empty.Named := fun _ o ho => absurd ho.symm (Option.some_ne_none o)

end Clusters

/-! ## What a topology makes of a change -/

namespace Topology

variable {μ : Type} {t : Topology μ} {name : String}

/-- The topology that has heard of a change. -/
def heed (c : Change) (t : Topology μ) : Topology μ :=
  if c.kind = .deleted then (t.remove c.object).2.2 else (t.upsert c.object).2

/-- Whoever heeds a change knows the cluster unless it was deleted. -/
theorem mem_names_heed {c : Change} :
    name ∈ (t.heed c).names ↔ if name = c.name then c.kind ≠ .deleted else name ∈ t.names := by
  unfold heed
  split
  · next hk =>
    rw [mem_names_remove, c.named, Ne, Option.some_inj, hk]
    split
    · next he => simp [he]
    · next he => simp [Ne.symm he]
  · next hk =>
    rw [mem_names_upsert, c.named, Option.some_inj]
    split
    · next he => simp [he, hk]
    · next he => simp [Ne.symm he]

/-- The version is that of the object of the change. -/
theorem version_heed {c : Change} : (t.heed c).version = c.object.version?.getD t.version := by
  unfold heed
  split
  · exact version_remove c.named
  · exact version_upsert c.named

theorem Sound.heed (h : t.Sound) (c : Change) : (t.heed c).Sound := by
  unfold Topology.heed
  split
  · exact h.remove _
  · exact h.upsert _

end Topology

/-- Whoever hears the event of a change heeds the change. -/
theorem Membership.topology_of_deliver_event {μ : Type} {k k' : Membership μ} {c : Change}
    {effect : Membership.Effect μ} (h : k.deliver (.event c.event) = .ok (effect, k')) :
    k'.topology = k.topology.heed c := by
  unfold Change.event at h
  unfold Topology.heed
  cases hk : c.kind with
  | created => rw [hk] at h; cases h; rfl
  | modified => rw [hk] at h; cases h; rfl
  | deleted => rw [hk] at h; cases h; rfl

/-! ## Histories -/

/-- A change with its number. -/
structure Entry extends Change where
  /-- The number of the change, which is the version of the cluster. -/
  version : Nat
  stamped : object.version? = some (toString version)

/-- A change of a cluster of which nothing is known but its name and its version. -/
def Entry.ofName (kind : ChangeKind) (name : String) (version : Nat) : Entry :=
  { kind, name, version
    object := ⟨some name, [], some (toString version), .null⟩, named := rfl, stamped := rfl }

/-- What has happened to the managed clusters of a hub. -/
structure History where
  /-- The changes, the first one first. -/
  entries : List Entry
  /-- The version of the hub, which other things may have moved on. -/
  version : Nat
  /-- The numbers of the changes increase. -/
  ascending : entries.Pairwise (·.version < ·.version)
  /-- The hub's version is that of no earlier moment. -/
  bounded : ∀ e ∈ entries, e.version ≤ version

namespace History

variable {h h' : History} {v b : Nat} {e : Entry} {name : String}

/-- The changes up to a version. -/
def upTo (h : History) (v : Nat) : List Entry := h.entries.filter (·.version ≤ v)

/-- The clusters at a version. -/
def clustersAt (h : History) (v : Nat) : Clusters :=
  Clusters.empty.after ((h.upTo v).map Entry.toChange)

/-- The clusters that there are now. -/
def clusters (h : History) : Clusters := h.clustersAt h.version

/-- The first change after a version. -/
structure Next (h : History) (v : Nat) (e : Entry) : Prop where
  mem : e ∈ h.entries
  after : v < e.version
  first : ∀ e' ∈ h.entries, v < e'.version → e.version ≤ e'.version

/-- A cluster has changed after a version and up to another one. -/
def ChangedIn (h : History) (v b : Nat) (name : String) : Prop :=
  ∃ e ∈ h.entries, v < e.version ∧ e.version ≤ b ∧ e.name = name

instance : Decidable (h.ChangedIn v b name) :=
  inferInstanceAs (Decidable (∃ e ∈ h.entries, v < e.version ∧ e.version ≤ b ∧ e.name = name))

/-- A history with which another one goes on. -/
structure GrowsTo (h h' : History) : Prop where
  entries_eq : ∃ later, h'.entries = h.entries ++ later ∧ ∀ e ∈ later, h.version < e.version
  version_le : h.version ≤ h'.version

/-- A list of the clusters that there are now. -/
def listing (h : History) : List ApiObject :=
  ((h.upTo h.version).map Entry.toChange).foldl Clusters.amend []

theorem listed_listing (h : History) : h.clusters.Listed h.listing :=
  Clusters.listed_empty.after Clusters.named_empty _

theorem clustersAt_named (h : History) (v : Nat) : (h.clustersAt v).Named :=
  Clusters.named_empty.after _

/-- A cluster bears the version of its last change. -/
theorem clustersAt_stamped {o : ApiObject} (ho : h.clustersAt v name = some o) :
    ∃ n ≤ v, n ≤ h.version ∧ o.version? = some (toString n) := by
  refine Clusters.after_induction (P := fun _ o => ∃ n ≤ v, n ≤ h.version ∧
    o.version? = some (toString n)) (fun _ o hn => absurd hn.symm (Option.some_ne_none o)) ?_
    name o ho
  intro c hc o ho
  obtain ⟨e, he, rfl⟩ := List.mem_map.mp hc
  obtain ⟨hmem, hle⟩ := List.mem_filter.mp he
  rw [← (Change.after?_eq_some_iff.mp ho).2]
  exact ⟨e.version, of_decide_eq_true hle, h.bounded e hmem, e.stamped⟩

/-- A cluster that has not changed between two versions is the same at both. -/
theorem clustersAt_of_unchanged
    (hn : ∀ e ∈ h.entries, e.name = name → (e.version ≤ v ↔ e.version ≤ b)) :
    h.clustersAt v name = h.clustersAt b name :=
  Clusters.after_filter_congr rfl fun e he hname => decide_eq_decide.mpr (hn e he hname)

/-- The changes up to the next one are those before and this one. -/
theorem upTo_next (hn : h.Next v e) : h.upTo e.version = h.upTo v ++ [e] := by
  obtain ⟨hmem, hafter, hfirst⟩ := hn
  unfold upTo
  have hasc := h.ascending
  generalize h.entries = entries at hmem hfirst hasc
  induction entries with
  | nil => cases hmem
  | cons first rest ih =>
    obtain ⟨hlater, hasc⟩ := List.pairwise_cons.mp hasc
    rcases List.mem_cons.mp hmem with rfl | hmem
    · -- the next change comes first: nothing is before it, and all else is later
      have hnone : ∀ n ≤ e.version, rest.filter (·.version ≤ n) = [] := fun n hle =>
        List.filter_eq_nil_iff.mpr fun e' he' hle' =>
          absurd (of_decide_eq_true hle') (by have := hlater e' he'; omega)
      rw [List.filter_cons_of_pos (by simp), List.filter_cons_of_neg (by simpa using hafter),
        hnone e.version le_rfl, hnone v hafter.le]
      rfl
    · have hlt : first.version < e.version := hlater e hmem
      have hle : first.version ≤ v := by
        have := hfirst first List.mem_cons_self
        omega
      rw [List.filter_cons_of_pos (by simpa using hlt.le),
        List.filter_cons_of_pos (by simpa using hle),
        ih hmem (fun e' he' => hfirst e' (List.mem_cons_of_mem first he')) hasc]
      rfl

/-- The next change applies. -/
theorem clustersAt_next (hn : h.Next v e) :
    h.clustersAt e.version = (h.clustersAt v).apply e.toChange := by
  rw [clustersAt, upTo_next hn, List.map_append]
  exact Clusters.after_concat

/-- What comes later does not alter what there was before. -/
theorem clustersAt_grown (hg : h.GrowsTo h') (hv : v ≤ h.version) :
    h'.clustersAt v = h.clustersAt v := by
  obtain ⟨⟨later, heq, hlater⟩, -⟩ := hg
  have hnone : later.filter (·.version ≤ v) = [] := List.filter_eq_nil_iff.mpr fun e he hle =>
    absurd (of_decide_eq_true hle) (by have := hlater e he; omega)
  rw [clustersAt, clustersAt, upTo, heq, List.filter_append, hnone, List.append_nil]
  rfl

/-- Nothing alters up to a version if nothing happens. -/
theorem clustersAt_of_none (hle : v ≤ b) (hnone : ∀ e ∈ h.entries, v < e.version → b < e.version)
    (name : String) : h.clustersAt b name = h.clustersAt v name :=
  clustersAt_of_unchanged fun e he _ =>
    ⟨fun hb => Nat.le_of_not_lt fun hv => absurd hb (Nat.not_le_of_lt (hnone e he hv)),
      fun hv => hv.trans hle⟩

/-! ## Which clusters have changed -/

/-- Nothing changes in no time. -/
theorem not_changedIn_of_le (hle : b ≤ v) : ¬ h.ChangedIn v b name :=
  fun ⟨_, _, hv, hb, _⟩ => Nat.not_lt_of_le (hb.trans hle) hv

/-- There is one change at most with a number. -/
theorem eq_of_version_eq {e' : Entry} (he : e ∈ h.entries) (he' : e' ∈ h.entries)
    (hv : e.version = e'.version) : e = e' :=
  List.inj_on_of_nodup_map ((List.pairwise_map.mpr h.ascending).imp ne_of_lt) he he' hv

theorem changedIn_next (hn : h.Next b e) (hle : v ≤ b) :
    h.ChangedIn v e.version name ↔ e.name = name ∨ h.ChangedIn v b name := by
  constructor
  · rintro ⟨e', he', hv, hb, hname⟩
    by_cases hbefore : e'.version ≤ b
    · exact Or.inr ⟨e', he', hv, hbefore, hname⟩
    · have heq : e'.version = e.version := by
        have := hn.first e' he'
        omega
      rw [← eq_of_version_eq he' hn.mem heq]
      exact Or.inl hname
  · rintro (hname | ⟨e', he', hv, hb, hname⟩)
    · exact ⟨e, hn.mem, hle.trans_lt hn.after, le_rfl, hname⟩
    · exact ⟨e', he', hv, hb.trans hn.after.le, hname⟩

theorem changedIn_of_none {b' : Nat} (hle : b ≤ b')
    (hnone : ∀ e ∈ h.entries, b < e.version → b' < e.version) :
    h.ChangedIn v b' name ↔ h.ChangedIn v b name := by
  constructor
  · rintro ⟨e, he, hv, hb, hname⟩
    have := hnone e he
    exact ⟨e, he, hv, by omega, hname⟩
  · rintro ⟨e, he, hv, hb, hname⟩
    exact ⟨e, he, hv, hb.trans hle, hname⟩

namespace GrowsTo

theorem refl (h : History) : h.GrowsTo h := ⟨⟨[], by simp, by simp⟩, le_rfl⟩

theorem mem (hg : h.GrowsTo h') (he : e ∈ h.entries) : e ∈ h'.entries := by
  obtain ⟨⟨later, heq, -⟩, -⟩ := hg
  rw [heq]
  exact List.mem_append_left later he

/-- What happens later has a higher number. -/
theorem mem_or_later (hg : h.GrowsTo h') (he : e ∈ h'.entries) :
    e ∈ h.entries ∨ h.version < e.version := by
  obtain ⟨⟨later, heq, hlater⟩, -⟩ := hg
  rw [heq] at he
  exact (List.mem_append.mp he).imp_right (hlater e)

theorem changedIn (hg : h.GrowsTo h') (hb : b ≤ h.version) :
    h'.ChangedIn v b name ↔ h.ChangedIn v b name := by
  constructor
  · rintro ⟨e, he, hv, hle, hname⟩
    rcases hg.mem_or_later he with hmem | hlater
    · exact ⟨e, hmem, hv, hle, hname⟩
    · exact absurd (hle.trans hb) (Nat.not_le_of_lt hlater)
  · rintro ⟨e, he, hv, hle, hname⟩
    exact ⟨e, hg.mem he, hv, hle, hname⟩

end GrowsTo

end History

end FleetGate
