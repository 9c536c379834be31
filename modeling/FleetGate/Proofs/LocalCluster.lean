import FleetGate.Proofs.Histories

/-!
# Two ways to learn of the hub

Which of the clusters is the hub itself is learned in two ways: from a list of all clusters, or
from a list and the changes after it.  For the names the two always come to the same.

For the hub they need not.  A cluster that is modified so that it carries the label no longer
stays the hub to whoever follows the changes, until another cluster carries the label or it is
deleted (`Clusters.GivenUp`).  `hub?_heedAll` says that the hub is the cluster that carries the
label or has given it up, so the two ways agree exactly when no cluster has given it up
(`incremental_agrees_iff`).
-/

namespace FleetGate

namespace Clusters

variable {σ : Clusters} {c : Change} {changes : List Change} {name : String}

/-- A cluster carries the label of the hub. -/
def IsLocal (σ : Clusters) (name : String) : Prop := ∃ o, σ name = some o ∧ o.isLocal = true

/-- At most one cluster carries the label. -/
def OneLocal (σ : Clusters) : Prop := ∀ name other, σ.IsLocal name → σ.IsLocal other → name = other

/-- A change that can happen: what is created is not there yet, and all else is. -/
def Fits (σ : Clusters) (c : Change) : Prop := c.kind = .created ↔ σ c.name = none

instance : Decidable (σ.Fits c) :=
  inferInstanceAs (Decidable (c.kind = .created ↔ σ c.name = none))

/-- Changes that can happen one after the other, with one label at most at any time. -/
def Lawful (σ : Clusters) : List Change → Prop
  | [] => σ.OneLocal
  | c :: changes => σ.OneLocal ∧ σ.Fits c ∧ (σ.apply c).Lawful changes

/-- A cluster has been modified so that it carries the label no longer.  Since then no
cluster has taken the label, and the cluster has not been deleted. -/
def GivenUp (σ : Clusters) (changes : List Change) (name : String) : Prop :=
  ∃ before c later, changes = before ++ c :: later ∧
    c.kind = .modified ∧ c.name = name ∧ (σ.after before).IsLocal name ∧ c.object.isLocal = false ∧
    ∀ d ∈ later, (d.kind ≠ .deleted → d.object.isLocal = false) ∧
      (d.kind = .deleted → d.name ≠ name)

/-- What counts as the hub to whoever follows the changes. -/
def Marked (σ : Clusters) (changes : List Change) (name : String) : Prop :=
  (σ.after changes).IsLocal name ∨ σ.GivenUp changes name

/-- A change decides for its own cluster whether it carries the label. -/
theorem isLocal_apply :
    (σ.apply c).IsLocal name ↔
      if name = c.name then c.kind ≠ .deleted ∧ c.object.isLocal = true else σ.IsLocal name := by
  unfold IsLocal apply
  split
  · simp only [Change.after?_eq_some_iff, and_assoc, exists_and_left, exists_eq_left']
  · rfl

theorem Lawful.oneLocal (h : σ.Lawful changes) : σ.OneLocal := by
  cases changes with
  | nil => exact h
  | cons c changes => exact h.1

theorem Lawful.oneLocal_after (h : σ.Lawful changes) : (σ.after changes).OneLocal := by
  induction changes generalizing σ with
  | nil => exact h
  | cons c changes ih => exact ih h.2.2

/-- Changes are lawful if each fits and leaves one cluster at most with the label. -/
theorem lawful_concat :
    σ.Lawful (changes ++ [c]) ↔
      σ.Lawful changes ∧ (σ.after changes).Fits c ∧ ((σ.after changes).apply c).OneLocal := by
  induction changes generalizing σ with
  | nil => rfl
  | cons d changes ih =>
    rw [List.cons_append, Lawful, ih, Lawful, after_cons, and_assoc, and_assoc]

/-- The label is given up by the last change, or it was before and the last change leaves it
at that. -/
theorem givenUp_concat :
    σ.GivenUp (changes ++ [c]) name ↔
      (c.kind = .modified ∧ c.name = name ∧ (σ.after changes).IsLocal name ∧
        c.object.isLocal = false) ∨
      (σ.GivenUp changes name ∧ (c.kind ≠ .deleted → c.object.isLocal = false) ∧
        (c.kind = .deleted → c.name ≠ name)) := by
  constructor
  · rintro ⟨before, d, later, heq, hk, hn, hl, hd, hlater⟩
    rcases List.eq_nil_or_concat later with rfl | ⟨later, e, rfl⟩
    · obtain ⟨rfl, he⟩ := List.append_inj' heq rfl
      cases he
      exact Or.inl ⟨hk, hn, hl, hd⟩
    · rw [List.concat_eq_append] at heq hlater
      have heq' : changes ++ [c] = (before ++ d :: later) ++ [e] := by
        rw [heq, List.append_assoc, List.cons_append]
      obtain ⟨rfl, he⟩ := List.append_inj' heq' rfl
      cases he
      refine Or.inr ⟨⟨before, d, later, rfl, hk, hn, hl, hd, fun d' hd' => ?_⟩, ?_⟩
      · exact hlater d' (List.mem_append_left [c] hd')
      · exact hlater c (List.mem_append_right later (List.mem_singleton_self c))
  · rintro (⟨hk, hn, hl, hd⟩ | ⟨⟨before, d, later, rfl, hk, hn, hl, hd, hlater⟩, hc⟩)
    · exact ⟨changes, c, [], rfl, hk, hn, hl, hd, by simp⟩
    · refine ⟨before, d, later ++ [c], by rw [List.append_assoc, List.cons_append], hk, hn, hl, hd,
        fun d' hd' => ?_⟩
      rcases List.mem_append.mp hd' with hmem | hmem
      · exact hlater d' hmem
      · cases List.mem_singleton.mp hmem
        exact hc

theorem not_givenUp_nil : ¬ σ.GivenUp [] name := by
  rintro ⟨before, d, later, heq, -⟩
  exact absurd heq.symm (by simp)

/-- Once the label has been given up, no cluster carries it. -/
theorem not_isLocal_of_givenUp (h : σ.Lawful changes) (hg : σ.GivenUp changes name)
    (other : String) : ¬ (σ.after changes).IsLocal other := by
  induction changes using List.reverseRecOn generalizing other with
  | nil => exact absurd hg not_givenUp_nil
  | append_singleton changes c ih =>
    obtain ⟨hlaw, -, -⟩ := lawful_concat.mp h
    rw [after_concat, isLocal_apply]
    rcases givenUp_concat.mp hg with ⟨-, rfl, hl, hc⟩ | ⟨hg, hc, -⟩
    · -- the label is given up now: nobody else carried it
      split
      · exact fun hcarries => absurd hcarries.2 (by simp [hc])
      · next hne => exact fun ho => hne (hlaw.oneLocal_after other c.name ho hl)
    · split
      · exact fun hcarries => absurd hcarries.2 (by simp [hc hcarries.1])
      · exact ih hlaw hg other

/-- A cluster that is deleted counts no longer, and to the others nothing happens. -/
theorem marked_concat_of_deleted (hk : c.kind = .deleted) :
    σ.Marked (changes ++ [c]) name ↔ name ≠ c.name ∧ σ.Marked changes name := by
  rw [Marked, Marked, after_concat, isLocal_apply, givenUp_concat]
  by_cases hn : name = c.name
  · simp [hk, hn]
  · simp [hk, hn, Ne.symm hn]

/-- A cluster that has the label counts, and no other does. -/
theorem marked_concat_of_labelled (hone : ((σ.after changes).apply c).OneLocal)
    (hk : c.kind ≠ .deleted) (hl : c.object.isLocal = true) :
    σ.Marked (changes ++ [c]) name ↔ name = c.name := by
  have hlocal : ((σ.after changes).apply c).IsLocal c.name := by
    rw [isLocal_apply, if_pos rfl]
    exact ⟨hk, hl⟩
  rw [Marked, after_concat, givenUp_concat]
  constructor
  · rintro (ho | ⟨-, -, -, hfalse⟩ | ⟨-, hfalse, -⟩)
    · exact hone name c.name ho hlocal
    · rw [hl] at hfalse
      cases hfalse
    · rw [hl] at hfalse
      cases hfalse hk
  · rintro rfl
    exact Or.inl hlocal

/-- A cluster without the label counts if it did before, for it was created without the label
or has given it up. -/
theorem marked_concat_of_unlabelled (hfits : (σ.after changes).Fits c) (hk : c.kind ≠ .deleted)
    (hl : c.object.isLocal = false) : σ.Marked (changes ++ [c]) name ↔ σ.Marked changes name := by
  rw [Marked, Marked, after_concat, isLocal_apply, givenUp_concat]
  by_cases hn : name = c.name
  · subst hn
    have hmodified : (σ.after changes).IsLocal c.name → c.kind = .modified := by
      rintro ⟨o, ho, -⟩
      have hcreated : c.kind ≠ .created := fun hc => by
        rw [hfits.mp hc] at ho
        cases ho
      cases hkind : c.kind with
      | created => exact absurd hkind hcreated
      | modified => rfl
      | deleted => exact absurd hkind hk
    simp only [hl, hk, if_true, Bool.false_eq_true, and_false, false_or, true_and, and_true,
      ne_eq, not_false_eq_true, forall_const, false_implies]
    exact or_congr_left' fun _ => ⟨And.right, fun ho => ⟨hmodified ho, ho⟩⟩
  · simp [hl, hk, hn, Ne.symm hn]

end Clusters

/-! ## The hub of a topology -/

namespace Topology

open Clusters

variable {μ : Type} {t : Topology μ} {σ : Clusters} {changes : List Change} {name : String}

/-- The topology that has heard of a sequence of changes. -/
def heedAll (changes : List Change) (t : Topology μ) : Topology μ :=
  changes.foldl (fun t c => t.heed c) t

theorem heedAll_concat (changes : List Change) (c : Change) :
    t.heedAll (changes ++ [c]) = (t.heedAll changes).heed c := List.foldl_concat ..

/-- Whoever heeds a change drops the hub only if its cluster is deleted. -/
theorem hub?_heed {c : Change} :
    (t.heed c).hub? =
      if c.kind = .deleted then (if t.hub? = some c.name then none else t.hub?)
      else if c.object.isLocal then some c.name else t.hub? := by
  unfold heed
  split
  · exact hub?_remove c.named
  · rw [hub?_upsert, ApiObject.localName?, c.named]
    split <;> rfl

/-- The hub of a list is the cluster that carries the label. -/
theorem hub?_replace_iff {objects : List ApiObject} {version : String} (hl : σ.Listed objects)
    (hn : σ.Named) (ho : σ.OneLocal) :
    (t.replace objects version).2.2.hub? = some name ↔ σ.IsLocal name := by
  have hmem : ∀ {name}, name ∈ objects.filterMap ApiObject.localName? ↔ σ.IsLocal name := by
    intro name
    rw [List.mem_filterMap]
    constructor
    · rintro ⟨o, hmem, hname⟩
      unfold ApiObject.localName? at hname
      split at hname
      · next hlocal =>
        obtain ⟨other, hother⟩ := (hl o).mp hmem
        rw [hn other o hother] at hname
        cases hname
        exact ⟨o, hother, hlocal⟩
      · cases hname
    · rintro ⟨o, hσ, hlocal⟩
      refine ⟨o, (hl o).mpr ⟨name, hσ⟩, ?_⟩
      rw [ApiObject.localName?, if_pos hlocal]
      exact hn name o hσ
  rw [hub?_replace]
  constructor
  · exact fun hlast => hmem.mp (List.mem_of_getLast? hlast)
  · intro hlocal
    cases hlast : (objects.filterMap ApiObject.localName?).getLast? with
    | none =>
      rw [List.getLast?_eq_none_iff] at hlast
      have hin := hmem.mpr hlocal
      rw [hlast] at hin
      cases hin
    | some other =>
      exact congrArg some (ho other name (hmem.mp (List.mem_of_getLast? hlast)) hlocal)

/-- Whoever follows the changes knows the names of the clusters that there are. -/
theorem mem_names_heedAll (ht : ∀ name, name ∈ t.names ↔ (σ name).isSome = true) :
    name ∈ (t.heedAll changes).names ↔ (σ.after changes name).isSome = true := by
  induction changes generalizing t σ with
  | nil => exact ht name
  | cons c changes ih =>
    refine ih fun other => ?_
    rw [mem_names_heed, apply]
    split
    · exact Change.isSome_after?.symm
    · exact ht other

theorem Sound.heedAll (h : t.Sound) (changes : List Change) : (t.heedAll changes).Sound := by
  induction changes generalizing t with
  | nil => exact h
  | cons c changes ih => exact ih (h.heed c)

/-- To whoever follows the changes, the hub is the cluster that carries the label or has given
it up. -/
theorem hub?_heedAll (ht : ∀ name, t.hub? = some name ↔ σ.IsLocal name) (h : σ.Lawful changes) :
    (t.heedAll changes).hub? = some name ↔ σ.Marked changes name := by
  -- from the last change on, since what counts as the hub is settled by the last ones
  induction changes using List.reverseRecOn generalizing name with
  | nil => exact (ht name).trans (or_iff_left not_givenUp_nil).symm
  | append_singleton changes c ih =>
    obtain ⟨hlaw, hfits, hone⟩ := lawful_concat.mp h
    have ih : ∀ {name}, (t.heedAll changes).hub? = some name ↔ σ.Marked changes name := ih hlaw
    rw [heedAll_concat, hub?_heed]
    split
    · next hk =>
      rw [marked_concat_of_deleted hk, ← ih]
      split
      · next he => simp [he, eq_comm]
      · next hne => exact ⟨fun he => ⟨fun hn => hne (hn ▸ he), he⟩, And.right⟩
    · next hk =>
      split
      · next hl => rw [Option.some_inj, marked_concat_of_labelled hone hk hl, eq_comm]
      · next hl => rw [ih, marked_concat_of_unlabelled hfits hk (Bool.eq_false_of_not_eq_true hl)]

/-- If one topology has a hub and the other none, the same cluster is meant when none is named
exactly if the hub is the first one. -/
theorem defaultName_eq_iff {t' : Topology μ} (ht : t.Sound) (hnames : t.names = t'.names)
    (hhub : t.hub? = some name) (hnone : t'.hub? = none) :
    t.defaultName = t'.defaultName ↔ t'.names.head? = some name := by
  have hmem : name ∈ t'.names := hnames ▸ ht.hub_mem name hhub
  obtain ⟨first, names, hfirst⟩ := List.exists_cons_of_ne_nil (List.ne_nil_of_mem hmem)
  rw [defaultName, defaultName, hhub, hnone, hfirst]
  exact ⟨fun h => congrArg some h.symm, fun h => (Option.some.inj h).symm⟩

end Topology

/-! ## Where the two ways agree -/

section

variable {μ : Type} {t t' : Topology μ} {σ : Clusters} {changes : List Change}
  {initial final : List ApiObject} {version version' name : String}

/-- Whoever follows the changes knows the names that a new list would have. -/
theorem names_followed_eq_listed (hinitial : σ.Listed initial) (hnamed : σ.Named)
    (hfinal : (σ.after changes).Listed final) :
    ((t.replace initial version).2.2.heedAll changes).names =
      (t'.replace final version').2.2.names := by
  have hsound := (Topology.Sound.replace t initial version).heedAll changes
  have hsound' := Topology.Sound.replace t' final version'
  refine List.Pairwise.eq_of_mem_iff hsound.ordered hsound'.ordered fun name => ?_
  rw [Topology.mem_names_replace, hfinal.exists_named_iff (hnamed.after changes)]
  refine Topology.mem_names_heedAll fun other => ?_
  rw [Topology.mem_names_replace, hinitial.exists_named_iff hnamed]

/-- Its hub is the cluster that is marked. -/
theorem hub?_followed_iff (hinitial : σ.Listed initial) (hnamed : σ.Named)
    (hchanges : σ.Lawful changes) :
    ((t.replace initial version).2.2.heedAll changes).hub? = some name ↔ σ.Marked changes name :=
  Topology.hub?_heedAll (fun _ => Topology.hub?_replace_iff hinitial hnamed hchanges.oneLocal)
    hchanges

/-- The hub of a new list is the cluster that carries the label. -/
theorem hub?_listed_iff (hnamed : σ.Named) (hchanges : σ.Lawful changes)
    (hfinal : (σ.after changes).Listed final) :
    (t.replace final version).2.2.hub? = some name ↔ (σ.after changes).IsLocal name :=
  Topology.hub?_replace_iff hfinal (hnamed.after changes) hchanges.oneLocal_after

/-- To follow the changes after a list comes to the same as a new list in the names.  It comes
to the same in the hub exactly if no cluster has given up the label, and in the cluster that
is meant when none is named exactly if no other cluster than the first one has. -/
theorem incremental_agrees_iff (hinitial : σ.Listed initial) (hnamed : σ.Named)
    (hchanges : σ.Lawful changes) (hfinal : (σ.after changes).Listed final) :
    let followed := (t.replace initial version).2.2.heedAll changes
    let listed := (t'.replace final version').2.2
    followed.names = listed.names ∧
      (followed.hub? = listed.hub? ↔ ¬ ∃ name, σ.GivenUp changes name) ∧
      (followed.defaultName = listed.defaultName ↔
        ∀ name, σ.GivenUp changes name → listed.names.head? = some name) := by
  intro followed listed
  have hnames : followed.names = listed.names := names_followed_eq_listed hinitial hnamed hfinal
  have hfollowed : ∀ name, followed.hub? = some name ↔ σ.Marked changes name :=
    fun _ => hub?_followed_iff hinitial hnamed hchanges
  have hlisted : ∀ name, listed.hub? = some name ↔ (σ.after changes).IsLocal name :=
    fun _ => hub?_listed_iff hnamed hchanges hfinal
  by_cases hgiven : ∃ name, σ.GivenUp changes name
  · -- the cluster that has given up the label is the hub to one, and none is to the other
    obtain ⟨name, hg⟩ := hgiven
    have hhub : followed.hub? = some name := (hfollowed name).mpr (Or.inr hg)
    have hnone : listed.hub? = none := Option.eq_none_iff_forall_ne_some.mpr fun other ho =>
      Clusters.not_isLocal_of_givenUp hchanges hg other ((hlisted other).mp ho)
    have hsound : followed.Sound := (Topology.Sound.replace t initial version).heedAll changes
    refine ⟨hnames, iff_of_false ?_ (not_not_intro ⟨name, hg⟩), ?_⟩
    · rw [hhub, hnone]
      exact Option.some_ne_none name
    · rw [Topology.defaultName_eq_iff hsound hnames hhub hnone]
      refine ⟨fun hfirst other ho => ?_, fun hall => hall name hg⟩
      have hsame := ((hfollowed other).mpr (Or.inr ho)).symm.trans hhub
      exact hfirst.trans hsame.symm
  · have hhub : followed.hub? = listed.hub? := by
      refine Option.ext fun name => ?_
      rw [hfollowed, hlisted]
      exact or_iff_left fun hg => hgiven ⟨name, hg⟩
    refine ⟨hnames, iff_of_true hhub hgiven, iff_of_true ?_ fun name hg => ?_⟩
    · rw [Topology.defaultName, Topology.defaultName, hhub, hnames]
    · exact absurd ⟨name, hg⟩ hgiven

end

/-! ## Labels that move and labels that are lost -/

/-- A change of a cluster with or without the label. -/
def Change.ofLabel (kind : ChangeKind) (name : String) (isLocal : Bool) : Change :=
  ⟨kind, ⟨some name, if isLocal then [(localLabel, "true")] else [], none, .null⟩, name, rfl⟩

/-- The clusters of a hub that is one of two. -/
def twoClusters : Clusters :=
  Clusters.empty.after [.ofLabel .created "alpha" false, .ofLabel .created "local-cluster" true]

/-- A list of the two clusters. -/
def twoObjects : List ApiObject :=
  [(Change.ofLabel .created "alpha" false).object,
    (Change.ofLabel .created "local-cluster" true).object]

/-- The hub loses the label. -/
def labelLost : List Change := [.ofLabel .modified "local-cluster" false]

/-- The hub loses the label, and the other cluster takes it. -/
def labelMoved : List Change := labelLost ++ [.ofLabel .modified "alpha" true]

namespace Clusters

theorem isLocal_apply_ofLabel {σ : Clusters} {kind : ChangeKind} {name other : String}
    {isLocal : Bool} :
    (σ.apply (.ofLabel kind other isLocal)).IsLocal name ↔
      if name = other then kind ≠ .deleted ∧ isLocal = true else σ.IsLocal name := by
  have hl : (Change.ofLabel kind other isLocal).object.isLocal = isLocal := by
    cases isLocal <;> rfl
  rw [isLocal_apply, hl]
  rfl

theorem listed_twoObjects : twoClusters.Listed twoObjects := listed_empty.after named_empty _

theorem named_twoClusters : twoClusters.Named := named_empty.after _

theorem isLocal_twoClusters (name : String) :
    twoClusters.IsLocal name ↔ name = "local-cluster" := by
  have hempty : ¬ empty.IsLocal name := fun ⟨o, ho, _⟩ => Option.some_ne_none o ho.symm
  simp [twoClusters, isLocal_apply_ofLabel, hempty]

theorem lawful_labelMoved : twoClusters.Lawful labelMoved := by
  refine ⟨fun name other h h' => ?_, by decide, fun name other h h' => ?_, by decide,
    fun name other h h' => ?_⟩
  · rw [isLocal_twoClusters] at h h'
    rw [h, h']
  · simp [isLocal_apply_ofLabel, isLocal_twoClusters] at h
  · simp [isLocal_apply_ofLabel, isLocal_twoClusters] at h h'
    rw [h, h']

theorem lawful_labelLost : twoClusters.Lawful labelLost := (lawful_concat.mp lawful_labelMoved).1

end Clusters

/-- If the label moves, the hub moves with it. -/
theorem incremental_agrees_of_moved_label :
    let final := labelMoved.foldl Clusters.amend twoObjects
    let followed := (({} : Topology Unit).replace twoObjects "2").2.2.heedAll labelMoved
    let listed := (({} : Topology Unit).replace final "4").2.2
    twoClusters.Listed twoObjects ∧ twoClusters.Named ∧ twoClusters.Lawful labelMoved ∧
      (twoClusters.after labelMoved).Listed final ∧ followed.names = listed.names ∧
      followed.hub? = some "alpha" ∧ listed.hub? = some "alpha" ∧
      ¬ ∃ name, twoClusters.GivenUp labelMoved name := by
  have hlist := Clusters.listed_twoObjects
  have hnamed := Clusters.named_twoClusters
  have hlaw := Clusters.lawful_labelMoved
  have hfinal := hlist.after hnamed labelMoved
  obtain ⟨hnames, hhub, -⟩ :=
    @incremental_agrees_iff Unit {} {} _ _ _ _ "2" "4" hlist hnamed hlaw hfinal
  exact ⟨hlist, hnamed, hlaw, hfinal, hnames, by decide, by decide, hhub.mp (by decide)⟩

/-- To follow the changes after a list comes to the same as a new list, for the names, the hub
and the cluster that is meant when none is named. -/
def IncrementalAgrees : Prop :=
  ∀ (t t' : Topology Unit) (σ : Clusters) (changes : List Change) (initial final : List ApiObject)
    (version version' : String), σ.Listed initial → σ.Named → σ.Lawful changes →
    (σ.after changes).Listed final →
    let followed := (t.replace initial version).2.2.heedAll changes
    let listed := (t'.replace final version').2.2
    followed.names = listed.names ∧ followed.hub? = listed.hub? ∧
      followed.defaultName = listed.defaultName

/-- If the label is lost, the hub stays with whoever follows the changes. -/
theorem not_incrementalAgrees_of_lost_label : ¬ IncrementalAgrees := by
  intro h
  have hlist := Clusters.listed_twoObjects
  have hnamed := Clusters.named_twoClusters
  obtain ⟨-, hhub, -⟩ := h {} {} twoClusters labelLost twoObjects _ "2" "3" hlist hnamed
    Clusters.lawful_labelLost (hlist.after hnamed labelLost)
  revert hhub
  decide

end FleetGate
