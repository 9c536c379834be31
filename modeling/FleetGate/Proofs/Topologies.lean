import FleetGate.Topology
import Mathlib.Data.List.Sort
import Mathlib.Data.String.Basic

/-!
# What is seen of a topology

Callers see two things of the clusters of a hub: their names, and which of them is the hub
itself (`Topology.visible`).  There is a lemma for each of the two and each way in which a
topology changes.

* The hub is always one of the clusters, and the names are in order (`Topology.Sound`).
  This is so in every state that a topology gets into (`Topology.Reachable.sound`).
* Every change says whether it changed what is seen.  A cluster that is there says so by
  itself (`upsert_reports`), and so does a list (`replace_reports`).  A cluster that goes away
  looks at its name only, which is enough because the hub is one of the names
  (`remove_reports`).
-/

namespace FleetGate

/-- The name of a managed cluster that is the hub itself. -/
def ApiObject.localName? (o : ApiObject) : Option String := if o.isLocal then o.name? else none

namespace Topology

variable {μ : Type} {t : Topology μ} {o : ApiObject} {name other : String}

/-- What is seen of a topology: the names of the clusters, and the hub. -/
def visible (t : Topology μ) : List String × Option String := (t.names, t.hub?)

/-- What is seen of a topology are its names and which of them is the hub. -/
theorem visible_eq_iff {t' : Topology μ} :
    t'.visible = t.visible ↔ t'.names = t.names ∧ t'.hub? = t.hub? := Prod.mk_inj

theorem has_iff : t.has name = true ↔ name ∈ t.names := Fields.isSome_get?_iff

/-! ## A cluster that is there -/

theorem upsert_of_nameless (h : o.name? = none) : t.upsert o = (false, t) := by
  rw [upsert, h]

theorem names_upsert (h : o.name? = some name) :
    (t.upsert o).2.names =
      if t.has name then t.names else (Fields.insert name none t.slots).map (·.1) := by
  unfold upsert
  rw [h]
  cases hh : t.has name with
  | true =>
    have hh' : (t.seen o).has name = true := hh
    simp only [hh']
    rfl
  | false =>
    have hh' : (t.seen o).has name = false := hh
    simp only [hh']
    rfl

/-- A cluster that is there is known afterwards, and no other name comes or goes. -/
theorem mem_names_upsert : name ∈ (t.upsert o).2.names ↔ o.name? = some name ∨ name ∈ t.names := by
  cases hn : o.name? with
  | none => rw [upsert_of_nameless hn]; simp
  | some key =>
    rw [names_upsert hn]
    split
    · next hh =>
      constructor
      · exact Or.inr
      · rintro (he | hmem)
        · cases he
          exact has_iff.mp hh
        · exact hmem
    · rw [Fields.mem_keys_insert, Option.some_inj, eq_comm]
      rfl

/-- It becomes the hub if it has the label, and otherwise the hub stays. -/
theorem hub?_upsert : (t.upsert o).2.hub? = o.localName?.or t.hub? := by
  unfold upsert ApiObject.localName?
  cases hn : o.name? with
  | none => rw [ite_self, Option.none_or]
  | some key =>
    cases hl : o.isLocal with
    | false => rfl
    | true =>
      show (if (t.hub? != some key) = true then some key else t.hub?) = some key
      split
      · rfl
      · next hh => simpa using hh

theorem version_upsert (h : o.name? = some name) :
    (t.upsert o).2.version = o.version?.getD t.version := by
  rw [upsert, h]
  rfl

/-- Whether a cluster that is there changes anything is whether its name is new, or it is the
hub and was not before. -/
theorem upsert_changed :
    (t.upsert o).1 = true ↔
      ∃ name, o.name? = some name ∧ (name ∉ t.names ∨ o.isLocal = true ∧ t.hub? ≠ some name) := by
  cases hn : o.name? with
  | none => rw [upsert_of_nameless hn]; simp
  | some key =>
    unfold upsert
    rw [hn]
    have hh : (t.seen o).has key = t.has key := rfl
    have hs : (t.seen o).hub? = t.hub? := rfl
    simp only [hh, hs, Bool.or_eq_true, Bool.not_eq_true', Bool.and_eq_true, bne_iff_ne,
      Option.some_inj, exists_eq_left', ← Bool.not_eq_true, has_iff]

/-- A cluster that is there says whether it changed what is seen. -/
theorem upsert_reports : (t.upsert o).1 = true ↔ (t.upsert o).2.visible ≠ t.visible := by
  rw [upsert_changed, Ne, visible_eq_iff, hub?_upsert, ApiObject.localName?]
  constructor
  · rintro ⟨key, hn, hnew | ⟨hl, hh⟩⟩ ⟨hnames, hhub⟩
    · exact hnew (hnames ▸ mem_names_upsert.mpr (Or.inl hn))
    · rw [hl, if_pos rfl, hn] at hhub
      exact hh hhub.symm
  · intro hne
    cases hn : o.name? with
    | none =>
      refine absurd ⟨by rw [upsert_of_nameless hn], ?_⟩ hne
      rw [hn, ite_self, Option.none_or]
    | some key =>
      refine ⟨key, rfl, Classical.byContradiction fun hold => hne ⟨?_, ?_⟩⟩
      · have hmem : key ∈ t.names := Classical.byContradiction fun hnew => hold (Or.inl hnew)
        rw [names_upsert hn, if_pos (has_iff.mpr hmem)]
      · cases hl : o.isLocal with
        | false => rw [if_neg Bool.false_ne_true, Option.none_or]
        | true =>
          have hh : t.hub? = some key :=
            Classical.byContradiction fun hnew => hold (Or.inr ⟨hl, hnew⟩)
          rw [if_pos rfl, hn, hh]
          rfl

/-! ## A cluster that is gone -/

theorem remove_of_nameless (h : o.name? = none) : t.remove o = (false, none, t) := by
  rw [remove, h]

theorem remove_changed (h : o.name? = some name) : (t.remove o).1 = t.has name := by
  rw [remove, h]
  rfl

theorem names_remove (h : o.name? = some name) :
    (t.remove o).2.2.names = (Fields.erase name t.slots).map (·.1) := by
  rw [remove, h]
  rfl

/-- A cluster that is gone is not known any more. -/
theorem mem_names_remove :
    name ∈ (t.remove o).2.2.names ↔ o.name? ≠ some name ∧ name ∈ t.names := by
  cases hn : o.name? with
  | none => rw [remove_of_nameless hn]; simp
  | some key =>
    rw [names_remove hn, Fields.mem_keys_erase, Ne, Ne, Option.some_inj, eq_comm]
    rfl

/-- If it was the hub there is none. -/
theorem hub?_remove (h : o.name? = some name) :
    (t.remove o).2.2.hub? = if t.hub? = some name then none else t.hub? := by
  rw [remove, h]
  show (if (t.hub? == some name) = true then none else t.hub?) = _
  simp only [beq_iff_eq]

theorem version_remove (h : o.name? = some name) :
    (t.remove o).2.2.version = o.version?.getD t.version := by
  rw [remove, h]
  rfl

/-! ## A list of clusters -/

/-- A list takes over from what was there one cluster after the other. -/
theorem mem_names_adopt {before : Fields (Option μ)} :
    name ∈ (adopt (t, before) o).1.names ↔ o.name? = some name ∨ name ∈ t.names := by
  unfold adopt
  cases hn : o.name? with
  | none => simp
  | some key =>
    dsimp only [names]
    rw [Fields.mem_keys_insert, Option.some_inj, eq_comm]

theorem hub?_adopt {before : Fields (Option μ)} :
    (adopt (t, before) o).1.hub? = o.localName?.or t.hub? := by
  unfold adopt ApiObject.localName?
  cases o.name? with
  | none => rw [ite_self, Option.none_or]
  | some key => cases o.isLocal <;> rfl

theorem mem_names_foldl_adopt {objects : List ApiObject} {before : Fields (Option μ)} :
    name ∈ (objects.foldl adopt (t, before)).1.names ↔
      (∃ o ∈ objects, o.name? = some name) ∨ name ∈ t.names := by
  induction objects generalizing t before with
  | nil => simp
  | cons o objects ih =>
    rw [List.foldl_cons, ih (t := (adopt (t, before) o).1), mem_names_adopt]
    simp only [List.mem_cons, exists_eq_or_imp, or_assoc]
    exact or_left_comm

/-- The last cluster of a list that is the hub itself is the hub. -/
theorem hub?_foldl_adopt {objects : List ApiObject} {before : Fields (Option μ)} :
    (objects.foldl adopt (t, before)).1.hub? =
      (objects.filterMap ApiObject.localName?).getLast?.or t.hub? := by
  induction objects generalizing t before with
  | nil => rfl
  | cons o objects ih =>
    rw [List.foldl_cons, ih (t := (adopt (t, before) o).1), hub?_adopt]
    cases hl : o.localName? with
    | none => rw [List.filterMap_cons_none hl, Option.none_or]
    | some key =>
      rw [List.filterMap_cons_some hl, List.getLast?_cons]
      cases (objects.filterMap ApiObject.localName?).getLast? <;> rfl

variable {objects : List ApiObject} {version : String}

/-- After a list exactly its clusters are known. -/
theorem mem_names_replace :
    name ∈ (t.replace objects version).2.2.names ↔ ∃ o ∈ objects, o.name? = some name := by
  have hfold := @mem_names_foldl_adopt μ { t with slots := [], hub? := none } name objects t.slots
  exact hfold.trans (or_iff_left List.not_mem_nil)

/-- And the hub is that of the list, whatever it was before. -/
theorem hub?_replace :
    (t.replace objects version).2.2.hub? = (objects.filterMap ApiObject.localName?).getLast? := by
  have hfold := @hub?_foldl_adopt μ { t with slots := [], hub? := none } objects t.slots
  exact hfold.trans (Option.or_none ..)

/-- A list says whether it changed what is seen. -/
theorem replace_reports :
    (t.replace objects version).1 = true ↔ (t.replace objects version).2.2.visible ≠ t.visible := by
  rw [Ne, visible_eq_iff, not_and_or]
  show (_ != _ || _ != _) = true ↔ _
  rw [Bool.or_eq_true, bne_iff_ne, bne_iff_ne]
  rfl

/-! ## States that a topology gets into -/

/-- The names are in order, each once, and the hub is one of them. -/
structure Sound (t : Topology μ) : Prop where
  ordered : t.names.Pairwise (· < ·)
  hub_mem : ∀ name, t.hub? = some name → name ∈ t.names

/-- What is done to a topology besides following its hub: nothing, or a slot is filled or
changed, all slots are emptied, or the watch begins. -/
inductive Handled (t : Topology μ) : Topology μ → Prop where
  | nothing : Handled t t
  | claim {name : String} {value held : μ} {t' : Topology μ} :
      t.claim name value = some (held, t') → Handled t t'
  | update (name : String) (value : μ) : Handled t (t.update name value)
  | drain : Handled t t.drain.2
  | watch : Handled t { t with isWatched := true }

/-- The states that a topology gets into. -/
inductive Reachable : Topology μ → Prop where
  | empty : Reachable {}
  | upsert (o : ApiObject) {t : Topology μ} : Reachable t → Reachable (t.upsert o).2
  | remove (o : ApiObject) {t : Topology μ} : Reachable t → Reachable (t.remove o).2.2
  | replace (objects : List ApiObject) (version : String) {t : Topology μ} :
      Reachable t → Reachable (t.replace objects version).2.2
  | note (version : String) {t : Topology μ} : Reachable t → Reachable { t with version }
  | handle {t t' : Topology μ} : Handled t t' → Reachable t → Reachable t'

namespace Sound

theorem sorted (h : t.Sound) : Fields.Sorted t.slots := h.ordered

theorem empty : Sound ({} : Topology μ) := ⟨List.Pairwise.nil, fun _ h => nomatch h⟩

/-- What is not seen has no part in this. -/
theorem of_visible_eq {t' : Topology μ} (h : t.Sound) (he : t'.visible = t.visible) :
    t'.Sound := by
  obtain ⟨hnames, hhub⟩ := visible_eq_iff.mp he
  refine ⟨?_, fun name hh => ?_⟩
  · rw [hnames]
    exact h.ordered
  · rw [hnames]
    exact h.hub_mem name (hhub ▸ hh)

/-- A cluster that is the hub is there when it becomes the hub. -/
theorem upsert (h : t.Sound) (o : ApiObject) : (t.upsert o).2.Sound := by
  refine ⟨?_, fun name hh => ?_⟩
  · cases hn : o.name? with
    | none =>
      rw [upsert_of_nameless hn]
      exact h.ordered
    | some key =>
      rw [names_upsert hn]
      split
      · exact h.ordered
      · exact h.sorted.insert key none
  · rw [hub?_upsert, ApiObject.localName?] at hh
    rw [mem_names_upsert]
    rcases Option.or_eq_some_iff.mp hh with hl | ⟨-, hh⟩
    · split at hl
      · exact Or.inl hl
      · cases hl
    · exact Or.inr (h.hub_mem name hh)

/-- A cluster that goes away is not the hub any more. -/
theorem remove (h : t.Sound) (o : ApiObject) : (t.remove o).2.2.Sound := by
  cases hn : o.name? with
  | none =>
    rw [remove_of_nameless hn]
    exact h
  | some key =>
    refine ⟨?_, fun name hh => ?_⟩
    · rw [names_remove hn]
      exact h.sorted.erase key
    · rw [hub?_remove hn] at hh
      rw [mem_names_remove, hn]
      split at hh
      · cases hh
      · next hne => exact ⟨fun he => hne (he ▸ hh), h.hub_mem name hh⟩

theorem adopt (h : t.Sound) (before : Fields (Option μ)) (o : ApiObject) :
    (adopt (t, before) o).1.Sound := by
  refine ⟨?_, fun name hh => ?_⟩
  · unfold Topology.adopt
    cases o.name? with
    | none => exact h.ordered
    | some key => exact h.sorted.insert key _
  · rw [hub?_adopt, ApiObject.localName?] at hh
    rw [mem_names_adopt]
    rcases Option.or_eq_some_iff.mp hh with hl | ⟨-, hh⟩
    · split at hl
      · exact Or.inl hl
      · cases hl
    · exact Or.inr (h.hub_mem name hh)

theorem foldl_adopt (h : t.Sound) (before : Fields (Option μ)) (objects : List ApiObject) :
    (objects.foldl Topology.adopt (t, before)).1.Sound := by
  induction objects generalizing t before with
  | nil => exact h
  | cons o objects ih => exact ih (h.adopt before o) _

/-- After a list the hub is one of its clusters. -/
theorem replace (t : Topology μ) (objects : List ApiObject) (version : String) :
    (t.replace objects version).2.2.Sound := by
  have hnew : ({ t with slots := [], hub? := none } : Topology μ).Sound :=
    empty.of_visible_eq rfl
  exact (hnew.foldl_adopt t.slots objects).of_visible_eq rfl

/-- The cluster that is meant when none is named is one of the clusters, if there are any. -/
theorem defaultName_mem (h : t.Sound) (hne : t.names ≠ []) : t.defaultName ∈ t.names := by
  unfold defaultName
  cases hh : t.hub? with
  | some name => exact h.hub_mem name hh
  | none =>
    cases hn : t.names with
    | nil => exact absurd hn hne
    | cons name names => exact List.mem_cons_self

/-- A cluster that goes away says whether that changed what is seen.  It need not look at the
hub, which is one of the names. -/
theorem remove_reports (h : t.Sound) (o : ApiObject) :
    (t.remove o).1 = true ↔ (t.remove o).2.2.visible ≠ t.visible := by
  rw [Ne, visible_eq_iff]
  cases hn : o.name? with
  | none => simp [remove_of_nameless hn]
  | some key =>
    rw [remove_changed hn, has_iff]
    constructor
    · rintro hmem ⟨hnames, -⟩
      rw [← hnames, mem_names_remove] at hmem
      exact hmem.1 hn
    · intro hne
      refine Classical.byContradiction fun hnew => hne ⟨?_, ?_⟩
      · have herase : Fields.erase key t.slots = t.slots := by
          refine List.filter_eq_self.mpr fun slot hslot => bne_iff_ne.mpr fun he => hnew ?_
          exact he ▸ List.mem_map_of_mem hslot
        rw [names_remove hn, herase]
        rfl
      · rw [hub?_remove hn, if_neg fun hh => hnew (h.hub_mem key hh)]

/-- A slot of a cluster that is there changes no name. -/
theorem names_insert (h : t.Sound) (hmem : name ∈ t.names) (held : Option μ) :
    (Fields.insert name held t.slots).map (·.1) = t.names := by
  have hsorted : (Fields.insert name held t.slots).Sorted :=
    h.sorted.insert name held
  refine List.Pairwise.eq_of_mem_iff hsorted h.ordered fun other => ?_
  rw [Fields.mem_keys_insert]
  constructor
  · rintro (rfl | hother)
    · exact hmem
    · exact hother
  · exact Or.inr

/-- Whatever is done besides following the hub, the names, the hub and the version stay. -/
theorem handled (h : t.Sound) {t' : Topology μ} (hh : t.Handled t') :
    t'.visible = t.visible ∧ t'.version = t.version := by
  rw [visible_eq_iff]
  cases hh with
  | nothing => exact ⟨⟨rfl, rfl⟩, rfl⟩
  | @claim name value held t' hc =>
    unfold Topology.claim at hc
    cases hg : Fields.get? name t.slots with
    | none =>
      rw [hg] at hc
      cases hc
    | some slot =>
      have hmem : name ∈ t.names := Fields.isSome_get?_iff.mp (by rw [hg]; rfl)
      rw [hg] at hc
      cases slot with
      | some held =>
        cases hc
        exact ⟨⟨rfl, rfl⟩, rfl⟩
      | none =>
        cases hc
        exact ⟨⟨h.names_insert hmem _, rfl⟩, rfl⟩
  | update name value =>
    unfold Topology.update
    split
    · next hhas => exact ⟨⟨h.names_insert (has_iff.mp hhas) _, rfl⟩, rfl⟩
    · exact ⟨⟨rfl, rfl⟩, rfl⟩
  | drain =>
    refine ⟨⟨?_, rfl⟩, rfl⟩
    show (t.slots.map fun slot => (slot.1, none)).map (·.1) = _
    rw [List.map_map]
    rfl
  | watch => exact ⟨⟨rfl, rfl⟩, rfl⟩

end Sound

/-- In every state that a topology gets into the hub is one of its clusters. -/
theorem Reachable.sound (h : t.Reachable) : t.Sound := by
  induction h with
  | empty => exact .empty
  | upsert o _ ih => exact ih.upsert o
  | remove o _ ih => exact ih.remove o
  | replace objects version _ _ => exact .replace _ objects version
  | note version _ ih => exact ih.of_visible_eq rfl
  | handle hh _ ih => exact ih.of_visible_eq (ih.handled hh).1

end Topology

end FleetGate
