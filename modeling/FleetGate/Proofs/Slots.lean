import FleetGate.Proofs.Topologies

/-!
# What the slots of a topology hold

Callers see the names of the clusters and the hub.  Behind the names are the slots.  There is
a lemma for each way in which a topology changes and what a slot holds afterwards.

* A look-up leads to the hub, to a slot that is filled or empty, or nowhere (`find_of_hub` and
  others).
* A cluster that is there leaves all slots as they are (`held?_upsert`).
* A cluster that goes away hands back what its slot held (`remove_held`, `held?_remove`).
* A list keeps the slots of its clusters and hands back what the others held
  (`held?_replace`, `replace_held`).  It must name each cluster once: a second entry of a name
  empties the slot.  No list fills a slot (`held?_of_replace`).
* A claim fills a slot that is empty and leaves one that is filled (`claim_of_empty`,
  `claim_of_held`).
* To drain a topology hands back what all slots held.
-/

namespace FleetGate

/-- The names of some clusters. -/
def ApiObject.names (objects : List ApiObject) : List String := objects.filterMap (·.name?)

namespace Topology

variable {μ : Type} {t t' : Topology μ} {o : ApiObject} {name other version : String}
  {value held : μ} {objects : List ApiObject}

theorem held?_of_get? (h : Fields.get? name t.slots = some (some value)) :
    t.held? name = some value := by
  simp [held?, h]

theorem get?_of_held? (h : t.held? name = some value) :
    Fields.get? name t.slots = some (some value) := by
  cases hg : Fields.get? name t.slots with
  | none => simp [held?, hg] at h
  | some slot => simpa [held?, hg] using h

theorem mem_names_of_held? (h : t.held? name = some value) : name ∈ t.names :=
  has_iff.mp (by simp [has, get?_of_held? h])

theorem held?_of_not_mem (h : name ∉ t.names) : t.held? name = none :=
  Option.eq_none_iff_forall_ne_some.mpr fun _ he => h (mem_names_of_held? he)

theorem Sound.of_handled (h : t.Sound) (hh : t.Handled t') : t'.Sound :=
  h.of_visible_eq (h.handled hh).1

/-! ## Look-ups -/

/-- No name means the hub, just as the name of its own cluster does. -/
theorem find_of_hub (h : name = "" ∨ t.hub? = some name) : t.find name = .hub := by
  unfold find
  rcases h with rfl | h <;> simp [*]

/-- Any other name leads to its slot, which may be filled. -/
theorem find_of_held (hne : name ≠ "") (hhub : t.hub? ≠ some name)
    (h : t.held? name = some value) : t.find name = .held value := by
  simp [find, hne, hhub, get?_of_held? h]

/-- Or it may be empty. -/
theorem find_of_vacant (hne : name ≠ "") (hhub : t.hub? ≠ some name) (hmem : name ∈ t.names)
    (h : t.held? name = none) : t.find name = .vacant := by
  obtain ⟨slot, hg⟩ := Option.isSome_iff_exists.mp (has_iff.mpr hmem)
  have hs : slot = none := by simpa [held?, hg] using h
  simp [find, hne, hhub, hg, hs]

/-- Or there may be none. -/
theorem find_of_unknown (hne : name ≠ "") (hhub : t.hub? ≠ some name) (hmem : name ∉ t.names) :
    t.find name = .unknown := by
  have hg : Fields.get? name t.slots = none :=
    Option.not_isSome_iff_eq_none.mp fun hs => hmem (has_iff.mp hs)
  simp [find, hne, hhub, hg]

theorem held?_of_find (h : t.find name = .held value) : t.held? name = some value := by
  unfold find at h
  split at h
  · cases h
  · split at h <;> cases h
    next hg => exact held?_of_get? hg

theorem hub_of_find (h : t.find name = .hub) : name = "" ∨ t.hub? = some name := by
  unfold find at h
  split at h
  · next hh => simpa using hh
  · split at h <;> cases h

theorem not_mem_of_find (h : t.find name = .unknown) : name ∉ t.names := by
  unfold find at h
  split at h
  · cases h
  · split at h <;> cases h
    next hg =>
      intro hmem
      have hhas := has_iff.mpr hmem
      simp [has, hg] at hhas

/-- A look-up of the cluster looks into its slot. -/
def HasSlot (t : Topology μ) (name : String) : Prop :=
  name ∈ t.names ∧ ¬ (name = "" ∨ t.hub? = some name)

/-- Whether a name has a slot can be seen from outside. -/
theorem hasSlot_iff_of_visible_eq (h : t.visible = t'.visible) :
    t.HasSlot name ↔ t'.HasSlot name := by
  obtain ⟨hnames, hhub⟩ := visible_eq_iff.mp h
  rw [HasSlot, HasSlot, hnames, hhub]

theorem hasSlot_of_find (h : t.find name = .vacant ∨ ∃ value, t.find name = .held value) :
    t.HasSlot name := by
  have hhub : ¬ (name = "" ∨ t.hub? = some name) := fun hh => by
    simp [find_of_hub hh] at h
  obtain ⟨hne, hh⟩ := not_or.mp hhub
  refine ⟨Classical.byContradiction fun hmem => ?_, hhub⟩
  simp [find_of_unknown hne hh hmem] at h

/-! ## Single changes -/

/-- A cluster that comes in keeps the slot that it has, or brings an empty one. -/
@[simp]
theorem held?_upsert : (t.upsert o).2.held? name = t.held? name := by
  cases hn : o.name? with
  | none => rw [upsert_of_nameless hn]
  | some key =>
    have hslots : (t.upsert o).2.slots =
        if t.has key then t.slots else Fields.insert key none t.slots := by
      unfold upsert
      rw [hn]
      cases hk : t.has key with
      | true =>
        have hk' : (t.seen o).has key = true := hk
        simp only [hk']
        rfl
      | false =>
        have hk' : (t.seen o).has key = false := hk
        simp only [hk']
        rfl
    rw [held?, hslots]
    split
    · rfl
    · next hk =>
      by_cases he : name = key
      · subst he
        have hnot : name ∉ t.names := fun hmem => hk (has_iff.mpr hmem)
        simp [held?_of_not_mem hnot]
      · rw [Fields.get?_insert_ne he, held?]

/-- What the slot of a cluster held is handed back when the cluster goes away. -/
theorem remove_held (h : o.name? = some name) : (t.remove o).2.1 = t.held? name := by
  rw [remove, h]
  rfl

/-- Only the slot of a cluster that goes away is emptied. -/
theorem held?_remove :
    (t.remove o).2.2.held? name = if o.name? = some name then none else t.held? name := by
  cases hn : o.name? with
  | none => simp [remove_of_nameless hn]
  | some key =>
    have hslots : (t.remove o).2.2.slots = Fields.erase key t.slots := by rw [remove, hn]; rfl
    rw [held?, hslots]
    by_cases he : name = key
    · subst he
      rw [Fields.get?_erase_self, if_pos rfl]
      rfl
    · rw [Fields.get?_erase_ne he, if_neg fun h => he (Option.some.inj h).symm, held?]

/-! ## Lists -/

/-- A cluster of a list takes over the slot that it had before. -/
theorem held?_adopt {before : Fields (Option μ)} (h : o.name? = some other) :
    (adopt (t, before) o).1.held? name =
      if name = other then (Fields.get? name before).join else t.held? name := by
  simp only [adopt, h, held?]
  split
  · next he => rw [he, Fields.get?_insert_self, Option.join_some]
  · next he => rw [Fields.get?_insert_ne he]

theorem adopt_before {before : Fields (Option μ)} (h : o.name? = some other) :
    (adopt (t, before) o).2 = Fields.erase other before := by
  simp [adopt, h]

theorem adopt_of_nameless {before : Fields (Option μ)} (h : o.name? = none) :
    adopt (t, before) o = (t, before) := by
  simp [adopt, h]

/-- What is left over from before a list are the clusters that are not in it. -/
theorem foldl_adopt_before {before : Fields (Option μ)} :
    (objects.foldl adopt (t, before)).2 =
      before.filter fun slot => slot.1 ∉ ApiObject.names objects := by
  induction objects generalizing t before with
  | nil => simp [ApiObject.names]
  | cons o objects ih =>
    rw [List.foldl_cons]
    cases hn : o.name? with
    | none => simp [adopt_of_nameless hn, ih, ApiObject.names, hn]
    | some key =>
      rw [← Prod.mk.eta (p := adopt (t, before) o), ih, adopt_before hn, Fields.erase,
        List.filter_filter]
      refine List.filter_congr fun slot _ => ?_
      by_cases he : slot.1 = key <;> simp [ApiObject.names, hn, he]

/-- The clusters of a list have the slots that they had before. -/
theorem held?_foldl_adopt {before : Fields (Option μ)} (hd : (ApiObject.names objects).Nodup) :
    (objects.foldl adopt (t, before)).1.held? name =
      if name ∈ ApiObject.names objects then (Fields.get? name before).join else t.held? name := by
  induction objects generalizing t before with
  | nil => simp [ApiObject.names]
  | cons o objects ih =>
    rw [List.foldl_cons]
    cases hn : o.name? with
    | none =>
      have hnames : ApiObject.names (o :: objects) = ApiObject.names objects := by
        simp [ApiObject.names, hn]
      rw [hnames] at hd ⊢
      rw [adopt_of_nameless hn, ih hd]
    | some key =>
      have hnames : ApiObject.names (o :: objects) = key :: ApiObject.names objects := by
        simp [ApiObject.names, hn]
      rw [hnames] at hd ⊢
      obtain ⟨hnot, hd⟩ := List.nodup_cons.mp hd
      rw [← Prod.mk.eta (p := adopt (t, before) o), ih hd, adopt_before hn, held?_adopt hn]
      by_cases he : name = key
      · subst he
        simp [hnot]
      · simp [he, Fields.get?_erase_ne he]

/-- No list fills a slot. -/
theorem held?_of_foldl_adopt {before : Fields (Option μ)}
    (h : (objects.foldl adopt (t, before)).1.held? name = some value) :
    t.held? name = some value ∨ (Fields.get? name before).join = some value := by
  induction objects generalizing t before with
  | nil => exact Or.inl h
  | cons o objects ih =>
    rw [List.foldl_cons] at h
    cases hn : o.name? with
    | none =>
      rw [adopt_of_nameless hn] at h
      exact ih h
    | some key =>
      rw [← Prod.mk.eta (p := adopt (t, before) o), adopt_before hn] at h
      rcases ih h with ht | hb
      · rw [held?_adopt hn] at ht
        split at ht
        · exact Or.inr ht
        · exact Or.inl ht
      · by_cases he : name = key
        · subst he
          simp at hb
        · rw [Fields.get?_erase_ne he] at hb
          exact Or.inr hb

/-- A list empties the slots of the clusters that it does not have, and leaves all others. -/
theorem held?_replace (hd : (ApiObject.names objects).Nodup) :
    (t.replace objects version).2.2.held? name =
      if name ∈ ApiObject.names objects then t.held? name else none := by
  have hfold := @held?_foldl_adopt μ { t with slots := [], hub? := none } name objects t.slots hd
  exact hfold

theorem held?_of_replace (h : (t.replace objects version).2.2.held? name = some value) :
    t.held? name = some value := by
  have hfold := @held?_of_foldl_adopt μ { t with slots := [], hub? := none } name value objects
    t.slots h
  rcases hfold with hnone | hheld
  · cases hnone
  · exact hheld

/-- What the clusters held that are not in a list is handed back. -/
theorem replace_held :
    (t.replace objects version).2.1 =
      (t.slots.filter fun slot => slot.1 ∉ ApiObject.names objects).filterMap (·.2) := by
  have hfold := @foldl_adopt_before μ { t with slots := [], hub? := none } objects t.slots
  rw [← hfold]
  rfl

/-! ## Claims -/

theorem claim_of_unknown (h : name ∉ t.names) : t.claim name value = none := by
  have hg : Fields.get? name t.slots = none :=
    Option.not_isSome_iff_eq_none.mp fun hs => h (has_iff.mp hs)
  simp [claim, hg]

theorem not_mem_of_claim (h : t.claim name value = none) : name ∉ t.names := by
  intro hmem
  obtain ⟨slot, hg⟩ := Option.isSome_iff_exists.mp (has_iff.mpr hmem)
  unfold claim at h
  rw [hg] at h
  cases slot <;> cases h

/-- A slot that is filled stays as it is. -/
theorem claim_of_held (h : t.held? name = some held) : t.claim name value = some (held, t) := by
  simp [claim, get?_of_held? h]

/-- A slot that is empty is filled. -/
theorem claim_of_empty (hmem : name ∈ t.names) (h : t.held? name = none) :
    t.claim name value =
      some (value, { t with slots := Fields.insert name (some value) t.slots }) := by
  obtain ⟨slot, hg⟩ := Option.isSome_iff_exists.mp (has_iff.mpr hmem)
  have hs : slot = none := by simpa [held?, hg] using h
  subst hs
  simp [claim, hg]

theorem held?_insert {slot : Option μ} :
    { t with slots := Fields.insert name slot t.slots }.held? other =
      if other = name then slot else t.held? other := by
  simp only [held?]
  split
  · next he => rw [he, Fields.get?_insert_self, Option.join_some]
  · next he => rw [Fields.get?_insert_ne he]

/-- A claim finds the slot of a known cluster filled, or fills it. -/
theorem claim_cases (h : t.claim name value = some (held, t')) :
    name ∈ t.names ∧ (t.held? name = some held ∧ t' = t ∨
      t.held? name = none ∧ held = value ∧
        t' = { t with slots := Fields.insert name (some value) t.slots }) := by
  by_cases hmem : name ∈ t.names
  · refine ⟨hmem, ?_⟩
    cases hh : t.held? name with
    | some before =>
      rw [claim_of_held hh] at h
      cases h
      exact Or.inl ⟨rfl, rfl⟩
    | none =>
      rw [claim_of_empty hmem hh] at h
      cases h
      exact Or.inr ⟨rfl, rfl, rfl⟩
  · rw [claim_of_unknown hmem] at h
    cases h

/-- A claim fills at most the slot of its cluster, and with its own value. -/
theorem held?_of_claim (h : t.claim name value = some (held, t')) :
    t'.held? name = some held ∧ ∀ other, other ≠ name → t'.held? other = t.held? other := by
  obtain ⟨-, ⟨hh, rfl⟩ | ⟨-, rfl, rfl⟩⟩ := claim_cases h
  · exact ⟨hh, fun _ _ => rfl⟩
  · exact ⟨by simp [held?_insert], fun other hne => by simp [held?_insert, hne]⟩

/-- Only a slot that is there is filled. -/
theorem held?_update :
    (t.update name value).held? other =
      if other = name ∧ t.has name = true then some value else t.held? other := by
  unfold update
  split
  · next hh => simp [held?_insert, hh]
  · next hh => simp [hh]

/-! ## Draining -/

@[simp]
theorem held?_drain : t.drain.2.held? name = none := by
  have hget : ∀ slots : Fields (Option μ),
      (Fields.get? name (slots.map fun slot => (slot.1, (none : Option μ)))).join = none := by
    intro slots
    induction slots with
    | nil => rfl
    | cons slot slots ih =>
      rw [List.map_cons, Fields.get?]
      split
      · rfl
      · exact ih
  exact hget t.slots

/-- What the slots hold together is what one of them holds. -/
theorem mem_filterMap_slots (h : t.Sound) :
    value ∈ t.slots.filterMap (·.2) ↔ ∃ name, t.held? name = some value := by
  constructor
  · intro hv
    obtain ⟨slot, hmem, hs⟩ := List.mem_filterMap.mp hv
    exact ⟨slot.1, held?_of_get? (by rw [h.sorted.get?_of_mem hmem, hs])⟩
  · rintro ⟨name, hn⟩
    exact List.mem_filterMap.mpr ⟨_, Fields.mem_of_get? (get?_of_held? hn), rfl⟩

end Topology

end FleetGate
