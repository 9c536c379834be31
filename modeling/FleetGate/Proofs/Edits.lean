import FleetGate.Proofs.Slots

/-!
# Edits of a topology

What is heard of the clusters, and what is done to all of them together, changes a topology
whoever is looking for a cluster at the time.  `Topology.Edit` has a constructor for each of
these changes.

* An edit empties some slots (`Edit.Vacates`), hands back exactly what they held (`mem_apply`),
  each once (`apply_sublist`), and leaves all other slots alone (`held?_apply`).
* No edit looks at what a slot holds.  Neither does a look-up or a claim.  So it is all the same
  whether a slot holds a thing or a name for it (`apply_map`, `find_map`, `claim_map`), and a
  thing that changes in its slot is another thing of the same name (`update_map`).
-/

namespace FleetGate

namespace Fields

variable {α β : Type} {key : String} {fields : Fields α}

/-- The fields with other values. -/
def mapValues (f : α → β) (fields : Fields α) : Fields β := fields.map (Prod.map id f)

theorem keys_mapValues (f : α → β) : (fields.mapValues f).map (·.1) = fields.map (·.1) := by
  rw [mapValues, List.map_map]
  rfl

theorem Sorted.mapValues (h : Sorted fields) (f : α → β) : Sorted (fields.mapValues f) := by
  rw [Sorted, keys_mapValues]
  exact h

theorem get?_mapValues (f : α → β) : get? key (fields.mapValues f) = (get? key fields).map f := by
  induction fields with
  | nil => rfl
  | cons kv fields ih =>
    rw [Fields.mapValues, List.map_cons, get?, get?]
    dsimp only [Prod.map, id]
    split
    · rfl
    · exact ih

theorem insert_mapValues (f : α → β) (value : α) :
    insert key (f value) (fields.mapValues f) = (insert key value fields).mapValues f := by
  induction fields with
  | nil => rfl
  | cons kv fields ih =>
    rw [Fields.mapValues, List.map_cons, insert, insert]
    dsimp only [Prod.map, id]
    split
    · rfl
    · split
      · rfl
      · exact congrArg _ ih

theorem erase_mapValues (f : α → β) :
    erase key (fields.mapValues f) = (erase key fields).mapValues f := by
  rw [erase, erase, Fields.mapValues, Fields.mapValues, List.filter_map]
  rfl

/-- What is in the slots has its name in the slots of names. -/
theorem filterMap_mapValues (f : α → β) (slots : Fields (Option α)) :
    (slots.mapValues (Option.map f)).filterMap (·.2) = (slots.filterMap (·.2)).map f := by
  rw [Fields.mapValues, List.filterMap_map, List.map_filterMap]
  rfl

end Fields

namespace Topology

variable {μ ν : Type} {t t' : Topology μ} {f : μ → ν} {cluster : String} {value held : μ}

/-- The changes that nobody who looks for a cluster makes. -/
inductive Edit where
  /-- A cluster is there. -/
  | upsert (o : ApiObject)
  /-- A cluster is gone. -/
  | remove (o : ApiObject)
  /-- The clusters were listed. -/
  | replace (objects : List ApiObject) (version : String)
  /-- Another version was reached, or it was forgotten. -/
  | note (version : String)
  /-- Watching has begun. -/
  | watch
  /-- All slots are emptied. -/
  | drain

namespace Edit

variable {e : Edit}

/-- What an edit hands back, and the topology after it. -/
def apply (t : Topology μ) : Edit → List μ × Topology μ
  | .upsert o => ([], (t.upsert o).2)
  | .remove o => ((t.remove o).2.1.toList, (t.remove o).2.2)
  | .replace objects version => (t.replace objects version).2
  | .note version => ([], { t with version })
  | .watch => ([], { t with isWatched := true })
  | .drain => t.drain

/-- The edit takes the slot of a cluster away or empties it. -/
def Vacates (cluster : String) : Edit → Prop
  | .remove o => o.name? = some cluster
  | .replace objects _ => cluster ∉ ApiObject.names objects
  | .drain => True
  | _ => False

/-- A list of clusters names each of them once. -/
def NamesOnce : Edit → Prop
  | .replace objects _ => (ApiObject.names objects).Nodup
  | _ => True

/-- An edit leaves the slots in order. -/
theorem sound_apply (h : t.Sound) : (e.apply t).2.Sound := by
  cases e with
  | upsert o => exact h.upsert o
  | remove o => exact h.remove o
  | replace objects version => exact .replace t objects version
  | note version => exact h.of_visible_eq rfl
  | watch => exact h.of_visible_eq rfl
  | drain => exact h.of_handled .drain

/-- An edit empties the slots that it vacates. -/
theorem held?_apply_of_vacates (ho : e.NamesOnce) (h : e.Vacates cluster) :
    (e.apply t).2.held? cluster = none := by
  cases e with
  | upsert o => exact h.elim
  | remove o => exact held?_remove.trans (if_pos h)
  | replace objects version => exact (held?_replace ho).trans (if_neg h)
  | note version => exact h.elim
  | watch => exact h.elim
  | drain => exact held?_drain

/-- It does not touch any other. -/
theorem held?_apply (ho : e.NamesOnce) (h : ¬ e.Vacates cluster) :
    (e.apply t).2.held? cluster = t.held? cluster := by
  cases e with
  | upsert o => exact held?_upsert
  | remove o => exact held?_remove.trans (if_neg h)
  | replace objects version => exact (held?_replace ho).trans (if_pos (not_not.mp h))
  | note version => rfl
  | watch => rfl
  | drain => exact absurd trivial h

/-- An edit hands back exactly what was in the slots that it empties. -/
theorem mem_apply (ht : t.Sound) :
    value ∈ (e.apply t).1 ↔ ∃ cluster, e.Vacates cluster ∧ t.held? cluster = some value := by
  cases e with
  | upsert o => simp [apply, Vacates]
  | remove o =>
    cases hn : o.name? with
    | none => simp [apply, Vacates, remove_of_nameless hn, hn]
    | some name => simp [apply, Vacates, remove_held hn, hn]
  | replace objects version =>
    simp only [apply, Vacates, replace_held, List.mem_filterMap, List.mem_filter,
      decide_eq_true_eq]
    constructor
    · rintro ⟨slot, ⟨hmem, hnot⟩, hs⟩
      exact ⟨slot.1, hnot, held?_of_get? (by rw [ht.sorted.get?_of_mem hmem, hs])⟩
    · rintro ⟨name, hnot, hheld⟩
      exact ⟨_, ⟨Fields.mem_of_get? (get?_of_held? hheld), hnot⟩, rfl⟩
  | note version => simp [apply, Vacates]
  | watch => simp [apply, Vacates]
  | drain =>
    simp only [apply, Vacates, true_and]
    exact mem_filterMap_slots ht

/-- An edit hands back nothing twice that is in one slot only. -/
theorem apply_sublist : (e.apply t).1.Sublist (t.slots.filterMap (·.2)) := by
  cases e with
  | upsert o => exact List.nil_sublist _
  | remove o =>
    cases hn : o.name? with
    | none => simp [apply, remove_of_nameless hn]
    | some name =>
      rw [apply, remove_held hn]
      cases hh : t.held? name with
      | none => exact List.nil_sublist _
      | some value =>
        refine List.singleton_sublist.mpr (List.mem_filterMap.mpr ⟨(name, some value), ?_, rfl⟩)
        exact Fields.mem_of_get? (get?_of_held? hh)
  | replace objects version =>
    rw [apply, replace_held]
    exact List.filter_sublist.filterMap _
  | note version => exact List.nil_sublist _
  | watch => exact List.nil_sublist _
  | drain => exact List.Sublist.refl _

end Edit

/-! ## Things and their names -/

/-- The topology with other things in the slots. -/
def map (f : μ → ν) (t : Topology μ) : Topology ν where
  slots := t.slots.mapValues (Option.map f)
  hub? := t.hub?
  version := t.version
  isWatched := t.isWatched

/-- The spot with another thing. -/
def Spot.map (f : μ → ν) : Spot μ → Spot ν
  | .hub => .hub
  | .held value => .held (f value)
  | .vacant => .vacant
  | .unknown => .unknown

theorem get?_map :
    Fields.get? cluster (t.map f).slots = (Fields.get? cluster t.slots).map (Option.map f) :=
  Fields.get?_mapValues _

theorem has_map : (t.map f).has cluster = t.has cluster := by
  rw [has, has, get?_map, Option.isSome_map]

theorem held?_map : (t.map f).held? cluster = (t.held? cluster).map f := by
  rw [held?, held?, get?_map]
  cases Fields.get? cluster t.slots with
  | none => rfl
  | some slot => rfl

/-- A look-up finds the name of what it found. -/
theorem find_map : (t.map f).find cluster = (t.find cluster).map f := by
  unfold find
  rw [get?_map, show (t.map f).hub? = t.hub? from rfl]
  split
  · rfl
  · cases Fields.get? cluster t.slots with
    | none => rfl
    | some slot => cases slot <;> rfl

theorem insert_slots_map (slot : Option μ) :
    Fields.insert cluster (slot.map f) (t.map f).slots =
      (Fields.insert cluster slot t.slots).mapValues (Option.map f) := Fields.insert_mapValues _ _

/-- A claim goes by whether a slot is empty, and not by who sits there. -/
theorem claim_map :
    (t.map f).claim cluster (f value) = (t.claim cluster value).map (Prod.map f (map f)) := by
  unfold claim
  rw [get?_map]
  cases Fields.get? cluster t.slots with
  | none => rfl
  | some slot =>
    cases slot with
    | some held => rfl
    | none =>
      have hinsert := @insert_slots_map _ _ t f cluster (some value)
      rw [Option.map_some] at hinsert
      dsimp only [Option.map_none, Option.map_some]
      rw [hinsert]
      rfl

/-- Only the names of what is held count. -/
theorem map_congr {g : μ → ν} (ht : t.Sound)
    (h : ∀ cluster value, t.held? cluster = some value → f value = g value) :
    t.map f = t.map g := by
  have hslots : t.slots.mapValues (Option.map f) = t.slots.mapValues (Option.map g) := by
    refine (ht.sorted.mapValues _).ext (ht.sorted.mapValues _) fun cluster => ?_
    rw [Fields.get?_mapValues, Fields.get?_mapValues]
    cases hg : Fields.get? cluster t.slots with
    | none => rfl
    | some slot =>
      cases slot with
      | none => rfl
      | some value => simp [h cluster value (held?_of_get? hg)]
  rw [map, hslots, map]

/-- A thing that changes in its slot is another thing of the same name. -/
theorem update_map [DecidableEq μ] (ht : t.Sound) (h : t.held? cluster = some value)
    (honce : ∀ other, t.held? other = some value → other = cluster) (fresh : ν) :
    (t.map f).update cluster fresh = t.map (Function.update f value fresh) := by
  have hhas : t.has cluster = true := has_iff.mpr (mem_names_of_held? h)
  rw [update, has_map, if_pos hhas, map, map]
  congr 1
  refine ((ht.sorted.mapValues _).insert _ _).ext (ht.sorted.mapValues _) fun other => ?_
  rw [Fields.get?_mapValues]
  by_cases he : other = cluster
  · subst he
    rw [Fields.get?_insert_self, get?_of_held? h]
    simp
  · rw [Fields.get?_insert_ne he, Fields.get?_mapValues]
    cases hg : Fields.get? other t.slots with
    | none => rfl
    | some slot =>
      cases slot with
      | none => rfl
      | some held =>
        -- no other slot holds the thing, so the new one shows nowhere else
        have hne : held ≠ value := fun hv => he (honce other (hv ▸ held?_of_get? hg))
        simp [hne]

/-- A cluster that comes in does not look at what the slots hold. -/
theorem upsert_map (o : ApiObject) : (t.map f).upsert o = Prod.map id (map f) (t.upsert o) := by
  unfold upsert
  cases o.name? with
  | none => rfl
  | some name =>
    have hhas : ((t.map f).seen o).has name = (t.seen o).has name := has_map (t := t.seen o)
    have hinsert := @insert_slots_map _ _ (t.seen o) f name none
    rw [Option.map_none] at hinsert
    dsimp only
    rw [hhas]
    cases (t.seen o).has name with
    | true => rfl
    | false =>
      rw [show (t.map f).seen o = (t.seen o).map f from rfl, Bool.not_false, if_pos rfl, hinsert]
      rfl

/-- Nor does one that goes. -/
theorem remove_map (o : ApiObject) :
    (t.map f).remove o = Prod.map id (Prod.map (Option.map f) (map f)) (t.remove o) := by
  unfold remove
  cases o.name? with
  | none => rfl
  | some name =>
    have hhas : ((t.map f).seen o).has name = (t.seen o).has name := has_map (t := t.seen o)
    have hheld : ((t.map f).seen o).held? name = ((t.seen o).held? name).map f :=
      held?_map (t := t.seen o)
    have herase : Fields.erase name ((t.map f).seen o).slots =
        (Fields.erase name (t.seen o).slots).mapValues (Option.map f) := Fields.erase_mapValues _
    dsimp only
    rw [hhas, hheld, herase]
    rfl

/-- A list takes over the slots one by one. -/
theorem adopt_map (before : Fields (Option μ)) (o : ApiObject) :
    adopt (t.map f, before.mapValues (Option.map f)) o =
      Prod.map (map f) (Fields.mapValues (Option.map f)) (adopt (t, before) o) := by
  unfold adopt
  cases o.name? with
  | none => rfl
  | some name =>
    have hjoin : (Fields.get? name (before.mapValues (Option.map f))).join =
        (Fields.get? name before).join.map f := by
      rw [Fields.get?_mapValues]
      cases Fields.get? name before <;> rfl
    dsimp only
    rw [hjoin, insert_slots_map, Fields.erase_mapValues]
    rfl

theorem foldl_adopt_map (before : Fields (Option μ)) (objects : List ApiObject) :
    objects.foldl adopt (t.map f, before.mapValues (Option.map f)) =
      Prod.map (map f) (Fields.mapValues (Option.map f)) (objects.foldl adopt (t, before)) := by
  induction objects generalizing t before with
  | nil => rfl
  | cons o objects ih =>
    rw [List.foldl_cons, List.foldl_cons, adopt_map]
    exact ih _

/-- Nor does a list that replaces all. -/
theorem replace_map (objects : List ApiObject) (version : String) :
    ((t.map f).replace objects version).2 =
      Prod.map (List.map f) (map f) (t.replace objects version).2 := by
  have hfold := foldl_adopt_map (f := f) (t := { t with slots := [], hub? := none }) t.slots objects
  have hstart : { t.map f with slots := [], hub? := none } =
    map f { t with slots := [], hub? := none } := rfl
  unfold replace
  dsimp only
  rw [hstart, show (t.map f).slots = t.slots.mapValues (Option.map f) from rfl, hfold]
  exact congrArg (·, _) (Fields.filterMap_mapValues f _)

namespace Edit

/-- An edit does not look at what the slots hold. -/
theorem apply_map (e : Edit) :
    e.apply (t.map f) = Prod.map (List.map f) (Topology.map f) (e.apply t) := by
  cases e with
  | upsert o => rw [apply, upsert_map]; rfl
  | remove o =>
    rw [apply, remove_map]
    exact congrArg (·, _) Option.toList_map
  | replace objects version => exact replace_map objects version
  | note version => rfl
  | watch => rfl
  | drain =>
    have hout := Fields.filterMap_mapValues f t.slots
    have hslots : ((t.map f).slots.map fun slot => (slot.1, (none : Option ν))) =
        Fields.mapValues (Option.map f) (t.slots.map fun slot => (slot.1, none)) := by
      rw [Fields.mapValues, List.map_map, map, Fields.mapValues, List.map_map]
      rfl
    exact Prod.ext hout (congrArg (fun slots => { t.map f with slots }) hslots)

end Edit

end Topology

end FleetGate
