import FleetGate.Toml.Value

/-!
# One document over another

`Toml.merge` lays one value over another.  In an ordered value each table has its keys in byte
order and each of them once, and what is merged of ordered values is ordered (`ordered_merge`).

* `FollowsPath` is what stands at a path after the merge, by what the two values have there.
* To lay the same value over another twice is to do so once (`merge_merge_self`).
* Two overlays may be laid in any order over every value if wherever both have a value these
  are tables or the same (`Agrees.merge_comm`).  That is so if neither sets a path that begins
  with one that the other sets (`Apart.agrees`).

The last two go down both trees at once: `get?_mergeFields` says what stands at a key, and two
tables are the same if look-ups find the same in them (`Fields.Sorted.ext`).
-/

namespace FleetGate.Toml

variable {base overlay first second t v : Toml} {fields : List (String × Toml)} {key : String}
  {p q r : List String}

/-- Whether a value is a table. -/
def isTable : Toml → Bool
  | .table _ => true
  | _ => false

/-- The fields of a table.  Other values have none. -/
def entries : Toml → List (String × Toml)
  | .table fields => fields
  | _ => []

/-- The keys of each table are in byte order, and each stands there once.  An array counts as a
whole, whatever is in it. -/
inductive Ordered : Toml → Prop where
  | leaf {t : Toml} : t.isTable = false → Ordered t
  | table {fields : List (String × Toml)} :
      Fields.Sorted fields → (∀ kv ∈ fields, Ordered kv.2) → Ordered (.table fields)

/-- The table without fields. -/
def empty : Toml := .table []

theorem sorted_nil : Fields.Sorted ([] : List (String × Toml)) := List.Pairwise.nil

theorem ordered_empty : Ordered empty := .table sorted_nil nofun

theorem exists_fields (h : t.isTable = true) : ∃ fields, t = .table fields := by
  cases t with
  | table fields => exact ⟨fields, rfl⟩
  | _ => cases h

theorem entries_of_not_table (h : t.isTable = false) : t.entries = [] := by
  cases t with
  | table fields => cases h
  | _ => rfl

theorem Ordered.of_get? (h : t.Ordered) (hv : Fields.get? key t.entries = some v) :
    v.Ordered := by
  cases h with
  | leaf h =>
    rw [entries_of_not_table h] at hv
    cases hv
  | table _ hall => exact hall _ (Fields.mem_of_get? hv)

theorem Ordered.getD_get? (h : t.Ordered) (key : String) :
    ((Fields.get? key t.entries).getD empty).Ordered := by
  cases hv : Fields.get? key t.entries with
  | none => exact ordered_empty
  | some v => exact h.of_get? hv

/-! ## Fields -/

/-- An overlay that is no table stands in place of what was there. -/
theorem merge_of_not_table (h : overlay.isTable = false) : merge base overlay = overlay := by
  cases overlay with
  | table fields => cases h
  | _ => cases base <;> rfl

/-- So does any overlay of a value that is no table. -/
theorem merge_onto_not_table (h : base.isTable = false) : merge base overlay = overlay := by
  cases base with
  | table fields => cases h
  | _ => cases overlay <;> rfl

/-- A value over what was there before, if anything was. -/
def mergeOver (base? : Option Toml) (overlay : Toml) : Toml :=
  match base? with
  | some base => merge base overlay
  | none => overlay

/-- What stands at a key after one table was laid over another. -/
theorem get?_mergeFields {base overlay : List (String × Toml)} (h : Fields.Sorted overlay)
    (key : String) :
    Fields.get? key (mergeFields base overlay) =
      match Fields.get? key overlay with
      | none => Fields.get? key base
      | some v => some (mergeOver (Fields.get? key base) v) := by
  induction overlay generalizing base with
  | nil => rfl
  | cons kv overlay ih =>
    obtain ⟨k, v⟩ := kv
    obtain ⟨hk, hrest⟩ := List.pairwise_cons.mp h
    have hmerge : mergeFields base ((k, v) :: overlay) =
        mergeFields (Fields.insert k (mergeOver (Fields.get? k base) v) base) overlay := by
      rw [mergeFields]
      rfl
    rw [hmerge, ih hrest, Fields.get?]
    by_cases he : k = key
    · subst he
      rw [Fields.get?_eq_none_of_lt hk, if_pos rfl]
      exact Fields.get?_insert_self ..
    · rw [if_neg he, Fields.get?_insert_ne (Ne.symm he)]

theorem sorted_mergeFields {base : List (String × Toml)} (h : Fields.Sorted base)
    (overlay : List (String × Toml)) : Fields.Sorted (mergeFields base overlay) := by
  induction overlay generalizing base with
  | nil => exact h
  | cons kv overlay ih =>
    rw [mergeFields]
    exact ih (h.insert _ _)

/-- A table over one without fields is the table itself. -/
theorem merge_empty (h : overlay.Ordered) : merge empty overlay = overlay := by
  cases h with
  | leaf h => exact merge_of_not_table h
  | @table fields hsorted _ =>
    have hfields : mergeFields [] fields = fields := by
      refine (sorted_mergeFields sorted_nil fields).ext hsorted fun key => ?_
      rw [get?_mergeFields hsorted]
      cases Fields.get? key fields <;> rfl
    rw [empty, merge, hfields]

theorem mergeOver_eq (h : overlay.Ordered) (base? : Option Toml) :
    mergeOver base? overlay = merge (base?.getD empty) overlay := by
  cases base? with
  | some base => rfl
  | none => exact (merge_empty h).symm

/-- To lay a table over a value is to lay its fields over those of the value. -/
theorem merge_table {overlay : List (String × Toml)} (h : Ordered (.table overlay)) :
    merge base (.table overlay) = .table (mergeFields base.entries overlay) := by
  cases base with
  | table fields => rfl
  | _ => exact (merge_empty h).symm

theorem Ordered.sorted_entries (h : t.Ordered) : Fields.Sorted t.entries := by
  cases h with
  | leaf h =>
    rw [entries_of_not_table h]
    exact sorted_nil
  | table hsorted => exact hsorted

/-- What is merged of ordered values is ordered. -/
theorem ordered_merge (hbase : base.Ordered) (h : overlay.Ordered) :
    (merge base overlay).Ordered := by
  induction h generalizing base with
  | leaf h =>
    rw [merge_of_not_table h]
    exact .leaf h
  | @table overlay hsorted hall ih =>
    rw [merge_table (.table hsorted hall)]
    have hmerged := sorted_mergeFields hbase.sorted_entries overlay
    refine .table hmerged fun kv hkv => ?_
    have hget := hmerged.get?_of_mem hkv
    rw [get?_mergeFields hsorted] at hget
    cases hover : Fields.get? kv.1 overlay with
    | none =>
      rw [hover] at hget
      exact hbase.of_get? hget
    | some v =>
      rw [hover] at hget
      have hv := Fields.mem_of_get? hover
      rw [← Option.some.inj hget, mergeOver_eq (hall _ hv)]
      exact ih _ hv (hbase.getD_get? kv.1)

/-! ## Paths -/

@[simp]
theorem at?_nil (t : Toml) : t.at? [] = some t := by
  cases t <;> rfl

theorem at?_cons (t : Toml) (key : String) (p : List String) :
    t.at? (key :: p) = (Fields.get? key t.entries).bind (·.at? p) := by
  cases t with
  | table fields =>
    rw [at?, entries]
    cases Fields.get? key fields <;> rfl
  | _ => rfl

theorem at?_append (t : Toml) (q r : List String) :
    t.at? (q ++ r) = (t.at? q).bind (·.at? r) := by
  induction q generalizing t with
  | nil => rw [at?_nil]; rfl
  | cons key q ih =>
    rw [List.cons_append, at?_cons, at?_cons, Option.bind_assoc]
    exact congrArg _ (funext ih)

/-- A value that is no table stands above a path. -/
def Blocks (t : Toml) (p : List String) : Prop :=
  ∃ q, q <+: p ∧ q ≠ p ∧ ∃ v, t.at? q = some v ∧ v.isTable = false

/-- Below a value that is no table there is nothing. -/
theorem Blocks.at?_eq_none (h : t.Blocks p) : t.at? p = none := by
  obtain ⟨q, ⟨r, rfl⟩, hne, v, hv, hleaf⟩ := h
  cases r with
  | nil => exact absurd q.append_nil.symm hne
  | cons key r =>
    rw [at?_append, hv, Option.bind_some, at?_cons, entries_of_not_table hleaf]
    rfl

/-- What stands above a path below a field stands above it in the table. -/
theorem Blocks.of_field (hget : Fields.get? key t.entries = some v) (h : v.Blocks p) :
    t.Blocks (key :: p) := by
  obtain ⟨q, hq, hne, w, hw, hleaf⟩ := h
  refine ⟨key :: q, (List.prefix_cons_inj key).mpr hq, fun he => hne (List.cons.inj he).2, w, ?_,
    hleaf⟩
  rw [at?_cons, hget]
  exact hw

theorem Ordered.of_at? (h : t.Ordered) (hv : t.at? p = some v) : v.Ordered := by
  induction p generalizing t with
  | nil =>
    rw [at?_nil] at hv
    exact Option.some.inj hv ▸ h
  | cons key p ih =>
    rw [at?_cons] at hv
    obtain ⟨w, hw, hv⟩ := Option.bind_eq_some_iff.mp hv
    exact ih (h.of_get? hw) hv

/-- What stands at a key after a table was laid over any value. -/
theorem get?_entries_merge (h : overlay.Ordered) (ht : overlay.isTable = true) (key : String) :
    Fields.get? key (merge base overlay).entries =
      match Fields.get? key overlay.entries with
      | none => Fields.get? key base.entries
      | some v => some (mergeOver (Fields.get? key base.entries) v) := by
  obtain ⟨fields, rfl⟩ := exists_fields ht
  rw [merge_table h]
  exact get?_mergeFields h.sorted_entries key

/-- A value that has something below itself is a table. -/
theorem isTable_of_get? (h : Fields.get? key t.entries = some v) : t.isTable = true := by
  cases t with
  | table fields => rfl
  | _ => cases h

/-- Where the overlay has a value, that stands over what the base has there. -/
theorem at?_merge_of_some (h : overlay.Ordered) (hv : overlay.at? p = some v) :
    (merge base overlay).at? p = some (mergeOver (base.at? p) v) := by
  induction p generalizing base overlay with
  | nil =>
    rw [at?_nil] at hv
    rw [at?_nil, at?_nil, mergeOver, Option.some.inj hv]
  | cons key p ih =>
    rw [at?_cons] at hv
    obtain ⟨w, hw, hv⟩ := Option.bind_eq_some_iff.mp hv
    rw [at?_cons, get?_entries_merge h (isTable_of_get? hw), hw, at?_cons]
    cases Fields.get? key base.entries with
    | none => exact hv
    | some old => exact ih (h.of_get? hw) hv

/-- Below a value of the overlay that is no table nothing is left of the base. -/
theorem at?_merge_of_blocks (h : overlay.Ordered) (hblocks : overlay.Blocks p) :
    (merge base overlay).at? p = none := by
  obtain ⟨q, hq, hne, v, hv, hleaf⟩ := hblocks
  refine Blocks.at?_eq_none ⟨q, hq, hne, v, ?_, hleaf⟩
  rw [at?_merge_of_some h hv, mergeOver_eq (h.of_at? hv), merge_of_not_table hleaf]

/-- Where the overlay has nothing, and nothing above but tables, the base stays. -/
theorem at?_merge_of_none (h : overlay.Ordered) (hnone : overlay.at? p = none)
    (hblocks : ¬ overlay.Blocks p) : (merge base overlay).at? p = base.at? p := by
  induction p generalizing base overlay with
  | nil =>
    rw [at?_nil] at hnone
    cases hnone
  | cons key p ih =>
    have htable : overlay.isTable = true := Bool.not_eq_false _ ▸ fun hleaf =>
      hblocks ⟨[], List.nil_prefix, nofun, overlay, at?_nil _, hleaf⟩
    rw [at?_cons, get?_entries_merge h htable, at?_cons]
    cases hw : Fields.get? key overlay.entries with
    | none => rfl
    | some w =>
      rw [at?_cons, hw] at hnone
      cases Fields.get? key base.entries with
      | none => exact hnone
      | some old => exact ih (h.of_get? hw) hnone fun hw' => hblocks (hw'.of_field hw)

/-- What stands at a path after one value was laid over another. -/
structure FollowsPath (base overlay : Toml) (p : List String) : Prop where
  /-- What is no table replaces everything. -/
  replaced : ∀ v, overlay.at? p = some v → v.isTable = false →
    (merge base overlay).at? p = some v
  /-- Nothing stands below what is no table. -/
  removed : overlay.Blocks p → (merge base overlay).at? p = none
  /-- Two tables become one with the keys of both. -/
  joined : ∀ old new, base.at? p = some (.table old) → overlay.at? p = some (.table new) →
    ∃ both, (merge base overlay).at? p = some (.table both) ∧
      ∀ key, key ∈ both.map (·.1) ↔ key ∈ old.map (·.1) ∨ key ∈ new.map (·.1)
  /-- A table that stands over none is taken as it is. -/
  added : ∀ new, (∀ old, base.at? p ≠ some (.table old)) → overlay.at? p = some (.table new) →
    (merge base overlay).at? p = some (.table new)
  /-- Everything else stays. -/
  kept : overlay.at? p = none → ¬ overlay.Blocks p → (merge base overlay).at? p = base.at? p

/-- The keys of a table that was laid over another. -/
theorem mem_keys_mergeFields {base overlay : List (String × Toml)} :
    key ∈ (mergeFields base overlay).map (·.1) ↔
      key ∈ base.map (·.1) ∨ key ∈ overlay.map (·.1) := by
  induction overlay generalizing base with
  | nil => simp [mergeFields]
  | cons kv overlay ih =>
    rw [mergeFields, ih, Fields.mem_keys_insert, List.map_cons, List.mem_cons, or_assoc]
    exact or_left_comm

/-- What stands at a path after a merge follows from what the two have there and above. -/
theorem followsPath (h : overlay.Ordered) (base : Toml) (p : List String) :
    FollowsPath base overlay p where
  replaced v hv hleaf := by
    rw [at?_merge_of_some h hv, mergeOver_eq (h.of_at? hv), merge_of_not_table hleaf]
  removed hblocks := at?_merge_of_blocks h hblocks
  joined old new hold hnew :=
    ⟨mergeFields old new, by rw [at?_merge_of_some h hnew, hold]; rfl,
      fun _ => mem_keys_mergeFields⟩
  added new hold hnew := by
    rw [at?_merge_of_some h hnew]
    cases hbase : base.at? p with
    | none => rfl
    | some t =>
      have ht : t.isTable = false := by
        cases t with
        | table old => exact absurd hbase (hold old)
        | _ => rfl
      exact congrArg some (merge_onto_not_table ht)
  kept hnone hblocks := at?_merge_of_none h hnone hblocks

/-- Of several overlays the last that has a value at a path says what stands there, unless that
is a table. -/
theorem at?_foldl_merge_of_last {before after : List Toml} (h : overlay.Ordered)
    (hv : overlay.at? p = some v) (hleaf : v.isTable = false)
    (hafter : ∀ t ∈ after, t.Ordered ∧ t.at? p = none ∧ ¬ t.Blocks p) :
    ((before ++ overlay :: after).foldl merge base).at? p = some v := by
  rw [List.foldl_append, List.foldl_cons]
  have hlast := (followsPath h (before.foldl merge base) p).replaced v hv hleaf
  generalize merge (before.foldl merge base) overlay = merged at hlast ⊢
  induction after generalizing merged with
  | nil => exact hlast
  | cons t after ih =>
    obtain ⟨ht, hnone, hblocks⟩ := hafter t List.mem_cons_self
    refine ih (fun u hu => hafter u (List.mem_cons_of_mem t hu)) _ ?_
    rw [at?_merge_of_none ht hnone hblocks, hlast]

/-! ## Twice the same -/

/-- To lay the same over a value twice is to do so once. -/
theorem merge_merge_self (h : overlay.Ordered) (hbase : base.Ordered) :
    merge (merge base overlay) overlay = merge base overlay := by
  induction h generalizing base with
  | leaf h => rw [merge_of_not_table h, merge_of_not_table h]
  | @table overlay hsorted hall ih =>
    have h : Ordered (.table overlay) := .table hsorted hall
    rw [merge_table h, merge_table h, entries]
    have hmerged := sorted_mergeFields hbase.sorted_entries overlay
    refine congrArg _ ((sorted_mergeFields hmerged overlay).ext hmerged fun key => ?_)
    rw [get?_mergeFields hsorted]
    cases hv : Fields.get? key overlay with
    | none => rfl
    | some v =>
      have hmem := Fields.mem_of_get? hv
      rw [get?_mergeFields hsorted, hv]
      refine congrArg some ?_
      simp only [mergeOver_eq (hall _ hmem), Option.getD_some]
      exact ih _ hmem (hbase.getD_get? key)

/-- In particular, a value over itself is the value. -/
theorem merge_self (h : t.Ordered) : merge t t = t := by
  have htwice := merge_merge_self h ordered_empty
  rwa [merge_empty h] at htwice

/-! ## Two overlays -/

/-- Wherever both have a value, these are tables or the same. -/
def Agrees (first second : Toml) : Prop :=
  ∀ p v w, first.at? p = some v → second.at? p = some w →
    v = w ∨ (v.isTable = true ∧ w.isTable = true)

theorem Agrees.of_get? {v w : Toml} (h : Agrees first second)
    (hv : Fields.get? key first.entries = some v) (hw : Fields.get? key second.entries = some w) :
    Agrees v w := fun p v' w' hv' hw' =>
  h (key :: p) v' w' (by rw [at?_cons, hv]; exact hv') (by rw [at?_cons, hw]; exact hw')

/-- Overlays that agree may be laid in any order. -/
theorem Agrees.merge_comm (hagrees : Agrees first second) (hfirst : first.Ordered)
    (hsecond : second.Ordered) (hbase : base.Ordered) :
    merge (merge base first) second = merge (merge base second) first := by
  induction hfirst generalizing base second with
  | @leaf first h =>
    rcases hagrees [] first second (at?_nil _) (at?_nil _) with rfl | ⟨hfirst, -⟩
    · rfl
    · rw [h] at hfirst
      cases hfirst
  | @table first hsorted hall ih =>
    rcases hagrees [] (.table first) second (at?_nil _) (at?_nil _) with rfl | ⟨-, htable⟩
    · rfl
    obtain ⟨second, rfl⟩ := exists_fields htable
    have h : Ordered (.table first) := .table hsorted hall
    have hsorted' : Fields.Sorted second := hsecond.sorted_entries
    rw [merge_table h, merge_table hsecond, merge_table h, merge_table hsecond, entries, entries]
    have hleft := sorted_mergeFields (sorted_mergeFields hbase.sorted_entries first) second
    have hright := sorted_mergeFields (sorted_mergeFields hbase.sorted_entries second) first
    refine congrArg _ (hleft.ext hright fun key => ?_)
    rw [get?_mergeFields hsorted', get?_mergeFields hsorted, get?_mergeFields hsorted,
      get?_mergeFields hsorted']
    -- only a key that both overlays have needs the induction
    cases hv : Fields.get? key first with
    | none => cases Fields.get? key second <;> rfl
    | some v =>
      cases hw : Fields.get? key second with
      | none => rfl
      | some w =>
        have hmem := Fields.mem_of_get? hv
        refine congrArg some ?_
        simp only [mergeOver_eq (hall _ hmem), mergeOver_eq (hsecond.of_get? hw), Option.getD_some]
        exact ih _ hmem (hagrees.of_get? hv hw) (hsecond.of_get? hw) (hbase.getD_get? key)

/-- A path of a value below which there is nothing: that of a value that is no table, or of a
table without fields. -/
def Sets (t : Toml) (p : List String) : Prop := ∃ v, t.at? p = some v ∧ v.entries = []

/-- Every value sets some path. -/
theorem Ordered.exists_sets (h : t.Ordered) : ∃ p, t.Sets p := by
  induction h with
  | @leaf t h => exact ⟨[], t, at?_nil t, entries_of_not_table h⟩
  | @table fields hsorted hall ih =>
    cases fields with
    | nil => exact ⟨[], .table [], at?_nil _, rfl⟩
    | cons kv fields =>
      obtain ⟨p, v, hv, hleaf⟩ := ih kv List.mem_cons_self
      refine ⟨kv.1 :: p, v, ?_, hleaf⟩
      rw [at?_cons, entries, hsorted.get?_of_mem List.mem_cons_self]
      exact hv

/-- Neither value sets a path that begins with one that the other sets. -/
def Apart (first second : Toml) : Prop :=
  ∀ p q, first.Sets p → second.Sets q → ¬ p <+: q ∧ ¬ q <+: p

theorem Apart.symm (h : Apart first second) : Apart second first := fun p q hp hq =>
  (h q p hq hp).symm

/-- A value that is no table has nothing beside it in a value apart. -/
theorem Apart.isTable {w : Toml} (h : Apart first second) (hsecond : second.Ordered)
    (hv : first.at? p = some v) (hw : second.at? p = some w) : v.isTable = true := by
  rw [← Bool.not_eq_false]
  intro hleaf
  obtain ⟨q, u, hu, hempty⟩ := (hsecond.of_at? hw).exists_sets
  refine (h p (p ++ q) ⟨v, hv, entries_of_not_table hleaf⟩ ⟨u, ?_, hempty⟩).1
    (List.prefix_append p q)
  rw [at?_append, hw]
  exact hu

/-- Overlays that are apart have tables wherever both have something. -/
theorem Apart.agrees (h : Apart first second) (hfirst : first.Ordered)
    (hsecond : second.Ordered) : Agrees first second := fun _ _ _ hv hw =>
  .inr ⟨h.isTable hsecond hv hw, h.symm.isTable hfirst hw hv⟩

end FleetGate.Toml
