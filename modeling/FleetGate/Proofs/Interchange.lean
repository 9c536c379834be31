import FleetGate.Proofs.Decoding
import FleetGate.Proofs.Rereading

/-!
# Values that may stand for each other

What was decoded and is encoded again need not be the value that it was before: a date has become
its text, and keys that nobody knows are gone.  It is as good if the same comes of it, by itself and
under whatever is laid over it (`Interchangeable`).

* Values that are no tables are interchangeable if they are decoded alike, because they leave no
  trace under an overlay (`interchangeable_of_leaves`).
* A table and the same one with its dates as texts are interchangeable, because the dates under an
  overlay become texts sooner or later (`value_merge`).
* A record is decoded from its fields one by one, so two tables give the same record if each field
  takes the same from both (`record_congr`).
-/

namespace FleetGate.Toml.Decoder

variable {base overlay t : Toml} {fields : List (String × Toml)} {key : String}

/-! ## Dates as texts -/

mutual

/-- A date that is a text already is left alone. -/
theorem value_value : ∀ t : Toml, value (value t) = value t
  | .str _ | .int _ | .float _ | .bool _ | .datetime _ => rfl
  | .arr items => by rw [value, value, values_values]
  | .table fields => by rw [value, value, valueFields_valueFields]

theorem values_values : ∀ ts : List Toml, values (values ts) = values ts
  | [] => rfl
  | t :: ts => by rw [values, values, value_value, values_values]

theorem valueFields_valueFields :
    ∀ fields : List (String × Toml), valueFields (valueFields fields) = valueFields fields
  | [] => rfl
  | (key, t) :: fields => by
    rw [valueFields, valueFields, value_value, valueFields_valueFields]

end

theorem isTable_value (t : Toml) : (value t).isTable = t.isTable := by
  cases t <;> rfl

theorem entries_value (t : Toml) : (value t).entries = valueFields t.entries := by
  cases t <;> rfl

theorem valueFields_eq_map (fields : List (String × Toml)) :
    valueFields fields = fields.map fun kv => (kv.1, value kv.2) := by
  induction fields with
  | nil => rfl
  | cons kv fields ih => rw [valueFields, ih]; rfl

theorem get?_valueFields (key : String) (fields : List (String × Toml)) :
    Fields.get? key (valueFields fields) = (Fields.get? key fields).map value := by
  induction fields with
  | nil => rfl
  | cons kv fields ih =>
    obtain ⟨k, t⟩ := kv
    rw [valueFields, Fields.get?, Fields.get?, ih]
    split <;> rfl

/-- Dates that become texts stand where they stood. -/
theorem sorted_valueFields (h : Fields.Sorted fields) : Fields.Sorted (valueFields fields) := by
  rw [Fields.Sorted, valueFields_eq_map, List.map_map]
  exact h

/-- Dates that an overlay leaves become texts whether they were so before or not. -/
theorem value_merge (hbase : base.Ordered) (h : overlay.Ordered) :
    value (merge (value base) overlay) = value (merge base overlay) := by
  induction h generalizing base with
  | leaf h => rw [merge_of_not_table h, merge_of_not_table h]
  | @table overlay hsorted hall ih =>
    have h : Ordered (.table overlay) := .table hsorted hall
    rw [merge_table h, merge_table h, entries_value, value, value]
    have hleft := sorted_mergeFields (sorted_valueFields hbase.sorted_entries) overlay
    have hright := sorted_mergeFields hbase.sorted_entries overlay
    refine congrArg _ ((sorted_valueFields hleft).ext (sorted_valueFields hright) fun key => ?_)
    rw [get?_valueFields, get?_valueFields, get?_mergeFields hsorted, get?_mergeFields hsorted,
      get?_valueFields]
    cases hv : Fields.get? key overlay with
    | none =>
      rw [Option.map_map]
      exact congrArg (Option.map · _) (funext value_value)
    | some v =>
      cases hold : Fields.get? key base.entries with
      | none => rfl
      | some old => exact congrArg some (ih _ (Fields.mem_of_get? hv) (hbase.of_get? hold))

/-! ## Interchangeable values -/

/-- The same comes of two values, either of which may be missing, whatever is laid over them. -/
structure Interchangeable {β : Type} (read : Toml → β) (x y : Option Toml) : Prop where
  alone : x.map read = y.map read
  under : ∀ v : Toml, v.Ordered → read (mergeOver x v) = read (mergeOver y v)

namespace Interchangeable

variable {β γ : Type} {read : Toml → β} {x y : Option Toml}

theorem refl (read : Toml → β) (x : Option Toml) : Interchangeable read x x :=
  ⟨rfl, fun _ _ => rfl⟩

/-- What is made of the same is the same. -/
theorem comp (h : Interchangeable read x y) (f : β → γ) :
    Interchangeable (fun t => f (read t)) x y where
  alone := by
    have hmap := congrArg (Option.map f) h.alone
    rwa [Option.map_map, Option.map_map] at hmap
  under v hv := congrArg f (h.under v hv)

end Interchangeable

/-- Values that are no tables leave nothing for an overlay to keep, so that it is enough if each is
read like the other. -/
theorem interchangeable_of_leaves {β : Type} {read : Toml → β} {t t' : Toml}
    (ht : t.isTable = false) (ht' : t'.isTable = false) (h : read t = read t') :
    Interchangeable read (some t) (some t') where
  alone := congrArg some h
  under v _ := by rw [mergeOver, mergeOver, merge_onto_not_table ht, merge_onto_not_table ht']

/-- A decoder of tables that takes dates as texts does not tell them apart. -/
theorem interchangeable_of_value {β : Type} {read : Toml → β}
    (hread : ∀ t t' : Toml, t.isTable = true → t'.isTable = true → value t = value t' →
      read t = read t')
    (h : t.Ordered) (ht : t.isTable = true) :
    Interchangeable read (some t) (some (value t)) where
  alone := congrArg some (hread _ _ ht ((isTable_value t).trans ht) (value_value t).symm)
  under v hv := by
    rw [mergeOver, mergeOver]
    cases hleaf : v.isTable with
    | false => rw [merge_of_not_table hleaf, merge_of_not_table hleaf]
    | true =>
      obtain ⟨overlay, rfl⟩ := exists_fields hleaf
      refine hread _ _ ?_ ?_ (value_merge h hv).symm
      · rw [merge_table hv]
        rfl
      · rw [merge_table hv]
        rfl

/-! ## What is written again -/

/-- What is written of a value that was decoded is interchangeable with the value. -/
def Restores {α : Type} (item : Decoder α) (write : α → Option Toml) : Prop :=
  ∀ (t : Toml) a, t.Ordered → item t = .ok a → Interchangeable item (some t) (write a)

section

variable {α : Type} {item : Decoder α} {write : α → Toml}

/-- It is enough that what is written is read as what was read. -/
theorem restores_of_leaves
    (h : ∀ t a, item t = .ok a → t.isTable = false ∧ (write a).isTable = false ∧
      item (write a) = .ok a) :
    Restores item fun a => some (write a) := fun t a _ ha => by
  obtain ⟨ht, ht', hwrite⟩ := h t a ha
  exact interchangeable_of_leaves ht ht' (ha.trans hwrite.symm)

/-- What may be missing is written only if it is there. -/
theorem Restores.some? (h : Restores item fun a => some (write a)) :
    Restores (some? item) (Option.map write) := fun t a ht ha => by
  unfold Decoder.some? at ha
  cases hitem : item t with
  | error e =>
    rw [hitem] at ha
    cases ha
  | ok b =>
    rw [hitem] at ha
    cases ha
    exact (h t b ht hitem).comp (Except.map some)

theorem restores_text : Restores text fun s => some (.str s) := by
  refine restores_of_leaves fun t s h => ?_
  cases t with
  | str _ => exact ⟨rfl, rfl, rfl⟩
  | datetime _ => exact ⟨rfl, rfl, rfl⟩
  | _ => cases h

theorem restores_bool : Restores bool fun b => some (.bool b) := by
  refine restores_of_leaves fun t b h => ?_
  cases t with
  | bool _ => exact ⟨rfl, rfl, rfl⟩
  | _ => cases h

theorem restores_byte : Restores byte fun n => some (.int n) := by
  refine restores_of_leaves fun t n h => ?_
  cases t with
  | int i =>
    refine ⟨rfl, rfl, ?_⟩
    unfold byte at h
    dsimp only at h
    split at h
    · next hbounds =>
      cases h
      have hi : ((i.toNat : Nat) : Int) = i := by
        simp only [Bool.and_eq_true, decide_eq_true_eq] at hbounds
        omega
      rw [hi, byte, if_pos hbounds]
    · cases h
  | _ => cases h

/-- An array is restored if its items are, each by itself. -/
theorem restores_list (h : ∀ a, item (write a) = .ok a) :
    Restores (list item) fun as => some (.arr (as.map write)) := by
  refine restores_of_leaves fun t as ha => ?_
  have hwrite : (as.map write).mapM item = .ok as := by
    clear ha
    induction as with
    | nil => rfl
    | cons a as ih =>
      rw [List.map_cons, List.mapM_cons, h, ih]
      rfl
  cases t with
  | arr items => exact ⟨rfl, rfl, hwrite⟩
  | _ => cases ha

theorem map_value (fields : List (String × Toml)) :
    map (fun t => .ok (value t)) (.table fields) = .ok (valueFields fields) := by
  unfold map
  induction fields with
  | nil => rfl
  | cons kv fields ih =>
    dsimp only at ih ⊢
    rw [List.mapM_cons, ih]
    rfl

/-- Tables that are kept raw are restored but for their dates. -/
theorem restores_map_value :
    Restores (map fun t => .ok (value t)) fun fields => some (.table fields) := by
  intro t a ht ha
  cases t with
  | table fields =>
    rw [map_value] at ha
    cases ha
    refine interchangeable_of_value (fun t t' h h' hvalue => ?_) ht rfl
    obtain ⟨fields, rfl⟩ := exists_fields h
    obtain ⟨fields', rfl⟩ := exists_fields h'
    rw [map_value, map_value]
    exact congrArg Except.ok (Toml.table.inj hvalue)
  | _ => cases ha

end

/-! ## Records -/

section

variable {σ : Type} {record : List (FieldOf σ)} {a b : List (String × Toml)}

/-- What the entries of a table do to a record, by their keys. -/
def steps (record : List (FieldOf σ)) (entries : List (String × Toml)) :
    Fields (σ → Except DecodeError σ) :=
  entries.filterMap fun kv => (record.find? (·.name == kv.1)).map fun f => (kv.1, f.put kv.2)

/-- To fill a record is to take the steps of the entries in order. -/
theorem fillByKey_eq (record : List (FieldOf σ)) (entries : List (String × Toml)) (s : σ) :
    fillByKey record entries s = (steps record entries).foldlM (fun s step => step.2 s) s := by
  induction entries generalizing s with
  | nil => rfl
  | cons kv entries ih =>
    obtain ⟨key, t⟩ := kv
    rw [fillByKey, steps, List.filterMap_cons]
    cases record.find? (·.name == key) with
    | none => exact ih s
    | some f =>
      dsimp only [Option.map_some]
      rw [List.foldlM_cons]
      dsimp only
      cases f.put t s with
      | error e => rfl
      | ok filled => exact ih filled

theorem sorted_steps (h : Fields.Sorted a) : Fields.Sorted (steps record a) := by
  refine List.Pairwise.sublist ?_ h
  clear h
  induction a with
  | nil => exact List.Sublist.slnil
  | cons kv a ih =>
    rw [steps, List.filterMap_cons]
    cases record.find? (·.name == kv.1) with
    | none => exact ih.cons _
    | some f => exact ih.cons_cons _

/-- There is a step for a key just if a field has this name and the table has this key. -/
theorem get?_steps (record : List (FieldOf σ)) (entries : List (String × Toml)) (key : String) :
    Fields.get? key (steps record entries) =
      (record.find? (·.name == key)).bind fun f => (Fields.get? key entries).map f.put := by
  induction entries with
  | nil => cases record.find? (·.name == key) <;> rfl
  | cons kv entries ih =>
    obtain ⟨k, t⟩ := kv
    rw [steps, List.filterMap_cons, Fields.get?]
    by_cases he : k = key
    · subst he
      rw [if_pos rfl]
      cases hfind : record.find? (·.name == k) with
      | none =>
        rw [hfind] at ih
        exact ih
      | some f => exact if_pos rfl
    · rw [if_neg he, ← ih]
      cases record.find? (·.name == k) with
      | none => rfl
      | some f => exact if_neg he

/-- A record is the same from two tables of which each of its fields takes the same. -/
theorem record_congr {name : String} {start : σ} (ha : Fields.Sorted a) (hb : Fields.Sorted b)
    (h : ∀ f ∈ record, (Fields.get? f.name a).map f.put = (Fields.get? f.name b).map f.put) :
    Decoder.record name record start (.table a) = Decoder.record name record start (.table b) := by
  have hsteps : steps record a = steps record b := by
    refine (sorted_steps ha).ext (sorted_steps hb) fun key => ?_
    rw [get?_steps, get?_steps]
    cases hfind : record.find? (·.name == key) with
    | none => rfl
    | some f =>
      have hname := List.find?_some hfind
      have hkey : f.name = key := eq_of_beq hname
      exact hkey ▸ h f (List.mem_of_find?_eq_some hfind)
  have hmissing : record.find? (fun f => f.required && (Fields.get? f.name a).isNone) =
      record.find? (fun f => f.required && (Fields.get? f.name b).isNone) := by
    refine List.find?_congr fun f hf => ?_
    have hnone := congrArg Option.isNone (h f hf)
    rw [Option.isNone_map, Option.isNone_map] at hnone
    rw [hnone]
  rw [Decoder.record, Decoder.record, fillByKey_eq, fillByKey_eq, hsteps, hmissing]

end

end FleetGate.Toml.Decoder
