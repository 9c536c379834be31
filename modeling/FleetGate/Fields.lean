/-!
# Sorted fields

The fields of an object or a table are a list of keys with values, in byte
order of the keys and each key once.  Byte order of texts is the order of their
code points.  `Fields.insert` keeps the order (`Sorted.insert`), and
`get?_insert_self` and `get?_insert_ne` say what it does to a look-up.
-/

namespace FleetGate

/-- Keys with values. -/
abbrev Fields (α : Type) := List (String × α)

namespace Fields

variable {α : Type}

/-- Puts a value at a key.  The value that was there before is replaced. -/
def insert (key : String) (value : α) : Fields α → Fields α
  | [] => [(key, value)]
  | (k, v) :: fields =>
      if key < k then (key, value) :: (k, v) :: fields
      else if key = k then (key, value) :: fields
      else (k, v) :: insert key value fields

/-- The fields in order, the last of each key. -/
def ofList (fields : List (String × α)) : Fields α :=
  fields.foldl (fun sorted (key, value) => insert key value sorted) []

/-- The value at a key. -/
def get? (key : String) : Fields α → Option α
  | [] => none
  | (k, v) :: fields => if k = key then some v else get? key fields

/-- Puts a value at a key, unless there is one already. -/
def insertNew (key : String) (value : α) (fields : Fields α) : Fields α :=
  if (get? key fields).isSome then fields else insert key value fields

/-- The fields without those of a key. -/
def erase (key : String) (fields : Fields α) : Fields α := fields.filter (·.1 != key)

/-- What was put at a key is found there. -/
@[simp]
theorem get?_insert_self (key : String) (value : α) (fields : Fields α) :
    get? key (insert key value fields) = some value := by
  induction fields with
  | nil => simp [insert, get?]
  | cons kv fields ih =>
    obtain ⟨k, v⟩ := kv
    simp only [insert]
    split
    · simp [get?]
    · split
      · simp [get?]
      · next hk => simp [get?, Ne.symm hk, ih]

/-- Putting a value changes no other key. -/
theorem get?_insert_ne {key other : String} (h : other ≠ key) (value : α) (fields : Fields α) :
    get? other (insert key value fields) = get? other fields := by
  induction fields with
  | nil => simp [insert, get?, Ne.symm h]
  | cons kv fields ih =>
    obtain ⟨k, v⟩ := kv
    simp only [insert]
    split
    · simp [get?, Ne.symm h]
    · split
      · next hk => simp [get?, ← hk, Ne.symm h]
      · simp [get?, ih]

@[simp]
theorem get?_erase_self (key : String) (fields : Fields α) : get? key (erase key fields) = none := by
  induction fields with
  | nil => rfl
  | cons kv fields ih =>
    obtain ⟨k, v⟩ := kv
    by_cases hk : k = key <;> simp_all [erase, get?]

/-- Taking a key away changes no other. -/
theorem get?_erase_ne {key other : String} (h : other ≠ key) (fields : Fields α) :
    get? other (erase key fields) = get? other fields := by
  induction fields with
  | nil => rfl
  | cons kv fields ih =>
    obtain ⟨k, v⟩ := kv
    by_cases hk : k = key
    · subst hk
      simp_all [erase, get?, Ne.symm h]
    · by_cases ho : k = other <;> simp_all [erase, get?]

/-! ## Keys -/

/-- Each key stands there once, and the keys are in byte order. -/
def Sorted (fields : Fields α) : Prop := (fields.map (·.1)).Pairwise (· < ·)

theorem mem_keys_insert {key other : String} {value : α} {fields : Fields α} :
    other ∈ (insert key value fields).map (·.1) ↔ other = key ∨ other ∈ fields.map (·.1) := by
  induction fields with
  | nil => simp [insert]
  | cons kv fields ih =>
    obtain ⟨k, v⟩ := kv
    simp only [insert]
    split
    · simp
    · split
      · next hk => simp [hk]
      · rw [List.map_cons, List.mem_cons, ih, List.map_cons, List.mem_cons]
        exact or_left_comm

theorem mem_keys_erase {key other : String} {fields : Fields α} :
    other ∈ (erase key fields).map (·.1) ↔ other ≠ key ∧ other ∈ fields.map (·.1) := by
  simp only [erase, List.mem_map, List.mem_filter, bne_iff_ne]
  constructor
  · rintro ⟨kv, ⟨hmem, hne⟩, rfl⟩
    exact ⟨hne, kv, hmem, rfl⟩
  · rintro ⟨hne, kv, hmem, rfl⟩
    exact ⟨kv, ⟨hmem, hne⟩, rfl⟩

/-- A look-up finds exactly the keys. -/
theorem isSome_get?_iff {key : String} {fields : Fields α} :
    (get? key fields).isSome = true ↔ key ∈ fields.map (·.1) := by
  induction fields with
  | nil => simp [get?]
  | cons kv fields ih =>
    obtain ⟨k, v⟩ := kv
    rw [get?, List.map_cons, List.mem_cons]
    split
    · next hk => simp [hk]
    · next hk => rw [ih, or_iff_right (Ne.symm hk)]

/-- What a look-up finds stands in the fields. -/
theorem mem_of_get? {key : String} {value : α} {fields : Fields α}
    (h : get? key fields = some value) : (key, value) ∈ fields := by
  induction fields with
  | nil => cases h
  | cons kv fields ih =>
    rw [get?] at h
    split at h
    · next hk =>
      rw [← Option.some.inj h, ← hk]
      exact List.mem_cons_self
    · exact List.mem_cons_of_mem _ (ih h)

/-- Where each key stands once, a look-up finds whatever stands in the fields. -/
theorem Sorted.get?_of_mem {fields : Fields α} (h : Sorted fields) {kv : String × α}
    (hmem : kv ∈ fields) : get? kv.1 fields = some kv.2 := by
  induction fields with
  | nil => cases hmem
  | cons first fields ih =>
    obtain ⟨hfirst, hrest⟩ := List.pairwise_cons.mp h
    rcases List.mem_cons.mp hmem with rfl | hmem
    · simp [get?]
    · have hlt : first.1 < kv.1 := hfirst _ (List.mem_map_of_mem hmem)
      rw [get?, if_neg fun he => String.lt_irrefl _ (he ▸ hlt)]
      exact ih hrest hmem

/-- A key before all others is not one of them. -/
theorem get?_eq_none_of_lt {key : String} {fields : Fields α}
    (h : ∀ other ∈ fields.map (·.1), key < other) : get? key fields = none :=
  Option.not_isSome_iff_eq_none.mp fun hs => String.lt_irrefl _ (h key (isSome_get?_iff.mp hs))

/-- Two lists of fields are the same if they are sorted and look-ups find the same in them. -/
theorem Sorted.ext {first second : Fields α} (h : Sorted first) (h' : Sorted second)
    (hget : ∀ key, get? key first = get? key second) : first = second := by
  induction first generalizing second with
  | nil =>
    cases second with
    | nil => rfl
    | cons kv second => simpa [get?] using hget kv.1
  | cons kv first ih =>
    cases second with
    | nil => simpa [get?] using hget kv.1
    | cons kv' second =>
      obtain ⟨hk, hrest⟩ := List.pairwise_cons.mp h
      obtain ⟨hk', hrest'⟩ := List.pairwise_cons.mp h'
      -- neither first key can stand behind the other
      have hkey : kv.1 = kv'.1 := by
        have hmem : kv.1 ∈ (kv' :: second).map (·.1) :=
          isSome_get?_iff.mp (by rw [← hget, get?, if_pos rfl]; rfl)
        have hmem' : kv'.1 ∈ (kv :: first).map (·.1) :=
          isSome_get?_iff.mp (by rw [hget, get?, if_pos rfl]; rfl)
        rcases List.mem_cons.mp hmem with he | hmem
        · exact he
        · rcases List.mem_cons.mp hmem' with he | hmem'
          · exact he.symm
          · exact absurd (String.lt_trans (hk _ hmem') (hk' _ hmem)) (String.lt_irrefl _)
      have hvalue := hget kv.1
      rw [get?, if_pos rfl, get?, if_pos hkey.symm, Option.some_inj] at hvalue
      rw [Prod.ext hkey hvalue, ih hrest hrest' fun key => ?_]
      by_cases he : kv.1 = key
      · subst he
        rw [get?_eq_none_of_lt hk, hkey, get?_eq_none_of_lt hk']
      · have hother := hget key
        rwa [get?, if_neg he, get?, if_neg fun he' => he (hkey.trans he')] at hother

/-- Putting a value keeps the order of the keys. -/
theorem Sorted.insert {fields : Fields α} (h : Sorted fields) (key : String) (value : α) :
    Sorted (insert key value fields) := by
  induction fields with
  | nil => simp [Sorted, Fields.insert]
  | cons kv fields ih =>
    obtain ⟨k, v⟩ := kv
    obtain ⟨hk, hrest⟩ := List.pairwise_cons.mp h
    simp only [Fields.insert]
    split
    · next hlt =>
      refine List.pairwise_cons.mpr ⟨fun other hother => ?_, h⟩
      rcases List.mem_cons.mp hother with rfl | hmem
      · exact hlt
      · exact String.lt_trans hlt (hk other hmem)
    · next hge =>
      split
      · next he =>
        subst he
        exact h
      · next hne =>
        have hlt : k < key := by
          rcases Decidable.em (k < key) with hlt | hn
          · exact hlt
          · exact absurd (String.le_antisymm hn hge) hne
        refine List.pairwise_cons.mpr ⟨fun other hother => ?_, ih hrest⟩
        rcases mem_keys_insert.mp hother with rfl | hmem
        · exact hlt
        · exact hk other hmem

/-- Taking a key away keeps the order of the others. -/
theorem Sorted.erase {fields : Fields α} (h : Sorted fields) (key : String) :
    Sorted (erase key fields) :=
  h.sublist (List.Sublist.map _ List.filter_sublist)

end Fields

end FleetGate
