import FleetGate.Proofs.Layers

/-!
# Decoding

A record is decoded field by field.  Each part of it that one field alone sets is what the value
at the key of that field decodes to, or its default if there is none (`Part.reads_record`).  A
table that has a reader is read and checked, and nothing else is found under its name
(`Config.TableRegistry.get?_of_resolve`).
-/

namespace FleetGate

namespace Toml.Decoder

variable {σ α : Type} {fields : List (FieldOf σ)} {entries : List (String × Toml)}
  {key name : String} {item : Decoder α} {part : σ → α} {start s s' : σ} {t : Toml}

/-- What a decoder makes of a value that may be missing. -/
def Reads (item : Decoder α) (default : α) : Option Toml → α → Prop
  | some t, a => item t = .ok a
  | none, a => a = default

/-- A field that leaves a part of a record alone. -/
def FieldOf.Spares (f : FieldOf σ) (part : σ → α) : Prop :=
  ∀ t s s', f.put t s = .ok s' → part s' = part s

/-- A part of a record that the field of one key sets, and no other field. -/
structure Part (fields : List (FieldOf σ)) (key : String) (item : Decoder α) (part : σ → α) :
    Prop where
  own : ∃ f, fields.find? (·.name == key) = some f ∧
    ∀ t s s', f.put t s = .ok s' → item t = .ok (part s')
  other : ∀ f ∈ fields, f.name ≠ key → f.Spares part

theorem exists_of_put_field {set : α → σ → σ} (h : (field name item set).put t s = .ok s') :
    ∃ a, item t = .ok a ∧ s' = set a s := by
  change (item t).map _ = _ at h
  cases hitem : item t with
  | error e =>
    rw [hitem] at h
    cases h
  | ok a =>
    rw [hitem] at h
    exact ⟨a, rfl, (Except.ok.inj h).symm⟩

theorem spares_field {β : Type} {other : Decoder β} {set : β → σ → σ}
    (h : ∀ b s, part (set b s) = part s) : (field name other set).Spares part := by
  intro t s s' hput
  obtain ⟨b, -, rfl⟩ := exists_of_put_field hput
  exact h b s

/-- The part that the first field sets. -/
theorem Part.head {set : α → σ → σ} (h : ∀ a s, part (set a s) = a)
    (hrest : ∀ f ∈ fields, f.Spares part) :
    Part (field name item set :: fields) name item part where
  own := by
    refine ⟨_, List.find?_cons_of_pos (beq_self_eq_true name), fun t s s' hput => ?_⟩
    obtain ⟨a, ha, rfl⟩ := exists_of_put_field hput
    rw [h, ha]
  other f hf hne := by
    rcases List.mem_cons.mp hf with rfl | hf
    · exact absurd rfl hne
    · exact hrest f hf

/-- A part that a later field sets. -/
theorem Part.tail {β : Type} {other : Decoder β} {set : β → σ → σ} (hne : name ≠ key)
    (h : ∀ b s, part (set b s) = part s) (hrest : Part fields key item part) :
    Part (field name other set :: fields) key item part where
  own := by
    obtain ⟨f, hfind, hf⟩ := hrest.own
    refine ⟨f, ?_, hf⟩
    rwa [List.find?_cons_of_neg]
    exact fun he => hne (eq_of_beq he)
  other f hf hne := by
    rcases List.mem_cons.mp hf with rfl | hf
    · exact spares_field h
    · exact hrest.other f hf hne

/-- The first entry fills the field of its key, if there is one. -/
theorem exists_of_fillByKey (h : fillByKey fields ((key, t) :: entries) s = .ok s') :
    ∃ filled, fillByKey fields entries filled = .ok s' ∧
      match fields.find? (·.name == key) with
      | some f => f.put t s = .ok filled
      | none => filled = s := by
  rw [fillByKey] at h
  cases hfind : fields.find? (·.name == key) with
  | none =>
    rw [hfind] at h
    exact ⟨s, h, rfl⟩
  | some f =>
    rw [hfind] at h
    dsimp only at h ⊢
    cases hput : f.put t s with
    | error e =>
      rw [hput] at h
      cases h
    | ok filled =>
      rw [hput] at h
      exact ⟨filled, h, rfl⟩

/-- An entry with another key leaves a part alone. -/
theorem Part.eq_of_entry (h : Part fields key item part) {other : String} {filled : σ}
    (hne : other ≠ key)
    (hfilled : match fields.find? (·.name == other) with
      | some f => f.put t s = .ok filled
      | none => filled = s) : part filled = part s := by
  cases hfind : fields.find? (·.name == other) with
  | none =>
    rw [hfind] at hfilled
    exact congrArg part hfilled
  | some f =>
    rw [hfind] at hfilled
    have hname := List.find?_some hfind
    exact h.other f (List.mem_of_find?_eq_some hfind) (eq_of_beq hname ▸ hne) t s filled hfilled

theorem Part.eq_of_fillByKey (h : Part fields key item part)
    (hnone : Fields.get? key entries = none) (hfill : fillByKey fields entries s = .ok s') :
    part s' = part s := by
  induction entries generalizing s with
  | nil =>
    cases hfill
    rfl
  | cons entry entries ih =>
    obtain ⟨filled, hfill, hfilled⟩ := exists_of_fillByKey hfill
    rw [Fields.get?] at hnone
    split at hnone
    · cases hnone
    · next hne => rw [ih hnone hfill, h.eq_of_entry hne hfilled]

/-- Once the entry of its key is put, no later entry changes a part. -/
theorem Part.reads_fillByKey (h : Part fields key item part) (hs : Fields.Sorted entries)
    (hfill : fillByKey fields entries s = .ok s') :
    Reads item (part s) (Fields.get? key entries) (part s') := by
  induction entries generalizing s with
  | nil =>
    cases hfill
    rfl
  | cons entry entries ih =>
    obtain ⟨k, t⟩ := entry
    obtain ⟨hfirst, hrest⟩ := List.pairwise_cons.mp hs
    obtain ⟨filled, hfill, hfilled⟩ := exists_of_fillByKey hfill
    rw [Fields.get?]
    split
    · next he =>
      subst he
      obtain ⟨f, hfind, hown⟩ := h.own
      rw [hfind] at hfilled
      rw [h.eq_of_fillByKey (Fields.get?_eq_none_of_lt hfirst) hfill]
      exact hown t s filled hfilled
    · next hne =>
      rw [← h.eq_of_entry hne hfilled]
      exact ih hrest hfill

theorem Part.reads_record (part : σ → α) (h : Part fields key item part)
    (hs : Fields.Sorted entries)
    (hd : record name fields start (.table entries) = .ok s) :
    Reads item (part start) (Fields.get? key entries) (part s) := by
  rw [record] at hd
  obtain ⟨filled, hfill, hd⟩ := exists_of_bind_eq_ok hd
  split at hd
  · cases hd
  · cases hd
    exact h.reads_fillByKey hs hfill

end Toml.Decoder

namespace Config.TableRegistry

variable {α : Type} {r : TableRegistry α} {name : String} {reader : TableReader α}
  {origin : Origin} {tables : Fields Toml} {found : Fields α}

/-- What is found under the name of a reader is what this reader makes of the table. -/
theorem get?_of_resolve (hreader : Fields.get? name r.readers = some reader)
    (h : r.resolve origin tables = .ok found) :
    match Fields.get? name tables with
    | some t => ∃ a, readTable reader origin t = .ok a ∧ Fields.get? name found = some a
    | none => Fields.get? name found = none := by
  fun_induction resolve r origin tables generalizing found with
  | case1 =>
    cases h
    rfl
  | case2 other t tables hnone ih =>
    have hne : other ≠ name := fun he => by
      rw [he, hreader] at hnone
      cases hnone
    rw [Fields.get?, if_neg hne]
    exact ih h
  | case3 => cases h
  | case4 other t tables own hown a hread ih =>
    cases hrest : r.resolve origin tables with
    | error e =>
      rw [hrest] at h
      cases h
    | ok rest =>
      rw [hrest] at h
      cases h
      rw [Fields.get?, Fields.get?]
      by_cases he : other = name
      · subst he
        rw [hreader] at hown
        cases hown
        rw [if_pos rfl, if_pos rfl]
        exact ⟨a, hread, rfl⟩
      · rw [if_neg he, if_neg he]
        exact ih hrest

end Config.TableRegistry

end FleetGate
