import FleetGate.Proofs.ByteOrder
import FleetGate.Proofs.Locations
import FleetGate.Proofs.Running

/-!
# Tables with known names

A registry grows one reader at a time.  A name that is taken keeps its reader, and whoever
registers it again is refused (`registerAll_of_taken`).  So a table is read by the reader that
its name got first, if it got one.

* `TableReader.Takes` and `TableReader.Refuses` are the two ends of reading a table and checking
  what was read.
* `exists_resolve_iff` and `resolve_eq_error_iff` are the two ends of reading all tables.  Both
  come from `resolve_cases`, which follows the tables from the first to the last: what comes before
  a refused table was taken, and what comes after it was not looked at.
* `resolve_congr` and `resolve_congr_of_refused` say which tables count: those with a reader, up to
  the first that is refused.
-/

namespace FleetGate.Config

open Text

variable {α : Type}

/-! ## One table -/

namespace TableReader

/-- A table can be read, and what is read passes the check. -/
def Takes (reader : TableReader α) (origin : Origin) (t : Toml) (a : α) : Prop :=
  reader.read origin t = .ok a ∧ reader.check a = .ok ()

/-- A table cannot be read, or what is read does not pass the check. -/
def Refuses (reader : TableReader α) (origin : Origin) (t : Toml) (reason : String) : Prop :=
  reader.read origin t = .error reason ∨
    ∃ a, reader.read origin t = .ok a ∧ reader.check a = .error reason

variable {reader : TableReader α} {origin : Origin} {t : Toml} {a : α} {reason : String}

/-- A table is taken if it is read and passes the check. -/
theorem readTable_eq_ok_iff :
    TableRegistry.readTable reader origin t = .ok a ↔ reader.Takes origin t a := by
  unfold TableRegistry.readTable Takes
  constructor
  · intro h
    obtain ⟨read, hread, h⟩ := exists_of_bind_eq_ok h
    obtain ⟨_, hcheck, h⟩ := exists_of_bind_eq_ok h
    cases h
    exact ⟨hread, hcheck⟩
  · rintro ⟨hread, hcheck⟩
    rw [hread]
    show (reader.check a >>= fun _ => pure a) = _
    rw [hcheck]
    rfl

/-- It is refused if it cannot be read or does not pass. -/
theorem readTable_eq_error_iff :
    TableRegistry.readTable reader origin t = .error reason ↔ reader.Refuses origin t reason := by
  unfold TableRegistry.readTable Refuses
  constructor
  · intro h
    rcases cases_of_bind_eq_error h with hread | ⟨a, hread, h⟩
    · exact .inl hread
    · rcases cases_of_bind_eq_error h with hcheck | ⟨_, -, h⟩
      · exact .inr ⟨a, hread, hcheck⟩
      · cases h
  · rintro (hread | ⟨a, hread, hcheck⟩)
    · rw [hread]
      rfl
    · rw [hread]
      show (reader.check a >>= fun _ => pure a) = _
      rw [hcheck]
      rfl

/-- No table is both taken and refused. -/
theorem Takes.not_refuses (h : reader.Takes origin t a) : ¬ reader.Refuses origin t reason := by
  intro h'
  rw [← readTable_eq_ok_iff] at h
  rw [← readTable_eq_error_iff, h] at h'
  cases h'

end TableReader

namespace TableRegistry

variable {r : TableRegistry α} {name : String} {reader : TableReader α}
  {calls : List (String × TableReader α)}

/-! ## Registering -/

/-- The registry after readers were registered in order.  One that is refused leaves it as it
was. -/
def registerAll (r : TableRegistry α) : List (String × TableReader α) → TableRegistry α
  | [] => r
  | (name, reader) :: calls =>
      match r.register name reader with
      | .ok grown => grown.registerAll calls
      | .error _ => r.registerAll calls

/-- What is said to whoever registers a name again. -/
def taken (kind name : String) : String :=
  kind ++ " config parser " ++ Text.quoted name ++ " is already registered"

/-- A name that is taken is refused, and the registry stays as it is. -/
theorem register_of_has (h : r.has name = true) (reader : TableReader α) :
    r.register name reader = .error (taken r.kind name) := by
  rw [register, if_pos h, taken]

theorem register_of_not_has (h : r.has name = false) (reader : TableReader α) :
    r.register name reader = .ok { r with readers := Fields.insert name reader r.readers } := by
  rw [register, h]
  rfl

theorem registerAll_of_taken (h : r.has name = true) (reader : TableReader α)
    (calls : List (String × TableReader α)) :
    r.registerAll ((name, reader) :: calls) = r.registerAll calls := by
  rw [registerAll, register_of_has h]

theorem kind_registerAll (r : TableRegistry α) (calls : List (String × TableReader α)) :
    (r.registerAll calls).kind = r.kind := by
  induction calls generalizing r with
  | nil => rfl
  | cons call calls ih =>
    obtain ⟨name, reader⟩ := call
    cases h : r.has name with
    | true => rw [registerAll_of_taken h, ih]
    | false =>
      rw [registerAll, register_of_not_has h]
      exact ih _

/-- Registering may go on where it has ended. -/
theorem registerAll_append (r : TableRegistry α) (calls more : List (String × TableReader α)) :
    r.registerAll (calls ++ more) = (r.registerAll calls).registerAll more := by
  induction calls generalizing r with
  | nil => rfl
  | cons call calls ih =>
    obtain ⟨name, reader⟩ := call
    rw [List.cons_append, registerAll, registerAll]
    cases r.register name reader <;> exact ih _

/-- A name has the reader that it had before, or else the first that it was registered with. -/
theorem get?_registerAll (r : TableRegistry α) (calls : List (String × TableReader α))
    (name : String) :
    Fields.get? name (r.registerAll calls).readers =
      (Fields.get? name r.readers).or (Fields.get? name calls) := by
  induction calls generalizing r with
  | nil => exact (Option.or_none).symm
  | cons call calls ih =>
    obtain ⟨other, reader⟩ := call
    rw [Fields.get?]
    cases h : r.has other with
    | true =>
      rw [registerAll_of_taken h, ih]
      split
      · next he =>
        obtain ⟨old, hold⟩ := Option.isSome_iff_exists.mp (he ▸ h)
        rw [hold]
        rfl
      · rfl
    | false =>
      rw [registerAll, register_of_not_has h]
      dsimp only
      rw [ih]
      dsimp only
      split
      · next he =>
        have hnone : Fields.get? name r.readers = none :=
          Option.not_isSome_iff_eq_none.mp fun hs => by
            rw [← he] at hs
            exact Bool.false_ne_true (h.symm.trans hs)
        rw [he, Fields.get?_insert_self, hnone]
        rfl
      · next hne => rw [Fields.get?_insert_ne (Ne.symm hne)]

/-! ## All tables -/

variable {origin : Origin} {tables tables' : Fields Toml} {found : Fields α} {t : Toml} {a : α}
  {reason : String}

/-- A table has a reader that takes it. -/
def Takes (r : TableRegistry α) (origin : Origin) (name : String) (t : Toml) (a : α) : Prop :=
  ∃ reader, Fields.get? name r.readers = some reader ∧ reader.Takes origin t a

/-- A table has a reader that refuses it. -/
def Refuses (r : TableRegistry α) (origin : Origin) (name : String) (t : Toml) (reason : String) :
    Prop :=
  ∃ reader, Fields.get? name r.readers = some reader ∧ reader.Refuses origin t reason

/-- Every table is taken, refused or left alone, and reading goes on unless it is refused. -/
theorem resolve_cons_cases (r : TableRegistry α) (origin : Origin) (name : String) (t : Toml)
    (tables : Fields Toml) :
    (Fields.get? name r.readers = none ∧
      r.resolve origin ((name, t) :: tables) = r.resolve origin tables) ∨
    (∃ a, r.Takes origin name t a ∧
      r.resolve origin ((name, t) :: tables) = (r.resolve origin tables).map ((name, a) :: ·)) ∨
    ∃ reason, r.Refuses origin name t reason ∧
      r.resolve origin ((name, t) :: tables) = .error (.badTable r.kind name reason) := by
  rw [resolve]
  cases hreader : Fields.get? name r.readers with
  | none => exact .inl ⟨rfl, rfl⟩
  | some reader =>
    dsimp only
    cases hread : readTable reader origin t with
    | ok a =>
      exact .inr (.inl ⟨a, ⟨reader, hreader, TableReader.readTable_eq_ok_iff.mp hread⟩, rfl⟩)
    | error reason =>
      exact .inr (.inr ⟨reason,
        ⟨reader, hreader, TableReader.readTable_eq_error_iff.mp hread⟩, rfl⟩)

theorem Takes.not_refuses (h : r.Takes origin name t a) : ¬ r.Refuses origin name t reason := by
  rintro ⟨reader, hreader, hrefuses⟩
  obtain ⟨reader', hreader', htakes⟩ := h
  cases hreader.symm.trans hreader'
  exact htakes.not_refuses hrefuses

theorem Refuses.has (h : r.Refuses origin name t reason) : r.has name = true := by
  obtain ⟨reader, hreader, -⟩ := h
  rw [TableRegistry.has, hreader]
  rfl

theorem Takes.has (h : r.Takes origin name t a) : r.has name = true := by
  obtain ⟨reader, hreader, -⟩ := h
  rw [TableRegistry.has, hreader]
  rfl

theorem Refuses.unique {reason' : String} (h : r.Refuses origin name t reason)
    (h' : r.Refuses origin name t reason') : reason = reason' := by
  obtain ⟨reader, hreader, hrefuses⟩ := h
  obtain ⟨reader', hreader', hrefuses'⟩ := h'
  cases hreader.symm.trans hreader'
  rw [← TableReader.readTable_eq_error_iff] at hrefuses hrefuses'
  exact Except.error.inj (hrefuses.symm.trans hrefuses')

theorem Takes.unique {a' : α} (h : r.Takes origin name t a) (h' : r.Takes origin name t a') :
    a = a' := by
  obtain ⟨reader, hreader, hread, -⟩ := h
  obtain ⟨reader', hreader', hread', -⟩ := h'
  cases hreader.symm.trans hreader'
  exact Except.ok.inj (hread.symm.trans hread')

/-- Tables are all taken, or one of them is refused and those before it are taken. -/
theorem resolve_cases (r : TableRegistry α) (origin : Origin) (tables : Fields Toml) :
    (∃ found, r.resolve origin tables = .ok found ∧
      ∀ kv ∈ tables, r.has kv.1 = true → ∃ a, r.Takes origin kv.1 kv.2 a) ∨
    ∃ before name t after reason, tables = before ++ (name, t) :: after ∧
      (∀ kv ∈ before, r.has kv.1 = true → ∃ a, r.Takes origin kv.1 kv.2 a) ∧
      r.Refuses origin name t reason ∧
      r.resolve origin tables = .error (.badTable r.kind name reason) := by
  induction tables with
  | nil => exact .inl ⟨[], rfl, List.forall_mem_nil _⟩
  | cons kv tables ih =>
    obtain ⟨name, t⟩ := kv
    have hfirst : (∃ reason, r.Refuses origin name t reason ∧
          r.resolve origin ((name, t) :: tables) = .error (.badTable r.kind name reason)) ∨
        (r.has name = true → ∃ a, r.Takes origin name t a) ∧
          ∃ more, r.resolve origin ((name, t) :: tables) =
            (r.resolve origin tables).map more := by
      rcases r.resolve_cons_cases origin name t tables with ⟨hnone, h⟩ | ⟨a, ha, h⟩ | hrefused
      · refine .inr ⟨fun hs => ?_, id, ?_⟩
        · rw [has, hnone] at hs
          cases hs
        · rw [h]
          cases r.resolve origin tables <;> rfl
      · exact .inr ⟨fun _ => ⟨a, ha⟩, _, h⟩
      · exact .inl hrefused
    rcases hfirst with ⟨reason, hrefuses, h⟩ | ⟨htakes, more, h⟩
    · exact .inr ⟨[], name, t, tables, reason, rfl, List.forall_mem_nil _, hrefuses, h⟩
    · rw [h]
      rcases ih with ⟨found, hfound, hall⟩ |
        ⟨before, other, u, after, reason, rfl, hbefore, hrefuses, hfail⟩
      · exact .inl ⟨more found, by rw [hfound]; rfl, List.forall_mem_cons.mpr ⟨htakes, hall⟩⟩
      · exact .inr ⟨(name, t) :: before, other, u, after, reason, rfl,
          List.forall_mem_cons.mpr ⟨htakes, hbefore⟩, hrefuses, by rw [hfail]; rfl⟩

/-- Reading succeeds exactly if every table with a reader is taken. -/
theorem exists_resolve_iff :
    (∃ found, r.resolve origin tables = .ok found) ↔
      ∀ kv ∈ tables, r.has kv.1 = true → ∃ a, r.Takes origin kv.1 kv.2 a := by
  rcases r.resolve_cases origin tables with ⟨found, hfound, hall⟩ |
    ⟨before, name, t, after, reason, rfl, -, hrefuses, hfail⟩
  · exact iff_of_true ⟨found, hfound⟩ hall
  · refine iff_of_false ?_ fun hall => ?_
    · rintro ⟨found, hfound⟩
      rw [hfail] at hfound
      cases hfound
    · obtain ⟨a, ha⟩ := hall (name, t) (List.mem_append_right _ List.mem_cons_self)
        hrefuses.has
      exact ha.not_refuses hrefuses

/-! ## Tables in order -/

theorem keys_sublist_of_resolve (h : r.resolve origin tables = .ok found) :
    (found.map (·.1)).Sublist (tables.map (·.1)) := by
  induction tables generalizing found with
  | nil =>
    cases h
    exact List.Sublist.slnil
  | cons kv tables ih =>
    obtain ⟨name, t⟩ := kv
    rcases r.resolve_cons_cases origin name t tables with ⟨-, hr⟩ | ⟨a, -, hr⟩ | ⟨reason, -, hr⟩
    · exact (ih (hr.symm.trans h)).cons _
    · cases hrest : r.resolve origin tables with
      | error e =>
        rw [hr, hrest] at h
        cases h
      | ok rest =>
        rw [hr, hrest] at h
        cases h
        exact (ih hrest).cons_cons _
    · cases hr.symm.trans h

/-- What is found under a name is what the reader of the name makes of the table. -/
theorem get?_resolve_iff (hs : Fields.Sorted tables) (h : r.resolve origin tables = .ok found) :
    Fields.get? name found = some a ↔
      ∃ t, Fields.get? name tables = some t ∧ r.Takes origin name t a := by
  induction tables generalizing found with
  | nil =>
    cases h
    simp [Fields.get?]
  | cons kv tables ih =>
    obtain ⟨other, u⟩ := kv
    obtain ⟨hfirst, hrest⟩ := List.pairwise_cons.mp hs
    have hlater : Fields.get? other tables = none := Fields.get?_eq_none_of_lt hfirst
    rw [Fields.get?]
    rcases r.resolve_cons_cases origin other u tables with
      ⟨hnone, hr⟩ | ⟨b, hb, hr⟩ | ⟨reason, -, hr⟩
    · rw [ih hrest (hr.symm.trans h)]
      split
      · next he =>
        subst he
        rw [hlater]
        constructor
        · rintro ⟨t, ht, -⟩
          cases ht
        · rintro ⟨t, -, reader, hreader, -⟩
          cases hnone.symm.trans hreader
      · rfl
    · cases hfound : r.resolve origin tables with
      | error e =>
        rw [hr, hfound] at h
        cases h
      | ok rest =>
        rw [hr, hfound] at h
        cases h
        rw [Fields.get?]
        split
        · next he =>
          subst he
          constructor
          · intro hab
            cases hab
            exact ⟨u, rfl, hb⟩
          · rintro ⟨t, ht, ha⟩
            cases ht
            exact congrArg some (hb.unique ha)
        · exact ih hrest hfound
    · cases hr.symm.trans h

theorem sorted_of_resolve (hs : Fields.Sorted tables) (h : r.resolve origin tables = .ok found) :
    Fields.Sorted found :=
  List.Pairwise.sublist (keys_sublist_of_resolve h) hs

/-- A name is the first in byte order whose table is refused. -/
structure IsFirstRefused (r : TableRegistry α) (origin : Origin) (tables : Fields Toml)
    (name : String) (t : Toml) (reason : String) : Prop where
  table : Fields.get? name tables = some t
  refused : r.Refuses origin name t reason
  least : ∀ other u, Utf8.encode other < Utf8.encode name → Fields.get? other tables = some u →
    r.has other = true → ∃ a, r.Takes origin other u a

/-- There is no other such name. -/
theorem IsFirstRefused.unique {name' reason' : String} {t' : Toml}
    (h : r.IsFirstRefused origin tables name t reason)
    (h' : r.IsFirstRefused origin tables name' t' reason') :
    name = name' ∧ reason = reason' := by
  have hle {n n' s s' : String} {u u' : Toml} (h : r.IsFirstRefused origin tables n u s)
      (h' : r.IsFirstRefused origin tables n' u' s') : ¬ n < n' := fun hlt => by
    obtain ⟨a, ha⟩ :=
      h'.least n u (Utf8.encode_lt_encode_iff.mpr hlt) h.table h.refused.has
    exact ha.not_refuses h.refused
  have hname : name = name' := String.le_antisymm (hle h' h) (hle h h')
  subst hname
  cases h.table.symm.trans h'.table
  exact ⟨rfl, h.refused.unique h'.refused⟩

/-- If it fails, it does so at the first name whose table is refused. -/
theorem exists_isFirstRefused (hs : Fields.Sorted tables) {e : ConfigError}
    (h : r.resolve origin tables = .error e) :
    ∃ name t reason, e = .badTable r.kind name reason ∧
      r.IsFirstRefused origin tables name t reason := by
  rcases r.resolve_cases origin tables with ⟨found, hfound, -⟩ |
    ⟨before, name, t, after, reason, rfl, hbefore, hrefuses, hfail⟩
  · cases hfound.symm.trans h
  · refine ⟨name, t, reason, (Except.error.inj (hfail.symm.trans h)).symm,
      hs.get?_of_mem (List.mem_append_right _ List.mem_cons_self), hrefuses,
      fun other u hlt hu hhas => ?_⟩
    rcases List.mem_append.mp (Fields.mem_of_get? hu) with hmem | hmem
    · exact hbefore _ hmem hhas
    · -- what stands at the refused table or behind it is not less
      have hlt := Utf8.encode_lt_encode_iff.mp hlt
      rw [Fields.Sorted, List.map_append] at hs
      obtain ⟨hfirst, -⟩ := List.pairwise_cons.mp (List.pairwise_append.mp hs).2.1
      rcases List.mem_cons.mp hmem with he | hmem
      · cases he
        exact absurd hlt (String.lt_irrefl _)
      · exact absurd (String.lt_trans hlt (hfirst _ (List.mem_map_of_mem hmem)))
          (String.lt_irrefl _)

/-- Reading fails exactly at the first name in byte order whose table is refused. -/
theorem resolve_eq_error_iff (hs : Fields.Sorted tables) {e : ConfigError} :
    r.resolve origin tables = .error e ↔ ∃ name t reason, e = .badTable r.kind name reason ∧
      r.IsFirstRefused origin tables name t reason := by
  refine ⟨exists_isFirstRefused hs, ?_⟩
  rintro ⟨name, t, reason, rfl, hfirst⟩
  cases hr : r.resolve origin tables with
  | ok found =>
    obtain ⟨a, ha⟩ :=
      exists_resolve_iff.mp ⟨found, hr⟩ _ (Fields.mem_of_get? hfirst.table) hfirst.refused.has
    exact absurd hfirst.refused ha.not_refuses
  | error e =>
    obtain ⟨name', t', reason', rfl, hfirst'⟩ := exists_isFirstRefused hs hr
    obtain ⟨rfl, rfl⟩ := hfirst.unique hfirst'
    rfl

/-! ## Other tables -/

/-- Two lists of tables have the same tables under the names with readers, as far as a
condition on names goes. -/
def Agree (r : TableRegistry α) (P : String → Prop) (tables tables' : Fields Toml) : Prop :=
  ∀ name, r.has name = true → P name → Fields.get? name tables' = Fields.get? name tables

/-- What comes after a table that is refused does not count. -/
theorem resolve_congr_of_refused (hs : Fields.Sorted tables) (hs' : Fields.Sorted tables')
    (ht : Fields.get? name tables = some t) (hrefuses : r.Refuses origin name t reason)
    (h : r.Agree (fun other => ¬ Utf8.encode name < Utf8.encode other) tables tables') :
    r.resolve origin tables' = r.resolve origin tables := by
  cases hr : r.resolve origin tables with
  | ok found =>
    obtain ⟨a, ha⟩ := exists_resolve_iff.mp ⟨found, hr⟩ _ (Fields.mem_of_get? ht) hrefuses.has
    exact absurd hrefuses ha.not_refuses
  | error e =>
    obtain ⟨first, u, reason', rfl, hfirst⟩ := exists_isFirstRefused hs hr
    have hle : ¬ Utf8.encode name < Utf8.encode first := fun hlt => by
      obtain ⟨a, ha⟩ := hfirst.least name t hlt ht hrefuses.has
      exact ha.not_refuses hrefuses
    refine (resolve_eq_error_iff hs').mpr ⟨first, u, reason', rfl, ?_, hfirst.refused,
      fun other v hlt hv hhas => ?_⟩
    · rw [h first hfirst.refused.has hle, hfirst.table]
    · refine hfirst.least other v hlt ?_ hhas
      rw [← h other hhas fun hlt' => hle (List.lt_trans hlt' hlt), hv]

/-- Nor does a table without a reader. -/
theorem resolve_congr (hs : Fields.Sorted tables) (hs' : Fields.Sorted tables')
    (h : r.Agree (fun _ => True) tables tables') :
    r.resolve origin tables' = r.resolve origin tables := by
  cases hr : r.resolve origin tables with
  | error e =>
    obtain ⟨first, u, reason, rfl, hfirst⟩ := exists_isFirstRefused hs hr
    rw [← hr]
    exact resolve_congr_of_refused hs hs' hfirst.table hfirst.refused
      fun name hhas _ => h name hhas trivial
  | ok found =>
    have hall := exists_resolve_iff.mp ⟨found, hr⟩
    obtain ⟨found', hr'⟩ : ∃ found', r.resolve origin tables' = .ok found' := by
      refine exists_resolve_iff.mpr fun kv hkv hhas => hall kv (Fields.mem_of_get? ?_) hhas
      rw [← h kv.1 hhas trivial, hs'.get?_of_mem hkv]
    rw [hr']
    refine congrArg Except.ok ((sorted_of_resolve hs' hr').ext (sorted_of_resolve hs hr)
      fun name => Option.ext fun a => ?_)
    rw [get?_resolve_iff hs' hr', get?_resolve_iff hs hr]
    refine exists_congr fun t => and_congr_left fun ha => ?_
    rw [h name ha.has trivial]

/-! ## What a registry makes of tables -/

/-- What a registry makes of tables at a place: the two ends of reading them, and the tables that
do not count. -/
structure Reads (r : TableRegistry α) (origin : Origin) (tables : Fields Toml) : Prop where
  ok_iff : (∃ found, r.resolve origin tables = .ok found) ↔
    ∀ name t, Fields.get? name tables = some t → r.has name = true →
      ∃ a, r.Takes origin name t a
  keys : ∀ found, r.resolve origin tables = .ok found → Fields.Sorted found ∧
    ∀ name, (Fields.get? name found).isSome = true ↔
      r.has name = true ∧ (Fields.get? name tables).isSome = true
  value_iff : ∀ found, r.resolve origin tables = .ok found → ∀ name a,
    Fields.get? name found = some a ↔
      ∃ t, Fields.get? name tables = some t ∧ r.Takes origin name t a
  error_iff : ∀ e, r.resolve origin tables = .error e ↔
    ∃ name t reason, e = .badTable r.kind name reason ∧
      r.IsFirstRefused origin tables name t reason
  unregistered : ∀ tables', Fields.Sorted tables' → r.Agree (fun _ => True) tables tables' →
    r.resolve origin tables' = r.resolve origin tables
  later : ∀ tables' name t reason, Fields.Sorted tables' →
    r.IsFirstRefused origin tables name t reason →
    r.Agree (fun other => ¬ Utf8.encode name < Utf8.encode other) tables tables' →
    r.resolve origin tables' = r.resolve origin tables

/-- A registry reads tables as it is said to, in all cases. -/
theorem reads (r : TableRegistry α) (origin : Origin) (hs : Fields.Sorted tables) :
    r.Reads origin tables where
  ok_iff := by
    rw [exists_resolve_iff]
    constructor
    · exact fun h name t ht => h (name, t) (Fields.mem_of_get? ht)
    · exact fun h kv hkv => h kv.1 kv.2 (hs.get?_of_mem hkv)
  keys found h := by
    refine ⟨sorted_of_resolve hs h, fun name => ?_⟩
    rw [Option.isSome_iff_exists, Option.isSome_iff_exists]
    constructor
    · rintro ⟨a, ha⟩
      obtain ⟨t, ht, htakes⟩ := (get?_resolve_iff hs h).mp ha
      exact ⟨htakes.has, t, ht⟩
    · rintro ⟨hhas, t, ht⟩
      obtain ⟨a, ha⟩ := exists_resolve_iff.mp ⟨found, h⟩ _ (Fields.mem_of_get? ht) hhas
      exact ⟨a, (get?_resolve_iff hs h).mpr ⟨t, ht, ha⟩⟩
  value_iff _ h _ _ := get?_resolve_iff hs h
  error_iff _ := resolve_eq_error_iff hs
  unregistered _ hs' h := resolve_congr hs hs' h
  later _ _ _ _ hs' hfirst h := resolve_congr_of_refused hs hs' hfirst.table hfirst.refused h

end TableRegistry

/-- A registry that readers were registered with in any order keeps the first of each name, and
refuses the others without a change.  It reads tables with these readers: all tables with a
registered name are taken, or the first of them that is refused is named with its reason.  Neither
a table without a reader nor one behind the refused table matters. -/
theorem tables_are_read_by_their_first_readers (kind : String)
    (calls : List (String × TableReader α)) :
    let r := (TableRegistry.empty kind).registerAll calls
    r.kind = kind ∧
    (∀ name, Fields.get? name r.readers = Fields.get? name calls) ∧
    (∀ name reader, r.has name = false → ∃ grown, r.register name reader = .ok grown ∧
      (TableRegistry.empty kind).registerAll (calls ++ [(name, reader)]) = grown) ∧
    (∀ name reader, r.has name = true →
      r.register name reader = .error (TableRegistry.taken kind name) ∧
      (TableRegistry.empty kind).registerAll (calls ++ [(name, reader)]) = r) ∧
    ∀ origin tables, Fields.Sorted tables → r.Reads origin tables := by
  intro r
  have hkind : r.kind = kind := TableRegistry.kind_registerAll _ calls
  refine ⟨hkind, fun name => ?_, fun name reader h => ?_, fun name reader h => ?_,
    fun origin _ hs => r.reads origin hs⟩
  · exact (TableRegistry.get?_registerAll _ calls name).trans Option.none_or
  · refine ⟨_, TableRegistry.register_of_not_has h reader, ?_⟩
    rw [TableRegistry.registerAll_append, TableRegistry.registerAll,
      TableRegistry.register_of_not_has h]
    rfl
  · refine ⟨hkind ▸ TableRegistry.register_of_has h reader, ?_⟩
    rw [TableRegistry.registerAll_append, TableRegistry.registerAll_of_taken h]
    rfl

/-- The second reader of `kiali` would take anything.  The first one asks for an address, and no
one asks about `future`. -/
theorem kiali_table_is_refused_by_its_first_reader :
    let calls := [(Kiali.toolset, Kiali.reader),
      (Kiali.toolset, ⟨fun _ _ => .ok {}, fun _ => .ok ()⟩)]
    let r := (TableRegistry.empty "toolset").registerAll calls
    let tables : Fields Toml := [("future", .bool true), (Kiali.toolset, .table [])]
    Fields.Sorted tables ∧ r.Reads none tables ∧
      r.resolve none tables = .error (.badTable "toolset" Kiali.toolset "url is required") := by
  intro calls r tables
  have hs : Fields.Sorted tables := by
    unfold Fields.Sorted
    decide
  obtain ⟨hkind, hreaders, -, -, hreads⟩ := tables_are_read_by_their_first_readers "toolset" calls
  have hreads := hreads none tables hs
  have hreader : Fields.get? Kiali.toolset r.readers = some Kiali.reader := hreaders _
  refine ⟨hs, hreads, (hreads.error_iff _).mpr ⟨Kiali.toolset, .table [], "url is required",
    hkind ▸ rfl, rfl, ⟨Kiali.reader, hreader, .inr ⟨{}, rfl, rfl⟩⟩, fun other u hlt hu hhas => ?_⟩⟩
  rw [TableRegistry.has, hreaders] at hhas
  by_cases he : Kiali.toolset = other
  · exact absurd (he ▸ hlt) (List.lt_irrefl _)
  · rw [Fields.get?, if_neg he, Fields.get?, if_neg he] at hhas
    cases hhas

end FleetGate.Config
