import FleetGate.Files
import FleetGate.Proofs.ByteOrder
import Mathlib.Data.List.Find
import Mathlib.Data.List.Nodup

/-!
# Directories

What stands at a path is said by the entries of the tree, and their order does not count
(`Reordered`), as long as each path stands among them once.  A directory lists the names that the
entries have in it, each of them once (`exists_list`).  They come in the order of the entries, so
that whoever needs another order has to sort them.
-/

namespace FleetGate.Files

variable {fs fs' : Files} {place : List String} {dir name p : String} {names : List String}

/-! ## The order of the entries -/

/-- The same tree, with its entries in another order. -/
structure Reordered (fs fs' : Files) : Prop where
  workingDir_eq : fs.workingDir = fs'.workingDir
  perm : fs.entries.Perm fs'.entries
  /-- No two entries are for the same path. -/
  distinct : (fs.entries.map (·.1)).Nodup

namespace Reordered

variable (h : fs.Reordered fs')
include h

theorem base_eq : fs.base = fs'.base := congrArg Path.components h.workingDir_eq

/-- What stands at a place does not depend on the order of the entries. -/
theorem nodeAt?_eq (place : List String) : fs.nodeAt? place = fs'.nodeAt? place := by
  -- at most one entry is for the place
  have hfind (q : List String × Option String → Bool) (hq : ∀ entry, q entry = true →
      entry.1 = place) : fs.entries.find? q = fs'.entries.find? q :=
    List.find?_eq_find?_of_perm h.perm fun x ⟨hx, hxq⟩ y ⟨hy, hyq⟩ =>
      List.inj_on_of_nodup_map h.distinct hx hy ((hq x hxq).trans (hq y hyq).symm)
  unfold nodeAt?
  rw [h.base_eq, h.perm.any_eq, hfind]
  intro entry hentry
  exact beq_iff_eq.mp (Bool.and_eq_true_iff.mp hentry).1

theorem follow_eq (place parts : List String) : fs.follow place parts = fs'.follow place parts := by
  induction parts generalizing place with
  | nil => rfl
  | cons part parts ih => rw [follow, follow, h.nodeAt?_eq, ih, ih]

/-- Nor does what a path leads to. -/
theorem node_eq (p : String) : fs.node p = fs'.node p := by
  unfold node
  simp only [h.base_eq, h.follow_eq, h.nodeAt?_eq]

theorem read_eq (p : String) : fs.read p = fs'.read p := by
  unfold read
  rw [h.node_eq]

theorem isFile_eq (p : String) : fs.isFile p = fs'.isFile p := by
  unfold isFile
  rw [h.node_eq]

theorem doesExist_eq (p : String) : fs.doesExist p = fs'.doesExist p := by
  unfold doesExist
  rw [h.node_eq]

end Reordered

/-! ## Names -/

/-- The place that a path leads to, whether or not anything stands there. -/
def locate (fs : Files) (p : String) : Except FileError (List String) :=
  fs.follow (if Path.isAbsolute p then [] else fs.base) (Path.components p)

/-- The names that the entries have below a place. -/
def namesBelow (fs : Files) (place : List String) : List String :=
  fs.entries.filterMap fun (path, _) =>
    if place.isPrefixOf path then path[place.length]? else none

/-- A name is below a place if some entry is there or further below. -/
theorem mem_namesBelow :
    name ∈ fs.namesBelow place ↔ ∃ entry ∈ fs.entries, place ++ [name] <+: entry.1 := by
  unfold namesBelow
  rw [List.mem_filterMap]
  refine exists_congr fun entry => and_congr_right fun _ => ?_
  simp only [List.isPrefixOf_iff_prefix]
  constructor
  · intro h
    split at h
    · next hplace =>
      obtain ⟨rest, hrest⟩ := hplace
      rw [← hrest, List.getElem?_append_right (Nat.le_refl _), Nat.sub_self] at h
      obtain ⟨after, rfl⟩ := List.head?_eq_some_iff.mp (List.head?_eq_getElem? ▸ h)
      exact ⟨after, by rw [← hrest, List.append_assoc]; rfl⟩
    · cases h
  · rintro ⟨after, hafter⟩
    rw [List.append_assoc] at hafter
    rw [if_pos ⟨_, hafter⟩, ← hafter, List.getElem?_append_right (Nat.le_refl _), Nat.sub_self]
    rfl

/-- A directory lists the names below its place. -/
theorem list_eq (fs : Files) (p : String) :
    fs.list p = match fs.node p with
      | .error e => .error e
      | .ok (.file _) => .error .notDirectory
      | .ok .directory => (fs.locate p).map fun place => (fs.namesBelow place).eraseDups := by
  unfold list
  cases fs.node p with
  | error e => rfl
  | ok node =>
    cases node with
    | file content => rfl
    | directory =>
      dsimp only
      split
      · next he => rw [locate, he]; rfl
      · next he => rw [locate, he]; rfl

/-- The same tree lists the same names, though perhaps in another order. -/
theorem Reordered.list_cases (h : fs.Reordered fs') (p : String) :
    (∃ e, fs.list p = .error e ∧ fs'.list p = .error e) ∨
      ∃ names names', fs.list p = .ok names ∧ fs'.list p = .ok names' ∧ names.Perm names' := by
  have hlocate : fs.locate p = fs'.locate p := by
    unfold locate
    rw [h.base_eq, h.follow_eq]
  have hnames (place : List String) :
      (fs.namesBelow place).eraseDups.Perm (fs'.namesBelow place).eraseDups := by
    refine (List.perm_ext_iff_of_nodup (Text.nodup_eraseDups _) (Text.nodup_eraseDups _)).mpr
      fun name => ?_
    rw [List.mem_eraseDups, List.mem_eraseDups]
    exact (h.perm.filterMap _).mem_iff
  rw [Files.list_eq, Files.list_eq, h.node_eq, hlocate]
  cases fs'.node p with
  | error e => exact Or.inl ⟨e, rfl, rfl⟩
  | ok node =>
    cases node with
    | file content => exact Or.inl ⟨_, rfl, rfl⟩
    | directory =>
      cases fs'.locate p with
      | error e => exact Or.inl ⟨e, rfl, rfl⟩
      | ok place => exact Or.inr ⟨_, _, rfl, rfl, hnames place⟩

/-- A name stands in a directory. -/
def Holds (fs : Files) (dir name : String) : Prop :=
  ∃ place, fs.locate dir = .ok place ∧ ∃ entry ∈ fs.entries, place ++ [name] <+: entry.1

theorem locate_of_directory (h : fs.node dir = .ok .directory) :
    ∃ place, fs.locate dir = .ok place := by
  cases hplace : fs.locate dir with
  | ok place => exact ⟨place, rfl⟩
  | error e =>
    unfold locate at hplace
    rw [node, hplace] at h
    split at h
    · cases h
    · split at h <;> cases h

/-- A directory can be listed: each name in it stands there once. -/
theorem exists_list (h : fs.node dir = .ok .directory) :
    ∃ names, fs.list dir = .ok names ∧ names.Nodup ∧
      ∀ name, name ∈ names ↔ fs.Holds dir name := by
  obtain ⟨place, hplace⟩ := locate_of_directory h
  refine ⟨(fs.namesBelow place).eraseDups, by rw [list_eq, h, hplace]; rfl,
    Text.nodup_eraseDups _, fun name => ?_⟩
  rw [List.mem_eraseDups, mem_namesBelow]
  refine ⟨fun hentry => ⟨place, hplace, hentry⟩, fun ⟨place', hplace', hentry⟩ => ?_⟩
  rw [hplace] at hplace'
  cases hplace'
  exact hentry

end FleetGate.Files
