import FleetGate.AccessError

/-!
# The deny list

A configuration may name kinds that no request may touch.  An entry covers one
kind of one version of a group, or every kind of it when it names none.
-/

namespace FleetGate.DenyList

/-- Whether an entry covers a kind. -/
def covers (entry kind : Gvk) : Bool :=
  entry.group == kind.group && entry.version == kind.version &&
    (entry.kind.isEmpty || entry.kind == kind.kind)

/-- The place of the first entry that covers a kind. -/
def index? (denied : List Gvk) (kind : Gvk) : Option Nat := denied.findIdx? (covers · kind)

/-- Whether some entry covers a kind. -/
def denies (denied : List Gvk) (kind : Gvk) : Bool := denied.any (covers · kind)

/-- Refuses a kind that is on the list. -/
def check (denied : List Gvk) (kind : Gvk) : Except AccessError Unit :=
  if denies denied kind then .error (.resourceDenied kind) else .ok ()

/-- A kind is denied exactly when an entry of its group and version names it or
names no kind. -/
theorem denies_iff {denied : List Gvk} {kind : Gvk} :
    denies denied kind = true ↔ ∃ entry ∈ denied, entry.group = kind.group ∧
      entry.version = kind.version ∧ (entry.kind = "" ∨ entry.kind = kind.kind) := by
  simp [denies, covers, and_assoc]

end FleetGate.DenyList
