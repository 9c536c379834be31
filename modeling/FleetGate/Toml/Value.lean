import FleetGate.Fields
import FleetGate.Numeric.Binary

/-!
# Values of TOML documents

Configurations are TOML.  A date or a time is kept as its normal text.
`Toml.merge` lays one document over another: tables are merged key by key, and
anything else is replaced.
-/

namespace FleetGate

/-- A TOML value. -/
inductive Toml where
  /-- A text. -/
  | str (s : String)
  /-- A whole number of 64 bits with a sign. -/
  | int (n : Int)
  /-- A floating-point number. -/
  | float (x : Numeric.Binary)
  /-- `true` or `false`. -/
  | bool (b : Bool)
  /-- A date, a time or both, by their normal text. -/
  | datetime (text : String)
  /-- An array. -/
  | arr (items : List Toml)
  /-- A table. -/
  | table (fields : List (String × Toml))
deriving Repr, Inhabited

namespace Toml

mutual

/-- One value over another. -/
def merge (base overlay : Toml) : Toml :=
  match base, overlay with
  | .table base, .table overlay => .table (mergeFields base overlay)
  | _, overlay => overlay
termination_by structural overlay

/-- The fields of one table over those of another. -/
def mergeFields (base : List (String × Toml)) : List (String × Toml) → List (String × Toml)
  | [] => base
  | (key, value) :: overlay =>
      let merged := match Fields.get? key base with
        | some old => merge old value
        | none => value
      mergeFields (Fields.insert key merged base) overlay
termination_by structural overlay => overlay

end

/-- The value at a path of keys. -/
def at? : Toml → List String → Option Toml
  | t, [] => some t
  | .table fields, key :: path =>
      match Fields.get? key fields with
      | some t => t.at? path
      | none => none
  | _, _ :: _ => none

/-- A table of a list of fields. -/
def ofFields (fields : List (String × Toml)) : Toml := .table (Fields.ofList fields)

/-- An array of texts. -/
def ofTexts (texts : List String) : Toml := .arr (texts.map .str)

end Toml

end FleetGate
