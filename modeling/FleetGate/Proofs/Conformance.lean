import FleetGate.Schema

/-!
# What it is to conform to a schema

`Schema.Conforms` says by rules when a value conforms to a schema.  No rule speaks of messages, of
paths or of names of definitions.

* `null` conforms to every schema.
* Any other value has to fit the type of the schema that is meant (`Schema.Means`), which is one
  reference away at most.
* An object has no unknown fields, and those that a schema describes conform to it.
* The items of an array conform to the schema of items, if there is one.

The rules follow the value and not the schemas, so definitions that refer to each other in a circle
have values that conform to them, and so do references that lead nowhere.

`Schema.check_eq_nil_iff` says that a value has no violations just if it conforms.
-/

namespace FleetGate

/-- To show something of all values it is enough to go from their parts to the whole. -/
theorem Json.parts_induction {motive : Json → Prop} (null : motive .null)
    (scalar : ∀ value, value ≠ .null → (∀ items, value ≠ .arr items) →
      (∀ fields, value ≠ .obj fields) → motive value)
    (arr : ∀ items, (∀ item ∈ items, motive item) → motive (.arr items))
    (obj : ∀ fields, (∀ field ∈ fields, motive field.2) → motive (.obj fields)) (value : Json) :
    motive value := by
  refine @Json.rec motive (fun items => ∀ item ∈ items, motive item)
    (fun fields => ∀ field ∈ fields, motive field.2) (fun field => motive field.2)
    null ?_ ?_ ?_ ?_ arr obj ?_ ?_ ?_ ?_ ?_ value
  · exact fun b => scalar _ nofun nofun nofun
  · exact fun n => scalar _ nofun nofun nofun
  · exact fun x => scalar _ nofun nofun nofun
  · exact fun s => scalar _ nofun nofun nofun
  · exact nofun
  · exact fun item items hitem hitems => List.forall_mem_cons.mpr ⟨hitem, hitems⟩
  · exact nofun
  · exact fun field fields hfield hfields => List.forall_mem_cons.mpr ⟨hfield, hfields⟩
  · exact fun key value hvalue => hvalue

namespace Schema

/-! ## The schema that is meant -/

/-- A schema refers to a definition. -/
def RefersTo (definitions : Fields Json) (schema definition : Json) : Prop :=
  ∃ target, text? "$ref" schema = some ("#/definitions/" ++ target) ∧
    Fields.get? target definitions = some definition

/-- The schema that a schema stands for: the definition that it refers to, or itself. -/
inductive Means (definitions : Fields Json) (schema : Json) : Json → Prop where
  | definition {definition : Json} : RefersTo definitions schema definition →
      Means definitions schema definition
  | itself : (∀ definition, ¬ RefersTo definitions schema definition) →
      Means definitions schema schema

theorem referenceMark_append (target : String) :
    ("#/definitions/" ++ target).toList = referenceMark ++ target.toList := by
  rw [String.toList_append]
  rfl

/-- What a reference has behind its mark is the name of a definition. -/
theorem marked_iff {ref target : String} :
    referenceMark.isPrefixOf ref.toList = true ∧
      String.ofList (ref.toList.drop referenceMark.length) = target ↔
        ref = "#/definitions/" ++ target := by
  rw [List.isPrefixOf_iff_prefix]
  constructor
  · rintro ⟨⟨rest, hrest⟩, rfl⟩
    rw [← hrest, List.drop_left, ← String.toList_inj, referenceMark_append, String.toList_ofList,
      hrest]
  · rintro rfl
    rw [referenceMark_append]
    exact ⟨List.prefix_append _ _, by rw [List.drop_left, String.ofList_toList]⟩

/-- A schema is resolved to the one that is meant. -/
theorem means_resolve (definitions : Fields Json) (name : String) (schema : Json) :
    Means definitions schema (resolve definitions name schema).2 := by
  unfold resolve
  split
  · next hnone =>
    refine .itself ?_
    rintro definition ⟨target, hsome, -⟩
    rw [hnone] at hsome
    cases hsome
  · next ref href =>
    split
    · next hmark =>
      dsimp only
      split
      · next definition hget =>
        exact .definition ⟨_, marked_iff.mp ⟨hmark, rfl⟩ ▸ href, hget⟩
      · next hget =>
        refine .itself ?_
        rintro definition ⟨target, hsome, hfound⟩
        obtain ⟨-, htarget⟩ := marked_iff.mpr (Option.some.inj (href.symm.trans hsome))
        rw [htarget, hfound] at hget
        cases hget
    · next hmark =>
      refine .itself ?_
      rintro definition ⟨target, hsome, -⟩
      exact hmark (marked_iff.mpr (Option.some.inj (href.symm.trans hsome))).1

theorem RefersTo.unique {definitions : Fields Json} {schema definition definition' : Json}
    (h : RefersTo definitions schema definition) (h' : RefersTo definitions schema definition') :
    definition = definition' := by
  obtain ⟨target, href, hget⟩ := h
  obtain ⟨target', href', hget'⟩ := h'
  have hsame := Option.some.inj (href.symm.trans href')
  obtain rfl : target = target' :=
    (marked_iff.mpr rfl).2.symm.trans (marked_iff.mpr hsame).2
  exact Option.some.inj (hget.symm.trans hget')

/-- A schema means one schema. -/
theorem Means.unique {definitions : Fields Json} {schema meant meant' : Json}
    (h : Means definitions schema meant) (h' : Means definitions schema meant') :
    meant = meant' := by
  cases h with
  | definition h =>
    cases h' with
    | definition h' => exact h.unique h'
    | itself h' => exact absurd h (h' meant)
  | itself h =>
    cases h' with
    | definition h' => exact absurd h' (h meant')
    | itself h' => rfl

/-! ## Types -/

/-- The names of the types that are known. -/
def knownTypes : List String := ["string", "integer", "number", "boolean", "object", "array"]

/-- A value is of a type.  Whatever a type means that is not known, every value is of it. -/
inductive IsOf : String → Json → Prop where
  | string (s : String) : IsOf "string" (.str s)
  | integer (n : Int) : IsOf "integer" (.int n)
  | whole (n : Int) : IsOf "number" (.int n)
  | number (x : Numeric.Binary) : IsOf "number" (.float x)
  | boolean (b : Bool) : IsOf "boolean" (.bool b)
  | object (fields : List (String × Json)) : IsOf "object" (.obj fields)
  | array (items : List Json) : IsOf "array" (.arr items)
  | unknown {expected : String} (value : Json) : expected ∉ knownTypes → IsOf expected value

/-- A schema that is satisfied by whole numbers and texts alike. -/
def IntOrString (schema : Json) : Prop :=
  schema.field? "format" = some (.str "int-or-string") ∨
    schema.field? "x-kubernetes-int-or-string" = some (.bool true)

/-- A value fits the type that a schema names, if it names one. -/
def FitsType (schema value : Json) : Prop :=
  ∀ expected, schema.field? "type" = some (.str expected) →
    (IntOrString schema → (∃ s, value = .str s) ∨ ∃ n, value = .int n) ∧
      (¬ IntOrString schema → IsOf expected value)

theorem text?_eq_some_iff {key s : String} {schema : Json} :
    text? key schema = some s ↔ schema.field? key = some (.str s) := by
  rw [text?, Option.bind_eq_some_iff]
  constructor
  · rintro ⟨value, hvalue, hs⟩
    cases value <;> cases hs
    exact hvalue
  · intro h
    exact ⟨_, h, rfl⟩

theorem flag_eq_true_iff {key : String} {schema : Json} :
    flag key schema = true ↔ schema.field? key = some (.bool true) := by
  unfold flag
  cases schema.field? key with
  | none => simp
  | some value => cases value <;> simp [Json.bool?]

/-- Some schemas take integers and texts, whatever type they name. -/
theorem isIntOrString_iff {schema : Json} : isIntOrString schema = true ↔ IntOrString schema := by
  rw [isIntOrString, Bool.or_eq_true, beq_iff_eq, text?_eq_some_iff, flag_eq_true_iff]
  rfl

/-- Where a schema takes integers and texts, these have the type and nothing else does. -/
theorem hasType_iff {expected : String} {schema value : Json} :
    hasType expected schema value = true ↔
      (IntOrString schema → (∃ s, value = .str s) ∨ ∃ n, value = .int n) ∧
        (¬ IntOrString schema → IsOf expected value) := by
  rw [← isIntOrString_iff]
  unfold hasType
  split
  · next h => cases value <;> simp [h]
  · next h =>
    refine Iff.trans ⟨fun hs => ?_, fun hs => ?_⟩
      ⟨fun hs => ⟨fun h' => absurd h' h, fun _ => hs⟩, fun hs => hs.2 h⟩
    · split at hs
      · exact .string _
      · exact .integer _
      · exact .whole _
      · exact .number _
      · exact .boolean _
      · exact .object _
      · exact .array _
      all_goals cases hs
      refine .unknown _ ?_
      simp_all [knownTypes]
    · cases hs with
      | unknown value hunknown =>
        split <;> simp_all [knownTypes]
      | _ => rfl

/-- A value that is not `null` has a violation of its type just if it does not fit. -/
theorem typeViolation?_eq_none_iff (name : String) {schema : Json} (path : String) {value : Json} :
    typeViolation? name schema path value = none ↔ FitsType schema value := by
  unfold typeViolation?
  constructor
  · intro h expected hexpected
    rw [text?_eq_some_iff.mpr hexpected] at h
    dsimp only at h
    split at h
    · next htype => exact hasType_iff.mp htype
    · cases h
  · intro h
    cases hexpected : text? "type" schema with
    | none => rfl
    | some expected => exact if_pos (hasType_iff.mpr (h expected (text?_eq_some_iff.mp hexpected)))

/-- The one violation of a type says what was found and what was expected. -/
theorem typeViolation?_eq_some_iff {name : String} {schema : Json} {path : String} {value : Json}
    {v : Violation} :
    typeViolation? name schema path value = some v ↔
      ¬ FitsType schema value ∧ ∃ expected, schema.field? "type" = some (.str expected) ∧
        v = .wrongType path name (typeName value) expected := by
  rw [← typeViolation?_eq_none_iff name path]
  unfold typeViolation?
  cases hexpected : text? "type" schema with
  | none => simp [← text?_eq_some_iff, hexpected]
  | some expected =>
    rw [text?_eq_some_iff] at hexpected
    dsimp only
    split
    · simp
    · simp [hexpected, eq_comm]

/-! ## Fields -/

/-- A schema describes its properties, or else all fields alike. -/
inductive Describes (schema : Json) (key : String) : Json → Prop where
  | property {properties : List (String × Json)} {child : Json} :
      schema.field? "properties" = some (.obj properties) →
      Fields.get? key properties = some child → Describes schema key child
  | other {fields : List (String × Json)} :
      (∀ properties, schema.field? "properties" ≠ some (.obj properties)) →
      schema.field? "additionalProperties" = some (.obj fields) →
      Describes schema key (.obj fields)

/-- A field is unknown to a schema that has properties, but none of this name, and that does not
let other fields be. -/
structure Unknown (schema : Json) (key : String) : Prop where
  missing : ∃ properties, schema.field? "properties" = some (.obj properties) ∧
    Fields.get? key properties = none
  strict : schema.field? "additionalProperties" = none
  pruned : schema.field? "x-kubernetes-preserve-unknown-fields" ≠ some (.bool true)

/-- What a schema says of a field. -/
inductive Rule where
  | describes (child : Json)
  | unknown
  | free

/-- The rule of a schema for a field. -/
def rule (schema : Json) (key : String) : Rule :=
  match (schema.field? "properties").bind Json.fields? with
  | some properties =>
      match Fields.get? key properties with
      | some child => .describes child
      | none =>
          if flag "x-kubernetes-preserve-unknown-fields" schema ||
            (schema.field? "additionalProperties").isSome then .free else .unknown
  | none =>
      match (schema.field? "additionalProperties").filter Json.isObject with
      | some other => .describes other
      | none => .free

theorem fields_eq_some_iff {key : String} {schema : Json} {fields : List (String × Json)} :
    (schema.field? key).bind Json.fields? = some fields ↔
      schema.field? key = some (.obj fields) := by
  rw [Option.bind_eq_some_iff]
  constructor
  · rintro ⟨value, hvalue, hfields⟩
    cases value <;> cases hfields
    exact hvalue
  · intro h
    exact ⟨_, h, rfl⟩

theorem filter_isObject_eq_some_iff {x : Option Json} {value : Json} :
    x.filter Json.isObject = some value ↔
      ∃ fields, value = .obj fields ∧ x = some (.obj fields) := by
  rw [Option.filter_eq_some_iff]
  constructor
  · rintro ⟨rfl, hobject⟩
    cases value <;> cases hobject
    exact ⟨_, rfl, rfl⟩
  · rintro ⟨fields, rfl, rfl⟩
    exact ⟨rfl, rfl⟩

/-- A field is described by the property of its name.  Without any properties it is by the schema of
all other fields. -/
theorem rule_eq_describes_iff {schema : Json} {key : String} {child : Json} :
    rule schema key = .describes child ↔ Describes schema key child := by
  unfold rule
  constructor
  · intro h
    split at h
    · next properties hproperties =>
      split at h
      · next found hget =>
        cases h
        exact .property (fields_eq_some_iff.mp hproperties) hget
      · split at h <;> cases h
    · next hproperties =>
      split at h
      · next other hother =>
        cases h
        obtain ⟨fields, rfl, hfields⟩ := filter_isObject_eq_some_iff.mp hother
        refine .other (fun properties hsome => ?_) hfields
        rw [fields_eq_some_iff.mpr hsome] at hproperties
        cases hproperties
      · cases h
  · intro h
    cases h with
    | property hproperties hget =>
      rw [fields_eq_some_iff.mpr hproperties]
      dsimp only
      rw [hget]
    | @other fields hproperties hother =>
      have hnone : (schema.field? "properties").bind Json.fields? = none :=
        Option.eq_none_iff_forall_ne_some.mpr fun properties hsome =>
          hproperties properties (fields_eq_some_iff.mp hsome)
      rw [hnone]
      dsimp only
      rw [filter_isObject_eq_some_iff.mpr ⟨fields, rfl, hother⟩]

/-- A field is unknown if others are described, this one is not, and nothing lets it be. -/
theorem rule_eq_unknown_iff {schema : Json} {key : String} :
    rule schema key = .unknown ↔ Unknown schema key := by
  unfold rule
  constructor
  · intro h
    split at h
    · next properties hproperties =>
      split at h
      · cases h
      · next hget =>
        split at h
        · cases h
        · next hlenient =>
          simp only [Bool.or_eq_true, flag_eq_true_iff, not_or, Bool.not_eq_true,
            Option.isSome_eq_false_iff, Option.isNone_iff_eq_none] at hlenient
          exact ⟨⟨properties, fields_eq_some_iff.mp hproperties, hget⟩, hlenient.2, hlenient.1⟩
    · split at h <;> cases h
  · rintro ⟨⟨properties, hproperties, hget⟩, hstrict, hpruned⟩
    rw [fields_eq_some_iff.mpr hproperties]
    dsimp only
    rw [hget]
    dsimp only
    rw [if_neg]
    rw [Bool.or_eq_true, flag_eq_true_iff, hstrict]
    simpa using hpruned

/-! ## Conformance -/

/-- A value conforms to a schema. -/
inductive Conforms (definitions : Fields Json) : Json → Json → Prop where
  | null (schema : Json) : Conforms definitions schema .null
  | scalar {schema meant value : Json} : Means definitions schema meant → FitsType meant value →
      (∀ items, value ≠ .arr items) → (∀ fields, value ≠ .obj fields) →
      Conforms definitions schema value
  | object {schema meant : Json} {fields : List (String × Json)} :
      Means definitions schema meant → FitsType meant (.obj fields) →
      (∀ field ∈ fields, ¬ Unknown meant field.1) →
      (∀ field ∈ fields, ∀ child, Describes meant field.1 child →
        Conforms definitions child field.2) →
      Conforms definitions schema (.obj fields)
  | array {schema meant : Json} {items : List Json} :
      Means definitions schema meant → FitsType meant (.arr items) →
      (∀ child, meant.field? "items" = some child → ∀ item ∈ items,
        Conforms definitions child item) →
      Conforms definitions schema (.arr items)

/-! ## What is found in objects and arrays -/

section Found

variable (definitions : Fields Json) (name : String) (schema : Json) (path : String)

/-- What is found at a field. -/
def checkField (field : String × Json) : List Violation :=
  match rule schema field.1 with
  | .describes child => check definitions name child (path ++ "." ++ field.1) field.2
  | .unknown => [.unknownField path field.1 name]
  | .free => []

theorem checkFields_eq {properties : Fields Json} {lenient : Bool} (fields : List (String × Json))
    (hproperties : (schema.field? "properties").bind Json.fields? = some properties)
    (hlenient : (flag "x-kubernetes-preserve-unknown-fields" schema ||
      (schema.field? "additionalProperties").isSome) = lenient) :
    checkFields definitions name properties lenient path fields =
      fields.flatMap (checkField definitions name schema path) := by
  induction fields with
  | nil => rfl
  | cons field fields ih =>
    obtain ⟨key, child⟩ := field
    rw [List.flatMap_cons, checkFields, ih]
    congr 1
    unfold checkField rule
    rw [hproperties, hlenient]
    dsimp only
    cases Fields.get? key properties with
    | some found => rfl
    | none => cases lenient <;> rfl

theorem checkOthers_eq {other : Json} (fields : List (String × Json))
    (hproperties : (schema.field? "properties").bind Json.fields? = none)
    (hother : (schema.field? "additionalProperties").filter Json.isObject = some other) :
    checkOthers definitions name other path fields =
      fields.flatMap (checkField definitions name schema path) := by
  induction fields with
  | nil => rfl
  | cons field fields ih =>
    obtain ⟨key, child⟩ := field
    rw [List.flatMap_cons, checkOthers, ih]
    congr 1
    unfold checkField rule
    rw [hproperties]
    dsimp only
    rw [hother]

theorem checkItems_eq (place : Nat) (items : List Json) :
    checkItems definitions name schema path place items = (items.zipIdx place).flatMap fun item =>
      check definitions name schema (path ++ "[" ++ toString item.2 ++ "]") item.1 := by
  induction items generalizing place with
  | nil => rfl
  | cons item items ih => rw [checkItems, ih, List.zipIdx_cons, List.flatMap_cons]

end Found

variable {definitions : Fields Json} {name : String} {schema : Json} {path : String}

/-- A value of the wrong type has one violation, and nothing in it counts. -/
theorem check_of_not_fits (path : String) {value : Json} (hvalue : value ≠ .null)
    (h : ¬ FitsType (resolve definitions name schema).2 value) :
    ∃ expected, (resolve definitions name schema).2.field? "type" = some (.str expected) ∧
      check definitions name schema path value =
        [.wrongType path (resolve definitions name schema).1 (typeName value) expected] := by
  obtain ⟨v, hv⟩ := Option.ne_none_iff_exists'.mp
    (mt (typeViolation?_eq_none_iff (resolve definitions name schema).1 path).mp h)
  obtain ⟨-, expected, hexpected, rfl⟩ := typeViolation?_eq_some_iff.mp hv
  refine ⟨expected, hexpected, ?_⟩
  unfold check
  cases value with
  | null => exact absurd rfl hvalue
  | _ => simp [hv]

/-- In a value without parts there is nothing else to violate. -/
theorem check_scalar {value : Json} (hitems : ∀ items, value ≠ .arr items)
    (hfields : ∀ fields, value ≠ .obj fields)
    (h : FitsType (resolve definitions name schema).2 value) :
    check definitions name schema path value = [] := by
  have hv := (typeViolation?_eq_none_iff (resolve definitions name schema).1 path).mpr h
  unfold check
  cases value with
  | null => rfl
  | arr items => exact absurd rfl (hitems items)
  | obj fields => exact absurd rfl (hfields fields)
  | _ => simp [hv]

/-- The violations of an object are those of its fields, in order. -/
theorem check_obj {fields : List (String × Json)}
    (h : FitsType (resolve definitions name schema).2 (.obj fields)) :
    check definitions name schema path (.obj fields) = fields.flatMap
      (checkField definitions (resolve definitions name schema).1
        (resolve definitions name schema).2 path) := by
  have hv := (typeViolation?_eq_none_iff (resolve definitions name schema).1 path).mpr h
  unfold check
  dsimp only
  rw [hv]
  dsimp only
  split
  · next properties hproperties =>
    exact checkFields_eq definitions _ _ path fields hproperties rfl
  · next hproperties =>
    split
    · next other hother => exact checkOthers_eq definitions _ _ path fields hproperties hother
    · next hother =>
      have hfree : ∀ field ∈ fields, checkField definitions (resolve definitions name schema).1
          (resolve definitions name schema).2 path field = [] := by
        intro field _
        unfold checkField rule
        rw [hproperties]
        dsimp only
        rw [hother]
      exact (List.flatMap_eq_nil_iff.mpr hfree).symm

/-- The violations of an array are those of its items, each at its place. -/
theorem check_arr {items : List Json}
    (h : FitsType (resolve definitions name schema).2 (.arr items)) :
    check definitions name schema path (.arr items) =
      ((resolve definitions name schema).2.field? "items").elim [] fun child =>
        (items.zipIdx).flatMap fun item => check definitions (resolve definitions name schema).1
          child (path ++ "[" ++ toString item.2 ++ "]") item.1 := by
  have hv := (typeViolation?_eq_none_iff (resolve definitions name schema).1 path).mpr h
  rw [check]
  dsimp only
  rw [hv]
  dsimp only
  split
  · next child hchild => rw [hchild, Option.elim_some, checkItems_eq]
  · next hchild => rw [hchild, Option.elim_none]

theorem fits_of_check_eq_nil {value : Json} (hvalue : value ≠ .null)
    (h : check definitions name schema path value = []) :
    FitsType (resolve definitions name schema).2 value := by
  refine Classical.byContradiction fun hfits => ?_
  obtain ⟨expected, -, hcheck⟩ := check_of_not_fits path hvalue hfits
  rw [hcheck] at h
  cases h

/-- A field has no violations if it is not unknown and conforms to what describes it. -/
theorem checkField_eq_nil_iff {field : String × Json} :
    checkField definitions name schema path field = [] ↔
      ¬ Unknown schema field.1 ∧ ∀ child, Describes schema field.1 child →
        check definitions name child (path ++ "." ++ field.1) field.2 = [] := by
  simp only [← rule_eq_unknown_iff, ← rule_eq_describes_iff]
  unfold checkField
  cases rule schema field.1 <;> simp

/-- A value has no violations just if it conforms. -/
theorem check_eq_nil_iff {value : Json} :
    check definitions name schema path value = [] ↔ Conforms definitions schema value := by
  have hmeans : ∀ name schema, Means definitions schema (resolve definitions name schema).2 :=
    means_resolve definitions
  induction value using Json.parts_induction generalizing name schema path with
  | null => exact ⟨fun _ => .null schema, fun _ => rfl⟩
  | scalar value hnull hitems hfields =>
    constructor
    · intro h
      exact .scalar (hmeans name schema) (fits_of_check_eq_nil hnull h) hitems hfields
    · intro h
      cases h with
      | null => exact absurd rfl hnull
      | object => exact absurd rfl (hfields _)
      | array => exact absurd rfl (hitems _)
      | scalar hmeant hfits =>
        exact check_scalar hitems hfields (hmeant.unique (hmeans name schema) ▸ hfits)
  | arr items ih =>
    have hnull : Json.arr items ≠ .null := nofun
    constructor
    · intro h
      have hfits := fits_of_check_eq_nil hnull h
      rw [check_arr hfits] at h
      refine .array (hmeans name schema) hfits fun child hchild item hitem => ?_
      rw [hchild, Option.elim_some, List.flatMap_eq_nil_iff] at h
      obtain ⟨place, hplace⟩ := List.mem_iff_getElem?.mp hitem
      exact (ih item hitem).mp (h (item, place) (List.mk_mem_zipIdx_iff_getElem?.mpr hplace))
    · intro h
      cases h with
      | scalar _ _ hitems => exact absurd rfl (hitems items)
      | array hmeant hfits hitems =>
        cases hmeant.unique (hmeans name schema)
        rw [check_arr hfits]
        cases hchild : (resolve definitions name schema).2.field? "items" with
        | none => rfl
        | some child =>
          rw [Option.elim_some, List.flatMap_eq_nil_iff]
          intro item hitem
          have hmem := List.fst_mem_of_mem_zipIdx hitem
          exact (ih _ hmem).mpr (hitems child hchild _ hmem)
  | obj fields ih =>
    have hnull : Json.obj fields ≠ .null := nofun
    constructor
    · intro h
      have hfits := fits_of_check_eq_nil hnull h
      rw [check_obj hfits, List.flatMap_eq_nil_iff] at h
      refine .object (hmeans name schema) hfits (fun field hfield => ?_)
        fun field hfield child hchild => ?_
      · exact (checkField_eq_nil_iff.mp (h field hfield)).1
      · exact (ih field hfield).mp ((checkField_eq_nil_iff.mp (h field hfield)).2 child hchild)
    · intro h
      cases h with
      | scalar _ _ _ hfields => exact absurd rfl (hfields fields)
      | object hmeant hfits hknown hdescribed =>
        cases hmeant.unique (hmeans name schema)
        rw [check_obj hfits, List.flatMap_eq_nil_iff]
        intro field hfield
        refine checkField_eq_nil_iff.mpr ⟨hknown field hfield, fun child hchild => ?_⟩
        exact (ih field hfield).mpr (hdescribed field hfield child hchild)

end Schema

end FleetGate
