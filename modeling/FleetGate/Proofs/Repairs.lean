import FleetGate.Proofs.Conformance

/-!
# What a change of a value changes in its violations

A node of a value stands in a context (`Context.fill`).  A check reaches it or not, and that is
decided by the context alone (`Reaches`).  If it is reached, then its violations stand in one piece
among those of the whole, between others that are the same whatever the node is
(`Reaches.check_fill`).  If it is not reached, then it does not matter what it is
(`check_fill_of_not_reaches`).

So it is enough to look at objects to know what taking a field away does.  No violation is new.
If the field was reported as unknown, exactly that violation is gone.
-/

namespace FleetGate.Schema

/-! ## Contexts -/

/-- A value with a hole in it. -/
inductive Context where
  | hole
  | field (before : List (String × Json)) (key : String) (inner : Context)
    (after : List (String × Json))
  | item (before : List Json) (inner : Context) (after : List Json)

/-- The value that has a node in the place of the hole. -/
def Context.fill (node : Json) : Context → Json
  | .hole => node
  | .field before key inner after => .obj (before ++ (key, inner.fill node) :: after)
  | .item before inner after => .arr (before ++ inner.fill node :: after)

/-- A field of an object that stands in a context. -/
structure Site where
  context : Context
  before : List (String × Json)
  key : String
  held : Json
  after : List (String × Json)

namespace Site

/-- The value that has the field. -/
def whole (s : Site) : Json := s.context.fill (.obj (s.before ++ (s.key, s.held) :: s.after))

/-- The value without the field. -/
def rest (s : Site) : Json := s.context.fill (.obj (s.before ++ s.after))

/-- The field is not one of those at the top that say of which kind an object is. -/
def KeepsKind (s : Site) : Prop := s.context = .hole → s.key ≠ "apiVersion" ∧ s.key ≠ "kind"

end Site

/-! ## What a check does with a node -/

/-- What a node is checked against, and where it stands. -/
structure View where
  /-- The name of the definition that the schema is from. -/
  name : String
  schema : Json
  path : String

variable {definitions : Fields Json}

namespace View

/-- The violations of a node. -/
def check (definitions : Fields Json) (view : View) (node : Json) : List Violation :=
  Schema.check definitions view.name view.schema view.path node

/-- The view of the schema that is meant. -/
def meant (definitions : Fields Json) (view : View) : View :=
  ⟨(resolve definitions view.name view.schema).1, (resolve definitions view.name view.schema).2,
    view.path⟩

/-- The view of a field. -/
def field (view : View) (key : String) (child : Json) : View :=
  ⟨view.name, child, view.path ++ "." ++ key⟩

/-- The view of an item. -/
def item (view : View) (place : Nat) (child : Json) : View :=
  ⟨view.name, child, view.path ++ "[" ++ toString place ++ "]"⟩

/-- The violations of a field. -/
def checkField (definitions : Fields Json) (view : View) (field : String × Json) :
    List Violation :=
  Schema.checkField definitions view.name view.schema view.path field

/-- The violations of items from a place on. -/
def checkItems (definitions : Fields Json) (view : View) (child : Json) (place : Nat)
    (items : List Json) : List Violation :=
  (items.zipIdx place).flatMap fun item => (view.item item.2 child).check definitions item.1

end View

/-- Objects are of the type that a schema names. -/
def TakesObjects (schema : Json) : Prop := ∀ fields, FitsType schema (.obj fields)

/-- Arrays are of the type that a schema names. -/
def TakesArrays (schema : Json) : Prop := ∀ items, FitsType schema (.arr items)

theorem IsOf.congr {expected : String} {value other : Json} (h : IsOf expected value)
    (htype : typeName value = typeName other) : IsOf expected other := by
  cases h with
  | unknown _ hunknown => exact .unknown other hunknown
  | _ => cases other <;> first | (simp [typeName] at htype; done) | constructor

/-- Whether a value fits a type shows in the name of its own. -/
theorem FitsType.congr {schema value other : Json} (h : FitsType schema value)
    (htype : typeName value = typeName other) : FitsType schema other := by
  intro expected hexpected
  obtain ⟨heither, hof⟩ := h expected hexpected
  refine ⟨fun hint => ?_, fun hint => (hof hint).congr htype⟩
  obtain ⟨s, rfl⟩ | ⟨n, rfl⟩ := heither hint
  · cases other <;> first | (simp [typeName] at htype; done) | exact Or.inl ⟨_, rfl⟩
  · cases other <;> first | (simp [typeName] at htype; done) | exact Or.inr ⟨_, rfl⟩

/-- A schema that takes one object takes all, as far as the type goes. -/
theorem FitsType.takesObjects {schema : Json} {fields : List (String × Json)}
    (h : FitsType schema (.obj fields)) : TakesObjects schema :=
  fun _ => h.congr rfl

theorem FitsType.takesArrays {schema : Json} {items : List Json}
    (h : FitsType schema (.arr items)) : TakesArrays schema :=
  fun _ => h.congr rfl

/-- A check reaches the hole of a context. -/
inductive Reaches (definitions : Fields Json) : View → Context → View → Prop where
  | hole (view : View) : Reaches definitions view .hole view
  | field {view view' : View} {before after : List (String × Json)} {key : String}
      {inner : Context} {child : Json} :
      TakesObjects (view.meant definitions).schema →
      Describes (view.meant definitions).schema key child →
      Reaches definitions ((view.meant definitions).field key child) inner view' →
      Reaches definitions view (.field before key inner after) view'
  | item {view view' : View} {before after : List Json} {inner : Context} {child : Json} :
      TakesArrays (view.meant definitions).schema →
      (view.meant definitions).schema.field? "items" = some child →
      Reaches definitions ((view.meant definitions).item before.length child) inner view' →
      Reaches definitions view (.item before inner after) view'

namespace View

variable {view : View}

/-- The violations of an object are those of its fields, wherever these are parted. -/
theorem check_obj_append (h : TakesObjects (view.meant definitions).schema)
    (before after : List (String × Json)) :
    view.check definitions (.obj (before ++ after)) =
      before.flatMap ((view.meant definitions).checkField definitions) ++
        after.flatMap ((view.meant definitions).checkField definitions) := by
  rw [check, check_obj (h _), List.flatMap_append]
  rfl

theorem check_arr_of_items {child : Json} (h : TakesArrays (view.meant definitions).schema)
    (hchild : (view.meant definitions).schema.field? "items" = some child) (items : List Json) :
    view.check definitions (.arr items) =
      (view.meant definitions).checkItems definitions child 0 items := by
  rw [meant] at hchild
  rw [check, check_arr (h _), hchild, Option.elim_some]
  rfl

/-- In an array an item is checked at its own place, between those before it and those behind. -/
theorem check_arr_append {child : Json} (h : TakesArrays (view.meant definitions).schema)
    (hchild : (view.meant definitions).schema.field? "items" = some child)
    (before after : List Json) (node : Json) :
    view.check definitions (.arr (before ++ node :: after)) =
      (view.meant definitions).checkItems definitions child 0 before ++
        ((view.meant definitions).item before.length child).check definitions node ++
          (view.meant definitions).checkItems definitions child (before.length + 1) after := by
  rw [check_arr_of_items h hchild, checkItems, List.zipIdx_append, List.zipIdx_cons,
    List.flatMap_append, List.flatMap_cons, Nat.zero_add, ← List.append_assoc]
  rfl

/-- A field that is described is checked like a value of its own. -/
theorem checkField_of_describes {key : String} {child : Json}
    (h : Describes view.schema key child) (node : Json) :
    view.checkField definitions (key, node) = (view.field key child).check definitions node := by
  rw [checkField, Schema.checkField, rule_eq_describes_iff.mpr h]
  rfl

/-- An unknown field is reported, whatever it holds. -/
theorem checkField_of_unknown {key : String} (h : Unknown view.schema key) (node : Json) :
    view.checkField definitions (key, node) = [.unknownField view.path key view.name] := by
  rw [checkField, Schema.checkField, rule_eq_unknown_iff.mpr h]

/-- A field that nothing describes is not looked into. -/
theorem checkField_of_not_describes {key : String} (h : ∀ child, ¬ Describes view.schema key child)
    (node other : Json) :
    view.checkField definitions (key, node) = view.checkField definitions (key, other) := by
  simp only [← rule_eq_describes_iff] at h
  unfold checkField Schema.checkField
  cases hrule : rule view.schema key with
  | describes child => exact absurd hrule (h child)
  | unknown => rfl
  | free => rfl

/-- Of a value that does not fit only the name of its type is seen. -/
theorem check_congr_of_not_fits {node other : Json} (hnode : node ≠ .null) (hother : other ≠ .null)
    (htype : typeName node = typeName other)
    (h : ¬ FitsType (view.meant definitions).schema node) :
    view.check definitions node = view.check definitions other := by
  obtain ⟨expected, hexpected, hcheck⟩ := check_of_not_fits view.path hnode h
  obtain ⟨expected', hexpected', hcheck'⟩ :=
    check_of_not_fits view.path hother (mt (fun hfits => hfits.congr htype.symm) h)
  rw [hexpected] at hexpected'
  cases hexpected'
  rw [check, check, hcheck, hcheck', htype]

theorem check_obj_congr (h : ¬ TakesObjects (view.meant definitions).schema)
    (fields others : List (String × Json)) :
    view.check definitions (.obj fields) = view.check definitions (.obj others) :=
  check_congr_of_not_fits nofun nofun rfl (mt FitsType.takesObjects h)

theorem check_arr_congr (h : ¬ TakesArrays (view.meant definitions).schema)
    (items others : List Json) :
    view.check definitions (.arr items) = view.check definitions (.arr others) :=
  check_congr_of_not_fits nofun nofun rfl (mt FitsType.takesArrays h)

end View

/-- The violations of a node that is reached are a piece of those of the whole. -/
theorem Reaches.check_fill {view view' : View} {context : Context}
    (h : Reaches definitions view context view') :
    ∃ l r, ∀ node, view.check definitions (context.fill node) =
      l ++ view'.check definitions node ++ r := by
  induction h with
  | hole view => exact ⟨[], [], fun node => by rw [List.nil_append, List.append_nil]; rfl⟩
  | @field view view' before after key inner child hobjects hchild _ ih =>
    obtain ⟨l, r, hinner⟩ := ih
    refine ⟨before.flatMap ((view.meant definitions).checkField definitions) ++ l,
      r ++ after.flatMap ((view.meant definitions).checkField definitions), fun node => ?_⟩
    rw [Context.fill, View.check_obj_append hobjects, List.flatMap_cons,
      View.checkField_of_describes hchild, hinner]
    simp only [List.append_assoc]
  | @item view view' before after inner child harrays hchild _ ih =>
    obtain ⟨l, r, hinner⟩ := ih
    refine ⟨(view.meant definitions).checkItems definitions child 0 before ++ l,
      r ++ (view.meant definitions).checkItems definitions child (before.length + 1) after,
      fun node => ?_⟩
    rw [Context.fill, View.check_arr_append harrays hchild, hinner]
    simp only [List.append_assoc]

/-- A node that is not reached does not count. -/
theorem check_fill_of_not_reaches {view : View} {context : Context}
    (h : ∀ view', ¬ Reaches definitions view context view') (node other : Json) :
    view.check definitions (context.fill node) = view.check definitions (context.fill other) := by
  induction context generalizing view with
  | hole => exact absurd (.hole view) (h view)
  | field before key inner after ih =>
    rw [Context.fill, Context.fill]
    by_cases hobjects : TakesObjects (view.meant definitions).schema
    · rw [View.check_obj_append hobjects, View.check_obj_append hobjects, List.flatMap_cons,
        List.flatMap_cons]
      congr 2
      by_cases hchild : ∃ child, Describes (view.meant definitions).schema key child
      · obtain ⟨child, hchild⟩ := hchild
        rw [View.checkField_of_describes hchild, View.checkField_of_describes hchild]
        exact ih fun view' hinner => h view' (.field hobjects hchild hinner)
      · exact View.checkField_of_not_describes (not_exists.mp hchild) _ _
    · exact View.check_obj_congr hobjects _ _
  | item before inner after ih =>
    rw [Context.fill, Context.fill]
    by_cases harrays : TakesArrays (view.meant definitions).schema
    · cases hchild : (view.meant definitions).schema.field? "items" with
      | none =>
        rw [View.meant] at hchild
        rw [View.check, check_arr (harrays _), View.check, check_arr (harrays _), hchild]
        rfl
      | some child =>
        rw [View.check_arr_append harrays hchild, View.check_arr_append harrays hchild,
          ih fun view' hinner => h view' (.item harrays hchild hinner)]
    · exact View.check_arr_congr harrays _ _

/-! ## Taking a field away -/

/-- What is reported of one field is reported of no other. -/
theorem View.check_obj_sublist (view : View) (before after : List (String × Json)) (key : String)
    (held : Json) :
    (view.check definitions (.obj (before ++ after))).Sublist
      (view.check definitions (.obj (before ++ (key, held) :: after))) := by
  by_cases hobjects : TakesObjects (view.meant definitions).schema
  · rw [check_obj_append hobjects, check_obj_append hobjects, List.flatMap_cons]
    exact (List.sublist_append_right _ _).append_left _
  · have hsame := check_obj_congr hobjects (before ++ (key, held) :: after) (before ++ after)
    exact hsame ▸ List.Sublist.refl _

/-- Without a field there are the same violations or fewer, and no others. -/
theorem Site.check_rest_sublist (s : Site) (view : View) :
    (view.check definitions s.rest).Sublist (view.check definitions s.whole) := by
  by_cases hreached : ∃ view', Reaches definitions view s.context view'
  · obtain ⟨view', hreached⟩ := hreached
    obtain ⟨l, r, hfill⟩ := hreached.check_fill
    rw [whole, rest, hfill, hfill]
    exact ((view'.check_obj_sublist _ _ _ _).append_left l).append_right r
  · have hsame : view.check definitions s.whole = view.check definitions s.rest :=
      check_fill_of_not_reaches (not_exists.mp hreached) _ _
    exact hsame ▸ List.Sublist.refl _

/-- A check reports the field as unknown. -/
def Site.Reported (definitions : Fields Json) (view : View) (s : Site) (v : Violation) : Prop :=
  ∃ view', Reaches definitions view s.context view' ∧
    TakesObjects (view'.meant definitions).schema ∧
      Unknown (view'.meant definitions).schema s.key ∧
        v = .unknownField view'.path s.key (view'.meant definitions).name

/-- Without a field that is reported as unknown this one report is gone. -/
theorem Site.Reported.check_eq {view : View} {s : Site} {v : Violation}
    (h : s.Reported definitions view v) :
    ∃ l r, view.check definitions s.whole = l ++ v :: r ∧
      view.check definitions s.rest = l ++ r := by
  obtain ⟨view', hreached, hobjects, hunknown, rfl⟩ := h
  obtain ⟨l, r, hfill⟩ := hreached.check_fill
  refine ⟨l ++ s.before.flatMap ((view'.meant definitions).checkField definitions),
    s.after.flatMap ((view'.meant definitions).checkField definitions) ++ r, ?_, ?_⟩
  · rw [whole, hfill, View.check_obj_append hobjects, List.flatMap_cons,
      View.checkField_of_unknown hunknown]
    simp [View.meant]
  · rw [rest, hfill, View.check_obj_append hobjects]
    simp

/-! ## Where violations are from -/

/-- A check finds a node of the wrong type. -/
def Mismatched (definitions : Fields Json) (view : View) (context : Context) (node : Json)
    (v : Violation) : Prop :=
  ∃ view' expected, Reaches definitions view context view' ∧ node ≠ .null ∧
    ¬ FitsType (view'.meant definitions).schema node ∧
      (view'.meant definitions).schema.field? "type" = some (.str expected) ∧
        v = .wrongType view'.path (view'.meant definitions).name (typeName node) expected

/-- What stands in a list of lists stands in one of them. -/
theorem exists_of_flatMap_eq {α β : Type} {f : α → List β} {xs : List α} {l r : List β} {v : β}
    (h : xs.flatMap f = l ++ v :: r) :
    ∃ before x after l' r', xs = before ++ x :: after ∧ f x = l' ++ v :: r' ∧
      l = before.flatMap f ++ l' ∧ r = r' ++ after.flatMap f := by
  induction xs generalizing l with
  | nil => simp at h
  | cons x xs ih =>
    rw [List.flatMap_cons, List.append_eq_append_iff] at h
    obtain ⟨l', rfl, h⟩ | ⟨r', hx, h⟩ := h
    · obtain ⟨before, y, after, l', r', rfl, hy, rfl, rfl⟩ := ih h
      exact ⟨x :: before, y, after, l', r', rfl, hy, by simp, rfl⟩
    · obtain ⟨rfl, h⟩ | ⟨r', rfl, rfl⟩ := List.append_eq_cons_iff.mp h.symm
      · rw [List.append_nil] at hx
        subst hx
        have h : xs.flatMap f = [] ++ v :: r := h.symm
        obtain ⟨before, y, after, l', r', rfl, hy, hl, rfl⟩ := ih h
        exact ⟨x :: before, y, after, l', r', rfl, hy, by simpa using hl, rfl⟩
      · exact ⟨[], x, xs, l, r', rfl, hx, rfl, rfl⟩

theorem View.checkItems_eq_append {view : View} {child : Json} {place : Nat} {items : List Json}
    {l r : List Violation} {v : Violation}
    (h : view.checkItems definitions child place items = l ++ v :: r) :
    ∃ before node after l' r', items = before ++ node :: after ∧
      (view.item (place + before.length) child).check definitions node = l' ++ v :: r' ∧
        l = view.checkItems definitions child place before ++ l' ∧
          r = r' ++ view.checkItems definitions child (place + before.length + 1) after := by
  obtain ⟨before, item, after, l', r', hitems, hnode, hl, hr⟩ := exists_of_flatMap_eq h
  obtain ⟨before, others, rfl, rfl, hothers⟩ := List.zipIdx_eq_append_iff.mp hitems
  obtain ⟨node, after, rfl, rfl, rfl⟩ := List.zipIdx_eq_cons_iff.mp hothers.symm
  exact ⟨before, node, after, l', r', rfl, hnode, hl, hr⟩

/-- A value of the wrong type is what is reported of it. -/
theorem mismatched_hole {view : View} {node : Json} {l r : List Violation} {v : Violation}
    (hnode : node ≠ .null) (hfits : ¬ FitsType (view.meant definitions).schema node)
    (h : view.check definitions node = l ++ v :: r) :
    Mismatched definitions view .hole node v := by
  obtain ⟨expected, hexpected, hcheck⟩ := check_of_not_fits view.path hnode hfits
  rw [View.check, hcheck, List.singleton_eq_append_iff] at h
  obtain ⟨-, hv⟩ | ⟨-, hv⟩ := h
  · cases hv
    exact ⟨view, expected, .hole view, hnode, hfits, hexpected, rfl⟩
  · cases hv

/-- A violation among others is from a node of the wrong type, or from a field that is reported as
unknown, and then the others are what is left without the field. -/
def View.Sourced (definitions : Fields Json) (view : View) (value : Json) (l r : List Violation)
    (v : Violation) : Prop :=
  (∃ context node, value = context.fill node ∧ Mismatched definitions view context node v) ∨
    ∃ s : Site, value = s.whole ∧ s.Reported definitions view v ∧
      view.check definitions s.rest = l ++ r

namespace View.Sourced

variable {view : View} {child node : Json} {l r : List Violation} {v : Violation}

/-- What an item is reported for, its array is. -/
theorem item {before after : List Json} (harrays : TakesArrays (view.meant definitions).schema)
    (hchild : (view.meant definitions).schema.field? "items" = some child)
    (h : Sourced definitions ((view.meant definitions).item before.length child) node l r v) :
    Sourced definitions view (.arr (before ++ node :: after))
      ((view.meant definitions).checkItems definitions child 0 before ++ l)
      (r ++ (view.meant definitions).checkItems definitions child (before.length + 1) after) v := by
  obtain ⟨context, inner, rfl, view', expected, hreached, hmismatch⟩ |
    ⟨s, rfl, ⟨view', hreached, hreport⟩, hrest⟩ := h
  · exact Or.inl ⟨.item before context after, inner, rfl, view', expected,
      .item harrays hchild hreached, hmismatch⟩
  · refine Or.inr ⟨{ s with context := .item before s.context after }, rfl,
      ⟨view', .item harrays hchild hreached, hreport⟩, ?_⟩
    have houter := check_arr_append harrays hchild before after s.rest
    rw [hrest] at houter
    simpa [Site.rest, Context.fill] using houter

/-- What a field that is described is reported for, its object is. -/
theorem field {before after : List (String × Json)} {key : String}
    (hobjects : TakesObjects (view.meant definitions).schema)
    (hchild : Describes (view.meant definitions).schema key child)
    (h : Sourced definitions ((view.meant definitions).field key child) node l r v) :
    Sourced definitions view (.obj (before ++ (key, node) :: after))
      (before.flatMap ((view.meant definitions).checkField definitions) ++ l)
      (r ++ after.flatMap ((view.meant definitions).checkField definitions)) v := by
  obtain ⟨context, inner, rfl, view', expected, hreached, hmismatch⟩ |
    ⟨s, rfl, ⟨view', hreached, hreport⟩, hrest⟩ := h
  · exact Or.inl ⟨.field before key context after, inner, rfl, view', expected,
      .field hobjects hchild hreached, hmismatch⟩
  · refine Or.inr ⟨{ s with context := .field before key s.context after }, rfl,
      ⟨view', .field hobjects hchild hreached, hreport⟩, ?_⟩
    have houter := check_obj_append hobjects before ((key, s.rest) :: after)
    rw [List.flatMap_cons, checkField_of_describes hchild, hrest] at houter
    simpa [Site.rest, Context.fill] using houter

theorem unknown {before after : List (String × Json)} {key : String}
    (hobjects : TakesObjects (view.meant definitions).schema)
    (hunknown : Unknown (view.meant definitions).schema key) (node : Json) :
    Sourced definitions view (.obj (before ++ (key, node) :: after))
      (before.flatMap ((view.meant definitions).checkField definitions))
      (after.flatMap ((view.meant definitions).checkField definitions))
      (.unknownField (view.meant definitions).path key (view.meant definitions).name) :=
  Or.inr ⟨⟨.hole, before, key, node, after⟩, rfl,
    ⟨view, .hole view, hobjects, hunknown, rfl⟩, check_obj_append hobjects before after⟩

theorem mismatch (hnode : node ≠ .null) (hfits : ¬ FitsType (view.meant definitions).schema node)
    (h : view.check definitions node = l ++ v :: r) : Sourced definitions view node l r v :=
  Or.inl ⟨.hole, node, rfl, mismatched_hole hnode hfits h⟩

end View.Sourced

/-- Every violation is from somewhere. -/
theorem View.sourced {view : View} {value : Json} {l r : List Violation} {v : Violation}
    (h : view.check definitions value = l ++ v :: r) : view.Sourced definitions value l r v := by
  induction value using Json.parts_induction generalizing view l r with
  | null =>
    have hnil : [] = l ++ v :: r := h
    simp at hnil
  | scalar value hnull hitems hfields =>
    by_cases hfits : FitsType (view.meant definitions).schema value
    · rw [check, check_scalar hitems hfields hfits] at h
      simp at h
    · exact .mismatch hnull hfits h
  | arr items ih =>
    by_cases hfits : FitsType (view.meant definitions).schema (.arr items)
    · have harrays := hfits.takesArrays
      cases hchild : (view.meant definitions).schema.field? "items" with
      | none =>
        rw [meant] at hchild
        rw [check, check_arr hfits, hchild] at h
        simp at h
      | some child =>
        rw [check_arr_of_items harrays hchild] at h
        obtain ⟨before, node, after, l', r', rfl, hnode, rfl, rfl⟩ := checkItems_eq_append h
        rw [Nat.zero_add] at hnode ⊢
        exact (ih node (by simp) hnode).item harrays hchild
    · exact .mismatch nofun hfits h
  | obj fields ih =>
    by_cases hfits : FitsType (view.meant definitions).schema (.obj fields)
    · have hobjects := hfits.takesObjects
      have hsplit := check_obj_append hobjects [] fields
      rw [List.nil_append] at hsplit
      rw [hsplit, List.flatMap_nil, List.nil_append] at h
      obtain ⟨before, ⟨key, node⟩, after, l', r', rfl, hnode, rfl, rfl⟩ := exists_of_flatMap_eq h
      cases hrule : rule (view.meant definitions).schema key with
      | describes child =>
        have hchild := rule_eq_describes_iff.mp hrule
        rw [checkField_of_describes hchild] at hnode
        exact (ih (key, node) (by simp) hnode).field hobjects hchild
      | unknown =>
        have hunknown := rule_eq_unknown_iff.mp hrule
        rw [checkField_of_unknown hunknown, List.singleton_eq_append_iff] at hnode
        obtain ⟨rfl, hv⟩ | ⟨-, hv⟩ := hnode
        · cases hv
          rw [List.append_nil, List.nil_append]
          exact .unknown hobjects hunknown node
        · cases hv
      | free =>
        rw [checkField, Schema.checkField, hrule] at hnode
        simp at hnode
    · exact .mismatch nofun hfits h

/-! ## Objects of a kind -/

theorem get?_append_ne {key other : String} {value : Json} (h : other ≠ key)
    (before after : List (String × Json)) :
    Fields.get? other (before ++ (key, value) :: after) = Fields.get? other (before ++ after) := by
  induction before with
  | nil => rw [List.nil_append, List.nil_append, Fields.get?, if_neg (Ne.symm h)]
  | cons field before ih =>
    rw [List.cons_append, List.cons_append, Fields.get?, Fields.get?, ih]

/-- A look-up for a text does not see what a field holds that is no text. -/
theorem text_append_congr {value other : Json} (h : value.str? = other.str?) (key key' : String)
    (before after : List (String × Json)) :
    (Fields.get? key (before ++ (key', value) :: after)).bind Json.str? =
      (Fields.get? key (before ++ (key', other) :: after)).bind Json.str? := by
  induction before with
  | nil =>
    rw [List.nil_append, List.nil_append, Fields.get?, Fields.get?]
    split
    · exact h
    · rfl
  | cons field before ih =>
    rw [List.cons_append, List.cons_append, Fields.get?, Fields.get?]
    split
    · rfl
    · exact ih

theorem Context.str?_fill (context : Context) (fields : List (String × Json)) :
    (context.fill (.obj fields)).str? = none := by
  cases context <;> rfl

theorem Site.text_rest {s : Site} {key : String} (h : s.context = .hole → key ≠ s.key) :
    (s.rest.field? key).bind Json.str? = (s.whole.field? key).bind Json.str? := by
  obtain ⟨context, before, key', held, after⟩ := s
  cases context with
  | hole => exact congrArg (·.bind Json.str?) (get?_append_ne (h rfl) before after).symm
  | field before' outer inner after' =>
    exact text_append_congr ((inner.str?_fill _).trans (inner.str?_fill _).symm) key outer _ _
  | item => rfl

/-- An object is of the same kind without a field that does not say so. -/
theorem Site.kindOf_rest {s : Site} (h : s.KeepsKind) : kindOf s.rest = kindOf s.whole := by
  unfold kindOf
  dsimp only
  rw [text_rest fun hole => (h hole).1.symm, text_rest fun hole => (h hole).2.symm]

namespace Index

/-- What objects of their kind are checked against. -/
def view? (index : Index) (object : Json) : Option View :=
  (index.find? (kindOf object)).map fun found => ⟨found.1, found.2, (kindOf object).kind⟩

theorem validate_eq (index : Index) (object : Json) :
    index.validate object =
      (index.view? object).elim [] fun view => view.check index.definitions object := by
  unfold validate view?
  dsimp only
  cases index.find? (kindOf object) <;> rfl

theorem view?_rest (index : Index) {s : Site} (h : s.KeepsKind) :
    index.view? s.rest = index.view? s.whole := by
  rw [view?, view?, s.kindOf_rest h]

/-- A check of an object reports a field of it as unknown. -/
def Reports (index : Index) (s : Site) (v : Violation) : Prop :=
  ∃ view, index.view? s.whole = some view ∧ s.Reported index.definitions view v

/-- Without a field that does not say of which kind an object is there are the same violations or
fewer. -/
theorem validate_rest_sublist (index : Index) {s : Site} (h : s.KeepsKind) :
    (index.validate s.rest).Sublist (index.validate s.whole) := by
  rw [validate_eq, validate_eq, index.view?_rest h]
  cases index.view? s.whole with
  | none => exact List.Sublist.refl _
  | some view => exact s.check_rest_sublist view

/-- So it is with the reports about the objects of a request. -/
theorem Reports.validate_eq {index : Index} {s : Site} {v : Violation} (h : index.Reports s v)
    (hkeeps : s.KeepsKind) :
    ∃ l r, index.validate s.whole = l ++ v :: r ∧ index.validate s.rest = l ++ r := by
  obtain ⟨view, hview, hreported⟩ := h
  rw [Index.validate_eq, Index.validate_eq, index.view?_rest hkeeps, hview]
  exact hreported.check_eq

/-- Every report of an unknown field is there for some field, and without it just this report is
gone. -/
theorem exists_reports (index : Index) {object : Json} {l r : List Violation}
    {path key name : String}
    (h : index.validate object = l ++ .unknownField path key name :: r) :
    ∃ s : Site, object = s.whole ∧ index.Reports s (.unknownField path key name) ∧
      (s.KeepsKind → index.validate s.rest = l ++ r) := by
  rw [Index.validate_eq] at h
  cases hview : index.view? object with
  | none =>
    rw [hview] at h
    simp at h
  | some view =>
    rw [hview] at h
    obtain ⟨context, node, -, view', expected, -, -, -, -, hv⟩ | ⟨s, rfl, hreported, hrest⟩ :=
      View.sourced h
    · cases hv
    · refine ⟨s, rfl, ⟨view, hview, hreported⟩, fun hkeeps => ?_⟩
      rw [Index.validate_eq, index.view?_rest hkeeps, hview]
      exact hrest

end Index

/-- A check decides conformance and reports locally.

* There is nothing to report just if the value conforms.
* What is reported of a node that is reached is a piece of what is reported of the whole.
* A node of the wrong type is reported once, and nothing in it matters.
* Without any field there are the same violations or fewer, in the same order.
* Every report of an unknown field is there for a field, and without it just this report is gone.

For the objects of a request the last two hold of the messages as long as the field does not say of
which kind the object is. -/
theorem schema_checks_decide_and_report_locally (index : Index) (view : View) :
    (∀ value, view.check index.definitions value = [] ↔
      Conforms index.definitions view.schema value) ∧
    (∀ context view', Reaches index.definitions view context view' →
      ∃ l r, ∀ node, view.check index.definitions (context.fill node) =
        l ++ view'.check index.definitions node ++ r) ∧
    (∀ node, node ≠ .null → ¬ FitsType (view.meant index.definitions).schema node →
      ∃ expected, ∀ other, typeName other = typeName node →
        view.check index.definitions other =
          [.wrongType view.path (view.meant index.definitions).name (typeName node) expected]) ∧
    (∀ s : Site, (view.check index.definitions s.rest).Sublist
      (view.check index.definitions s.whole)) ∧
    (∀ (s : Site) (v : Violation), s.Reported index.definitions view v →
      ∃ l r, view.check index.definitions s.whole = l ++ v :: r ∧
        view.check index.definitions s.rest = l ++ r) ∧
    (∀ (value : Json) (l r : List Violation) (path key name : String),
      view.check index.definitions value = l ++ .unknownField path key name :: r →
        ∃ s : Site, value = s.whole ∧
          s.Reported index.definitions view (.unknownField path key name) ∧
            view.check index.definitions s.rest = l ++ r) ∧
    (∀ s : Site, s.KeepsKind → ((index.validate s.rest).map Violation.message).Sublist
      ((index.validate s.whole).map Violation.message)) ∧
    (∀ (s : Site) (v : Violation), index.Reports s v → s.KeepsKind →
      ∃ l r, index.validate s.whole = l ++ v :: r ∧ index.validate s.rest = l ++ r) ∧
    ∀ (object : Json) (l r : List Violation) (path key name : String),
      index.validate object = l ++ .unknownField path key name :: r →
        ∃ s : Site, object = s.whole ∧ index.Reports s (.unknownField path key name) ∧
          (s.KeepsKind → index.validate s.rest = l ++ r) := by
  refine ⟨fun _ => check_eq_nil_iff, fun _ _ hreached => hreached.check_fill,
    fun node hnode hfits => ?_, fun s => s.check_rest_sublist view, fun _ _ h => h.check_eq,
    fun value l r path key name h => ?_, fun s hkeeps => ?_, fun _ _ h => h.validate_eq,
    fun _ _ _ _ _ _ h => index.exists_reports h⟩
  · obtain ⟨expected, -, hcheck⟩ := check_of_not_fits view.path hnode hfits
    refine ⟨expected, fun other htype => ?_⟩
    have hother : other ≠ .null := by
      rintro rfl
      cases node <;> first | exact hnode rfl | simp [typeName] at htype
    rw [← View.check_congr_of_not_fits hnode hother htype.symm hfits]
    exact hcheck
  · obtain ⟨context, node, -, view', expected, -, -, -, -, hv⟩ | hsite := View.sourced h
    · cases hv
    · exact hsite
  · exact (index.validate_rest_sublist hkeeps).map Violation.message

/-- A schema that refers to itself and to one that is not there. -/
def linkSchema : Json := .obj [
  ("properties", .obj [
    ("apiVersion", .obj [("type", .str "string")]),
    ("kind", .obj [("type", .str "string")]),
    ("lost", .obj [("$ref", .str "#/definitions/Gone")]),
    ("next", .obj [("$ref", .str "#/definitions/Link")])]),
  ("type", .str "object")]

/-- The index of this one definition. -/
def linkIndex : Index where
  definitions := [("Link", linkSchema)]
  kinds := [(⟨"", "v1", "Link"⟩, "Link")]

/-- An unknown field in the second link of a chain. -/
def linkSite : Site where
  context := .field [("apiVersion", .str "v1"), ("kind", .str "Link"), ("lost", .int 1)] "next"
    .hole []
  before := []
  key := "extra"
  held := .int 2
  after := [("next", .null)]

/-- A chain that refers to its own definition again, with an unknown field in its second link. -/
theorem schema_checks_decide_and_report_locally_chain :
    linkIndex.Reports linkSite (.unknownField "Link.next" "extra" "Link") ∧ linkSite.KeepsKind ∧
      ∃ l r, linkIndex.validate linkSite.whole =
          l ++ .unknownField "Link.next" "extra" "Link" :: r ∧
        linkIndex.validate linkSite.rest = l ++ r := by
  let view : View := ⟨"Link", linkSchema, "Link"⟩
  have htype : typeViolation? "" linkSchema "" (.obj []) = none := rfl
  have hobjects : TakesObjects linkSchema :=
    ((typeViolation?_eq_none_iff "" "").mp htype).takesObjects
  have hunknown : Unknown linkSchema "extra" := ⟨⟨_, rfl, rfl⟩, rfl, nofun⟩
  have hreports : linkIndex.Reports linkSite (.unknownField "Link.next" "extra" "Link") :=
    ⟨view, rfl, _, .field hobjects (.property rfl rfl) (.hole _), hobjects, hunknown, rfl⟩
  have hkeeps : linkSite.KeepsKind := nofun
  obtain ⟨-, -, -, -, -, -, -, hrest, -⟩ := schema_checks_decide_and_report_locally linkIndex view
  exact ⟨hreports, hkeeps, hrest linkSite _ hreports hkeeps⟩

end FleetGate.Schema
