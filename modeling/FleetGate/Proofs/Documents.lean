import FleetGate.Proofs.Merging
import FleetGate.Toml.Document

/-!
# Documents are ordered

Each table that a document writes is ordered, so that it may be laid over others
(`ordered_of_parse?`).  A reader yields ordered values if its parts do, and the tree that sections
are put into keeps its own order: an element of an array of tables is of no account here, as an
array is replaced as a whole.
-/

namespace FleetGate

open Text Text.Reader

variable {α β : Type}

/-! ## Readers -/

/-- Whatever a reader takes off a text is of a kind. -/
def Text.Reader.Yields (P : α → Prop) (r : Reader α) : Prop :=
  ∀ ⦃cs a rest⦄, r cs = some (a, rest) → P a

namespace Text.Reader

variable {P : α → Prop} {Q : β → Prop} {x : Reader β} {f : β → Reader α}

theorem Yields.pure {a : α} (h : P a) : Yields P (pure a) := fun cs b rest hb => by
  cases hb
  exact h

/-- A reader that takes nothing yields anything. -/
theorem Yields.failure : Yields P failure := nofun

/-- What a second step yields may depend on what the first has yielded. -/
theorem Yields.bind (hx : Yields Q x) (h : ∀ b, Q b → Yields P (f b)) :
    Yields P (x >>= f) := fun cs a rest ha => by
  obtain ⟨⟨b, cs'⟩, hb, ha⟩ := Option.bind_eq_some_iff.mp ha
  exact h b (hx hb) ha

/-- Where a first step may take anything. -/
theorem Yields.after (h : ∀ b, Yields P (f b)) : Yields P (x >>= f) := fun cs a rest ha => by
  obtain ⟨⟨b, cs'⟩, -, ha⟩ := Option.bind_eq_some_iff.mp ha
  exact h b ha

/-- A choice yields what both sides yield. -/
theorem Yields.orElse {r s : Reader α} (hr : Yields P r) (hs : Yields P s) :
    Yields P (r <|> s) := fun cs a rest ha => by
  have hcases : (r <|> s) cs = (r cs <|> s cs) := rfl
  rw [hcases] at ha
  cases hcs : r cs with
  | none =>
    rw [hcs] at ha
    exact hs ha
  | some found =>
    rw [hcs] at ha
    exact hr (hcs.trans ha)

end Text.Reader

namespace Toml

variable {v : Toml} {path : List String} {fields fields' : Fields Node}
  {pairs : List (List String × Toml)}

/-! ## Scalars -/

/-- Whatever is read is no table. -/
abbrev YieldsLeaf (r : Reader Toml) : Prop := Yields (fun t => t.isTable = false) r

/-- A number is not a table. -/
theorem yieldsLeaf_fitting (n : Int) : YieldsLeaf (fitting n) := by
  unfold fitting
  split
  · exact .pure rfl
  · exact .failure

theorem yieldsLeaf_integer : YieldsLeaf integer := by
  have hbase (s : String) (base : Nat) :
      YieldsLeaf (do text s; fitting (inBase base (← digits base))) :=
    .after fun _ => .after fun _ => yieldsLeaf_fitting _
  refine .orElse (hbase "0x" 16) (.orElse (hbase "0o" 8) (.orElse (hbase "0b" 2) ?_))
  exact .after fun _ => .after fun _ => yieldsLeaf_fitting _

theorem yieldsLeaf_dateOrTime : YieldsLeaf dateOrTime := by
  refine .after fun d? => ?_
  split
  · exact .after fun _ => .pure rfl
  · exact .after fun _ => .pure rfl

theorem yieldsLeaf_number : YieldsLeaf number := fun cs t rest h => by
  unfold number at h
  split at h
  · exact yieldsLeaf_dateOrTime h
  · have hfraction : YieldsLeaf (do pure (.float (← fraction))) := .after fun _ => .pure rfl
    exact (hfraction.orElse yieldsLeaf_integer) h

/-- Nor is anything else that is neither an array nor an inline table. -/
theorem yieldsLeaf_scalar : YieldsLeaf scalar := by
  refine .after fun c? => ?_
  split
  · exact .after fun _ => .pure rfl
  · exact .after fun _ => .pure rfl
  · exact .after fun _ => .pure rfl
  · exact .after fun _ => .pure rfl
  · exact yieldsLeaf_number

/-! ## The tree -/

/-- The tables of a place are ordered. -/
inductive Node.Ordered : Node → Prop where
  | leaf {v : Toml} : v.Ordered → Node.Ordered (.leaf v)
  | table {implicit dotted : Bool} {fields : Fields Node} :
      Fields.Sorted fields → (∀ key node, Fields.get? key fields = some node → Node.Ordered node) →
      Node.Ordered (.table implicit dotted fields)
  | elements {tables : List (Fields Node)} : Node.Ordered (.elements tables)

/-- The fields of a table are in order, and so are the tables in them. -/
structure OrderedFields (fields : Fields Node) : Prop where
  sorted : Fields.Sorted fields
  nodes : ∀ key node, Fields.get? key fields = some node → node.Ordered

namespace OrderedFields

theorem nil : OrderedFields [] := ⟨List.Pairwise.nil, nofun⟩

theorem table {implicit dotted : Bool} (h : OrderedFields fields) :
    Node.Ordered (.table implicit dotted fields) := .table h.sorted h.nodes

theorem of_table {implicit dotted : Bool} (h : Node.Ordered (.table implicit dotted fields)) :
    OrderedFields fields := by
  cases h with
  | table hsorted hnodes => exact ⟨hsorted, hnodes⟩

/-- A place that is ordered may be put at any key. -/
theorem insert {node : Node} (h : OrderedFields fields) (hnode : node.Ordered) (key : String) :
    OrderedFields (Fields.insert key node fields) where
  sorted := h.sorted.insert key node
  nodes other node' hget := by
    by_cases he : other = key
    · subst he
      rw [Fields.get?_insert_self] at hget
      exact Option.some.inj hget ▸ hnode
    · rw [Fields.get?_insert_ne he] at hget
      exact h.nodes other node' hget

/-- A place is put at a key once what it is made of has been found. -/
theorem insert_found {found? : Option α} {node : α → Node} {key : String} (h : OrderedFields fields)
    (hnode : ∀ found, found? = some found → (node found).Ordered)
    (hput : (do let found ← found?; pure (Fields.insert key (node found) fields)) = some fields') :
    OrderedFields fields' := by
  obtain ⟨found, hfound, hput⟩ := Option.bind_eq_some_iff.mp hput
  cases hput
  exact h.insert (hnode found hfound) key

/-- A pair is put below all tables on its path, which are made where they are missing. -/
theorem putPair (h : OrderedFields fields) (hv : v.Ordered)
    (hput : Toml.putPair v path fields = some fields') : OrderedFields fields' := by
  fun_induction Toml.putPair v path fields generalizing fields' with
  | case1 | case3 | case5 | case7 | case9 => cases hput
  | case2 k fields =>
    cases hput
    exact h.insert (.leaf hv) k
  | case4 k rest fields _ _ ih =>
    exact h.insert_found (fun _ hinner => (ih nil hinner).table) hput
  | case6 k rest fields _ implicit dotted inner hget _ ih =>
    exact h.insert_found (fun _ hinner => (ih (of_table (h.nodes k _ hget)) hinner).table) hput
  | case8 => exact h.insert_found (fun _ _ => .elements) hput

theorem putPairs (h : OrderedFields fields) (hpairs : ∀ p ∈ pairs, p.2.Ordered)
    (hput : Toml.putPairs fields pairs = some fields') : OrderedFields fields' := by
  induction pairs generalizing fields with
  | nil =>
    cases hput
    exact h
  | cons p pairs ih =>
    obtain ⟨first, hfirst, hput⟩ := Option.bind_eq_some_iff.mp hput
    exact ih (h.putPair (hpairs p List.mem_cons_self) hfirst)
      (fun q hq => hpairs q (List.mem_cons_of_mem p hq)) hput

/-- A section opens a table, or adds an element to an array of tables, and puts its pairs there. -/
theorem putSection {element : Bool} (h : OrderedFields fields) (hpairs : ∀ p ∈ pairs, p.2.Ordered)
    (hput : Toml.putSection element pairs path fields = some fields') :
    OrderedFields fields' := by
  fun_induction Toml.putSection element pairs path fields generalizing fields' with
  | case1 | case6 | case10 => cases hput
  | case2 | case3 | case9 => exact h.insert_found (fun _ _ => .elements) hput
  | case4 => exact h.insert_found (fun _ hinner => (nil.putPairs hpairs hinner).table) hput
  | case5 k fields inner hget =>
    exact h.insert_found
      (fun _ hinner => ((of_table (h.nodes k _ hget)).putPairs hpairs hinner).table) hput
  | case7 k rest fields _ _ ih =>
    exact h.insert_found (fun _ hinner => (ih nil hinner).table) hput
  | case8 k rest fields _ implicit dotted inner hget ih =>
    exact h.insert_found (fun _ hinner => (ih (of_table (h.nodes k _ hget)) hinner).table) hput

/-- The pairs before the first header go to the root, and those of a section below its path. -/
theorem place {s : Section} (h : OrderedFields fields) (hs : ∀ p ∈ s.pairs, p.2.Ordered)
    (hput : Toml.place fields s = some fields') : OrderedFields fields' := by
  unfold Toml.place at hput
  split at hput
  · exact h.putPairs hs hput
  · exact h.putSection hs hput

/-- The sections of a document are placed one after the other. -/
theorem places {parts : List Section} (h : OrderedFields fields)
    (hparts : ∀ s ∈ parts, ∀ p ∈ s.pairs, p.2.Ordered)
    (hput : parts.foldlM Toml.place fields = some fields') : OrderedFields fields' := by
  induction parts generalizing fields with
  | nil =>
    cases hput
    exact h
  | cons s parts ih =>
    obtain ⟨first, hfirst, hput⟩ := Option.bind_eq_some_iff.mp hput
    exact ih (h.place (hparts s List.mem_cons_self) hfirst)
      (fun t ht => hparts t (List.mem_cons_of_mem s ht)) hput

end OrderedFields

/-- A tree has its values at the same keys. -/
theorem fieldValues_eq_map (fields : List (String × Node)) :
    fieldValues fields = fields.map fun kv => (kv.1, kv.2.value) := by
  induction fields with
  | nil => rfl
  | cons kv fields ih => rw [fieldValues, ih]; rfl

/-- The value of an ordered tree is ordered. -/
theorem Node.Ordered.value {node : Node} (h : node.Ordered) : node.value.Ordered := by
  induction h with
  | leaf h => exact h
  | @table implicit dotted fields hsorted hnodes ih =>
    rw [Node.value, fieldValues_eq_map]
    refine .table ?_ fun kv hkv => ?_
    · rw [Fields.Sorted, List.map_map]
      exact hsorted
    · obtain ⟨kv, hmem, rfl⟩ := List.mem_map.mp hkv
      exact ih kv.1 kv.2 (hsorted.get?_of_mem hmem)
  | elements => exact .leaf rfl

theorem OrderedFields.values (h : OrderedFields fields) : Ordered (.table (fieldValues fields)) :=
  (h.table : Node.Ordered (.table false false fields)).value

/-! ## Values and sections -/

/-- Arrays and inline tables nest, so that both are taken together, on the fuel. -/
theorem yields_nested (fuel : Nat) : ∀ depth, Yields Toml.Ordered (nested fuel depth) ∧
    Yields (fun pairs => ∀ p ∈ pairs, p.2.Ordered) (inlinePairs fuel depth) := by
  induction fuel with
  | zero => exact fun depth => ⟨nofun, nofun⟩
  | succ fuel ih =>
    refine fun depth => ⟨.after fun c? => ?_, ?_⟩
    · split
      · split
        · exact .failure
        · refine .after fun _ => .after fun _ => .after fun isEmpty => ?_
          split
          · exact .pure (.leaf rfl)
          · exact .after fun _ => .pure (.leaf rfl)
      · split
        · exact .failure
        · refine .after fun _ => .after fun _ => .after fun isEmpty => ?_
          split
          · exact .pure ordered_empty
          · refine .bind (ih (depth + 1)).2 fun pairs hpairs => ?_
            split
            · next fields hfields => exact .pure (OrderedFields.nil.putPairs hpairs hfields).values
            · exact .failure
      · exact fun cs t rest h => .leaf (yieldsLeaf_scalar h)
    · refine .after fun path => .after fun _ => .after fun _ =>
        .bind (ih depth).1 fun v hv => .after fun _ => .after fun more => ?_
      split
      · refine .bind (ih depth).2 fun pairs hpairs => .pure ?_
        exact List.forall_mem_cons.mpr ⟨hv, hpairs⟩
      · exact .after fun _ => .pure (List.forall_mem_singleton.mpr hv)

theorem yields_value : Yields Toml.Ordered value := fun _ _ _ h => (yields_nested _ 0).1 h

/-- Sections are gathered one after the other, those that are done beside the current one. -/
theorem yields_sections (fuel : Nat) {current : Section} {done : List Section}
    (hcurrent : ∀ p ∈ current.pairs, p.2.Ordered)
    (hdone : ∀ s ∈ done, ∀ p ∈ s.pairs, p.2.Ordered) :
    Yields (fun parts => ∀ s ∈ parts, ∀ p ∈ s.pairs, p.2.Ordered)
      (sections fuel current done) := by
  induction fuel generalizing current done with
  | zero => exact nofun
  | succ fuel ih =>
    have hall : ∀ s ∈ { current with pairs := current.pairs.reverse } :: done,
        ∀ p ∈ s.pairs, p.2.Ordered :=
      List.forall_mem_cons.mpr ⟨fun p hp => hcurrent p (List.mem_reverse.mp hp), hdone⟩
    refine .after fun _ => .after fun c? => ?_
    split
    · exact .pure fun s hs => hall s (List.mem_reverse.mp hs)
    · exact .after fun _ => .after fun _ => ih hcurrent hdone
    · exact .after fun _ => ih hcurrent hdone
    · exact .after fun _ => ih hcurrent hdone
    · exact .after fun _ => ih (List.forall_mem_nil _) hall
    · have hpair : Yields (fun p => p.2.Ordered) pair :=
        .after fun _ => .after fun _ => .after fun _ =>
          .bind yields_value fun _ hv => .after fun _ => .pure hv
      exact .bind hpair fun p hp => ih (List.forall_mem_cons.mpr ⟨hp, hcurrent⟩) hdone

/-- Every document is ordered. -/
theorem ordered_of_parse? {s : String} {t : Toml} (h : parse? s = some t) : t.Ordered := by
  unfold parse? at h
  obtain ⟨⟨parts, rest⟩, hparts, h⟩ := Option.bind_eq_some_iff.mp h
  obtain ⟨fields, hfields, h⟩ := Option.bind_eq_some_iff.mp h
  cases h
  have hpairs := yields_sections _ (List.forall_mem_nil _) (List.forall_mem_nil _) hparts
  exact (OrderedFields.nil.places hpairs hfields).values

end Toml

end FleetGate
