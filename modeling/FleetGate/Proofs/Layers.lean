import FleetGate.Config.Loader
import FleetGate.Proofs.Directories
import FleetGate.Proofs.Documents
import FleetGate.Proofs.Running
import FleetGate.Report.Settings

/-!
# Layers

A configuration is decoded from the left fold of its layers (`read_eq`): the lowest layer, the
main file, and the files of the drop-in directory in byte order of their names
(`dropIns_of_directory`).  Every layer is ordered, so that what is known of one value laid over
another holds of them.  The order in which a directory keeps its entries does not count
(`read_eq_of_reordered`).
-/

namespace FleetGate

open Text

namespace Toml

variable {fields sorted : List (String × Toml)}

theorem ordered_insert {t : Toml} {key : String} (h : Ordered (.table sorted)) (ht : t.Ordered) :
    Ordered (.table (Fields.insert key t sorted)) := by
  have hinsert := h.sorted_entries.insert key t
  refine .table hinsert fun kv hkv => ?_
  have hget := hinsert.get?_of_mem hkv
  by_cases he : kv.1 = key
  · rw [he, Fields.get?_insert_self] at hget
    exact Option.some.inj hget ▸ ht
  · rw [Fields.get?_insert_ne he] at hget
    exact h.of_get? hget

/-- A table that is made of ordered values is ordered, in whatever order they come. -/
theorem ordered_ofFields (h : ∀ kv ∈ fields, kv.2.Ordered) : (ofFields fields).Ordered := by
  refine List.foldlRecOn (motive := fun sorted => Ordered (.table sorted)) fields _
    ordered_empty fun sorted hsorted kv hkv => ?_
  exact ordered_insert hsorted (h kv hkv)

end Toml

namespace Config

variable {fs fs' : Files} {dir : String}

/-! ## The lowest layer -/

/-- The raw tables of settings are ordered. -/
structure Settings.TablesOrdered (s : Settings) : Prop where
  providers : (Toml.table s.providerTables).Ordered
  toolsets : (Toml.table s.toolsetTables).Ordered

/-- The defaults have no raw tables. -/
theorem Settings.tablesOrdered_default : Settings.TablesOrdered {} :=
  ⟨Toml.ordered_empty, Toml.ordered_empty⟩

/-- So the document of such settings is ordered, as all else that is written are leaves. -/
theorem Settings.TablesOrdered.toToml {s : Settings} (h : s.TablesOrdered) : s.toToml.Ordered := by
  refine Toml.ordered_ofFields ?_
  simp only [List.forall_mem_append, List.forall_mem_cons]
  and_intros
  all_goals first
    | exact .leaf rfl
    | exact h.providers
    | exact h.toolsets
    | exact List.forall_mem_nil _
    | -- what is not set is left out
      intro kv hkv
      split at hkv
      · exact List.mem_singleton.mp hkv ▸ .leaf rfl
      · cases hkv

namespace Loader

/-! ## Files in order -/

/-- The files of a drop-in directory, if one is named. -/
def dropInFiles (fs : Files) : Option String → Except ConfigError (List String)
  | some dir => dropIns fs dir
  | none => .ok []

/-- The documents of a main file and a drop-in directory, in order. -/
def documents [Complaint] (fs : Files) (main dropInDir : Option String) :
    Except ConfigError (List Toml) := do
  let mains ← main.toList.mapM (readDocument fs)
  let files ← dropInFiles fs dropInDir
  let documents ← files.mapM (readDocument fs)
  pure (mains ++ documents)

/-- To lay files over a document is to read them all and to fold what they say. -/
theorem layer_eq [Complaint] (merged : Toml) (paths : List String) :
    layer fs merged paths = (do
      let documents ← paths.mapM (readDocument fs)
      pure (documents.foldl Toml.merge merged)) := by
  induction paths generalizing merged with
  | nil => rfl
  | cons path paths ih =>
    rw [layer, List.mapM_cons]
    cases readDocument fs path with
    | error e => rfl
    | ok document =>
      dsimp only
      rw [ih]
      cases paths.mapM (readDocument fs) with
      | error e => rfl
      | ok documents => rfl

/-- What is decoded is the left fold of the documents over the lowest layer. -/
theorem read_eq [Complaint] (l : Loader) (fs : Files) (main dropInDir : Option String) :
    l.read fs main dropInDir = (do
      let documents ← documents fs main dropInDir
      l.finish (documents.foldl Toml.merge l.base.toToml) (originOf fs main dropInDir)) := by
  unfold read documents
  cases dropInDir with
  | none =>
    simp only [layer_eq, bind_assoc, pure_bind, List.foldl_append]
    rfl
  | some dir =>
    simp only [layer_eq, bind_assoc, pure_bind, List.foldl_append]
    rfl

theorem ordered_of_readDocument [Complaint] {path : String} {t : Toml}
    (h : readDocument fs path = .ok t) : t.Ordered := by
  unfold readDocument at h
  split at h
  · cases h
  · unfold parseDocument at h
    split at h
    · next hparse =>
      cases h
      exact Toml.ordered_of_parse? hparse
    · cases h

theorem ordered_of_mapM [Complaint] {paths : List String} {docs : List Toml}
    (h : paths.mapM (readDocument fs) = .ok docs) : ∀ t ∈ docs, t.Ordered := by
  induction paths generalizing docs with
  | nil =>
    cases h
    exact List.forall_mem_nil _
  | cons path paths ih =>
    rw [List.mapM_cons] at h
    obtain ⟨first, hfirst, h⟩ := exists_of_bind_eq_ok h
    obtain ⟨rest, hrest, h⟩ := exists_of_bind_eq_ok h
    cases h
    exact List.forall_mem_cons.mpr ⟨ordered_of_readDocument hfirst, ih hrest⟩

/-- Every document of a configuration is ordered. -/
theorem ordered_of_documents [Complaint] {main dropInDir : Option String} {docs : List Toml}
    (h : documents fs main dropInDir = .ok docs) : ∀ t ∈ docs, t.Ordered := by
  obtain ⟨mains, hmains, h⟩ := exists_of_bind_eq_ok h
  obtain ⟨files, -, h⟩ := exists_of_bind_eq_ok h
  obtain ⟨rest, hrest, h⟩ := exists_of_bind_eq_ok h
  cases h
  exact List.forall_mem_append.mpr ⟨ordered_of_mapM hmains, ordered_of_mapM hrest⟩

/-! ## Drop-in files -/

/-- A directory that is not there has no drop-in files, and that is no failure. -/
theorem dropIns_of_missing {e : FileError} (h : fs.node dir = .error e) :
    dropIns fs dir = .ok [] := by
  rw [dropIns, Files.doesExist, h]
  rfl

/-- A file in the place of the directory is a failure. -/
theorem dropIns_of_file {content : String} (h : fs.node dir = .ok (.file content)) :
    dropIns fs dir = .error (.unreadable dir FileError.notDirectory.message) := by
  rw [dropIns, Files.doesExist, Files.list, h]
  rfl

/-- The files of a drop-in directory: those whose name begins with no dot and ends in `.toml`, in
byte order of the names. -/
theorem dropIns_of_directory (h : fs.node dir = .ok .directory) :
    ∃ names : List String, dropIns fs dir = .ok (names.map (Path.join dir)) ∧
      names.Pairwise (fun a b => Utf8.encode a < Utf8.encode b) ∧
      ∀ name, name ∈ names ↔
        fs.Holds dir name ∧ isDropIn name = true ∧ fs.isFile (Path.join dir name) = true := by
  obtain ⟨names, hnames, hnodup, hmem⟩ := Files.exists_list h
  refine ⟨((names.filter isDropIn).filter fun name => fs.isFile (Path.join dir name)).mergeSort
    fun a b => a < b || a == b, ?_, ?_, ?_⟩
  · rw [dropIns, Files.doesExist, h, hnames]
    rfl
  · exact (Text.pairwise_sort ((hnodup.filter _).filter _)).imp Utf8.encode_lt_encode_iff.mpr
  · intro name
    rw [List.mem_mergeSort, List.mem_filter, List.mem_filter, hmem, and_assoc]

/-! ## The order of the entries -/

theorem readDocument_eq_of_reordered [Complaint] (h : fs.Reordered fs') (path : String) :
    readDocument fs path = readDocument fs' path := by
  unfold readDocument
  rw [h.read_eq]

theorem dropIns_eq_of_reordered (h : fs.Reordered fs') (dir : String) :
    dropIns fs dir = dropIns fs' dir := by
  unfold dropIns
  rw [h.doesExist_eq, funext fun name => h.isFile_eq (Path.join dir name)]
  rcases h.list_cases dir with ⟨e, he, he'⟩ | ⟨names, names', hnames, hnames', hperm⟩
  · rw [he, he']
  · rw [hnames, hnames']
    dsimp only
    rw [Text.sort_eq_of_perm ((hperm.filter isDropIn).filter _)]

/-- A configuration does not show in which order directories keep their entries. -/
theorem read_eq_of_reordered [Complaint] (h : fs.Reordered fs') (l : Loader)
    (main dropInDir : Option String) : l.read fs main dropInDir = l.read fs' main dropInDir := by
  rw [read_eq, read_eq]
  have hfiles : dropInFiles fs dropInDir = dropInFiles fs' dropInDir := by
    cases dropInDir with
    | none => rfl
    | some dir => exact dropIns_eq_of_reordered h dir
  unfold documents originOf
  simp only [funext (readDocument_eq_of_reordered h), hfiles, h.workingDir_eq]

/-! ## The layers of a configuration -/

/-- The last layer that sets a key path says what stands there, layers that are apart may be
swapped, and the layers of a configuration are the lowest one, the main file and the drop-in files
in byte order of their names, in whatever order the directory keeps them. -/
theorem layers_are_merged_in_order [Complaint] :
    (∀ base overlay : Toml, overlay.Ordered → ∀ path, Toml.FollowsPath base overlay path) ∧
    (∀ (base t : Toml) (before after : List Toml) (path : List String) (v : Toml), t.Ordered →
      t.at? path = some v → v.isTable = false →
      (∀ later ∈ after, later.Ordered ∧ later.at? path = none ∧ ¬ later.Blocks path) →
      ((before ++ t :: after).foldl Toml.merge base).at? path = some v) ∧
    (∀ base overlay : Toml, base.Ordered → overlay.Ordered →
      Toml.merge (Toml.merge base overlay) overlay = Toml.merge base overlay) ∧
    (∀ t : Toml, t.Ordered → Toml.merge t t = t) ∧
    (∀ base first second : Toml, base.Ordered → first.Ordered → second.Ordered →
      first.Apart second →
      Toml.merge (Toml.merge base first) second = Toml.merge (Toml.merge base second) first) ∧
    Settings.TablesOrdered {} ∧
    (∀ (l : Loader) (fs : Files) (main dropInDir : Option String), l.base.TablesOrdered →
      l.base.toToml.Ordered ∧
      (∀ docs, documents fs main dropInDir = .ok docs → ∀ t ∈ docs, t.Ordered) ∧
      l.read fs main dropInDir = (do
        let docs ← documents fs main dropInDir
        l.finish (docs.foldl Toml.merge l.base.toToml) (originOf fs main dropInDir))) ∧
    (∀ (fs : Files) (dir : String),
      (∀ e, fs.node dir = .error e → dropIns fs dir = .ok []) ∧
      (∀ content, fs.node dir = .ok (.file content) →
        dropIns fs dir = .error (.unreadable dir FileError.notDirectory.message)) ∧
      (fs.node dir = .ok .directory → ∃ names : List String,
        dropIns fs dir = .ok (names.map (Path.join dir)) ∧
        names.Pairwise (fun a b => Utf8.encode a < Utf8.encode b) ∧
        ∀ name, name ∈ names ↔
          fs.Holds dir name ∧ isDropIn name = true ∧ fs.isFile (Path.join dir name) = true)) ∧
    (∀ (l : Loader) (fs fs' : Files) (main dropInDir : Option String), fs.Reordered fs' →
      l.read fs main dropInDir = l.read fs' main dropInDir) :=
  ⟨fun base _ h path => Toml.followsPath h base path,
    fun _ _ _ _ _ _ h hv hleaf hafter => Toml.at?_foldl_merge_of_last h hv hleaf hafter,
    fun _ _ hbase h => Toml.merge_merge_self h hbase,
    fun _ h => Toml.merge_self h,
    fun _ _ _ hbase hfirst hsecond h =>
      (h.agrees hfirst hsecond).merge_comm hfirst hsecond hbase,
    Settings.tablesOrdered_default,
    fun l fs main dropInDir h =>
      ⟨h.toToml, fun _ => ordered_of_documents, read_eq l fs main dropInDir⟩,
    fun _ _ => ⟨fun _ => dropIns_of_missing, fun _ => dropIns_of_file, dropIns_of_directory⟩,
    fun l _ _ main dropInDir h => read_eq_of_reordered h l main dropInDir⟩

/-- A document that sets one key. -/
def single (key : String) (n : Int) : Toml := .table [(key, .int n)]

theorem ordered_single (key : String) (n : Int) : (single key n).Ordered :=
  .table (List.pairwise_singleton _ _) (List.forall_mem_singleton.mpr (.leaf rfl))

theorem eq_of_sets_single {key : String} {n : Int} {path : List String}
    (h : (single key n).Sets path) : path = [key] := by
  obtain ⟨v, hv, hempty⟩ := h
  cases path with
  | nil =>
    cases hv
    cases hempty
  | cons other path =>
    rw [single, Toml.at?_cons, Toml.entries, Fields.get?] at hv
    split at hv
    · next he =>
      cases path with
      | nil => rw [he]
      | cons => cases hv
    · cases hv

theorem not_blocks_single {key other : String} {n : Int} : ¬ (single key n).Blocks [other] := by
  rintro ⟨q, hq, hne, v, hv, hleaf⟩
  cases q with
  | nil =>
    cases hv
    cases hleaf
  | cons k q =>
    obtain ⟨rfl, hnil⟩ := List.cons_prefix_cons.mp hq
    exact hne (congrArg _ (List.prefix_nil.mp hnil))

/-- A directory with two drop-in files. -/
def twoDropIns : Files :=
  ⟨"/w", [(["w", "conf", "b.toml"], some "read_only = true"),
    (["w", "conf", "a.toml"], some "read_only = false")]⟩

/-- Documents of one key each, and a directory that keeps the later name first. -/
theorem layers_are_merged_in_order_two :
    Toml.FollowsPath (single "a" 1) (single "b" 2) ["a"] ∧
    ([single "a" 2, single "a" 3, single "b" 4].foldl Toml.merge (single "a" 1)).at? ["a"] =
      some (.int 3) ∧
    Toml.merge (Toml.merge (single "a" 1) (single "b" 2)) (single "b" 2) =
      Toml.merge (single "a" 1) (single "b" 2) ∧
    Toml.merge (Toml.merge (single "a" 1) (single "b" 2)) (single "c" 3) =
      Toml.merge (Toml.merge (single "a" 1) (single "c" 3)) (single "b" 2) ∧
    (Settings.toToml {}).Ordered ∧
    (∃ names : List String, dropIns twoDropIns "conf" = .ok (names.map (Path.join "conf")) ∧
      names.Pairwise (fun a b => Utf8.encode a < Utf8.encode b) ∧
      "a.toml" ∈ names ∧ "b.toml" ∈ names) ∧
    (⟨Registries.common, {}⟩ : Loader).read twoDropIns none (some "conf") =
      (⟨Registries.common, {}⟩ : Loader).read
        { twoDropIns with entries := twoDropIns.entries.reverse } none (some "conf") := by
  obtain ⟨hpath, hlast, htwice, -, hcomm, hbase, hread, hdropIns, hreorder⟩ :=
    layers_are_merged_in_order
  have hordered := ordered_single
  have hapart : (single "b" 2).Apart (single "c" 3) := fun p q hp hq => by
    rw [eq_of_sets_single hp, eq_of_sets_single hq]
    decide
  refine ⟨hpath _ _ (hordered _ _) _,
    hlast _ (single "a" 3) [single "a" 2] _ _ _ (hordered _ _) rfl rfl
      (List.forall_mem_singleton.mpr ⟨hordered _ _, rfl, not_blocks_single⟩),
    htwice _ _ (hordered _ _) (hordered _ _),
    hcomm _ _ _ (hordered _ _) (hordered _ _) (hordered _ _) hapart,
    (hread ⟨Registries.common, {}⟩ .nothing none none hbase).1, ?_,
    hreorder _ _ _ _ _ ⟨rfl, (List.reverse_perm _).symm, by decide⟩⟩
  obtain ⟨names, hnames, hsorted, hmem⟩ := (hdropIns twoDropIns "conf").2.2 (by decide)
  have hplace : twoDropIns.locate "conf" = .ok ["w", "conf"] := by decide
  exact ⟨names, hnames, hsorted,
    (hmem "a.toml").mpr ⟨⟨_, hplace, _, .tail _ (.head _), by decide⟩, by decide, by decide⟩,
    (hmem "b.toml").mpr ⟨⟨_, hplace, _, .head _, by decide⟩, by decide, by decide⟩⟩

end Loader

end Config

end FleetGate
