import FleetGate.Proofs.Interchange
import FleetGate.Report.Settings

/-!
# Overrides

The lowest layer of a configuration may be settings that were read before.  They were decoded from a
document, they are written as another one, and that is decoded again under whatever is laid over it.
Nothing is lost on the way, but for what the settings do not say.

* `Settings.writers` are what is written under each key, and `Settings.get?_entries_toToml` finds it
  in the document.
* `Settings.Keeps` says of one field that what is written may stand for what was decoded.  It holds
  of all fields (`Settings.exists_fields`), so it makes no difference which of the two documents
  lies below (`Settings.decodePlain_merge_toToml`).
* `overrides_are_a_lowest_layer` says the same of the settings that are read in the end.
-/

namespace FleetGate

namespace Fields

variable {α : Type}

/-- Where each key stands once, fields that were put in order are found as before. -/
theorem get?_ofList {fields : List (String × α)} (h : (fields.map (·.1)).Nodup) (key : String) :
    get? key (ofList fields) = get? key fields := by
  -- what has been put down is hidden by what is left
  suffices hfold : ∀ (rest done : Fields α), (rest.map (·.1)).Nodup →
      get? key (rest.foldl (fun sorted kv => insert kv.1 kv.2 sorted) done) =
        (get? key rest).or (get? key done) from
    (hfold fields [] h).trans Option.or_none
  intro rest
  induction rest with
  | nil => exact fun done _ => Option.none_or.symm
  | cons kv rest ih =>
    intro done hnodup
    obtain ⟨hfirst, hrest⟩ := List.nodup_cons.mp hnodup
    rw [List.foldl_cons, ih _ hrest, get?]
    by_cases he : kv.1 = key
    · subst he
      rw [if_pos rfl, get?_insert_self, Option.not_isSome_iff_eq_none.mp
        (mt isSome_get?_iff.mp hfirst)]
      rfl
    · rw [if_neg he, get?_insert_ne (Ne.symm he)]

end Fields

namespace Config

open Toml (Decoder)

namespace Settings

/-! ## What is written -/

/-- What is written of settings under each key. -/
def writers : List (String × (Settings → Option Toml)) := [
  ("log_level", fun s => s.logLevel.map fun n : Nat => .int n),
  ("port", fun s => s.port.map .str),
  ("kubeconfig", fun s => s.kubeconfig.map .str),
  ("cluster_provider_strategy", fun s => s.strategy.map .str),
  ("read_only", fun s => some (.bool s.readOnly)),
  ("disable_destructive", fun s => some (.bool s.disableDestructive)),
  ("toolsets", fun s => some (.ofTexts s.toolsets)),
  ("enabled_tools", fun s => some (.ofTexts s.enabledTools)),
  ("disabled_tools", fun s => some (.ofTexts s.disabledTools)),
  ("denied_resources", fun s => some (.arr (s.denied.map kindToToml))),
  ("validation_enabled", fun s => some (.bool s.validationEnabled)),
  ("require_oauth", fun s => some (.bool s.requireOauth)),
  ("validate_token", fun s => some (.bool s.validateToken)),
  ("authorization_url", fun s => s.authorizationUrl.map .str),
  ("server_url", fun s => s.serverUrl.map .str),
  ("certificate_authority", fun s => s.certificateAuthority.map .str),
  ("sts_client_id", fun s => s.stsClientId.map .str),
  ("sts_client_secret", fun s => s.stsClientSecret.map .str),
  ("sts_audience", fun s => s.stsAudience.map .str),
  ("sts_scopes", fun s => some (.ofTexts s.stsScopes)),
  ("cluster_provider_configs", fun s => some (.table s.providerTables)),
  ("toolset_configs", fun s => some (.table s.toolsetTables))]

/-- The entries that are written. -/
def written (s : Settings) : List (String × Toml) :=
  writers.filterMap fun w => (w.2 s).map (w.1, ·)

theorem toToml_eq (s : Settings) : s.toToml = Toml.ofFields s.written := by
  have hcons (w : String × (Settings → Option Toml)) (ws) :
      List.filterMap (fun w => (w.2 s).map (w.1, ·)) (w :: ws) =
        ((w.2 s).map (w.1, ·)).toList ++ List.filterMap (fun w => (w.2 s).map (w.1, ·)) ws := by
    rw [List.filterMap_cons]
    cases (w.2 s).map (w.1, ·) <;> rfl
  refine congrArg Toml.ofFields ?_
  simp only [written, writers, hcons, List.append_assoc, List.filterMap_nil, Option.map_some,
    Option.toList_some, List.cons_append, List.nil_append]
  -- an entry that may be missing is there on both sides or on neither
  repeat' first
    | rfl
    | refine congrArg (List.cons _) ?_
    | refine congrArg₂ List.append ?_ ?_
  all_goals
    split
    · next h => rw [h]; rfl
    · next h => rw [h]; rfl

theorem nodup_writers : (writers.map (·.1)).Nodup := by decide

/-- Writers with different keys are found by what they write. -/
theorem get?_filterMap_writers {ws : List (String × (Settings → Option Toml))}
    (h : (ws.map (·.1)).Nodup) (key : String) (s : Settings) :
    Fields.get? key (ws.filterMap fun w => (w.2 s).map (w.1, ·)) =
      (Fields.get? key ws).bind (· s) := by
  induction ws with
  | nil => rfl
  | cons w ws ih =>
    obtain ⟨hfirst, hrest⟩ := List.nodup_cons.mp h
    have ih := ih hrest
    rw [List.filterMap_cons, Fields.get?]
    by_cases he : w.1 = key
    · subst he
      rw [Option.not_isSome_iff_eq_none.mp (mt Fields.isSome_get?_iff.mp hfirst)] at ih
      rw [if_pos rfl, Option.bind_some]
      cases hw : w.2 s with
      | none => exact ih
      | some t => exact if_pos rfl
    · rw [if_neg he, ← ih]
      cases w.2 s with
      | none => rfl
      | some t => exact if_neg he

theorem nodup_written (s : Settings) : (s.written.map (·.1)).Nodup := by
  refine List.Nodup.sublist ?_ nodup_writers
  unfold written
  generalize writers = ws
  induction ws with
  | nil => exact List.Sublist.slnil
  | cons w ws ih =>
    rw [List.filterMap_cons]
    cases w.2 s with
    | none => exact ih.cons _
    | some t => exact ih.cons_cons _

/-- What stands in a document of settings. -/
theorem get?_entries_toToml (s : Settings) (key : String) :
    Fields.get? key s.toToml.entries = (Fields.get? key writers).bind (· s) := by
  rw [toToml_eq]
  exact (Fields.get?_ofList s.nodup_written key).trans
    (get?_filterMap_writers nodup_writers key s)

/-! ## What is restored -/

theorem decodeKind_kindToToml (k : Gvk) : decodeKind (kindToToml k) = .ok k := rfl

/-- What a field takes from a table it takes from what is written of the settings too. -/
def Keeps (fields : List (Decoder.FieldOf Settings)) (f : Decoder.FieldOf Settings) : Prop :=
  ∃ write, Fields.get? f.name writers = some write ∧
    ∀ entries s, (Toml.table entries).Ordered →
      Decoder.record "StaticConfig" fields {} (.table entries) = .ok s →
      (Fields.get? f.name entries = none → write {} = none) →
      Decoder.Interchangeable f.put (Fields.get? f.name entries) (write s)

theorem keeps_field {α : Type} {fields : List (Decoder.FieldOf Settings)} {key : String}
    {item : Decoder α} {set : α → Settings → Settings} {write : α → Option Toml}
    (part : Settings → α) (hrestores : Decoder.Restores item write)
    (hwrite : Fields.get? key writers = some fun s => write (part s))
    (hpart : Decoder.Part fields key item part) : Keeps fields (Decoder.field key item set) := by
  refine ⟨_, hwrite, fun entries s hordered hs hmissing => ?_⟩
  have hreads := hpart.reads_record part hordered.sorted_entries hs
  change Fields.get? key entries = none → _ at hmissing
  show Decoder.Interchangeable (Decoder.field key item set).put (Fields.get? key entries) _
  change Decoder.Reads item (part {}) (Fields.get? key entries) (part s) at hreads
  cases hget : Fields.get? key entries with
  | none =>
    rw [hget] at hreads
    have hdefault : part s = part {} := hreads
    rw [hdefault, hmissing hget]
    exact .refl _ _
  | some t =>
    rw [hget] at hreads
    have ht : t.Ordered := hordered.of_get? hget
    exact (hrestores t (part s) ht hreads).comp fun read s => read.map fun a => set a s

/-- So it is with every field of settings. -/
theorem exists_fields : ∃ fields, decodePlain = Decoder.record "StaticConfig" fields {} ∧
    ∀ f ∈ fields, Keeps fields f := by
  have htext := Decoder.restores_text.some?
  have hbyte := Decoder.restores_byte.some?
  have hbool := Decoder.restores_bool
  have htexts : Decoder.Restores (Decoder.list Decoder.text) fun texts => some (.ofTexts texts) :=
    Decoder.restores_list fun _ => rfl
  have hkinds := Decoder.restores_list decodeKind_kindToToml
  have htables := Decoder.restores_map_value
  refine ⟨_, rfl, ?_⟩
  simp only [List.forall_mem_cons]
  refine ⟨keeps_field logLevel hbyte rfl ?_, keeps_field port htext rfl ?_,
    keeps_field kubeconfig htext rfl ?_, keeps_field strategy htext rfl ?_,
    keeps_field readOnly hbool rfl ?_, keeps_field disableDestructive hbool rfl ?_,
    keeps_field toolsets htexts rfl ?_, keeps_field enabledTools htexts rfl ?_,
    keeps_field disabledTools htexts rfl ?_, keeps_field denied hkinds rfl ?_,
    keeps_field validationEnabled hbool rfl ?_, keeps_field requireOauth hbool rfl ?_,
    keeps_field validateToken hbool rfl ?_, keeps_field authorizationUrl htext rfl ?_,
    keeps_field serverUrl htext rfl ?_, keeps_field certificateAuthority htext rfl ?_,
    keeps_field stsClientId htext rfl ?_, keeps_field stsClientSecret htext rfl ?_,
    keeps_field stsAudience htext rfl ?_, keeps_field stsScopes htexts rfl ?_,
    keeps_field providerTables htables rfl ?_, keeps_field toolsetTables htables rfl ?_,
    List.forall_mem_nil _⟩
  all_goals
    -- the fields before the one that sets the part, this field, and those behind it
    repeat refine .tail (by decide) (fun _ _ => rfl) ?_
    refine .head (fun _ _ => rfl) ?_
    repeat refine List.forall_mem_cons.mpr ⟨Decoder.spares_field fun _ _ => rfl, ?_⟩
    exact List.forall_mem_nil _

/-! ## Settings as a layer -/

theorem sorted_entries_toToml (s : Settings) : Fields.Sorted s.toToml.entries := by
  rw [toToml_eq]
  exact Fields.sorted_ofList s.written

/-- Settings may be laid under a document in place of the table that they were decoded from, if the
table says all that the defaults say. -/
theorem decodePlain_merge_toToml {entries : List (String × Toml)} {s : Settings} {overlay : Toml}
    (h : (Toml.table entries).Ordered) (hs : decodePlain (.table entries) = .ok s)
    (hdefaults : ∀ key, Fields.get? key entries = none →
      Fields.get? key (toToml {}).entries = none)
    (hoverlay : overlay.Ordered) :
    decodePlain (Toml.merge s.toToml overlay) =
      decodePlain (Toml.merge (.table entries) overlay) := by
  cases hleaf : overlay.isTable with
  | false => rw [Toml.merge_of_not_table hleaf, Toml.merge_of_not_table hleaf]
  | true =>
    obtain ⟨above, rfl⟩ := Toml.exists_fields hleaf
    obtain ⟨fields, hdecode, hkeeps⟩ := exists_fields
    rw [hdecode] at hs ⊢
    rw [Toml.merge_table hoverlay, Toml.merge_table hoverlay]
    refine Decoder.record_congr (Toml.sorted_mergeFields s.sorted_entries_toToml above)
      (Toml.sorted_mergeFields h.sorted_entries above) fun f hf => ?_
    obtain ⟨write, hwrite, hkeep⟩ := hkeeps f hf
    have hwritten (s : Settings) : Fields.get? f.name s.toToml.entries = write s := by
      rw [get?_entries_toToml, hwrite]
      rfl
    have hsame := hkeep entries s h hs fun hnone => by
      rw [← hwritten]
      exact hdefaults _ hnone
    have hover : Fields.Sorted above := hoverlay.sorted_entries
    rw [Toml.get?_mergeFields hover, hwritten, Toml.get?_mergeFields hover]
    cases hget : Fields.get? f.name above with
    | none => exact hsame.alone.symm
    | some v => exact congrArg some (hsame.under v (hoverlay.of_get? hget)).symm

end Settings

namespace Loader

/-- The settings of documents without a place, one laid over the other. -/
def readTexts [Complaint] (l : Loader) (contents : List String) : Except ConfigError Settings := do
  let documents ← contents.mapM (parseDocument "inline")
  l.finish (documents.foldl Toml.merge l.base.toToml) none

theorem exists_fields_of_parse? {content : String} {t : Toml} (h : Toml.parse? content = some t) :
    ∃ fields, t = .table fields := by
  unfold Toml.parse? at h
  obtain ⟨⟨parts, rest⟩, -, h⟩ := Option.bind_eq_some_iff.mp h
  obtain ⟨fields, -, h⟩ := Option.bind_eq_some_iff.mp h
  exact ⟨_, (Option.some.inj h).symm⟩

theorem parse?_of_parseDocument [Complaint] {origin content : String} {t : Toml}
    (h : parseDocument origin content = .ok t) : Toml.parse? content = some t := by
  unfold parseDocument at h
  cases hparse : Toml.parse? content with
  | none =>
    rw [hparse] at h
    cases h
  | some u =>
    rw [hparse] at h
    exact congrArg some (Except.ok.inj h)

theorem readText_of_parseDocument [Complaint] {l : Loader} {content : String} {t : Toml}
    (h : parseDocument "inline" content = .ok t) :
    l.readText content = l.finish (Toml.merge l.base.toToml t) none := by
  rw [readText, h]
  rfl

theorem readTexts_pair [Complaint] {l : Loader} {below content : String} {t : Toml}
    (h : parseDocument "inline" below = .ok t) :
    l.readTexts [below, content] = (parseDocument "inline" content).bind fun overlay =>
      l.finish (Toml.merge (Toml.merge l.base.toToml t) overlay) none := by
  rw [readTexts, List.mapM_cons, h, List.mapM_cons]
  cases parseDocument "inline" content <;> rfl

/-- Settings are finished by reading their typed tables, which are not written. -/
theorem exists_of_finish {l : Loader} {merged : Toml} {origin : Origin} {s : Settings}
    (h : l.finish merged origin = .ok s) :
    ∃ plain, Settings.decodePlain merged = .ok plain ∧ s.toToml = plain.toToml := by
  unfold finish at h
  cases hplain : Settings.decodePlain merged with
  | error e =>
    rw [hplain] at h
    cases h
  | ok plain =>
    rw [hplain] at h
    obtain ⟨hubs, -, h⟩ := exists_of_bind_eq_ok h
    obtain ⟨kialis, -, h⟩ := exists_of_bind_eq_ok h
    cases h
    exact ⟨plain, rfl, rfl⟩

theorem finish_congr (r : Registries) (base base' : Settings) {merged merged' : Toml}
    (origin : Origin) (h : Settings.decodePlain merged = Settings.decodePlain merged') :
    (⟨r, base⟩ : Loader).finish merged origin = (⟨r, base'⟩ : Loader).finish merged' origin := by
  unfold finish
  rw [h]

end Loader

/-- Under any overlay, settings are finished like the document that they were finished from. -/
theorem Loader.finish_merge_toToml {r : Registries} {document overlay : Toml} {s : Settings}
    (htable : document.isTable = true) (hordered : document.Ordered)
    (h : (⟨r, {}⟩ : Loader).finish (Toml.merge (Settings.toToml {}) document) none = .ok s)
    (hoverlay : overlay.Ordered) :
    (⟨r, s⟩ : Loader).finish (Toml.merge s.toToml overlay) none =
      (⟨r, {}⟩ : Loader).finish
        (Toml.merge (Toml.merge (Settings.toToml {}) document) overlay) none := by
  obtain ⟨fields, rfl⟩ := Toml.exists_fields htable
  have hmerged := Toml.ordered_merge Settings.tablesOrdered_default.toToml hordered
  have hsorted : Fields.Sorted fields := hordered.sorted_entries
  obtain ⟨plain, hplain, hsame⟩ := exists_of_finish h
  rw [Toml.merge_table hordered] at hmerged hplain ⊢
  rw [hsame]
  refine finish_congr r s {} none
    (Settings.decodePlain_merge_toToml hmerged hplain (fun key hnone => ?_) hoverlay)
  -- what the document leaves out, the defaults leave out too
  rw [Toml.get?_mergeFields hsorted] at hnone
  split at hnone
  · exact hnone
  · cases hnone

theorem parseDocument_empty [Complaint] (origin : String) :
    Loader.parseDocument origin "" = .ok .empty := rfl

/-- Settings that were read from a document and are laid under another one do what the document
does there.  Under the empty document they are what is read. -/
theorem overrides_are_a_lowest_layer [Complaint] (r : Registries) (below : String)
    (s : Settings) (h : (⟨r, {}⟩ : Loader).readText below = .ok s) :
    (∀ content, (⟨r, s⟩ : Loader).readText content =
      (⟨r, {}⟩ : Loader).readTexts [below, content]) ∧
    (⟨r, s⟩ : Loader).readText "" = .ok s := by
  obtain ⟨document, hdocument, hfinish⟩ := exists_of_bind_eq_ok h
  have hparse := Loader.parse?_of_parseDocument hdocument
  have htable : document.isTable = true := by
    obtain ⟨fields, rfl⟩ := Loader.exists_fields_of_parse? hparse
    rfl
  have hover {overlay : Toml} (hoverlay : overlay.Ordered) :=
    Loader.finish_merge_toToml htable (Toml.ordered_of_parse? hparse) hfinish hoverlay
  constructor
  · intro content
    rw [Loader.readTexts_pair hdocument]
    cases hcontent : Loader.parseDocument "inline" content with
    | error e =>
      rw [Loader.readText, hcontent]
      rfl
    | ok overlay =>
      rw [Loader.readText_of_parseDocument hcontent]
      exact hover (Toml.ordered_of_parse? (Loader.parse?_of_parseDocument hcontent))
  · rw [Loader.readText_of_parseDocument (parseDocument_empty _), hover Toml.ordered_empty]
    obtain ⟨fields, rfl⟩ := Toml.exists_fields htable
    have hempty : Toml.merge (Toml.merge (Settings.toToml {}) (.table fields)) .empty =
        Toml.merge (Settings.toToml {}) (.table fields) := by
      rw [Toml.merge_table (Toml.ordered_of_parse? hparse)]
      rfl
    rw [hempty]
    exact hfinish

/-- A document with dates and nested tables. -/
def datedText : String :=
  "port = 1979-05-27\n[toolset_configs.other]\nsince = 1979-05-27T07:32:00Z\n" ++
    "[toolset_configs.other.deep]\nn = [1, \x7bx = 07:32:00\x7d]\n"

/-- Overrides that were read from a document with dates and nested tables are what is read under
the empty document. -/
theorem dated_overrides_are_a_lowest_layer : ∃ s,
    (⟨Registries.full, {}⟩ : Loader).readText datedText = .ok s ∧
    (⟨Registries.full, s⟩ : Loader).readText "" = .ok s ∧
    (⟨Registries.full, s⟩ : Loader).readText "[toolset_configs.other.deep]\nm = true\n" =
      (⟨Registries.full, {}⟩ : Loader).readTexts
        [datedText, "[toolset_configs.other.deep]\nm = true\n"] := by
  have hread : ((⟨Registries.full, {}⟩ : Loader).readText datedText).toOption.isSome = true := by
    decide +kernel
  cases h : (⟨Registries.full, {}⟩ : Loader).readText datedText with
  | error e =>
    rw [h] at hread
    cases hread
  | ok s =>
    obtain ⟨hlayer, hempty⟩ := overrides_are_a_lowest_layer Registries.full datedText s h
    exact ⟨s, rfl, hempty, hlayer _⟩

end Config

end FleetGate
