import FleetGate.ResourcePath

/-!
# Writing and reading resource paths

A path is written with segments when these stand in it in order, each apart from the next by at
least one slash (`Spells`).  Slashes may stand before them and after them, too.  Every path is
written with some segments, and with these only (`spells_iff`).

The parts of a resource path must be segments (`ResourcePath.Proper`).  Two combinations of parts
have no path, since `namespaces` in a path means two things.

* `status` and `finalize` cannot be resources in a namespace, because after the name of a
  namespace they are its subresources.
* A namespace has no other subresource, because what follows the name of a namespace is a resource
  in it.

`parse?_eq_some_iff` says that proper parts are read from just those paths that are written with
their segments (`ResourcePath.WrittenIn`).  After a subresource further segments may follow.
-/

namespace FleetGate.ResourcePath

/-! ## Paths and their segments -/

/-- A text that can stand between slashes. -/
def IsSegment (s : String) : Prop := s ≠ "" ∧ '/' ∉ s.toList

instance (s : String) : Decidable (IsSegment s) := inferInstanceAs (Decidable (_ ∧ _))

/-- Characters that write segments. -/
inductive Spells : List Char → List String → Prop where
  | empty : Spells [] []
  | slash {cs : List Char} {ss : List String} : Spells cs ss → Spells ('/' :: cs) ss
  | last {s : String} : IsSegment s → Spells s.toList [s]
  | segment {s : String} {cs : List Char} {ss : List String} :
      IsSegment s → Spells cs ss → Spells (s.toList ++ '/' :: cs) (s :: ss)

/-- Slashes that follow each other do not count. -/
@[simp]
theorem segmentChars_slash (cs : List Char) : segmentChars ('/' :: cs) = segmentChars cs := by
  simp [segmentChars]

/-- A segment ends at the next slash. -/
theorem segmentChars_append {s cs : List Char} (hne : s ≠ []) (hs : '/' ∉ s) :
    segmentChars (s ++ '/' :: cs) = s :: segmentChars cs := by
  induction s with
  | nil => exact absurd rfl hne
  | cons c s ih =>
    obtain ⟨hc, hs⟩ := not_or.mp (mt List.mem_cons.mpr hs)
    cases s with
    | nil => simp [segmentChars, Ne.symm hc]
    | cons d s =>
      have hd : d ≠ '/' := fun he => hs (he ▸ List.mem_cons_self)
      have ih := ih (List.cons_ne_nil _ _) hs
      rw [List.cons_append, List.cons_append] at *
      rw [segmentChars, ih]
      simp [Ne.symm hc, hd]

theorem segmentChars_of_plain {s : List Char} (hne : s ≠ []) (hs : '/' ∉ s) :
    segmentChars s = [s] := by
  induction s with
  | nil => exact absurd rfl hne
  | cons c s ih =>
    obtain ⟨hc, hs⟩ := not_or.mp (mt List.mem_cons.mpr hs)
    cases s with
    | nil => simp [segmentChars, Ne.symm hc]
    | cons d s =>
      have hd : d ≠ '/' := fun he => hs (he ▸ List.mem_cons_self)
      rw [segmentChars, ih (List.cons_ne_nil _ _) hs]
      simp [Ne.symm hc, hd]

/-- The segments of a path are those that it is written with. -/
theorem segments_of_spells {cs : List Char} {ss : List String} (h : Spells cs ss) :
    (segmentChars cs).map String.ofList = ss := by
  have hchars : ∀ {s : String}, IsSegment s → s.toList ≠ [] := fun hs he =>
    hs.1 (String.toList_inj.mp he)
  induction h with
  | empty => rfl
  | slash _ ih => rwa [segmentChars_slash]
  | last hs => simp [segmentChars_of_plain (hchars hs) hs.2]
  | segment hs _ ih => simp [segmentChars_append (hchars hs) hs.2, ih]

theorem isSegment_ofList {s : List Char} (hne : s ≠ []) (hs : '/' ∉ s) :
    IsSegment (String.ofList s) :=
  ⟨fun he => hne (by simpa using congrArg String.toList he), by simpa using hs⟩

/-- Every path is written with some segments.  The induction goes along the path, behind the front
of a segment that is not yet over. -/
theorem exists_spells_append (front : List Char) (hfront : '/' ∉ front) (cs : List Char) :
    ∃ ss, Spells (front ++ cs) ss := by
  induction cs generalizing front with
  | nil =>
    rw [List.append_nil]
    by_cases hne : front = []
    · exact ⟨[], hne ▸ .empty⟩
    · have := Spells.last (isSegment_ofList hne hfront)
      rw [String.toList_ofList] at this
      exact ⟨_, this⟩
  | cons c cs ih =>
    by_cases hc : c = '/'
    · obtain ⟨ss, hss⟩ := ih [] List.not_mem_nil
      subst hc
      by_cases hne : front = []
      · exact ⟨ss, hne ▸ .slash hss⟩
      · have := Spells.segment (isSegment_ofList hne hfront) hss
        rw [String.toList_ofList] at this
        exact ⟨_, this⟩
    · have hlonger : '/' ∉ front ++ [c] := by simp [hfront, Ne.symm hc]
      simpa using ih _ hlonger

/-- A path is written with just its segments. -/
theorem spells_iff {path : String} {ss : List String} :
    Spells path.toList ss ↔ segments path = ss := by
  constructor
  · exact segments_of_spells
  · rintro rfl
    obtain ⟨ss, h⟩ := exists_spells_append [] List.not_mem_nil path.toList
    rw [List.nil_append] at h
    rwa [segments, segments_of_spells h]

/-- No segment is empty or has a slash. -/
theorem Spells.isSegment {cs : List Char} {ss : List String} (h : Spells cs ss) :
    ∀ s ∈ ss, IsSegment s := by
  induction h with
  | empty => exact nofun
  | slash _ ih => exact ih
  | last hs => exact fun s hmem => List.mem_singleton.mp hmem ▸ hs
  | segment hs _ ih =>
    intro s hmem
    cases hmem with
    | head => exact hs
    | tail _ hmem => exact ih s hmem

/-! ## Parts and their paths -/

/-- Parts that have a path together. -/
structure Combined (p : ResourcePath) : Prop where
  /-- Only an object has a subresource. -/
  named : p.subresource?.isSome → p.name?.isSome
  inNamespace : p.ns?.isSome → p.gvr.resource ∉ namespaceSubresources
  ofNamespace : p.gvr.resource = "namespaces" → p.ns? = none →
    ∀ sub ∈ p.subresource?, sub ∈ namespaceSubresources

/-- Parts that have a path, each of them a segment. -/
structure Proper (p : ResourcePath) : Prop extends Combined p where
  group : p.gvr.group = "" ∨ IsSegment p.gvr.group
  version : IsSegment p.gvr.version
  resource : IsSegment p.gvr.resource
  ns : ∀ ns ∈ p.ns?, IsSegment ns
  name : ∀ name ∈ p.name?, IsSegment name
  subresource : ∀ sub ∈ p.subresource?, IsSegment sub

/-- A path that is written with the segments of a resource path.  Whatever follows a subresource
does not count. -/
def WrittenIn (p : ResourcePath) (path : String) : Prop :=
  ∃ rest, (p.subresource? = none → rest = []) ∧ Spells path.toList (p.toSegments ++ rest)

/-- The segments of a path that addresses a resource: something follows the version. -/
inductive Addresses : List String → Prop where
  | core {version resource : String} {rest : List String} :
      Addresses ("api" :: version :: resource :: rest)
  | grouped {group version resource : String} {rest : List String} :
      Addresses ("apis" :: group :: version :: resource :: rest)

/-! ## What follows the version -/

/-- The segments of a path after the version. -/
def tail (p : ResourcePath) : List String :=
  (p.ns?.elim [] fun ns => ["namespaces", ns]) ++
    p.gvr.resource :: (p.name?.toList ++ p.subresource?.toList)

theorem toSegments_of_core {p : ResourcePath} (h : p.gvr.group = "") :
    p.toSegments = "api" :: p.gvr.version :: p.tail := by
  cases hns : p.ns? <;> simp [toSegments, tail, h, hns]

theorem toSegments_of_grouped {p : ResourcePath} (h : p.gvr.group ≠ "") :
    p.toSegments = "apis" :: p.gvr.group :: p.gvr.version :: p.tail := by
  cases hns : p.ns? <;> simp [toSegments, tail, h, hns]

/-- What follows the version, taken apart. -/
def ofTail? (group version : String) (rest : List String) : Option ResourcePath :=
  ofRest? group version (splitNamespace rest).1 (splitNamespace rest).2

theorem ofSegments?_core (version : String) (rest : List String) :
    ofSegments? ("api" :: version :: rest) = ofTail? "" version rest := rfl

theorem ofSegments?_grouped (group version : String) (rest : List String) :
    ofSegments? ("apis" :: group :: version :: rest) = ofTail? group version rest := rfl

/-- The two ways in which the segments after the version are split. -/
theorem splitNamespace_cases (rest : List String) :
    (∃ ns resource more, rest = "namespaces" :: ns :: resource :: more ∧
      resource ∉ namespaceSubresources ∧ splitNamespace rest = (some ns, resource :: more)) ∨
    (∀ ns sub more, rest = "namespaces" :: ns :: sub :: more → sub ∈ namespaceSubresources) ∧
      splitNamespace rest = (none, rest) := by
  unfold splitNamespace
  split
  · next ns sub more =>
    split
    · next hsub =>
      refine Or.inr ⟨fun ns' sub' more' he => ?_, rfl⟩
      cases he
      exact hsub
    · next hsub => exact Or.inl ⟨ns, sub, more, rfl, hsub, rfl⟩
  · next hother => exact Or.inr ⟨fun ns sub more he => absurd he (hother ns sub more), rfl⟩

/-- What stands at the end of a path. -/
theorem ofRest?_eq_some_iff {group version : String} {ns? : Option String} {rest : List String}
    {p : ResourcePath} :
    ofRest? group version ns? rest = some p ↔
      p.gvr.group = group ∧ p.gvr.version = version ∧ p.ns? = ns? ∧
        (p.subresource?.isSome → p.name?.isSome) ∧
        ∃ more, (p.subresource? = none → more = []) ∧
          rest = p.gvr.resource :: (p.name?.toList ++ p.subresource?.toList ++ more) := by
  constructor
  · intro h
    unfold ofRest? at h
    split at h
    · cases h
    · cases h
      exact ⟨rfl, rfl, rfl, nofun, [], fun _ => rfl, rfl⟩
    · cases h
      exact ⟨rfl, rfl, rfl, nofun, [], fun _ => rfl, rfl⟩
    · next more =>
      cases h
      exact ⟨rfl, rfl, rfl, fun _ => rfl, more, nofun, rfl⟩
  · obtain ⟨⟨group', version', resource⟩, ns', name?, sub?⟩ := p
    rintro ⟨rfl, rfl, rfl, hnamed, more, hmore, rfl⟩
    cases sub? with
    | none =>
      cases hmore rfl
      cases name? <;> rfl
    | some sub =>
      obtain ⟨name, rfl⟩ := Option.isSome_iff_exists.mp (hnamed rfl)
      rfl

/-- Parts that are split off have a path together, and their segments stand where they were. -/
theorem combined_of_splitNamespace {p : ResourcePath} {rest more : List String}
    (hnamed : p.subresource?.isSome → p.name?.isSome) (hns : p.ns? = (splitNamespace rest).1)
    (hrest : (splitNamespace rest).2 =
      p.gvr.resource :: (p.name?.toList ++ p.subresource?.toList ++ more)) :
    p.Combined ∧ rest = p.tail ++ more := by
  obtain ⟨ns, resource, others, rfl, hr, hsplit⟩ | ⟨hsub, hsplit⟩ := splitNamespace_cases rest
  · rw [hsplit] at hns hrest
    have hres : resource = p.gvr.resource := (List.cons.inj hrest).1
    refine ⟨⟨hnamed, fun _ => hres ▸ hr, fun _ hnone => ?_⟩, ?_⟩
    · rw [hns] at hnone
      cases hnone
    · simp only at hns hrest
      simp [tail, hns, hrest]
  · rw [hsplit] at hns hrest
    simp only at hns hrest
    refine ⟨⟨hnamed, fun hsome => ?_, fun hres _ sub hs => ?_⟩, ?_⟩
    · rw [hns] at hsome
      cases hsome
    · obtain ⟨name, hname⟩ := Option.isSome_iff_exists.mp (hnamed (by rw [hs]; rfl))
      rw [Option.mem_def] at hs
      exact hsub name sub more (by simp [hrest, hres, hname, hs])
    · simp [tail, hns, hrest]

theorem Combined.splitNamespace_tail {p : ResourcePath} {more : List String} (hp : p.Combined)
    (hmore : p.subresource? = none → more = []) :
    splitNamespace (p.tail ++ more) =
      (p.ns?, p.gvr.resource :: (p.name?.toList ++ p.subresource?.toList ++ more)) := by
  cases hns : p.ns? with
  | some ns =>
    have hr := hp.inNamespace (by rw [hns]; rfl)
    simp [tail, hns, splitNamespace, hr]
  | none =>
    have htail : p.tail ++ more =
        p.gvr.resource :: (p.name?.toList ++ p.subresource?.toList ++ more) := by
      simp [tail, hns]
    obtain ⟨ns, resource, others, he, hr, -⟩ | ⟨-, hsplit⟩ :=
      splitNamespace_cases (p.tail ++ more)
    · rw [htail] at he
      obtain ⟨hres, he⟩ := List.cons.inj he
      -- three segments are left only if the third is a subresource
      cases hs : p.subresource? with
      | none =>
        cases hmore hs
        cases hn : p.name? <;> simp [hn, hs] at he
      | some sub =>
        obtain ⟨name, hname⟩ := Option.isSome_iff_exists.mp (hp.named (by rw [hs]; rfl))
        simp only [hname, hs, Option.toList_some, List.cons_append, List.nil_append,
          List.cons.injEq] at he
        exact absurd (hp.ofNamespace hres hns sub hs) (he.2.1 ▸ hr)
    · rw [hsplit, htail]

/-- Parts are read from what follows the version just if they have a path together and their
segments stand there. -/
theorem ofTail?_eq_some_iff {group version : String} {rest : List String} {p : ResourcePath} :
    ofTail? group version rest = some p ↔
      p.gvr.group = group ∧ p.gvr.version = version ∧ p.Combined ∧
        ∃ more, (p.subresource? = none → more = []) ∧ rest = p.tail ++ more := by
  rw [ofTail?, ofRest?_eq_some_iff]
  constructor
  · rintro ⟨hg, hv, hns, hnamed, more, hmore, hrest⟩
    obtain ⟨hp, htail⟩ := combined_of_splitNamespace hnamed hns hrest
    exact ⟨hg, hv, hp, more, hmore, htail⟩
  · rintro ⟨hg, hv, hp, more, hmore, rfl⟩
    rw [hp.splitNamespace_tail hmore]
    exact ⟨hg, hv, rfl, hp.named, more, hmore, rfl⟩

/-! ## Reading what is written -/

/-- Nothing is read just if nothing follows the version. -/
theorem ofTail?_eq_none_iff {group version : String} {rest : List String} :
    ofTail? group version rest = none ↔ rest = [] := by
  have hend : ∀ ns? rest, ofRest? group version ns? rest = none ↔ rest = [] := by
    intro ns? rest
    unfold ofRest?
    split <;> simp
  rw [ofTail?, hend]
  obtain ⟨ns, resource, more, rfl, -, hsplit⟩ | ⟨-, hsplit⟩ := splitNamespace_cases rest
  · simp [hsplit]
  · rw [hsplit]

theorem ofSegments?_eq_none_iff {ss : List String} : ofSegments? ss = none ↔ ¬ Addresses ss := by
  constructor
  · intro h haddr
    cases haddr with
    | core =>
      rw [ofSegments?_core, ofTail?_eq_none_iff] at h
      cases h
    | grouped =>
      rw [ofSegments?_grouped, ofTail?_eq_none_iff] at h
      cases h
  · intro h
    unfold ofSegments?
    split
    · next version rest =>
      refine ofTail?_eq_none_iff.mpr ?_
      cases rest with
      | nil => rfl
      | cons resource rest => exact absurd .core h
    · next group version rest =>
      refine ofTail?_eq_none_iff.mpr ?_
      cases rest with
      | nil => rfl
      | cons resource rest => exact absurd .grouped h
    · rfl

/-- Parts are read from segments that begin with theirs, and only a subresource may have more behind
it. -/
theorem ofSegments?_eq_some_iff {ss : List String} (hss : ∀ s ∈ ss, IsSegment s)
    {p : ResourcePath} :
    ofSegments? ss = some p ↔
      p.Combined ∧ ∃ more, (p.subresource? = none → more = []) ∧ ss = p.toSegments ++ more := by
  constructor
  · intro h
    unfold ofSegments? at h
    split at h
    · obtain ⟨hg, hv, hp, more, hmore, hrest⟩ := ofTail?_eq_some_iff.mp h
      refine ⟨hp, more, hmore, ?_⟩
      rw [toSegments_of_core hg, hv, hrest]
      rfl
    · next group version rest =>
      obtain ⟨hg, hv, hp, more, hmore, hrest⟩ := ofTail?_eq_some_iff.mp h
      have hne : p.gvr.group ≠ "" := hg ▸ (hss group (by simp)).1
      refine ⟨hp, more, hmore, ?_⟩
      rw [toSegments_of_grouped hne, hg, hv, hrest]
      rfl
    · cases h
  · rintro ⟨hp, more, hmore, rfl⟩
    by_cases hg : p.gvr.group = ""
    · rw [toSegments_of_core hg]
      exact ofTail?_eq_some_iff.mpr ⟨hg, rfl, hp, more, hmore, rfl⟩
    · rw [toSegments_of_grouped hg]
      exact ofTail?_eq_some_iff.mpr ⟨rfl, rfl, hp, more, hmore, rfl⟩

theorem Proper.of_toSegments {p : ResourcePath} (hp : p.Combined)
    (h : ∀ s ∈ p.toSegments, IsSegment s) : p.Proper where
  toCombined := hp
  group := by
    by_cases hg : p.gvr.group = ""
    · exact Or.inl hg
    · exact Or.inr (h _ (by simp [toSegments_of_grouped hg]))
  version := h _ (by simp [toSegments])
  resource := h _ (by simp [toSegments])
  ns ns hns := h _ (by simp [toSegments, Option.mem_def.mp hns])
  name name hname := h _ (by simp [toSegments, Option.mem_def.mp hname])
  subresource sub hsub := h _ (by simp [toSegments, Option.mem_def.mp hsub])

/-- Parts are read from a path just if they are proper and the path is written with their
segments. -/
theorem parse?_eq_some_iff {path : String} {p : ResourcePath} :
    parse? path = some p ↔ p.Proper ∧ p.WrittenIn path := by
  have hsegments : ∀ s ∈ segments path, IsSegment s := (spells_iff.mpr rfl).isSegment
  rw [parse?, ofSegments?_eq_some_iff hsegments]
  constructor
  · rintro ⟨hp, more, hmore, heq⟩
    refine ⟨.of_toSegments hp fun s hs => hsegments s ?_, more, hmore, spells_iff.mpr heq⟩
    rw [heq]
    exact List.mem_append_left more hs
  · rintro ⟨hp, more, hmore, hspells⟩
    exact ⟨hp.toCombined, more, hmore, spells_iff.mp hspells⟩

/-- Nothing is read from a path just if no resource follows a version on it. -/
theorem parse?_eq_none_iff {path : String} :
    parse? path = none ↔ ∀ ss, Spells path.toList ss → ¬ Addresses ss := by
  rw [parse?, ofSegments?_eq_none_iff]
  constructor
  · intro h ss hspells
    exact spells_iff.mp hspells ▸ h
  · intro h
    exact h _ (spells_iff.mpr rfl)

/-! ## The path that is written for parts -/

theorem segmentChars_joined {ss : List String} (hss : ∀ s ∈ ss, IsSegment s) :
    segmentChars (ss.flatMap fun s => '/' :: s.toList) = ss.map String.toList := by
  induction ss with
  | nil => rfl
  | cons s ss ih =>
    have hs := hss s List.mem_cons_self
    have ih := ih fun t ht => hss t (List.mem_cons_of_mem s ht)
    have hne : s.toList ≠ [] := fun he => hs.1 (String.toList_inj.mp he)
    cases ss with
    | nil => simpa using segmentChars_of_plain hne hs.2
    | cons t ss =>
      rw [List.flatMap_cons, List.cons_append, segmentChars_slash] at ih ⊢
      rw [List.flatMap_cons, List.cons_append, segmentChars_append hne hs.2, ih]
      rfl

/-- The path that is made of parts is written with their segments. -/
theorem segments_render {p : ResourcePath} (h : ∀ s ∈ p.toSegments, IsSegment s) :
    segments p.render = p.toSegments := by
  have hjoin : p.render.toList = p.toSegments.flatMap fun s => '/' :: s.toList := by
    simp [render, String.toList_join, List.flatMap_map]
  rw [segments, hjoin, segmentChars_joined h]
  simp

theorem Proper.isSegment_tail {p : ResourcePath} (h : p.Proper) : ∀ s ∈ p.tail, IsSegment s := by
  intro s hs
  rcases List.mem_append.mp hs with hs | hs
  · cases hns : p.ns? with
    | none => simp [hns] at hs
    | some ns =>
      have hs : s = "namespaces" ∨ s = ns := by simpa [hns] using hs
      rcases hs with rfl | rfl
      · decide
      · exact h.ns _ hns
  rcases List.mem_cons.mp hs with rfl | hs
  · exact h.resource
  rcases List.mem_append.mp hs with hs | hs
  · exact h.name s (Option.mem_toList.mp hs)
  · exact h.subresource s (Option.mem_toList.mp hs)

theorem Proper.isSegment_toSegments {p : ResourcePath} (h : p.Proper) :
    ∀ s ∈ p.toSegments, IsSegment s := by
  intro s hs
  by_cases hg : p.gvr.group = ""
  · rw [toSegments_of_core hg, List.mem_cons, List.mem_cons] at hs
    rcases hs with rfl | rfl | hs
    · decide
    · exact h.version
    · exact h.isSegment_tail s hs
  · rw [toSegments_of_grouped hg, List.mem_cons, List.mem_cons, List.mem_cons] at hs
    rcases hs with rfl | rfl | rfl | hs
    · decide
    · exact h.group.resolve_left hg
    · exact h.version
    · exact h.isSegment_tail s hs

/-- The path of proper parts is written with their segments. -/
theorem Proper.writtenIn_render {p : ResourcePath} (h : p.Proper) : p.WrittenIn p.render :=
  ⟨[], fun _ => rfl, by
    rw [List.append_nil]
    exact spells_iff.mpr (segments_render h.isSegment_toSegments)⟩

/-- Just the proper parts are read, from just the paths that are written with their segments.
They are read from the path that is made of them, too.  Nothing is read just from the paths in
which no resource follows a version. -/
theorem resource_paths_are_read_as_written :
    (∀ (path : String) (p : ResourcePath),
      parse? path = some p ↔ p.Proper ∧ p.WrittenIn path) ∧
    (∀ path : String, parse? path = none ↔ ∀ ss, Spells path.toList ss → ¬ Addresses ss) ∧
    (∀ p : ResourcePath, p.Proper → parse? p.render = some p) ∧
    ∀ p : ResourcePath, p.isCollection = true ↔ p.name? = none := by
  refine ⟨fun _ _ => parse?_eq_some_iff, fun _ => parse?_eq_none_iff, fun p hp => ?_, fun p => ?_⟩
  · exact parse?_eq_some_iff.mpr ⟨hp, hp.writtenIn_render⟩
  · rw [isCollection, Option.isNone_iff_eq_none]

/-- The finalizers of a namespace, on a path with spare slashes and a segment too many. -/
theorem resource_paths_are_read_as_written_namespace :
    let p : ResourcePath := ⟨⟨"", "v1", "namespaces"⟩, none, some "prod", some "finalize"⟩
    p.Proper ∧ parse? p.render = some p ∧
      parse? "//api/v1/namespaces//prod/finalize/more/" = some p := by
  intro p
  have hp : p.Proper := {
    named := fun _ => rfl
    inNamespace := nofun
    ofNamespace := fun _ _ sub hsub => Option.mem_some.mp hsub ▸ by decide
    group := Or.inl rfl
    version := by decide
    resource := by decide
    ns := nofun
    name := fun name hname => Option.mem_some.mp hname ▸ by decide
    subresource := fun sub hsub => Option.mem_some.mp hsub ▸ by decide }
  refine ⟨hp, resource_paths_are_read_as_written.2.2.1 p hp, ?_⟩
  refine (resource_paths_are_read_as_written.1 _ p).mpr ⟨hp, ["more"], nofun, ?_⟩
  exact spells_iff.mpr (by decide)

end FleetGate.ResourcePath
