import FleetGate.Kubeconfig.Reading
import Mathlib

/-!
# The files that are watched

A kubeconfig is read from a chain of files, and the files that make it up are to be watched.  The
two are found in different ways, and mostly agree.

* `Kubeconfig.chain` is what a kubeconfig is read from (`Kubeconfig.read_eq`).
* Of paths that are spelled differently but are the same, the first one is kept (`Firsts`,
  `firsts_distinct`).
* What is watched are the files of the chain that exist (`WatchesChain`), unless the list of the
  environment has entries and all of them are empty.  The reader then takes the usual file, and
  nothing is watched (`Unwatched`).
-/

namespace FleetGate

open KubeconfigFiles

namespace KubeconfigFiles

/-! ## Each path once -/

/-- A path comes before all other spellings of it. -/
def IsFirst (paths : List String) (p : String) : Prop :=
  p ∈ paths ∧ ∀ q ∈ paths, samePath q p = true → paths.idxOf p ≤ paths.idxOf q

/-- Of some paths, those that come first among all that are the same. -/
structure Firsts (paths firsts : List String) : Prop where
  mem_iff (p : String) : p ∈ firsts ↔ IsFirst paths p
  /-- They are in the order of the paths. -/
  ordered : firsts.Pairwise fun p q => paths.idxOf p < paths.idxOf q
  apart : firsts.Pairwise fun p q => samePath p q = false
  /-- Every path is among them, perhaps with another spelling. -/
  covers {p : String} : p ∈ paths → ∃ q ∈ firsts, samePath p q = true

/-- What is the same in all spellings of a path. -/
def meaning (p : String) : Bool × Bool × List String :=
  (Path.isAbsolute p, (Path.split p).head? == some ".", Path.components p)

variable {p q : String} {paths firsts : List String}

theorem samePath_iff : samePath p q = true ↔ meaning p = meaning q := by
  simp [samePath, meaning, and_assoc]

theorem samePath_eq_false_iff : samePath p q = false ↔ meaning p ≠ meaning q := by
  rw [← Bool.not_eq_true, samePath_iff]

theorem distinct_concat : distinct (paths ++ [p]) =
    if (distinct paths).any (samePath p) then distinct paths else distinct paths ++ [p] := by
  simp only [distinct, List.foldl_append, List.foldl_cons, List.foldl_nil, List.any_reverse]
  split <;> simp

/-- One more path comes first only if it is new, and leaves those that came first. -/
theorem isFirst_concat_iff : IsFirst (paths ++ [p]) q ↔
    IsFirst paths q ∨ q = p ∧ ∀ r ∈ paths, meaning r ≠ meaning p := by
  constructor
  · rintro ⟨hq, hleast⟩
    by_cases hmem : q ∈ paths
    · refine Or.inl ⟨hmem, fun r hr hrq => ?_⟩
      have hle := hleast r (List.mem_append_left _ hr) hrq
      rwa [List.idxOf_append_of_mem hmem, List.idxOf_append_of_mem hr] at hle
    · obtain rfl : q = p := by simpa [hmem] using hq
      refine Or.inr ⟨rfl, fun r hr hrq => ?_⟩
      have hle := hleast r (List.mem_append_left _ hr) (samePath_iff.mpr hrq)
      rw [List.idxOf_append_of_notMem hmem, List.idxOf_append_of_mem hr] at hle
      have hlt := List.idxOf_lt_length_of_mem hr
      omega
  · rintro (⟨hmem, hleast⟩ | ⟨rfl, hnew⟩)
    · refine ⟨List.mem_append_left _ hmem, fun r hr hrq => ?_⟩
      rw [List.idxOf_append_of_mem hmem]
      by_cases hin : r ∈ paths
      · rw [List.idxOf_append_of_mem hin]
        exact hleast r hin hrq
      · rw [List.idxOf_append_of_notMem hin]
        have hlt := List.idxOf_lt_length_of_mem hmem
        omega
    · refine ⟨by simp, fun r hr hrq => ?_⟩
      rcases List.mem_append.mp hr with hr | hr
      · exact absurd (samePath_iff.mp hrq) (hnew r hr)
      · obtain rfl := List.mem_singleton.mp hr
        exact Nat.le_refl _

namespace Firsts

theorem nil : Firsts [] [] where
  mem_iff p := by simp [IsFirst]
  ordered := .nil
  apart := .nil
  covers h := absurd h List.not_mem_nil

theorem mem (h : Firsts paths firsts) (hp : p ∈ firsts) : p ∈ paths := ((h.mem_iff p).mp hp).1

/-- One more path does not change where the others stand. -/
theorem ordered_concat (h : Firsts paths firsts) :
    firsts.Pairwise fun q r => (paths ++ [p]).idxOf q < (paths ++ [p]).idxOf r := by
  refine h.ordered.imp_of_mem fun {q r} hq hr hlt => ?_
  rwa [List.idxOf_append_of_mem (h.mem hq), List.idxOf_append_of_mem (h.mem hr)]

/-- A path that comes in another spelling is passed over. -/
theorem concat_same (h : Firsts paths firsts) (hp : ∃ q ∈ firsts, samePath p q = true) :
    Firsts (paths ++ [p]) firsts where
  mem_iff q := by
    obtain ⟨first, hfirst, hsame⟩ := hp
    rw [isFirst_concat_iff, h.mem_iff]
    refine ⟨Or.inl, fun hq => hq.resolve_right fun hnew => ?_⟩
    exact hnew.2 first (h.mem hfirst) (samePath_iff.mp hsame).symm
  ordered := h.ordered_concat
  apart := h.apart
  covers {q} hq := by
    rcases List.mem_append.mp hq with hq | hq
    · exact h.covers hq
    · rwa [List.mem_singleton.mp hq]

/-- A path that is new is put at the end. -/
theorem concat_new (h : Firsts paths firsts) (hp : ∀ q ∈ firsts, samePath p q = false) :
    Firsts (paths ++ [p]) (firsts ++ [p]) := by
  have hnew : ∀ q ∈ paths, meaning q ≠ meaning p := by
    intro q hq hsame
    obtain ⟨r, hr, hqr⟩ := h.covers hq
    exact samePath_eq_false_iff.mp (hp r hr) (hsame.symm.trans (samePath_iff.mp hqr))
  have hnot : p ∉ paths := fun hmem => hnew p hmem rfl
  refine ⟨fun q => ?_, ?_, ?_, fun {q} hq => ?_⟩
  · rw [isFirst_concat_iff, List.mem_append, List.mem_singleton, h.mem_iff]
    exact or_congr_right ⟨fun hq => ⟨hq, hnew⟩, And.left⟩
  · refine List.pairwise_append.mpr ⟨h.ordered_concat, List.pairwise_singleton _ _, ?_⟩
    intro q hq r hr
    rw [List.mem_singleton.mp hr, List.idxOf_append_of_mem (h.mem hq),
      List.idxOf_append_of_notMem hnot]
    have hlt := List.idxOf_lt_length_of_mem (h.mem hq)
    omega
  · refine List.pairwise_append.mpr ⟨h.apart, List.pairwise_singleton _ _, fun q hq r hr => ?_⟩
    rw [List.mem_singleton.mp hr]
    exact samePath_eq_false_iff.mpr (hnew q (h.mem hq))
  · rcases List.mem_append.mp hq with hq | hq
    · obtain ⟨r, hr, hqr⟩ := h.covers hq
      exact ⟨r, List.mem_append_left _ hr, hqr⟩
    · rw [List.mem_singleton.mp hq]
      exact ⟨p, by simp, samePath_iff.mpr rfl⟩

end Firsts

theorem firsts_distinct (paths : List String) : Firsts paths (distinct paths) := by
  induction paths using List.reverseRecOn with
  | nil => exact Firsts.nil
  | append_singleton paths p ih =>
    rw [distinct_concat]
    split
    · next hany => exact ih.concat_same (List.any_eq_true.mp hany)
    · next hany => exact ih.concat_new (by simpa using hany)

end KubeconfigFiles

/-! ## What a kubeconfig is read from -/

namespace Kubeconfig

/-- The files that a kubeconfig is read from, one after the other. -/
def chain (env : Environment) : Option String → List String
  | some path => [path]
  | none => match splitList (env.kubeconfigs.getD "") with
      | [] => env.home.toList.map homeFile
      | paths => paths

theorem merge_empty (k : Kubeconfig) : merge {} k = .ok k := by
  have hall : ∀ {α : Type} (entries : List (Named α)), addNew [] entries = entries :=
    fun entries => List.filter_eq_self.mpr fun _ _ => rfl
  simp [merge, differ, hall]

theorem readFiles_singleton (fs : Files) (path : String) :
    readFiles fs {} [path] = readFile fs path := by
  simp only [readFiles]
  cases readFile fs path with
  | error e => rfl
  | ok k => simp [bind, Except.bind, merge_empty]

/-- The files of the chain are read in order and merged. -/
theorem read_eq (env : Environment) (path? : Option String) : read env path? =
    match chain env path? with
    | [] => .error "failed to find the path of kubeconfig"
    | paths => readFiles env.files {} paths := by
  cases path? with
  | some path => exact (readFiles_singleton env.files path).symm
  | none =>
    simp only [read, readDefault, chain]
    cases splitList (env.kubeconfigs.getD "") with
    | cons path paths => rfl
    | nil =>
      cases env.home with
      | none => rfl
      | some home => exact (readFiles_singleton env.files (homeFile home)).symm

end Kubeconfig

/-! ## What is watched -/

namespace KubeconfigFiles

/-- The files of the chain that exist are watched, each once and in the order of the chain. -/
def WatchesChain (env : Environment) (path? : Option String) : Prop :=
  Firsts ((Kubeconfig.chain env path?).filter env.files.isFile)
    (watched env.files path? env.kubeconfigs env.home)

/-- The list of the environment has entries, but all of them are empty, and the usual file
exists. -/
structure Unwatched (env : Environment) (path? : Option String) : Prop where
  unnamed : path? = none
  blank : ∃ list, env.kubeconfigs = some list ∧ list ≠ "" ∧ ∀ entry ∈ list.splitOn ":", entry = ""
  usual : ∃ home, env.home = some home ∧ env.files.isFile (homeFile home) = true

variable {env : Environment} {path? : Option String} {list : String}

theorem splitList_eq_nil_iff : splitList list = [] ↔ ∀ entry ∈ list.splitOn ":", entry = "" := by
  simp [splitList]

theorem splitList_empty : splitList "" = [] := by
  have hsplit : "".splitOn ":" = [""] := by cbv
  simp [splitList, hsplit]

/-- What may be watched is the chain, unless the list has only empty entries. -/
theorem candidates_eq_chain (h : path? = none →
    ∀ list, env.kubeconfigs = some list → list ≠ "" → splitList list ≠ []) :
    candidates path? env.kubeconfigs env.home = Kubeconfig.chain env path? := by
  cases path? with
  | some path => rfl
  | none =>
    cases hlist : env.kubeconfigs with
    | none =>
      simp only [candidates, Kubeconfig.chain, hlist, Option.filter_none, Option.getD_none,
        splitList_empty]
      cases env.home <;> rfl
    | some list =>
      by_cases hempty : list = ""
      · subst hempty
        simp only [candidates, Kubeconfig.chain, hlist, Option.getD_some, splitList_empty]
        cases env.home <;> rfl
      · have hsome : (some list).filter (fun t => !t.isEmpty) = some list := by simp [hempty]
        simp only [candidates, Kubeconfig.chain, hlist, hsome, Option.getD_some]
        cases hsplit : splitList list with
        | nil => exact absurd hsplit (h rfl list hlist hempty)
        | cons path paths => rfl

namespace Unwatched

/-- The list of the environment does not name any file. -/
theorem splitList_getD (h : Unwatched env path?) : splitList (env.kubeconfigs.getD "") = [] := by
  obtain ⟨list, hlist, -, hentries⟩ := h.blank
  rw [hlist, Option.getD_some]
  exact splitList_eq_nil_iff.mpr hentries

theorem watched_eq (h : Unwatched env path?) :
    watched env.files path? env.kubeconfigs env.home = [] := by
  obtain ⟨list, hlist, hne, hentries⟩ := h.blank
  have hsome : (some list).filter (fun t => !t.isEmpty) = some list := by simp [hne]
  have hnone : candidates path? env.kubeconfigs env.home = [] := by
    simp only [candidates, h.unnamed, hlist, hsome]
    exact splitList_eq_nil_iff.mpr hentries
  simp [watched, hnone, distinct]

/-- The usual file is read. -/
theorem chain_eq (h : Unwatched env path?) : ∃ home, env.home = some home ∧
    env.files.isFile (homeFile home) = true ∧ Kubeconfig.chain env path? = [homeFile home] := by
  obtain ⟨home, hhome, hfile⟩ := h.usual
  refine ⟨home, hhome, hfile, ?_⟩
  simp [Kubeconfig.chain, h.unnamed, h.splitList_getD, hhome]

theorem not_watchesChain (h : Unwatched env path?) : ¬WatchesChain env path? := by
  obtain ⟨home, -, hfile, hchain⟩ := h.chain_eq
  intro hwatches
  rw [WatchesChain, h.watched_eq, hchain, List.filter_cons_of_pos hfile,
    List.filter_nil] at hwatches
  obtain ⟨p, hp, -⟩ := hwatches.covers (List.mem_singleton.mpr rfl)
  exact List.not_mem_nil hp

end Unwatched

/-- Whatever may be watched is in the chain, and if it is not all of the chain, then the usual
file is read without being watched, or is not there. -/
theorem watchesChain_of_not_unwatched (h : ¬Unwatched env path?) : WatchesChain env path? := by
  by_cases hchain : candidates path? env.kubeconfigs env.home = Kubeconfig.chain env path?
  · rw [WatchesChain, watched, hchain]
    exact firsts_distinct _
  · have hblank : path? = none ∧ ∃ list, env.kubeconfigs = some list ∧ list ≠ "" ∧
        splitList list = [] := by
      by_contra hnot
      refine hchain (candidates_eq_chain fun hnone list hlist hne hsplit => hnot ?_)
      exact ⟨hnone, list, hlist, hne, hsplit⟩
    obtain ⟨rfl, list, hlist, hne, hsplit⟩ := hblank
    have hsome : (some list).filter (fun t => !t.isEmpty) = some list := by simp [hne]
    have hnothing : (Kubeconfig.chain env none).filter env.files.isFile = [] := by
      simp only [Kubeconfig.chain, hlist, Option.getD_some, hsplit]
      refine List.filter_eq_nil_iff.mpr fun p hp hfile => h ⟨rfl, ?_, ?_⟩
      · exact ⟨list, hlist, hne, splitList_eq_nil_iff.mp hsplit⟩
      · obtain ⟨home, hhome, rfl⟩ := List.mem_map.mp hp
        exact ⟨home, by simpa using hhome, hfile⟩
    rw [WatchesChain, hnothing, watched, hlist]
    simp only [candidates, hsome, hsplit]
    exact Firsts.nil

/-- A kubeconfig is read from its chain.  The files of the chain that exist are watched, each
once and in order, in all cases but one: with a list that has only empty entries the usual file
is read, and nothing is watched. -/
theorem watched_files_are_those_read_iff (env : Environment) (path? : Option String) :
    (Kubeconfig.read env path? = match Kubeconfig.chain env path? with
      | [] => .error "failed to find the path of kubeconfig"
      | paths => Kubeconfig.readFiles env.files {} paths) ∧
    (WatchesChain env path? ↔ ¬Unwatched env path?) ∧
    (Unwatched env path? → watched env.files path? env.kubeconfigs env.home = []) :=
  ⟨Kubeconfig.read_eq env path?, ⟨fun hwatches h => h.not_watchesChain hwatches,
    watchesChain_of_not_unwatched⟩, fun h => h.watched_eq⟩

/-- A list of a single colon leaves the usual file unwatched. -/
theorem not_watchesChain_of_colon :
    ¬WatchesChain { files := ⟨"/", [(["h", ".kube", "config"], some "")]⟩
                    kubeconfigs := some ":"
                    home := some "h" } none := by
  have hsplit : ":".splitOn ":" = ["", ""] := by cbv
  have hfile : Files.isFile ⟨"/", [(["h", ".kube", "config"], some "")]⟩ (homeFile "h") = true := by
    decide +kernel
  exact Unwatched.not_watchesChain ⟨rfl, ⟨":", rfl, by decide, by simp [hsplit]⟩, ⟨"h", rfl, hfile⟩⟩

end KubeconfigFiles

end FleetGate
