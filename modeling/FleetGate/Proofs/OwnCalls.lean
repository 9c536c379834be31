import FleetGate.AccessReview
import FleetGate.Discovery
import FleetGate.Proofs.ResourcePaths
import FleetGate.SchemaCheck

/-!
# How the gate judges its own calls

To judge a request the gate may call a server, and it judges these calls in turn.

* The paths of discovery and of the definitions are no resource paths, so such a call passes
  before anyone is asked for a kind (`Discovery.IsCall.judge_eq`, `SchemaCheck.IsCall.judge_eq`).
* A review is a resource, so its kind is asked for.  But it is judged as if there were no
  validators (`AccessReview.IsCall.judge_eq`).

Whatever names of groups and versions a server comes up with, the path that is made of them does
not become a resource path, as long as no name has a slash.
-/

namespace FleetGate

namespace Uri

theorem pathAndQuery_eq_ok {cs : List Char} {path : String} {query? : Option String}
    (h : pathAndQuery cs = .ok (path, query?)) :
    path = String.ofList ((cs.takeWhile (· != '#')).takeWhile (· != '?')) := by
  unfold pathAndQuery at h
  dsimp only at h
  split at h
  · cases h
  · cases h
    rfl

/-- A target that begins with a slash is a path and perhaps a query. -/
theorem pathAndQuery_of_parse? {s : String} {c : Char} {cs : List Char} {u : Uri}
    (h : parse? s = some u) (hs : s.toList = '/' :: c :: cs) :
    ∃ query?, pathAndQuery ('/' :: c :: cs) = .ok (u.path, query?) := by
  unfold parse? parse at h
  rw [hs] at h
  split at h
  · cases h
  · split at h
    · next heq => cases heq
    · next heq => cases heq
    · next heq => cases heq
    · next heq => cases heq
    · next cs' _ heq =>
      cases heq
      cases hpath : pathAndQuery ('/' :: c :: cs) with
      | error flaw =>
        rw [hpath] at h
        cases h
      | ok found =>
        rw [hpath] at h
        cases h
        exact ⟨_, rfl⟩
    · next hother => exact absurd rfl (hother _)

/-- The path of a target is the front of its text.  What belongs to neither a query nor a fragment
stands in it. -/
theorem path_of_parse? {s : String} {u : Uri} (front rest : List Char)
    (h : parse? s = some u) (hs : s.toList = '/' :: (front ++ rest)) (hfront : front ≠ [])
    (hmarks : ∀ c ∈ front, c ≠ '#' ∧ c ≠ '?') :
    ∃ cut, cut <+: rest ∧ u.path.toList = '/' :: (front ++ cut) := by
  obtain ⟨c, front, rfl⟩ := List.exists_cons_of_ne_nil hfront
  rw [List.cons_append] at hs
  obtain ⟨query?, hquery⟩ := pathAndQuery_of_parse? h hs
  have hpath : u.path = String.ofList
      ((('/' :: c :: front ++ rest).takeWhile (· != '#')).takeWhile (· != '?')) :=
    pathAndQuery_eq_ok hquery
  have hkeep (mark : Char) (hmark : ∀ c' ∈ '/' :: c :: front, c' ≠ mark) (cs : List Char) :
      ('/' :: c :: front ++ cs).takeWhile (· != mark) =
        '/' :: c :: front ++ cs.takeWhile (· != mark) :=
    List.takeWhile_append_of_pos fun c' hc => by simpa using hmark c' hc
  rw [hkeep '#' (by simpa using fun c' hc => (hmarks c' hc).1),
    hkeep '?' (by simpa using fun c' hc => (hmarks c' hc).2)] at hpath
  refine ⟨(rest.takeWhile (· != '#')).takeWhile (· != '?'),
    (List.takeWhile_prefix _).trans (List.takeWhile_prefix _), ?_⟩
  rw [hpath, String.toList_ofList, List.cons_append]

end Uri

open ResourcePath (IsSegment)

/-! ## Paths that address no resource -/

namespace ResourcePath

theorem segmentChars_of_no_slash {s : List Char} (h : '/' ∉ s) :
    segmentChars s = [] ∨ segmentChars s = [s] := by
  by_cases hne : s = []
  · exact Or.inl (by rw [hne]; rfl)
  · exact Or.inr (segmentChars_of_plain hne h)

/-- No resource follows the version of the core group. -/
theorem parse?_core {path : String} {cut : List Char}
    (hpath : path.toList = '/' :: ("api/".toList ++ cut)) (hcut : '/' ∉ cut) :
    parse? path = none := by
  have happ : path.toList = '/' :: ("api".toList ++ '/' :: cut) := hpath
  rw [parse?, segments, happ, segmentChars_slash, segmentChars_append (by decide) (by decide)]
  rcases segmentChars_of_no_slash hcut with h | h
  · rw [h]
    decide
  · rw [h]
    rfl

/-- No resource follows a group and its version. -/
theorem parse?_grouped {path : String} {cut g v : List Char}
    (hpath : path.toList = '/' :: ("apis/".toList ++ cut)) (hcut : cut <+: g ++ '/' :: v)
    (hg : g ≠ []) (hg' : '/' ∉ g) (hv : '/' ∉ v) : parse? path = none := by
  have happ : path.toList = '/' :: ("apis".toList ++ '/' :: cut) := hpath
  rw [parse?, segments, happ, segmentChars_slash, segmentChars_append (by decide) (by decide)]
  obtain ⟨tail, htail⟩ := hcut
  -- the cut is in the group, or it is behind the slash
  rcases List.append_eq_append_iff.mp htail with ⟨more, rfl, -⟩ | ⟨more, rfl, hmore⟩
  · have hcut : '/' ∉ cut := fun h => hg' (List.mem_append_left _ h)
    rcases segmentChars_of_no_slash hcut with h | h
    · rw [h]
      rfl
    · rw [h]
      rfl
  · cases more with
    | nil =>
      rw [List.append_nil, segmentChars_of_plain hg hg']
      rfl
    | cons c more =>
      obtain ⟨rfl, rfl⟩ := List.cons.inj hmore
      have hmore : '/' ∉ more := fun h => hv (List.mem_append_left _ h)
      rw [segmentChars_append hg hg']
      rcases segmentChars_of_no_slash hmore with h | h
      · rw [h]
        rfl
      · rw [h]
        rfl

end ResourcePath

/-! ## Calls -/

/-- The paths of discovery. -/
inductive Discovery.Path : String → Prop where
  | groups : Path "/apis"
  | version {g v : String} : IsSegment g → IsSegment v → Path ("/apis/" ++ (g ++ "/" ++ v))
  | core : Path "/api"
  | coreVersion {v : String} : IsSegment v → Path ("/api/" ++ v)

/-- A call of discovery. -/
structure Discovery.IsCall (r : HttpRequest) : Prop where
  method_eq : r.method = .get
  target_eq : ∃ path, Discovery.Path path ∧ Uri.parse? path = some r.target

/-- A call for the definitions of a server. -/
structure SchemaCheck.IsCall (r : HttpRequest) : Prop where
  method_eq : r.method = .get
  target_eq : Uri.parse? SchemaCheck.path = some r.target

/-- A call for a review. -/
structure AccessReview.IsCall (r : HttpRequest) : Prop where
  method_eq : r.method = .post
  target_eq : Uri.parse? AccessReview.path = some r.target

theorem SchemaCheck.parse?_path :
    Uri.parse? SchemaCheck.path = some ⟨none, none, SchemaCheck.path, none⟩ := by decide +kernel

theorem AccessReview.parse?_path :
    Uri.parse? AccessReview.path = some ⟨none, none, AccessReview.path, none⟩ := by decide +kernel

/-- A path of discovery is no resource path. -/
theorem Discovery.IsCall.outside {r : HttpRequest} (h : Discovery.IsCall r) :
    ResourcePath.parse? r.target.path = none := by
  obtain ⟨path, hpath, htarget⟩ := h.target_eq
  cases hpath with
  | groups =>
    have hgroups : Uri.parse? "/apis" = some ⟨none, none, "/apis", none⟩ := by decide +kernel
    rw [← Option.some.inj (hgroups.symm.trans htarget)]
    decide +kernel
  | core =>
    have hcore : Uri.parse? "/api" = some ⟨none, none, "/api", none⟩ := by decide +kernel
    rw [← Option.some.inj (hcore.symm.trans htarget)]
    decide +kernel
  | @version g v hg hv =>
    obtain ⟨cut, hcut, hpath⟩ := Uri.path_of_parse? "apis/".toList (g.toList ++ '/' :: v.toList)
      htarget (by simp) (by decide) (by simp)
    have hne : g.toList ≠ [] := fun he => hg.1 (String.toList_inj.mp he)
    exact ResourcePath.parse?_grouped hpath hcut hne hg.2 hv.2
  | @coreVersion v hv =>
    obtain ⟨cut, hcut, hpath⟩ := Uri.path_of_parse? "api/".toList v.toList htarget (by simp)
      (by decide) (by simp)
    exact ResourcePath.parse?_core hpath fun h => hv.2 (hcut.subset h)

/-- The path of the definitions is no resource path. -/
theorem SchemaCheck.IsCall.outside {r : HttpRequest} (h : SchemaCheck.IsCall r) :
    ResourcePath.parse? r.target.path = none := by
  rw [← Option.some.inj (SchemaCheck.parse?_path.symm.trans h.target_eq)]
  decide +kernel

/-- A call for a review asks whether its own caller may do something. -/
theorem AccessReview.IsCall.exists_path {r : HttpRequest} (h : AccessReview.IsCall r) :
    ∃ path, ResourcePath.parse? r.target.path = some path ∧ path.isSelfReview r.method = true := by
  rw [← Option.some.inj (AccessReview.parse?_path.symm.trans h.target_eq), h.method_eq]
  refine ⟨⟨⟨"authorization.k8s.io", "v1", "selfsubjectaccessreviews"⟩, none, none, none⟩, ?_, ?_⟩
  · decide +kernel
  · decide +kernel

instance (r : HttpRequest) : Decidable (AccessReview.IsCall r) :=
  decidable_of_iff (r.method = .post ∧ Uri.parse? AccessReview.path = some r.target)
    ⟨fun h => ⟨h.1, h.2⟩, fun h => ⟨h.method_eq, h.target_eq⟩⟩

instance (r : HttpRequest) : Decidable (SchemaCheck.IsCall r) :=
  decidable_of_iff (r.method = .get ∧ Uri.parse? SchemaCheck.path = some r.target)
    ⟨fun h => ⟨h.1, h.2⟩, fun h => ⟨h.method_eq, h.target_eq⟩⟩

/-- A call for a review is none of the others. -/
theorem AccessReview.IsCall.not_get {r : HttpRequest} (h : AccessReview.IsCall r) :
    r.method ≠ .get := by
  rw [h.method_eq]
  exact nofun

theorem Discovery.Path.exists_front {path : String} (h : Discovery.Path path) :
    ∃ front rest, path.toList = '/' :: ('a' :: front ++ rest) ∧
      ∀ c ∈ 'a' :: front, c ≠ '#' ∧ c ≠ '?' := by
  cases h with
  | groups => exact ⟨"pis".toList, [], by decide, by simp⟩
  | @version g v => exact ⟨"pis/".toList, g.toList ++ '/' :: v.toList, by simp, by simp⟩
  | core => exact ⟨"pi".toList, [], by decide, by simp⟩
  | @coreVersion v => exact ⟨"pi/".toList, v.toList, by simp, by simp⟩

/-- A call of discovery does not ask for the definitions. -/
theorem Discovery.IsCall.not_definitions {r : HttpRequest} (h : Discovery.IsCall r) :
    ¬ SchemaCheck.IsCall r := by
  intro hschema
  have hpath : r.target.path = SchemaCheck.path := by
    rw [← Option.some.inj (SchemaCheck.parse?_path.symm.trans hschema.target_eq)]
  obtain ⟨path, hfound, htarget⟩ := h.target_eq
  obtain ⟨front, rest, happ, hmarks⟩ := hfound.exists_front
  obtain ⟨cut, -, hcut⟩ := Uri.path_of_parse? ('a' :: front) rest htarget happ
    (List.cons_ne_nil _ _) hmarks
  rw [hpath] at hcut
  exact absurd (congrArg (·[1]?) hcut) (by simp [SchemaCheck.path])

/-! ## What the gate decides on them -/

section Judged

variable {m : Type → Type} [Monad m] (p : Policy m) {r : HttpRequest}

/-- A request for no resource passes, and nobody is asked. -/
theorem Policy.judge_of_outside (h : ResourcePath.parse? r.target.path = none) :
    p.judge r = pure (.ok ()) := by
  rw [Policy.judge, h]

theorem Discovery.IsCall.judge_eq (h : Discovery.IsCall r) : p.judge r = pure (.ok ()) :=
  p.judge_of_outside h.outside

theorem SchemaCheck.IsCall.judge_eq (h : SchemaCheck.IsCall r) : p.judge r = pure (.ok ()) :=
  p.judge_of_outside h.outside

/-- A review is judged as if there were no validators. -/
theorem AccessReview.IsCall.judge_eq (h : AccessReview.IsCall r) :
    p.judge r = { p with validators := [] }.judge r := by
  obtain ⟨path, hpath, hself⟩ := h.exists_path
  have hexempt : p.isExempt path r = true := by simp [Policy.isExempt, hself]
  have hbare : { p with validators := [] }.isExempt path r = true := by simp [Policy.isExempt]
  rw [Policy.judge, Policy.judge, hpath]
  dsimp only [Policy.judgeResource]
  rw [hexempt, hbare]
  rfl

end Judged

end FleetGate
