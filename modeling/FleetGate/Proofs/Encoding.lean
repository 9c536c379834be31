import FleetGate.Proofs.Admission
import FleetGate.Proofs.Utf8
import FleetGate.Url.Percent

/-!
# Paths that are written in more than one way

The gate reads a path as it stands.  A server decodes it first, so that `/%61pi` is
`/api` to it, and `%2f` parts two segments.  What the server takes a path to address
(`ResourcePath.served?`) may thus be hidden from the gate.

* `DenyListHolds known path` says that no policy forwards a request to the path if the
  resource that the server sees has a denied kind.  The policies that count map only
  the resources in `known`, and all policies count if every resource is known.
* `denyListHolds_iff` says for which paths this is so: the gate must see a resource,
  and it must be the resource that the server sees, or one that no policy maps.

It is so for every path without a percent sign (`denyListHolds_of_plain`), but not for
every path (`not_denyListHolds_of_escaped_prefix`).
-/

namespace FleetGate

open Runs (run)
open Text

namespace ResourcePath

/-- A path as a server reads it. -/
def decodedPath (path : String) : String :=
  Utf8.decodeLossy (Url.percentDecode (Utf8.encode path))

/-- What a path addresses to a server. -/
def served? (path : String) : Option ResourcePath := parse? (decodedPath path)

end ResourcePath

/-! ## Paths without percent signs -/

theorem Url.percentDecode_of_not_mem {bs : List UInt8} (h : 0x25 ∉ bs) : percentDecode bs = bs := by
  induction bs with
  | nil => rw [percentDecode]
  | cons b bs ih =>
    have hne : (b == 0x25) = false := by
      simp only [beq_eq_false_iff_ne]
      exact fun he => h (he ▸ List.mem_cons_self)
    have hbs : percentDecode bs = bs := ih fun hm => h (List.mem_cons_of_mem b hm)
    unfold percentDecode
    rw [hne, hbs]
    rfl

theorem Text.Utf8.ofNat_ne_percent {n : Nat} (h : n < 0x100) (hn : n ≠ 0x25) :
    0x25 ≠ UInt8.ofNat n := by
  intro he
  have ht : (0x25 : UInt8).toNat = (UInt8.ofNat n).toNat := congrArg UInt8.toNat he
  rw [toNat_byte h] at ht
  exact hn ht.symm

/-- Only a percent sign has the byte of a percent sign. -/
theorem Text.Utf8.percent_not_mem_encodeChar {c : Char} (h : c ≠ '%') :
    0x25 ∉ String.utf8EncodeChar c := by
  have hv : c.val.toNat ≠ 0x25 := fun hc => h (Char.ext (UInt32.toNat_inj.mp hc))
  unfold String.utf8EncodeChar
  dsimp only
  split
  · simp only [List.mem_singleton]
    exact ofNat_ne_percent (by omega) hv
  split
  · simp only [List.mem_cons, List.not_mem_nil, or_false, not_or]
    exact ⟨ofNat_ne_percent (by omega) (by omega), ofNat_ne_percent (by omega) (by omega)⟩
  split
  · simp only [List.mem_cons, List.not_mem_nil, or_false, not_or]
    exact ⟨ofNat_ne_percent (by omega) (by omega), ofNat_ne_percent (by omega) (by omega),
      ofNat_ne_percent (by omega) (by omega)⟩
  · simp only [List.mem_cons, List.not_mem_nil, or_false, not_or]
    exact ⟨ofNat_ne_percent (by omega) (by omega), ofNat_ne_percent (by omega) (by omega),
      ofNat_ne_percent (by omega) (by omega), ofNat_ne_percent (by omega) (by omega)⟩

theorem Text.Utf8.percent_not_mem_encode {s : String} (h : '%' ∉ s.toList) : 0x25 ∉ encode s := by
  intro hm
  obtain ⟨c, hc, hb⟩ := List.mem_flatMap.mp hm
  exact percent_not_mem_encodeChar (fun he => h (he ▸ hc)) hb

/-- A path without percent signs is decoded to itself. -/
theorem ResourcePath.decodedPath_of_plain {path : String} (h : '%' ∉ path.toList) :
    decodedPath path = path := by
  rw [decodedPath, Url.percentDecode_of_not_mem (Utf8.percent_not_mem_encode h),
    Utf8.decodeLossy_encode]

/-! ## The deny list and the paths that a server decodes -/

/-- A policy that maps no resource but those in a set. -/
def Policy.KnowsOnly {m : Type → Type} [Monad m] {W : Type} [Runs m W] (p : Policy m)
    (known : Gvr → Prop) : Prop :=
  ∀ gvr, ¬ known gvr → ∀ w : W, ∃ e, (run (p.kindFor gvr) w).1 = .error e

/-- No policy forwards a request to a path under which the server sees a resource of a
denied kind. -/
def DenyListHolds (known : Gvr → Prop) (path : String) : Prop :=
  ∀ {m : Type → Type} [Monad m] {W : Type} [Runs m W] {α : Type} (p : Policy m)
    (service : Service m α) (r : HttpRequest) (w : W) (seen : ResourcePath) (gvk : Gvk),
    p.KnowsOnly known → r.target.path = path → ResourcePath.served? path = some seen →
    (run (p.kindFor seen.gvr) w).1 = .ok gvk → gvk.DeniedBy p.denied →
    (p.record service r w).2.1 = []

/-- The gate sees the resource that the server sees, or one that no policy maps. -/
def ResourcePath.Agrees (known : Gvr → Prop) (path : String) : Prop :=
  ∀ seen, served? path = some seen → known seen.gvr →
    ∃ read, parse? path = some read ∧ (read.gvr = seen.gvr ∨ ¬ known read.gvr)

/-- Where gate and server see one resource, what is denied does not pass. -/
theorem denyListHolds_of_agrees {known : Gvr → Prop} {path : String}
    (h : ResourcePath.Agrees known path) : DenyListHolds known path := by
  intro m _ W _ α p service r w seen gvk hknows hpath hseen hkind hdenied
  have hknown : known seen.gvr := by
    refine Classical.byContradiction fun hn => ?_
    obtain ⟨e, he⟩ := hknows seen.gvr hn w
    rw [hkind] at he
    cases he
  obtain ⟨read, hread, hgvr⟩ := h seen hseen hknown
  rw [← hpath] at hread
  rcases hgvr with hgvr | hgvr
  · rw [← hgvr] at hkind
    have hr : p.Refuses r w (.resourceDenied gvk) (run (p.kindFor read.gvr) w).2 :=
      .denied hread (Prod.ext hkind rfl) hdenied
    rw [Policy.record_of_refuses hr]
  · obtain ⟨e, he⟩ := hknows read.gvr hgvr w
    have hr : p.Refuses r w e (run (p.kindFor read.gvr) w).2 := .unmapped hread (Prod.ext he rfl)
    rw [Policy.record_of_refuses hr]

/-- A policy that denies the kind of one resource of those that it knows. -/
def Policy.against (known : Gvr → Prop) [DecidablePred known] (gvr : Gvr) : Policy Id where
  kindFor asked :=
    if asked = gvr then .ok ⟨"", "", "Denied"⟩
    else if known asked then .ok ⟨"", "", "Spared"⟩
    else .error (.resourceNotFound asked)
  denied := [⟨"", "", "Denied"⟩]
  validators := []
  validates := false

section Against

variable (known : Gvr → Prop) [DecidablePred known] (gvr : Gvr)

theorem Policy.against_knowsOnly (h : known gvr) : (against known gvr).KnowsOnly known := by
  intro asked hn w
  have hne : asked ≠ gvr := fun he => hn (he ▸ h)
  refine ⟨.resourceNotFound asked, ?_⟩
  show (if asked = gvr then _ else if known asked then _ else _) = _
  rw [if_neg hne, if_neg hn]

theorem Policy.against_denies (w : Unit) :
    ∃ gvk, (run ((against known gvr).kindFor gvr) w).1 = .ok gvk ∧
      gvk.DeniedBy (against known gvr).denied := by
  refine ⟨⟨"", "", "Denied"⟩, ?_, ⟨"", "", "Denied"⟩, List.mem_singleton.mpr rfl, rfl, rfl,
    Or.inr rfl⟩
  show (if gvr = gvr then _ else _) = _
  rw [if_pos rfl]

/-- Where the gate sees no resource, or another one that is known, the request passes. -/
theorem Policy.admits_against (r : HttpRequest) (w : Unit)
    (h : ∀ read, ResourcePath.parse? r.target.path = some read → read.gvr ≠ gvr ∧ known read.gvr) :
    ∃ w', (against known gvr).Admits r w w' := by
  cases hp : ResourcePath.parse? r.target.path with
  | none => exact ⟨w, .noResource hp⟩
  | some read =>
    obtain ⟨hne, hk⟩ := h read hp
    have hkind : run ((against known gvr).kindFor read.gvr) w = (.ok ⟨"", "", "Spared"⟩, w) := by
      show ((if read.gvr = gvr then _ else if known read.gvr then _ else _), ()) = _
      rw [if_neg hne, if_pos hk]
    have hspared : ¬ Gvk.DeniedBy (against known gvr).denied ⟨"", "", "Spared"⟩ := by
      rintro ⟨entry, he, -, -, hkind⟩
      rw [List.mem_singleton.mp he] at hkind
      revert hkind
      decide
    exact ⟨w, .spared ⟨hp, hkind, hspared⟩ (.off rfl)⟩

end Against

/-- And only there: a policy that denies just the resource that the server sees would let it pass.
-/
theorem agrees_of_denyListHolds {known : Gvr → Prop} {path : String}
    (h : DenyListHolds known path) : ResourcePath.Agrees known path := by
  classical
  intro seen hseen hknown
  refine Classical.byContradiction fun hn => ?_
  have hread : ∀ read, ResourcePath.parse? path = some read →
      read.gvr ≠ seen.gvr ∧ known read.gvr := by
    intro read hp
    refine ⟨fun he => hn ⟨read, hp, Or.inl he⟩, Classical.byContradiction fun hk => ?_⟩
    exact hn ⟨read, hp, Or.inr hk⟩
  let r : HttpRequest := ⟨.get, ⟨none, none, path, none⟩, [], .bytes []⟩
  let service : Service Id Unit := ⟨pure (.ok ()), fun _ => pure (.ok ())⟩
  obtain ⟨gvk, hkind, hdenied⟩ := Policy.against_denies known seen.gvr ()
  obtain ⟨w', hadmits⟩ := Policy.admits_against known seen.gvr r () hread
  have htaken : ((Policy.against known seen.gvr).record service r ()).2.1 = [r] := by
    rw [Policy.record_of_ready hadmits rfl]
  have hnone : ((Policy.against known seen.gvr).record service r ()).2.1 = [] :=
    h _ service r () seen gvk (Policy.against_knowsOnly known _ hknown) rfl hseen hkind hdenied
  rw [hnone] at htaken
  cases htaken

/-- The deny list holds for a path exactly when the gate sees the resource that the server
sees, or one that is mapped by no policy. -/
theorem denyListHolds_iff (known : Gvr → Prop) (path : String) :
    DenyListHolds known path ↔
      ∀ seen, ResourcePath.served? path = some seen → known seen.gvr →
        ∃ read, ResourcePath.parse? path = some read ∧
          (read.gvr = seen.gvr ∨ ¬ known read.gvr) :=
  ⟨agrees_of_denyListHolds, denyListHolds_of_agrees⟩

/-- The deny list holds for a path without percent signs. -/
theorem denyListHolds_of_plain {path : String} (known : Gvr → Prop) (h : '%' ∉ path.toList) :
    DenyListHolds known path := by
  refine denyListHolds_of_agrees fun seen hseen _ => ⟨seen, ?_, Or.inl rfl⟩
  rw [← hseen, ResourcePath.served?, ResourcePath.decodedPath_of_plain h]

/-- A path whose first segment is escaped is no resource path to the gate. -/
theorem not_denyListHolds_of_escaped_prefix :
    ¬ DenyListHolds (fun _ => True) "/%61pi/v1/namespaces/prod/secrets/db" := by
  intro h
  have hseen : ResourcePath.served? "/%61pi/v1/namespaces/prod/secrets/db" =
      some ⟨⟨"", "v1", "secrets"⟩, some "prod", some "db", none⟩ := by
    have hbytes : Url.percentDecode (Utf8.encode "/%61pi/v1/namespaces/prod/secrets/db") =
        Utf8.encode "/api/v1/namespaces/prod/secrets/db" := by decide +kernel
    rw [ResourcePath.served?, ResourcePath.decodedPath, hbytes, Utf8.decodeLossy_encode]
    decide
  have hread : ResourcePath.parse? "/%61pi/v1/namespaces/prod/secrets/db" = none := by decide
  obtain ⟨read, hsome, -⟩ := agrees_of_denyListHolds h _ hseen trivial
  rw [hread] at hsome
  cases hsome

end FleetGate
