import FleetGate.Proofs.Utf8
import Mathlib.Tactic.SplitIfs

/-!
# Texts in byte order

Wherever texts are sorted they are in byte order.  The order of texts is that of their code
points, and it is the order of their bytes as well (`encode_lt_encode_iff`).  Sorted texts do
not show in which order they came (`sort_eq_of_perm`).
-/

namespace FleetGate.Text

/-! ## Bytes -/

namespace Utf8

theorem cons_lt_cons {a b : Nat} (ha : a < 0x100) (hb : b < 0x100) {xs ys : List UInt8} :
    UInt8.ofNat a :: xs < UInt8.ofNat b :: ys ↔ a < b ∨ a = b ∧ xs < ys := by
  rw [List.cons_lt_cons_iff, UInt8.lt_iff_toNat_lt, ← UInt8.toNat_inj, toNat_byte ha, toNat_byte hb]

/-- The bytes of a lesser character come first, whatever follows. -/
theorem encodeChar_lt {c d : Char} (h : c < d) (xs ys : List UInt8) :
    String.utf8EncodeChar c ++ xs < String.utf8EncodeChar d ++ ys := by
  have hcd : c.val.toNat < d.val.toNat := h
  have hd : d.val.toNat < 0x110000 := by
    rcases d.valid with h | h <;> omega
  unfold String.utf8EncodeChar
  generalize c.val.toNat = v at hcd ⊢
  generalize d.val.toNat = w at hcd hd ⊢
  -- six bits at a time, the first difference decides
  have hbits : ∀ {p q : Nat}, p < q → p / 64 < q / 64 ∨ p / 64 = q / 64 ∧ p % 64 < q % 64 := by
    omega
  have hdiv : ∀ n : Nat, n / 64 / 64 = n / 4096 ∧ n / 4096 / 64 = n / 262144 := fun n =>
    ⟨Nat.div_div_eq_div_mul n 64 64, Nat.div_div_eq_div_mul n 4096 64⟩
  have hlast := hbits hcd
  have hthird := @hbits (v / 64) (w / 64)
  have hsecond := @hbits (v / 4096) (w / 4096)
  rw [(hdiv v).1, (hdiv w).1] at hthird
  rw [(hdiv v).2, (hdiv w).2] at hsecond
  have hfirst : v / 262144 % 8 = v / 262144 ∧ w / 262144 % 8 = w / 262144 := by omega
  dsimp only
  split_ifs <;>
    simp (disch := omega) only [List.cons_append, List.nil_append, cons_lt_cons] <;> omega

theorem flatMap_lt {cs ds : List Char} (h : cs < ds) :
    cs.flatMap String.utf8EncodeChar < ds.flatMap String.utf8EncodeChar := by
  induction cs generalizing ds with
  | nil =>
    cases ds with
    | nil => exact absurd h (List.lt_irrefl _)
    | cons d ds =>
      obtain ⟨b, rest, hb, -⟩ := next_encode d []
      rw [List.flatMap_nil, List.flatMap_cons, hb]
      exact List.nil_lt_cons _ _
  | cons c cs ih =>
    cases ds with
    | nil => exact absurd h (List.not_lt_nil _)
    | cons d ds =>
      rw [List.flatMap_cons, List.flatMap_cons]
      rcases List.cons_lt_cons_iff.mp h with hlt | ⟨rfl, hlt⟩
      · exact encodeChar_lt hlt _ _
      · exact List.append_left_lt (ih hlt)

/-- Texts are ordered as their bytes are. -/
theorem encode_lt_encode_iff {s t : String} : encode s < encode t ↔ s < t := by
  have hmono : ∀ {s t : String}, s < t → encode s < encode t := fun h =>
    flatMap_lt (String.lt_iff.mp h)
  refine ⟨fun h => ?_, hmono⟩
  by_cases hst : s < t
  · exact hst
  · by_cases hts : t < s
    · exact absurd (List.lt_trans h (hmono hts)) (List.lt_irrefl _)
    · rw [String.le_antisymm hts hst] at h
      exact absurd h (List.lt_irrefl _)

end Utf8

/-! ## Sorting -/

theorem byteOrder_trans (a b c : String) : (a < b || a == b) = true → (b < c || b == c) = true →
    (a < c || a == c) = true := by
  simp only [Bool.or_eq_true, decide_eq_true_eq, beq_iff_eq]
  rintro (hab | rfl) (hbc | rfl)
  · exact Or.inl (String.lt_trans hab hbc)
  · exact Or.inl hab
  · exact Or.inl hbc
  · exact Or.inr rfl

theorem byteOrder_total (a b : String) : ((a < b || a == b) || (b < a || b == a)) = true := by
  simp only [Bool.or_eq_true, decide_eq_true_eq, beq_iff_eq]
  by_cases hab : a < b
  · exact Or.inl (Or.inl hab)
  · by_cases hba : b < a
    · exact Or.inr (Or.inl hba)
    · exact Or.inl (Or.inr (String.le_antisymm hba hab))

theorem lt_of_byteOrder {a b : String} (h : (a < b || a == b) = true) (hne : a ≠ b) : a < b := by
  simpa [hne] using h

/-- What holds of any two texts of a list, one before the other, holds without copies too, and
then the two differ. -/
theorem pairwise_eraseDups {R : String → String → Prop} {xs : List String} (h : xs.Pairwise R) :
    xs.eraseDups.Pairwise fun a b => R a b ∧ a ≠ b := by
  -- on the length, as dropping the copies of the first text shortens the rest
  induction hn : xs.length using Nat.strongRecOn generalizing xs with
  | ind n ih =>
    cases xs with
    | nil => simp
    | cons first rest =>
      obtain ⟨hfirst, hrest⟩ := List.pairwise_cons.mp h
      rw [List.eraseDups_cons]
      refine List.pairwise_cons.mpr ⟨fun x hx => ?_, ?_⟩
      · obtain ⟨hmem, hne⟩ := List.mem_filter.mp (List.mem_eraseDups.mp hx)
        exact ⟨hfirst x hmem, fun he => by simp [he] at hne⟩
      · refine ih _ ?_ (hrest.sublist List.filter_sublist) rfl
        rw [← hn, List.length_cons]
        exact Nat.lt_succ_of_le (List.length_filter_le _ _)

theorem nodup_eraseDups (xs : List String) : xs.eraseDups.Nodup :=
  have hany : xs.Pairwise fun _ _ => True := List.pairwise_of_forall fun _ _ => trivial
  (pairwise_eraseDups hany).imp And.right

/-- Different texts that are sorted are in byte order. -/
theorem pairwise_sort {xs : List String} (h : xs.Nodup) :
    (xs.mergeSort fun a b => a < b || a == b).Pairwise (· < ·) := by
  have hnodup := (List.mergeSort_perm xs fun a b => a < b || a == b).nodup_iff.mpr h
  have hsorted := List.pairwise_mergeSort byteOrder_trans byteOrder_total xs
  exact (hsorted.and hnodup).imp fun ⟨hle, hne⟩ => lt_of_byteOrder hle hne

/-- Texts in any order are the same when they are sorted. -/
theorem sort_eq_of_perm {xs ys : List String} (h : xs.Perm ys) :
    xs.mergeSort (fun a b => a < b || a == b) = ys.mergeSort fun a b => a < b || a == b := by
  have hperm := (List.mergeSort_perm xs fun a b => a < b || a == b).trans
    (h.trans (List.mergeSort_perm ys fun a b => a < b || a == b).symm)
  have hsorted := List.pairwise_mergeSort byteOrder_trans byteOrder_total
  refine hperm.eq_of_pairwise (fun a b _ _ hab hba => ?_) (hsorted xs) (hsorted ys)
  simp only [Bool.or_eq_true, decide_eq_true_eq, beq_iff_eq] at hab hba
  rcases hab with hab | rfl
  · rcases hba with hba | rfl
    · exact absurd (String.lt_trans hab hba) (String.lt_irrefl a)
    · rfl
  · rfl

end FleetGate.Text
