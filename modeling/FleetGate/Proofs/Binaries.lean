import FleetGate.Numeric.Decimal
import Mathlib

/-!
# Rounded numbers

A number of a format stands for a rational.  What the operations on numbers compute is an exact
rational, rounded once.

* `nearestNat` rounds a rational to a natural, and `roundDiv` computes it.
* `Format.nearest` rounds a rational to a format.  It is monotone (`Format.nearest_mono`) and
  leaves alone what the format holds (`Format.nearest_of_held`).
* `Format.ofRatio` computes it, unless the format is exceeded (`Format.ofRatio_cases`).
* Two numbers of few digits that differ do so by a good part of the greater one (`le_of_gap`).
* `Binary.Denotes` says which rational a number stands for.  `ofNat` and `convert` keep it,
  and `div` rounds the quotient of two.
* `Binary.Fits` bounds the significands and exponents of a format, and whatever is read from a
  text keeps within.
-/

namespace FleetGate.Numeric

/-! ## The nearest natural -/

theorem roundDiv_scale (num den : ℕ) {k : ℕ} (hk : 0 < k) :
    roundDiv (num * k) (den * k) = roundDiv num den := by
  have htwice : 2 * (num % den * k) = 2 * (num % den) * k := (Nat.mul_assoc ..).symm
  have hlt : 2 * (num % den) * k < den * k ↔ 2 * (num % den) < den := Nat.mul_lt_mul_right hk
  have heq : 2 * (num % den) * k = den * k ↔ 2 * (num % den) = den := Nat.mul_left_inj hk.ne'
  unfold roundDiv
  simp only [Nat.mul_div_mul_right _ _ hk, Nat.mul_mod_mul_right, htwice, hlt,
    Bool.beq_eq_decide_eq, heq]

/-- The nearest natural depends on the quotient alone. -/
theorem roundDiv_congr {num den num' den' : ℕ} (hd : 0 < den) (hd' : 0 < den')
    (h : num * den' = num' * den) : roundDiv num den = roundDiv num' den' := by
  rw [← roundDiv_scale num den hd', ← roundDiv_scale num' den' hd, h, Nat.mul_comm den]

/-- A greater quotient has no lesser nearest natural. -/
theorem roundDiv_mono {num den num' den' : ℕ} (hd : 0 < den) (hd' : 0 < den')
    (h : num * den' ≤ num' * den) : roundDiv num den ≤ roundDiv num' den' := by
  by_contra! hlt
  have hup := @two_mul_roundDiv_le num den
  have hdown := @le_two_mul_roundDiv num' den' hd'
  -- otherwise both quotients lie half way between the two naturals, so they are equal
  have heq : num * den' = num' * den := by
    refine le_antisymm h ?_
    have hstep : (roundDiv num' den' + 1) * (den * den') ≤ roundDiv num den * (den * den') :=
      Nat.mul_le_mul_right _ hlt
    nlinarith [Nat.mul_le_mul_right den' hup, Nat.mul_le_mul_right den hdown]
  exact absurd (roundDiv_congr hd hd' heq) hlt.ne'

/-- The natural nearest to a rational that is not negative, the even one of two. -/
def nearestNat (x : ℚ) : ℕ := roundDiv x.num.natAbs x.den

theorem natAbs_num_div_den {x : ℚ} (hx : 0 ≤ x) : (x.num.natAbs / x.den : ℚ) = x := by
  rw [← Int.cast_natCast, Int.natAbs_of_nonneg (Rat.num_nonneg.mpr hx), Rat.num_div_den]

/-- The rounding of two naturals is that of their quotient. -/
theorem roundDiv_eq_nearestNat (num : ℕ) {den : ℕ} (hd : 0 < den) :
    roundDiv num den = nearestNat (num / den) := by
  have hreduced := natAbs_num_div_den (x := num / den) (by positivity)
  rw [div_eq_div_iff (Nat.cast_ne_zero.mpr (Rat.den_ne_zero _)) (Nat.cast_ne_zero.mpr hd.ne')]
    at hreduced
  exact roundDiv_congr hd (Rat.den_pos _) (by exact_mod_cast hreduced.symm)

theorem exists_eq_div {x : ℚ} (hx : 0 ≤ x) : ∃ num den : ℕ, 0 < den ∧ x = num / den :=
  ⟨x.num.natAbs, x.den, x.den_pos, (natAbs_num_div_den hx).symm⟩

/-- The nearest natural does not fall while the number grows. -/
theorem nearestNat_mono {x y : ℚ} (hx : 0 ≤ x) (h : x ≤ y) : nearestNat x ≤ nearestNat y := by
  obtain ⟨num, den, hd, rfl⟩ := exists_eq_div hx
  obtain ⟨num', den', hd', rfl⟩ := exists_eq_div (hx.trans h)
  rw [← roundDiv_eq_nearestNat num hd, ← roundDiv_eq_nearestNat num' hd']
  rw [div_le_div_iff₀ (by exact_mod_cast hd) (by exact_mod_cast hd')] at h
  exact roundDiv_mono hd hd' (by exact_mod_cast h)

@[simp] theorem nearestNat_natCast (n : ℕ) : nearestNat n = n := by
  have h := roundDiv_eq_nearestNat n Nat.one_pos
  rw [Nat.cast_one, div_one] at h
  rw [← h]
  simpa using roundDiv_mul_left n Nat.one_pos

/-! ## Powers of two -/

theorem two_zpow_pos (e : ℤ) : (0 : ℚ) < 2 ^ e := by positivity

theorem two_zpow_le {d e : ℤ} (h : d ≤ e) : (2 : ℚ) ^ d ≤ 2 ^ e :=
  zpow_le_zpow_right₀ one_le_two h

theorem two_zpow_mul (d e : ℤ) : (2 : ℚ) ^ d * 2 ^ e = 2 ^ (d + e) :=
  (zpow_add₀ two_ne_zero d e).symm

theorem cast_two_pow (n : ℕ) : ((2 ^ n : ℕ) : ℚ) = 2 ^ (n : ℤ) := by
  rw [Nat.cast_pow, Nat.cast_ofNat, zpow_natCast]

theorem cast_shiftLeft (n k : ℕ) : ((n <<< k : ℕ) : ℚ) = n * 2 ^ (k : ℤ) := by
  rw [Nat.shiftLeft_eq, Nat.cast_mul, cast_two_pow]

theorem mul_two_zpow_pos {m : ℕ} {e : ℤ} : (0 : ℚ) < m * 2 ^ e ↔ 0 < m := by
  rw [mul_pos_iff_of_pos_right (two_zpow_pos e), Nat.cast_pos]

/-- A number is a whole one in units of a lesser exponent. -/
theorem exists_mul_two_zpow (m : ℕ) {d e : ℤ} (h : d ≤ e) :
    ∃ k : ℕ, (m : ℚ) * 2 ^ e = (m * 2 ^ k : ℕ) * 2 ^ d := by
  obtain ⟨k, hk⟩ := Int.eq_ofNat_of_zero_le (sub_nonneg.mpr h)
  refine ⟨k, ?_⟩
  rw [Nat.cast_mul, cast_two_pow, mul_assoc, two_zpow_mul, ← hk, sub_add_cancel]

theorem le_log_iff {x : ℚ} (hx : 0 < x) (k : ℤ) : k ≤ Int.log 2 x ↔ (2 : ℚ) ^ k ≤ x := by
  have h := Int.zpow_le_iff_le_log Nat.one_lt_two (x := k) hx
  rw [Nat.cast_ofNat] at h
  exact h.symm

theorem log_lt_iff {x : ℚ} (hx : 0 < x) (k : ℤ) : Int.log 2 x < k ↔ x < (2 : ℚ) ^ k := by
  rw [← not_le, le_log_iff hx, not_le]

/-- A natural lies between two powers of two that follow each other. -/
theorem log2_bounds {n : ℕ} (hn : 0 < n) :
    (2 : ℚ) ^ (n.log2 : ℤ) ≤ n ∧ (n : ℚ) < 2 ^ ((n.log2 : ℤ) + 1) := by
  rw [← Nat.cast_succ, ← cast_two_pow, ← cast_two_pow]
  exact ⟨Nat.cast_le.mpr (Nat.log2_self_le hn.ne'), Nat.cast_lt.mpr Nat.lt_log2_self⟩

/-- The logarithm of a quotient is the difference of the logarithms or one less. -/
theorem log_div_bounds {num den : ℕ} (hn : 0 < num) (hd : 0 < den) :
    (num.log2 : ℤ) - den.log2 - 1 ≤ Int.log 2 (num / den : ℚ) ∧
      Int.log 2 (num / den : ℚ) < (num.log2 : ℤ) - den.log2 + 1 := by
  obtain ⟨hnlow, hnhigh⟩ := log2_bounds hn
  obtain ⟨hdlow, hdhigh⟩ := log2_bounds hd
  have hdpos : (0 : ℚ) < den := Nat.cast_pos.mpr hd
  have hx : (0 : ℚ) < num / den := div_pos (Nat.cast_pos.mpr hn) hdpos
  constructor
  · rw [le_log_iff hx, le_div_iff₀ hdpos]
    calc (2 : ℚ) ^ ((num.log2 : ℤ) - den.log2 - 1) * den
        ≤ 2 ^ ((num.log2 : ℤ) - den.log2 - 1) * 2 ^ ((den.log2 : ℤ) + 1) :=
          mul_le_mul_of_nonneg_left hdhigh.le (two_zpow_pos _).le
      _ = 2 ^ (num.log2 : ℤ) := by rw [two_zpow_mul]; congr 1; omega
      _ ≤ num := hnlow
  · rw [log_lt_iff hx, div_lt_iff₀ hdpos]
    calc (num : ℚ) < 2 ^ ((num.log2 : ℤ) + 1) := hnhigh
      _ = 2 ^ ((num.log2 : ℤ) - den.log2 + 1) * 2 ^ (den.log2 : ℤ) := by
          rw [two_zpow_mul]; congr 1; omega
      _ ≤ 2 ^ ((num.log2 : ℤ) - den.log2 + 1) * den :=
          mul_le_mul_of_nonneg_left hdlow (two_zpow_pos _).le

/-! ## The gap between numbers of few digits -/

/-- Naturals of few digits that differ do so by a good part of the greater one. -/
theorem le_of_gap_nat {a c n : ℕ} (ha : a + 1 ≤ 2 ^ n) (h : a < c) :
    (a : ℚ) ≤ c * (1 - 1 / 2 ^ n) := by
  have hpow : (0 : ℚ) < 2 ^ n := by positivity
  have ha' : (a : ℚ) + 1 ≤ 2 ^ n := by exact_mod_cast ha
  have hc : (a : ℚ) + 1 ≤ c := by exact_mod_cast h
  have hpart : ((a : ℚ) + 1) / 2 ^ n ≤ 1 := (div_le_one hpow).mpr ha'
  have hfactor : (0 : ℚ) ≤ 1 - 1 / 2 ^ n := by
    rw [sub_nonneg, div_le_one hpow]
    linarith
  calc (a : ℚ) ≤ (a + 1) * (1 - 1 / 2 ^ n) := by
        rw [mul_one_sub, mul_one_div]
        linarith
    _ ≤ c * (1 - 1 / 2 ^ n) := mul_le_mul_of_nonneg_right hc hfactor

/-- And so do numbers of few digits, whatever their exponents. -/
theorem le_of_gap {a c n : ℕ} {i j : ℤ} (ha : a + 1 ≤ 2 ^ n) (hc : c ≤ 2 ^ n)
    (h : (a : ℚ) * 2 ^ i < c * 2 ^ j) : (a : ℚ) * 2 ^ i ≤ c * 2 ^ j * (1 - 1 / 2 ^ n) := by
  rcases le_total i j with hij | hij
  · obtain ⟨k, hk⟩ := exists_mul_two_zpow c hij
    rw [hk, mul_lt_mul_iff_left₀ (two_zpow_pos i), Nat.cast_lt] at h
    rw [hk, mul_right_comm]
    exact mul_le_mul_of_nonneg_right (le_of_gap_nat ha h) (two_zpow_pos i).le
  · obtain ⟨k, hk⟩ := exists_mul_two_zpow a hij
    rw [hk, mul_lt_mul_iff_left₀ (two_zpow_pos j), Nat.cast_lt] at h
    rw [hk, mul_right_comm]
    exact mul_le_mul_of_nonneg_right (le_of_gap_nat (by omega) h) (two_zpow_pos j).le

/-! ## The nearest number of a format -/

namespace Format

variable {f : Format}

/-- A format has digits and exponents. -/
structure Proper (f : Format) : Prop where
  precision_pos : 0 < f.precision
  least_le : f.least ≤ f.greatest

theorem proper_binary32 : binary32.Proper := ⟨by decide, by decide⟩

theorem proper_binary64 : binary64.Proper := ⟨by decide, by decide⟩

/-- The exponent of the last digit that the format has of a rational. -/
def lastDigit (f : Format) (x : ℚ) : ℤ := max (Int.log 2 x + 1 - f.precision) f.least

/-- How many units of the last digit are nearest to a rational. -/
def units (f : Format) (x : ℚ) : ℕ := nearestNat (x / 2 ^ f.lastDigit x)

/-- The rational that a rational is rounded to, were there no greatest exponent. -/
def nearest (f : Format) (x : ℚ) : ℚ := f.units x * 2 ^ f.lastDigit x

theorem nearest_nonneg (f : Format) (x : ℚ) : 0 ≤ f.nearest x :=
  mul_nonneg (Nat.cast_nonneg _) (two_zpow_pos _).le

theorem lastDigit_mono {x y : ℚ} (hx : 0 < x) (h : x ≤ y) : f.lastDigit x ≤ f.lastDigit y := by
  have hlog := Int.log_mono_right (b := 2) hx h
  unfold lastDigit
  omega

/-- No number has more units of its last digit than the format has. -/
theorem units_le {x : ℚ} (hx : 0 < x) : f.units x ≤ 2 ^ f.precision := by
  have hlt : x < 2 ^ (f.precision + f.lastDigit x) := by
    rw [← log_lt_iff hx]
    unfold lastDigit
    omega
  have hle : x / 2 ^ f.lastDigit x ≤ ((2 ^ f.precision : ℕ) : ℚ) := by
    rw [div_le_iff₀ (two_zpow_pos _), cast_two_pow, two_zpow_mul]
    exact hlt.le
  exact (nearestNat_mono (div_nonneg hx.le (two_zpow_pos _).le) hle).trans
    (nearestNat_natCast _).le

/-- All digits are in use, save at the least exponent. -/
theorem le_units {x : ℚ} (hp : 0 < f.precision) (hx : 0 < x) (h : f.least < f.lastDigit x) :
    2 ^ (f.precision - 1) ≤ f.units x := by
  have hlow : (2 : ℚ) ^ ((f.precision : ℤ) - 1 + f.lastDigit x) ≤ x := by
    rw [← le_log_iff hx]
    unfold lastDigit at h ⊢
    omega
  have hle : ((2 ^ (f.precision - 1) : ℕ) : ℚ) ≤ x / 2 ^ f.lastDigit x := by
    rw [le_div_iff₀ (two_zpow_pos _), cast_two_pow, two_zpow_mul, Nat.cast_sub hp, Nat.cast_one]
    exact hlow
  exact (nearestNat_natCast _).ge.trans (nearestNat_mono (Nat.cast_nonneg _) hle)

/-- A number is not rounded beyond the next power of two. -/
theorem nearest_le {x : ℚ} (hx : 0 < x) : f.nearest x ≤ 2 ^ (f.precision + f.lastDigit x) := by
  rw [← two_zpow_mul, ← cast_two_pow]
  exact mul_le_mul_of_nonneg_right (Nat.cast_le.mpr (units_le hx)) (two_zpow_pos _).le

/-- Nor below the power of two that it has reached. -/
theorem le_nearest {x : ℚ} (hp : 0 < f.precision) (hx : 0 < x) (h : f.least < f.lastDigit x) :
    2 ^ (f.precision - 1 + f.lastDigit x) ≤ f.nearest x := by
  rw [← two_zpow_mul, ← Nat.cast_one, ← Nat.cast_sub hp, ← cast_two_pow]
  exact mul_le_mul_of_nonneg_right (Nat.cast_le.mpr (le_units hp hx h)) (two_zpow_pos _).le

/-- Rounding keeps the order. -/
theorem nearest_mono (hp : 0 < f.precision) {x y : ℚ} (hx : 0 < x) (h : x ≤ y) :
    f.nearest x ≤ f.nearest y := by
  rcases (lastDigit_mono (f := f) hx h).eq_or_lt with heq | hlt
  · have hunits : f.units x ≤ f.units y := by
      unfold units
      rw [heq]
      exact nearestNat_mono (div_nonneg hx.le (two_zpow_pos _).le)
        ((div_le_div_iff_of_pos_right (two_zpow_pos _)).mpr h)
    unfold nearest
    rw [heq]
    exact mul_le_mul_of_nonneg_right (by exact_mod_cast hunits) (two_zpow_pos _).le
  · -- a power of two lies between the two
    have hleast : f.least ≤ f.lastDigit x := le_max_right _ _
    calc f.nearest x ≤ 2 ^ (f.precision + f.lastDigit x) := nearest_le hx
      _ ≤ 2 ^ (f.precision - 1 + f.lastDigit y) := two_zpow_le (by omega)
      _ ≤ f.nearest y := le_nearest hp (hx.trans_le h) (by omega)

/-- What has no more digits than the format is not rounded. -/
theorem nearest_of_held {a : ℕ} {i : ℤ} (ha : 0 < a) (hlt : a < 2 ^ f.precision)
    (hi : f.least ≤ i) : f.nearest (a * 2 ^ i) = a * 2 ^ i := by
  have hx : (0 : ℚ) < a * 2 ^ i := mul_two_zpow_pos.mpr ha
  have hlog : Int.log 2 ((a : ℚ) * 2 ^ i) < f.precision + i := by
    rw [log_lt_iff hx, ← two_zpow_mul, ← cast_two_pow]
    exact mul_lt_mul_of_pos_right (Nat.cast_lt.mpr hlt) (two_zpow_pos i)
  have hle : f.lastDigit (a * 2 ^ i) ≤ i := by
    unfold lastDigit
    omega
  obtain ⟨k, hk⟩ := exists_mul_two_zpow a hle
  have hunits : f.units (a * 2 ^ i) = a * 2 ^ k := by
    rw [units, (div_eq_iff (two_zpow_pos _).ne').mpr hk, nearestNat_natCast]
  rw [nearest, hunits, ← hk]

/-! ## What the rounding computes -/

theorem scale_spec (num : ℕ) {den : ℕ} (hd : 0 < den) (e : ℤ) :
    0 < (scale num den e).2 ∧
      ((scale num den e).1 / (scale num den e).2 : ℚ) = num / den / 2 ^ e := by
  unfold scale
  split
  · next he =>
    refine ⟨hd, ?_⟩
    rw [cast_shiftLeft, Int.toNat_of_nonneg (by omega), zpow_neg]
    ring
  · next he =>
    refine ⟨Nat.shiftLeft_pos_iff.mpr hd, ?_⟩
    rw [cast_shiftLeft, Int.toNat_of_nonneg (by omega), div_mul_eq_div_div]

/-- The exponent that is computed of a quotient is that of its last digit. -/
theorem exponentOf_eq (hp : 0 < f.precision) {num den : ℕ} (hn : 0 < num) (hd : 0 < den) :
    f.exponentOf num den = f.lastDigit (num / den) := by
  have hx : (0 : ℚ) < num / den := div_pos (Nat.cast_pos.mpr hn) (Nat.cast_pos.mpr hd)
  obtain ⟨hlow, hhigh⟩ := log_div_bounds hn hd
  obtain ⟨hspos, hscale⟩ :=
    scale_spec num hd ((num.log2 : ℤ) - den.log2 - f.precision + 1)
  have hiff : (scale num den ((num.log2 : ℤ) - den.log2 - f.precision + 1)).1 /
        (scale num den ((num.log2 : ℤ) - den.log2 - f.precision + 1)).2 <
          1 <<< (f.precision - 1) ↔
      Int.log 2 (num / den : ℚ) < (num.log2 : ℤ) - den.log2 := by
    rw [Nat.div_lt_iff_lt_mul hspos, log_lt_iff hx, ← @Nat.cast_lt ℚ, Nat.cast_mul,
      cast_shiftLeft, Nat.cast_one, one_mul, ← div_lt_iff₀ (by exact_mod_cast hspos), hscale,
      div_lt_iff₀ (two_zpow_pos _), two_zpow_mul, Nat.cast_sub hp]
    congr! 2
    omega
  unfold exponentOf lastDigit
  simp only [hiff]
  split <;> omega

/-- The number computed of a quotient, in units of the last digit.  A unit too many goes to the
next exponent. -/
theorem ofRatio_eq (hp : 0 < f.precision) (negative : Bool) {num den : ℕ} (hn : 0 < num)
    (hd : 0 < den) :
    f.ofRatio negative num den =
      let x : ℚ := num / den
      if f.units x = 2 ^ f.precision then
        if f.greatest < f.lastDigit x + 1 then .infinite negative
        else .finite negative (2 ^ (f.precision - 1)) (f.lastDigit x + 1)
      else if f.greatest < f.lastDigit x then .infinite negative
      else .finite negative (f.units x) (f.lastDigit x) := by
  have hunits : roundDiv (scale num den (f.lastDigit (num / den))).1
      (scale num den (f.lastDigit (num / den))).2 = f.units (num / den) := by
    obtain ⟨hspos, hscale⟩ := scale_spec num hd (f.lastDigit (num / den))
    rw [roundDiv_eq_nearestNat _ hspos, hscale]
    rfl
  unfold ofRatio
  rw [if_neg (by simp [hn.ne', hd.ne'])]
  simp only [exponentOf_eq hp hn hd, hunits, beq_iff_eq, Nat.one_shiftLeft]
  split <;> rfl

/-- A positive quotient becomes the nearest number of the format, or an infinity where this is
beyond the format. -/
theorem ofRatio_cases (hf : f.Proper) (negative : Bool) {num den : ℕ} (hn : 0 < num)
    (hd : 0 < den) :
    (∃ m e, f.ofRatio negative num den = .finite negative m e ∧
      m < 2 ^ f.precision ∧ f.least ≤ e ∧ e ≤ f.greatest ∧
      (m : ℚ) * 2 ^ e = f.nearest (num / den)) ∨
    (f.ofRatio negative num den = .infinite negative ∧
      (2 : ℚ) ^ (f.precision + f.greatest) ≤ f.nearest (num / den)) := by
  have hp := hf.precision_pos
  have hx : (0 : ℚ) < num / den :=
    div_pos (by exact_mod_cast hn) (by exact_mod_cast hd)
  have hleast : f.least ≤ f.lastDigit (num / den) := le_max_right _ _
  have hgreatest := hf.least_le
  rw [ofRatio_eq hp negative hn hd]
  dsimp only
  split
  · next hfull =>
    have hnearest : f.nearest (num / den) = 2 ^ (f.precision + f.lastDigit (num / den)) := by
      rw [nearest, hfull, cast_two_pow, two_zpow_mul]
    split
    · next hbeyond =>
      refine Or.inr ⟨rfl, ?_⟩
      rw [hnearest]
      exact two_zpow_le (by omega)
    · next hwithin =>
      refine Or.inl ⟨_, _, rfl, Nat.pow_lt_pow_right Nat.one_lt_two (by omega), by omega,
        by omega, ?_⟩
      rw [hnearest, cast_two_pow, two_zpow_mul, Nat.cast_sub hp]
      congr 1
      push_cast
      omega
  · next hfull =>
    split
    · next hbeyond =>
      refine Or.inr ⟨rfl, ?_⟩
      calc (2 : ℚ) ^ (f.precision + f.greatest)
          ≤ 2 ^ (f.precision - 1 + f.lastDigit (num / den)) := two_zpow_le (by omega)
        _ ≤ f.nearest (num / den) := le_nearest hp hx (by omega)
    · next hwithin =>
      exact Or.inl ⟨_, _, rfl, lt_of_le_of_ne (units_le hx) hfull, hleast, by omega, rfl⟩

end Format

/-! ## What numbers stand for -/

namespace Binary

variable {f g : Format} {x y : Binary} {q r : ℚ}

/-- The number is finite, has no sign and stands for this rational. -/
def Denotes (x : Binary) (q : ℚ) : Prop := ∃ m e, x = .finite false m e ∧ (m : ℚ) * 2 ^ e = q

/-- The significand and the exponent of a number, if it has them, are those of a format. -/
def Fits (f : Format) : Binary → Prop
  | .finite _ m e => m < 2 ^ f.precision ∧ f.least ≤ e ∧ e ≤ f.greatest
  | _ => True

theorem ratio_eq_scale (m : ℕ) (e : ℤ) : ratio m e = Format.scale m 1 (-e) := by
  rcases lt_trichotomy e 0 with he | rfl | he
  · rw [ratio, if_pos he, Format.scale, if_neg (by omega)]
  · rfl
  · rw [ratio, if_neg (by omega), Format.scale, if_pos (by omega), neg_neg]

theorem ratio_spec (m : ℕ) (e : ℤ) :
    0 < (ratio m e).2 ∧ ((ratio m e).1 / (ratio m e).2 : ℚ) = m * 2 ^ e := by
  rw [ratio_eq_scale]
  obtain ⟨hpos, hscale⟩ := Format.scale_spec m Nat.one_pos (-e)
  refine ⟨hpos, ?_⟩
  rw [hscale, Nat.cast_one, div_one, zpow_neg, div_inv_eq_mul]

theorem ratio_pos {m : ℕ} (hm : 0 < m) (e : ℤ) : 0 < (ratio m e).1 := by
  obtain ⟨hpos, hratio⟩ := ratio_spec m e
  have hsize : (0 : ℚ) < (ratio m e).1 / (ratio m e).2 := by
    rw [hratio]
    exact mul_two_zpow_pos.mpr hm
  exact Nat.pos_of_ne_zero fun h => by simp [h] at hsize

/-- What the format holds is computed without rounding. -/
theorem denotes_ofRatio (hf : f.Proper) {num den : ℕ} (hn : 0 < num) (hd : 0 < den) {a : ℕ}
    {i : ℤ} (hq : (num / den : ℚ) = a * 2 ^ i) (ha : a < 2 ^ f.precision) (hi : f.least ≤ i)
    (hgreatest : i ≤ f.greatest) : (f.ofRatio false num den).Denotes (num / den) := by
  have hpos : (0 : ℚ) < a * 2 ^ i := by
    rw [← hq]
    exact div_pos (by exact_mod_cast hn) (by exact_mod_cast hd)
  have hnearest : f.nearest (num / den) = num / den := by
    rw [hq]
    exact Format.nearest_of_held (mul_two_zpow_pos.mp hpos) ha hi
  rcases Format.ofRatio_cases hf false hn hd with ⟨m, e, h, -, -, -, hm⟩ | ⟨-, hbeyond⟩
  · exact ⟨m, e, h, hm.trans hnearest⟩
  · have hlt : (a : ℚ) * 2 ^ i < 2 ^ (f.precision + f.greatest) := by
      calc (a : ℚ) * 2 ^ i < 2 ^ (f.precision : ℤ) * 2 ^ i := by
            rw [← cast_two_pow]
            exact mul_lt_mul_of_pos_right (Nat.cast_lt.mpr ha) (two_zpow_pos i)
        _ ≤ 2 ^ (f.precision + f.greatest) := by
            rw [two_zpow_mul]
            exact two_zpow_le (by omega)
    rw [hnearest, hq] at hbeyond
    exact absurd hlt hbeyond.not_gt

/-- A natural that the format holds stands for itself. -/
theorem denotes_ofNat {n : ℕ} (hf : f.Proper) (hn : 0 < n) (hlt : n < 2 ^ f.precision)
    (hleast : f.least ≤ 0) (hgreatest : 0 ≤ f.greatest) : (f.ofNat n).Denotes n := by
  have h := denotes_ofRatio hf hn Nat.one_pos (a := n) (i := 0) (by simp) hlt hleast hgreatest
  rwa [Nat.cast_one, div_one] at h

/-- A number of a narrower format stands for the same in a wider one. -/
theorem Denotes.convert (hf : f.Proper) (hx : x.Denotes q) (hq : 0 < q) (hfits : x.Fits g)
    (hprecision : g.precision ≤ f.precision) (hleast : f.least ≤ g.least)
    (hgreatest : g.greatest ≤ f.greatest) : (x.convert f).Denotes q := by
  obtain ⟨m, e, rfl, rfl⟩ := hx
  obtain ⟨hm, hlow, hhigh⟩ := hfits
  obtain ⟨hpos, hratio⟩ := ratio_spec m e
  have h := denotes_ofRatio hf (ratio_pos (mul_two_zpow_pos.mp hq) e) hpos hratio
    (hm.trans_le (Nat.pow_le_pow_right Nat.two_pos hprecision)) (hleast.trans hlow)
    (hhigh.trans hgreatest)
  rw [hratio] at h
  exact h

/-- The quotient of two numbers is the exact one, rounded once. -/
theorem Denotes.div (hx : x.Denotes q) (hy : y.Denotes r) (hq : 0 < q) (hr : 0 < r) :
    ∃ num den : ℕ, 0 < num ∧ 0 < den ∧ (num / den : ℚ) = q / r ∧
      x.div f y = f.ofRatio false num den := by
  obtain ⟨m, e, rfl, rfl⟩ := hx
  obtain ⟨n, d, rfl, rfl⟩ := hy
  have hm : 0 < m := mul_two_zpow_pos.mp hq
  have hn : 0 < n := mul_two_zpow_pos.mp hr
  obtain ⟨hpos, hratio⟩ := ratio_spec m (e - d)
  refine ⟨(ratio m (e - d)).1, (ratio m (e - d)).2 * n, ratio_pos hm _, Nat.mul_pos hpos hn,
    ?_, ?_⟩
  · rw [Nat.cast_mul, ← div_div, hratio, zpow_sub₀ two_ne_zero]
    field_simp
  · rw [Binary.div, if_neg (by simp [hn.ne'])]
    rfl

theorem ratio_zero (e : ℤ) : (ratio 0 e).1 = 0 := by
  unfold ratio
  split <;> simp

/-- A finite number is above zero if and only if it stands for a positive rational. -/
theorem zero_lt_iff {e : ℤ} (hx : x.isFinite = true) :
    (Binary.finite false 0 e).lt x = true ↔ ∃ q, x.Denotes q ∧ 0 < q := by
  obtain ⟨hpos, -⟩ := ratio_spec 0 e
  match x, hx with
  | .finite true m d, _ =>
    refine iff_of_false Bool.noConfusion ?_
    rintro ⟨q, ⟨_, _, h, -⟩, -⟩
    cases h
  | .finite false m d, _ =>
    have hlt : (Binary.finite false 0 e).lt (.finite false m d) = true ↔ 0 < m := by
      have h := ratio_zero e
      simp only [lt, h, Nat.zero_mul, decide_eq_true_eq]
      constructor
      · rintro h
        refine Nat.pos_of_ne_zero ?_
        rintro rfl
        simp [ratio_zero] at h
      · intro hm
        exact Nat.mul_pos (ratio_pos hm d) hpos
    rw [hlt]
    constructor
    · intro hm
      exact ⟨m * 2 ^ d, ⟨m, d, rfl, rfl⟩, mul_two_zpow_pos.mpr hm⟩
    · rintro ⟨q, ⟨_, _, h, rfl⟩, hq⟩
      cases h
      exact mul_two_zpow_pos.mp hq

end Binary

/-! ## What texts are read as -/

/-- What a quotient becomes is a number of the format, or an infinity. -/
theorem Format.fits_ofRatio {f : Format} (hf : f.Proper) (negative : Bool) (num : ℕ) {den : ℕ}
    (hd : 0 < den) : (f.ofRatio negative num den).Fits f := by
  rcases Nat.eq_zero_or_pos num with rfl | hn
  · exact ⟨Nat.two_pow_pos _, le_rfl, hf.least_le⟩
  · rcases ofRatio_cases hf negative hn hd with ⟨m, e, h, hm, hlow, hhigh, -⟩ | ⟨h, -⟩
    · rw [h]
      exact ⟨hm, hlow, hhigh⟩
    · rw [h]
      trivial

theorem Decimal.fits_toBinary {f : Format} (hf : f.Proper) (d : Decimal) :
    (d.toBinary f).Fits f := by
  unfold toBinary
  dsimp only
  split
  · exact ⟨Nat.two_pow_pos _, le_rfl, hf.least_le⟩
  · split
    · trivial
    · split
      · exact Format.fits_ofRatio hf _ _ (Nat.pow_pos (by decide))
      · exact Format.fits_ofRatio hf _ _ Nat.one_pos

/-- A number that is read from a text is one of the format. -/
theorem fits_of_readBinary {f : Format} (hf : f.Proper) {s : String} {x : Binary}
    (h : readBinary? f s = some x) : x.Fits f := by
  unfold readBinary? at h
  dsimp only at h
  split at h
  · cases h
    trivial
  split at h
  · cases h
    trivial
  split at h
  · cases h
  · split at h
    · cases h
    split at h
    · cases h
    cases h
    exact Decimal.fits_toBinary hf _

end FleetGate.Numeric
