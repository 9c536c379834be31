import FleetGate.Client
import FleetGate.Proofs.Binaries
import Mathlib

/-!
# Rates and their limits

A client may start so many calls in the period that its rate allows them.  The period is a
quotient in floating point, rounded to nanoseconds.

* `Nanos.ofRational` is what a number of seconds comes to.  It is monotone
  (`Nanos.ofRational_mono`), so the lengths of a few numbers bound those of all.
* A rounded quotient may reach a bound that the exact one does not.  Numbers of few digits differ
  by too much for that (`Tuned.le_of_short`, `Tuned.le_of_fits`), so the exact quotient decides
  whether a period is too short or too long (`Tuned.period_pos_iff`, `Tuned.period_lt_iff`).
* Texts make a positive rate and a positive count (`Tuned.withTexts`).  They make a limit if and
  only if the period can be counted (`Tuned.makesClients_iff`).
-/

namespace FleetGate

open Numeric

/-! ## Seconds as nanoseconds -/

namespace Nanos

/-- The nanoseconds of a positive number of seconds, first rounded to a number of 64 bits. -/
def ofRational (x : ℚ) : ℕ := nearestNat (binary64.nearest x * perSecond)

theorem ofRational_mono {x y : ℚ} (hx : 0 < x) (h : x ≤ y) : ofRational x ≤ ofRational y := by
  refine nearestNat_mono (mul_nonneg (Format.nearest_nonneg _ _) (Nat.cast_nonneg _)) ?_
  exact mul_le_mul_of_nonneg_right
    (Format.nearest_mono Format.proper_binary64.precision_pos hx h) (Nat.cast_nonneg _)

/-- The length of a quotient of seconds, unless it is too long. -/
theorem ofSeconds?_ofRatio {num den : ℕ} (hn : 0 < num) (hd : 0 < den) :
    ofSeconds? (binary64.ofRatio false num den) =
      if ofRational (num / den) < perSecond <<< 64 then some (ofRational (num / den))
      else none := by
  rcases Format.ofRatio_cases Format.proper_binary64 false hn hd with
    ⟨m, e, h, -, -, -, hm⟩ | ⟨h, hbeyond⟩
  · obtain ⟨hpos, hratio⟩ := Binary.ratio_spec m e
    have hround : roundDiv ((Binary.ratio m e).1 * perSecond) (Binary.ratio m e).2 =
        ofRational (num / den) := by
      rw [roundDiv_eq_nearestNat _ hpos, Nat.cast_mul, mul_div_right_comm, hratio, hm]
      rfl
    rw [h]
    simp only [ofSeconds?, Bool.false_and, Bool.false_eq_true, if_false, hround]
  · have hlong : perSecond <<< 64 ≤ ofRational (num / den) := by
      refine (nearestNat_natCast _).ge.trans (nearestNat_mono (Nat.cast_nonneg _) ?_)
      rw [Nat.shiftLeft_eq, Nat.mul_comm, Nat.cast_mul]
      refine mul_le_mul_of_nonneg_right (le_trans ?_ hbeyond) (Nat.cast_nonneg _)
      rw [cast_two_pow]
      exact two_zpow_le (by decide)
    rw [h, if_neg (by omega)]
    rfl

theorem ofRational_of_some {num den n : ℕ} (hn : 0 < num) (hd : 0 < den)
    (h : ofSeconds? (binary64.ofRatio false num den) = some n) :
    ofRational (num / den) = n ∧ n < perSecond <<< 64 := by
  rw [ofSeconds?_ofRatio hn hd] at h
  split at h
  · next hlt =>
    cases h
    exact ⟨rfl, hlt⟩
  · cases h

theorem le_ofRational_of_none {num den : ℕ} (hn : 0 < num) (hd : 0 < den)
    (h : ofSeconds? (binary64.ofRatio false num den) = none) :
    perSecond <<< 64 ≤ ofRational (num / den) := by
  rw [ofSeconds?_ofRatio hn hd] at h
  split at h
  · cases h
  · next hle => exact Nat.le_of_not_lt hle

/-! ## The lengths at the bounds -/

theorem ofRational_half_nano : ofRational (1 / 2000000000) = 1 := by
  have hquotient : (1 / 2000000000 : ℚ) = (1 : ℕ) / (2000000000 : ℕ) := by norm_num
  rw [hquotient]
  exact (ofRational_of_some (by decide) (by decide) (by decide +kernel)).1

theorem ofRational_below_half_nano : ofRational ((1 - 1 / 2 ^ 53) / 2000000000) = 0 := by
  have hquotient : ((1 - 1 / 2 ^ 53) / 2000000000 : ℚ) =
      (9007199254740991 : ℕ) / (18014398509481984000000000 : ℕ) := by norm_num
  rw [hquotient]
  exact (ofRational_of_some (by decide) (by decide) (by decide +kernel)).1

theorem le_ofRational_longest : perSecond <<< 64 ≤ ofRational (2 ^ 64) := by
  have hquotient : (2 ^ 64 : ℚ) = (18446744073709551616 : ℕ) / (1 : ℕ) := by norm_num
  rw [hquotient]
  exact le_ofRational_of_none (by decide) (by decide) (by decide +kernel)

theorem ofRational_below_longest : ofRational (2 ^ 64 * (1 - 1 / 2 ^ 32)) < perSecond <<< 64 := by
  have hquotient : (2 ^ 64 * (1 - 1 / 2 ^ 32) : ℚ) = (18446744069414584320 : ℕ) / (1 : ℕ) := by
    norm_num
  obtain ⟨hlength, hlt⟩ : ofRational ((18446744069414584320 : ℕ) / (1 : ℕ)) =
      18446744069414584320000000000 ∧ _ :=
    ofRational_of_some (by decide) (by decide) (by decide +kernel)
  rw [hquotient, hlength]
  exact hlt

end Nanos

namespace ClientConfig

/-! ## Rates from texts -/

/-- A rate above zero and a count above zero, each of 32 bits. -/
structure Tuned (c : ClientConfig) (rate : ℚ) : Prop where
  denotes : c.qps.Denotes rate
  rate_pos : 0 < rate
  fits : c.qps.Fits binary32
  burst_pos : 0 < c.burst
  burst_lt : c.burst < 2 ^ 32

variable {c d : ClientConfig} {rate : ℚ}

/-- A rate that a text makes is above zero and of 32 bits. -/
theorem positive_of_rate {text : String} {x : Binary} (h : rate? text = some x) :
    (∃ q, x.Denotes q ∧ 0 < q) ∧ x.Fits binary32 := by
  obtain ⟨hread, hpos⟩ := Option.filter_eq_some_iff.mp h
  rw [Bool.and_eq_true] at hpos
  exact ⟨(Binary.zero_lt_iff hpos.1).mp hpos.2, fits_of_readBinary Format.proper_binary32 hread⟩

theorem positive_of_count {text : String} {n : ℕ} (h : count? text = some n) :
    0 < n ∧ n < 2 ^ 32 := by
  obtain ⟨-, hn⟩ := Option.filter_eq_some_iff.mp h
  rw [Bool.and_eq_true, decide_eq_true_eq, decide_eq_true_eq, Nat.one_shiftLeft] at hn
  exact hn

theorem denotes_defaultQps : defaultQps.Denotes 50 :=
  Binary.denotes_ofNat Format.proper_binary32 (by decide) (by decide) (by decide) (by decide)

theorem fits_defaultQps : defaultQps.Fits binary32 :=
  Format.fits_ofRatio Format.proper_binary32 false 50 Nat.one_pos

theorem tuned_ofConnection (c : Connection) : (ofConnection c).Tuned 50 :=
  ⟨denotes_defaultQps, by norm_num, fits_defaultQps, (by decide : 0 < defaultBurst),
    (by decide : defaultBurst < 2 ^ 32)⟩

/-- Texts leave a client tuned, whatever they say. -/
theorem Tuned.withTexts (h : c.Tuned rate) (qps burst : Option String) :
    ∃ r, (c.withTexts qps burst).Tuned r := by
  obtain ⟨⟨r, hr, hpos⟩, hfits⟩ : (∃ r, ((qps.bind rate?).getD c.qps).Denotes r ∧ 0 < r) ∧
      ((qps.bind rate?).getD c.qps).Fits binary32 := by
    cases hx : qps.bind rate? with
    | none => exact ⟨⟨rate, h.denotes, h.rate_pos⟩, h.fits⟩
    | some x =>
      obtain ⟨text, -, hx⟩ := Option.bind_eq_some_iff.mp hx
      exact positive_of_rate hx
  have hburst : 0 < (burst.bind count?).getD c.burst ∧
      (burst.bind count?).getD c.burst < 2 ^ 32 := by
    cases hn : burst.bind count? with
    | none => exact ⟨h.burst_pos, h.burst_lt⟩
    | some n =>
      obtain ⟨text, -, hn⟩ := Option.bind_eq_some_iff.mp hn
      exact positive_of_count hn
  exact ⟨r, hr, hpos, hfits, hburst.1, hburst.2⟩

/-! ## Limits of rates -/

/-- The limit of a client that is tuned, from the length of its period. -/
theorem Tuned.limit?_eq (h : c.Tuned rate) :
    c.limit? =
      if Nanos.ofRational (c.burst / rate) < Nanos.perSecond <<< 64 then
        if Nanos.ofRational (c.burst / rate) = 0 then none
        else some ⟨c.burst, Nanos.ofRational (c.burst / rate)⟩
      else none := by
  have hpos := h.burst_pos
  have hqps : c.qps.isFinite = true := by
    obtain ⟨m, e, hm, -⟩ := h.denotes
    rw [hm]
    rfl
  have hlt : (Binary.finite false 0 binary32.least).lt c.qps = true :=
    (Binary.zero_lt_iff hqps).mpr ⟨rate, h.denotes, h.rate_pos⟩
  have hburst : (binary64.ofNat c.burst).Denotes c.burst :=
    Binary.denotes_ofNat Format.proper_binary64 hpos (h.burst_lt.trans (by decide)) (by decide)
      (by decide)
  have hrate : (c.qps.convert binary64).Denotes rate :=
    h.denotes.convert Format.proper_binary64 h.rate_pos h.fits (by decide) (by decide) (by decide)
  obtain ⟨num, den, hn, hd, hq, hdiv⟩ :=
    hburst.div (f := binary64) hrate (by exact_mod_cast hpos) h.rate_pos
  unfold limit?
  rw [if_pos hlt, Nat.max_eq_left hpos]
  dsimp only
  rw [hdiv, Nanos.ofSeconds?_ofRatio hn hd, hq]
  by_cases hfits : Nanos.ofRational (c.burst / rate) < Nanos.perSecond <<< 64
  · rw [if_pos hfits, if_pos hfits]
    simp only [beq_iff_eq]
  · rw [if_neg hfits, if_neg hfits]

/-- The period of a limit is the time in which the rate allows so many calls, rounded. -/
theorem Tuned.period_eq (h : c.Tuned rate) {limit : RateLimit} (hl : c.limit? = some limit) :
    limit.period = Nanos.ofRational (c.burst / rate) := by
  rw [h.limit?_eq] at hl
  split at hl
  · split at hl
    · cases hl
    · cases hl
      rfl
  · cases hl

theorem Tuned.digits (h : c.Tuned rate) :
    ∃ (m : ℕ) (e : ℤ), m < 2 ^ 24 ∧ (m : ℚ) * 2 ^ e = rate := by
  obtain ⟨m, e, hqps, hrate⟩ := h.denotes
  have hfits := h.fits
  rw [hqps] at hfits
  exact ⟨m, e, hfits.1, hrate⟩

/-- A rate above the bound exceeds it by so much that no rounding makes up for it. -/
theorem Tuned.le_of_short (h : c.Tuned rate) (hshort : 2000000000 * c.burst < rate) :
    2000000000 * c.burst ≤ rate * (1 - 1 / 2 ^ 53) := by
  have hlt := h.burst_lt
  obtain ⟨m, e, hm, rfl⟩ := h.digits
  have hdigits : (2000000000 * c.burst : ℚ) = (1953125 * c.burst : ℕ) * 2 ^ (10 : ℤ) := by
    push_cast
    ring
  rw [hdigits] at hshort ⊢
  exact le_of_gap (by omega) (by omega) hshort

/-- And so does a rate below the other bound stay away from it. -/
theorem Tuned.le_of_fits (h : c.Tuned rate) (hfits : (c.burst : ℚ) < 2 ^ 64 * rate) :
    (c.burst : ℚ) ≤ 2 ^ 64 * rate * (1 - 1 / 2 ^ 32) := by
  have hlt := h.burst_lt
  obtain ⟨m, e, hm, rfl⟩ := h.digits
  have hdigits : (2 ^ 64 * (m * 2 ^ e) : ℚ) = m * 2 ^ (e + 64) := by
    rw [← two_zpow_mul]
    norm_num
    ring
  have hwhole : (c.burst : ℚ) = c.burst * 2 ^ (0 : ℤ) := by rw [zpow_zero, mul_one]
  rw [hdigits, hwhole] at hfits ⊢
  exact le_of_gap (by omega) (by omega) hfits

/-- The period is not nothing if and only if it is half a nanosecond at least. -/
theorem Tuned.period_pos_iff (h : c.Tuned rate) :
    0 < Nanos.ofRational (c.burst / rate) ↔ rate ≤ 2000000000 * c.burst := by
  have hrate := h.rate_pos
  have hburst : (0 : ℚ) < c.burst := by exact_mod_cast h.burst_pos
  constructor
  · intro hn
    by_contra! hshort
    have hle : (c.burst / rate : ℚ) ≤ (1 - 1 / 2 ^ 53) / 2000000000 := by
      rw [div_le_div_iff₀ hrate (by norm_num)]
      linarith [h.le_of_short hshort]
    have hmono := Nanos.ofRational_mono (div_pos hburst hrate) hle
    rw [Nanos.ofRational_below_half_nano] at hmono
    omega
  · intro hlong
    have hle : (1 / 2000000000 : ℚ) ≤ c.burst / rate := by
      rw [div_le_div_iff₀ (by norm_num) hrate]
      linarith
    exact Nanos.ofRational_half_nano.ge.trans (Nanos.ofRational_mono (by norm_num) hle)

/-- The period is not too long if and only if its seconds fit 64 bits. -/
theorem Tuned.period_lt_iff (h : c.Tuned rate) :
    Nanos.ofRational (c.burst / rate) < Nanos.perSecond <<< 64 ↔
      (c.burst : ℚ) < 2 ^ 64 * rate := by
  have hrate := h.rate_pos
  have hburst : (0 : ℚ) < c.burst := by exact_mod_cast h.burst_pos
  constructor
  · intro hn
    by_contra! hlong
    have hle : (2 ^ 64 : ℚ) ≤ c.burst / rate := (le_div_iff₀ hrate).mpr hlong
    have hmono := Nanos.ofRational_mono (by norm_num) hle
    exact absurd hn (Nanos.le_ofRational_longest.trans hmono).not_gt
  · intro hfits
    have hle : (c.burst / rate : ℚ) ≤ 2 ^ 64 * (1 - 1 / 2 ^ 32) := by
      rw [div_le_iff₀ hrate, mul_right_comm]
      exact h.le_of_fits hfits
    exact (Nanos.ofRational_mono (div_pos hburst hrate) hle).trans_lt
      Nanos.ofRational_below_longest

/-- The period in which the rate allows so many calls can be counted.  It is half a nanosecond at
least, and its seconds fit 64 bits. -/
structure IsCountable (rate : ℚ) (burst : ℕ) : Prop where
  half_nano_le : rate ≤ 2000000000 * burst
  fits : (burst : ℚ) < 2 ^ 64 * rate

/-- A period that can be counted makes a limit. -/
theorem Tuned.limit_of_countable (h : c.Tuned rate) (hc : IsCountable rate c.burst) :
    ∃ period, c.limit? = some ⟨c.burst, period⟩ ∧ 1 ≤ period ∧ period < Nanos.perSecond <<< 64 := by
  have hpos := h.period_pos_iff.mpr hc.half_nano_le
  have hlt := h.period_lt_iff.mpr hc.fits
  exact ⟨_, by rw [h.limit?_eq, if_pos hlt, if_neg hpos.ne'], hpos, hlt⟩

/-- Another makes none. -/
theorem Tuned.no_limit_of_uncountable (h : c.Tuned rate) (hc : ¬ IsCountable rate c.burst) :
    c.limit? = none := by
  rw [h.limit?_eq]
  split
  · next hlt =>
    split
    · rfl
    · next hpos =>
      exact absurd ⟨h.period_pos_iff.mp (Nat.pos_of_ne_zero hpos), h.period_lt_iff.mp hlt⟩ hc
  · rfl

/-! ## The clients of a rate -/

/-- The configurations that come of one.  It is derived for callers, and taken over for other
connections. -/
inductive Stems (c : ClientConfig) : ClientConfig → Prop
  | itself : Stems c c
  | derived {d : ClientConfig} (token : String) (userAgent : Option String) :
      Stems c d → Stems c (d.derive token userAgent)
  | reached {d : ClientConfig} (connection : Connection) :
      Stems c d → Stems c { d with connection }

/-- None of them changes the rate. -/
theorem Stems.rate_eq (h : c.Stems d) : d.qps = c.qps ∧ d.burst = c.burst := by
  induction h with
  | itself => exact ⟨rfl, rfl⟩
  | derived _ _ _ ih => exact ih
  | reached _ _ ih => exact ih

theorem Stems.tuned (h : c.Stems d) (hc : c.Tuned rate) : d.Tuned rate := by
  obtain ⟨hqps, hburst⟩ := h.rate_eq
  exact ⟨hqps ▸ hc.denotes, hc.rate_pos, hqps ▸ hc.fits, hburst ▸ hc.burst_pos,
    hburst ▸ hc.burst_lt⟩

/-- Every client of a configuration, and of those that come of it, is built and has a limit.  So
many calls may start in a period of one nanosecond at least, whose seconds fit 64 bits. -/
def MakesClients (c : ClientConfig) : Prop :=
  ∀ d, c.Stems d → ∀ rules route, ∃ client period,
    Client.onRoute d rules route = .ok client ∧ client.config = d ∧
    d.limit? = some ⟨c.burst, period⟩ ∧ 1 ≤ period ∧ period < Nanos.perSecond <<< 64

theorem Tuned.breakdown_of_uncountable (h : c.Tuned rate) (hc : ¬ IsCountable rate c.burst)
    (hd : c.Stems d) (rules : Rules) (route : Route) :
    ∃ reason, Client.onRoute d rules route = .error (.breakdown reason) := by
  rw [← hd.rate_eq.2] at hc
  exact ⟨"the rate makes no limit", by
    rw [Client.onRoute, (hd.tuned h).no_limit_of_uncountable hc]⟩

theorem Tuned.makesClients_iff (h : c.Tuned rate) :
    c.MakesClients ↔ IsCountable rate c.burst := by
  constructor
  · intro hmakes
    by_contra hc
    obtain ⟨reason, hbreak⟩ := h.breakdown_of_uncountable hc .itself {} .atHand
    obtain ⟨client, period, hok, -⟩ := hmakes _ .itself {} .atHand
    rw [hbreak] at hok
    cases hok
  · intro hc d hd rules route
    rw [← hd.rate_eq.2] at hc ⊢
    obtain ⟨period, hlimit, hpos, hlt⟩ := (hd.tuned h).limit_of_countable hc
    exact ⟨_, period, by rw [Client.onRoute, hlimit], rfl, hlimit, hpos, hlt⟩

/-- Texts make a finite rate above zero and a count above zero.  The clients are built if and
only if the period can be counted, and otherwise every one of them breaks down.  The period is the
time in which the rate allows so many calls, rounded. -/
theorem withTexts_makesClients_iff (c : Connection) (qps burst : Option String) :
    let config := (ofConnection c).withTexts qps burst
    ∃ rate, config.qps.Denotes rate ∧ 0 < rate ∧ 0 < config.burst ∧
      (config.MakesClients ↔ IsCountable rate config.burst) ∧
      (¬ IsCountable rate config.burst → ∀ d, config.Stems d → ∀ rules route,
        ∃ reason, Client.onRoute d rules route = .error (.breakdown reason)) ∧
      ∀ d, config.Stems d → ∀ limit, d.limit? = some limit →
        limit.period = Nanos.ofRational (config.burst / rate) := by
  intro config
  obtain ⟨rate, h⟩ := (tuned_ofConnection c).withTexts qps burst
  refine ⟨rate, h.denotes, h.rate_pos, h.burst_pos, h.makesClients_iff,
    fun hc _ hd => h.breakdown_of_uncountable hc hd, fun d hd limit hl => ?_⟩
  rw [← hd.rate_eq.2]
  exact (hd.tuned h).period_eq hl

/-- Ten million million calls in a second, one at a time.  Either number is accepted. -/
def hurried : ClientConfig :=
  (ofConnection { address := ⟨some "https", some "hub.example.com:6443", "/", none⟩ }).withTexts
    (some "1e13") (some "1")

/-- Their period is a tenth of a picosecond and comes to nothing. -/
theorem not_makesClients_hurried : ¬ hurried.MakesClients := by
  intro h
  obtain ⟨client, period, -, -, hlimit, -⟩ := h _ .itself {} .atHand
  have hnone : hurried.limit? = none := by decide +kernel
  rw [hnone] at hlimit
  cases hlimit

end ClientConfig

end FleetGate
