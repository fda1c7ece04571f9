import Kelp.Twap.Calls
import Mathlib.Algebra.GeomSum

/-! How a cutover spreads the surplus.

A cutover folds the surplus of the elapsed buckets into the next one. The share it
takes, `firstDistributionOfBaseSurplus`, is the first term `a` of the geometric
series of ratio `r` (the smoothing factor) whose `n` terms add up to the surplus,
`n` being the configured share of the remaining buckets rounded up:
`a * (1 + r + … + r^(n-1)) = S`. For `r < 1` and a share above zero the series has
at least one term and at most one per remaining bucket, so a positive surplus puts
more than an even share into the next bucket, and never more than all of it
(`firstDistributionOfBaseSurplus_geometric`).

The share is computed in closed form, `S (r - 1) / (r^n - 1)`. The constructor
accepts `r = 1` and a share of 0, and for either the divisor is 0 at every cutover
(`flat_smoothing_divides_by_zero`; in `float64` the share is then NaN). For `r < 1`
and a share above zero no divisor of a call is 0: every frame targets at least one
bucket, and a cutover at any time of the day leaves at least one bucket to spread
over (`bucket_divisors_ne_zero`). -/
namespace Kelp.Twap

open Finset

/-! ### The smoothing series -/

section Series
variable {r : ℚ}

/-- No term of the series exceeds one. -/
theorem geom_sum_le_card (hr0 : 0 ≤ r) (hr1 : r ≤ 1) (m : ℕ) : ∑ i ∈ range m, r ^ i ≤ m := by
  simpa using sum_le_sum fun i (_ : i ∈ range m) => pow_le_one₀ (n := i) hr0 hr1

/-- Past the first, every term is below one. -/
theorem geom_sum_lt_card (hr0 : 0 ≤ r) (hr1 : r < 1) {m : ℕ} (hm : 2 ≤ m) :
    ∑ i ∈ range m, r ^ i < m := by
  obtain ⟨k, rfl⟩ : ∃ k, m = k + 2 := ⟨m - 2, by omega⟩
  have hfirst := geom_sum_le_card hr0 hr1.le (k + 1)
  have hlast : r ^ (k + 1) < 1 := pow_lt_one₀ hr0 hr1 (Nat.succ_ne_zero k)
  rw [sum_range_succ]
  push_cast at hfirst ⊢
  linarith

/-- The first term is one. -/
theorem one_le_geom_sum (hr0 : 0 ≤ r) {m : ℕ} (hm : m ≠ 0) : 1 ≤ ∑ i ∈ range m, r ^ i := by
  obtain ⟨k, rfl⟩ := Nat.exists_eq_succ_of_ne_zero hm
  have hrest := sum_nonneg fun i (_ : i ∈ range k) => pow_nonneg hr0 (i + 1)
  rw [sum_range_succ', pow_zero]
  linarith

end Series

section Share
variable (c : ValidConfig) {R : ℤ}

theorem firstDistributionOfBaseSurplus_eq (S : ℚ) (R : ℤ) :
    firstDistributionOfBaseSurplus c S R =
      S * (c.exponentialSmoothingFactor - 1) /
        (c.exponentialSmoothingFactor ^ ⌈c.distributeSurplusOverRemainingIntervalsPercentCeiling * R⌉ - 1) :=
  rfl

/-- A share above zero of at least one bucket is at least one term. -/
theorem one_le_terms (hc : 0 < c.distributeSurplusOverRemainingIntervalsPercentCeiling)
    (hR : 1 ≤ R) : 1 ≤ ⌈c.distributeSurplusOverRemainingIntervalsPercentCeiling * R⌉ :=
  Int.one_le_ceil_iff.mpr (mul_pos hc (by exact_mod_cast hR))

/-- A share of at most all the buckets is at most one term per bucket. -/
theorem terms_le (hR : 0 ≤ R) : ⌈c.distributeSurplusOverRemainingIntervalsPercentCeiling * R⌉ ≤ R :=
  Int.ceil_le.mpr (mul_le_of_le_one_left (by exact_mod_cast hR) c.distribute_le)

/-- The closed form's power, at the natural number of terms. -/
theorem smoothing_zpow_terms (hc : 0 < c.distributeSurplusOverRemainingIntervalsPercentCeiling)
    (hR : 1 ≤ R) :
    c.exponentialSmoothingFactor ^ ⌈c.distributeSurplusOverRemainingIntervalsPercentCeiling * R⌉ =
      c.exponentialSmoothingFactor ^ ⌈c.distributeSurplusOverRemainingIntervalsPercentCeiling * R⌉.toNat := by
  rw [← zpow_natCast, Int.toNat_of_nonneg (by linarith [one_le_terms c hc hR])]

/-- With `r < 1` the closed form's divisor `r ^ n - 1` is below zero. -/
theorem smoothing_divisor_neg (hr : c.exponentialSmoothingFactor < 1)
    (hc : 0 < c.distributeSurplusOverRemainingIntervalsPercentCeiling) (hR : 1 ≤ R) :
    c.exponentialSmoothingFactor ^ ⌈c.distributeSurplusOverRemainingIntervalsPercentCeiling * R⌉ -
      1 < 0 := by
  have hn := one_le_terms c hc hR
  rw [smoothing_zpow_terms c hc hR, sub_neg]
  exact pow_lt_one₀ c.smoothing_nonneg hr (by omega)

/-- **The surplus share is the first term of its series, and front-loaded.** With a smoothing
factor below one and a share above zero, over `R ≥ 1` remaining buckets, the share `a` of a
surplus `S` makes `a * (1 + r + … + r^(n-1)) = S` for `n = ⌈share * R⌉`; and for `S > 0` and
`R ≥ 2` it lies above the even share `S / R` and at most at `S`. -/
theorem firstDistributionOfBaseSurplus_geometric
    (hr : c.exponentialSmoothingFactor < 1)
    (hc : 0 < c.distributeSurplusOverRemainingIntervalsPercentCeiling) (hR : 1 ≤ R) (S : ℚ) :
    firstDistributionOfBaseSurplus c S R *
        ∑ i ∈ range ⌈c.distributeSurplusOverRemainingIntervalsPercentCeiling * R⌉.toNat,
          c.exponentialSmoothingFactor ^ i = S ∧
      (0 < S → 2 ≤ R →
        S / R < firstDistributionOfBaseSurplus c S R ∧ firstDistributionOfBaseSurplus c S R ≤ S) := by
  have hn := one_le_terms c hc hR
  have hnR := terms_le c (R := R) (by omega)
  have hpow := smoothing_zpow_terms c hc hR
  have hd := smoothing_divisor_neg c hr hc hR
  set n := ⌈c.distributeSurplusOverRemainingIntervalsPercentCeiling * R⌉.toNat with hn_def
  set r := c.exponentialSmoothingFactor
  have hG := one_le_geom_sum c.smoothing_nonneg (m := n) (by omega)
  have hmul : firstDistributionOfBaseSurplus c S R * ∑ i ∈ range n, r ^ i = S := by
    rw [hpow] at hd
    rw [firstDistributionOfBaseSurplus_eq, geom_sum_eq hr.ne, hpow]
    field_simp [hd.ne, (sub_neg.mpr hr).ne]
  refine ⟨hmul, fun hS hR2 => ?_⟩
  rw [eq_div_of_mul_eq (by linarith) hmul]
  refine ⟨div_lt_div_of_pos_left hS (by linarith) ?_, div_le_self hS.le hG⟩
  -- The series is shorter than the remaining buckets: one term against two or more buckets, or
  -- two or more terms each below one past the first.
  rcases (by omega : n = 1 ∨ 2 ≤ n) with h1 | h2
  · rw [h1, sum_range_one, pow_zero]
    exact_mod_cast (by omega : (1 : ℤ) < R)
  · calc ∑ i ∈ range n, r ^ i < n := geom_sum_lt_card c.smoothing_nonneg hr h2
      _ ≤ R := by exact_mod_cast (by omega : (n : ℤ) ≤ R)

end Share

/-! ### Divisors of a call -/

section Divisors
variable (c : ValidConfig) (now : ℤ)

/-- A frame counts the buckets from its start to the end of the day. -/
theorem makeFirstBucketFrame_totalBuckets {volFilter : DayFilter} {dailyVolume : Except String ℚ}
    {startTime secondsElapsedToday bID : ℤ} {rID : RoundID} {frame : BucketInfo}
    (h : makeFirstBucketFrame c now volFilter dailyVolume startTime secondsElapsedToday bID rID =
      .ok frame) :
    frame.totalBuckets = ⌈((ceilDate now - startTime : ℤ) : ℚ) / c.parentBucketSizeSeconds⌉ := by
  rcases hc : volFilter.baseCap with e | cap <;> rcases hd : dailyVolume with e' | sold <;>
    simp only [makeFirstBucketFrame, hc, hd, Except.ok.injEq, reduceCtorEq] at h
  rw [← h]

theorem parentBucketSizeSeconds_dvd_day : c.parentBucketSizeSeconds ∣ secondsInDay :=
  Int.dvd_of_emod_eq_zero c.parentBucketSizeSeconds_dvd

/-- From the start of its day, a frame counts the day's buckets. -/
theorem totalBuckets_of_day :
    ⌈((ceilDate now - floorDate now : ℤ) : ℚ) / c.parentBucketSizeSeconds⌉ =
      secondsInDay / c.parentBucketSizeSeconds := by
  have hday : ceilDate now - floorDate now = secondsInDay := by unfold ceilDate; ring
  rw [hday, ← Int.cast_div (parentBucketSizeSeconds_dvd_day c)
    (by exact_mod_cast c.parentBucketSizeSeconds_pos.ne'), Int.ceil_intCast]

/-- The index of a call's bucket is below the number of buckets of the day. -/
theorem bucketIndex_lt :
    (now - floorDate now) / c.parentBucketSizeSeconds < secondsInDay / c.parentBucketSizeSeconds := by
  have hday : 0 < secondsInDay := by decide
  have helapsed : now - floorDate now < secondsInDay := by
    unfold floorDate
    have := Int.emod_lt_of_pos now hday
    omega
  refine Int.ediv_lt_of_lt_mul c.parentBucketSizeSeconds_pos ?_
  rwa [Int.ediv_mul_cancel (parentBucketSizeSeconds_dvd_day c)]

/-- **No divisor of a call is zero** when the smoothing factor is below one and the share above
zero. The frame a call at `now` makes, with the arguments both the first-bucket and the cutover
paths of `makeBucketInfo` pass, targets at least one bucket and leaves at least one bucket of the
day from the call's own, so a cutover's series has a term and its closed form a divisor below
zero. -/
theorem bucket_divisors_ne_zero {c : ValidConfig} (hr : c.exponentialSmoothingFactor < 1)
    (hc : 0 < c.distributeSurplusOverRemainingIntervalsPercentCeiling) {now : ℤ}
    {volFilter : DayFilter} {dailyVolume : Except String ℚ} {rID : RoundID} {frame : BucketInfo}
    (h : makeFirstBucketFrame c now volFilter dailyVolume (floorDate now) (now - floorDate now)
      ((now - floorDate now) / c.parentBucketSizeSeconds) rID = .ok frame) :
    1 ≤ frame.totalBucketsTargeted ∧
      1 ≤ frame.totalBuckets - (now - floorDate now) / c.parentBucketSizeSeconds ∧
      c.exponentialSmoothingFactor ^ ⌈c.distributeSurplusOverRemainingIntervalsPercentCeiling *
        ↑(frame.totalBuckets - (now - floorDate now) / c.parentBucketSizeSeconds)⌉ - 1 ≠ 0 := by
  obtain ⟨-, -, -, -, -, -, -, -, htargeted, -⟩ := makeFirstBucketFrame_ok h
  have hremaining : 1 ≤ frame.totalBuckets - (now - floorDate now) / c.parentBucketSizeSeconds := by
    rw [makeFirstBucketFrame_totalBuckets c now h, totalBuckets_of_day]
    linarith [bucketIndex_lt c now]
  exact ⟨htargeted, hremaining, (smoothing_divisor_neg c hr hc hremaining).ne⟩

end Divisors

/-- The comment's example: a surplus of 8000 over four terms of ratio 1/2 puts 4266.67 first. -/
example : firstDistributionOfBaseSurplus hourlyConfig 8000 8 = 12800 / 3 := by
  norm_num [firstDistributionOfBaseSurplus, hourlyConfig]

theorem firstDistributionOfBaseSurplus_geometric_hourly :
    firstDistributionOfBaseSurplus hourlyConfig 8000 8 *
        ∑ i ∈ range ⌈hourlyConfig.distributeSurplusOverRemainingIntervalsPercentCeiling * (8 : ℤ)⌉.toNat,
          hourlyConfig.exponentialSmoothingFactor ^ i = 8000 ∧
      (0 < (8000 : ℚ) → (2 : ℤ) ≤ 8 →
        8000 / ((8 : ℤ) : ℚ) < firstDistributionOfBaseSurplus hourlyConfig 8000 8 ∧
          firstDistributionOfBaseSurplus hourlyConfig 8000 8 ≤ 8000) :=
  firstDistributionOfBaseSurplus_geometric hourlyConfig (by norm_num [hourlyConfig])
    (by norm_num [hourlyConfig]) (by norm_num) 8000

theorem bucket_divisors_ne_zero_firstHour :
    1 ≤ firstBucket.totalBucketsTargeted ∧
      1 ≤ firstBucket.totalBuckets - (1800 - floorDate 1800) / hourlyConfig.parentBucketSizeSeconds ∧
      hourlyConfig.exponentialSmoothingFactor ^
        ⌈hourlyConfig.distributeSurplusOverRemainingIntervalsPercentCeiling *
          ↑(firstBucket.totalBuckets - (1800 - floorDate 1800) / hourlyConfig.parentBucketSizeSeconds)⌉ -
        1 ≠ 0 :=
  bucket_divisors_ne_zero (by norm_num [hourlyConfig]) (by norm_num [hourlyConfig])
    (show makeFirstBucketFrame hourlyConfig 1800 (hourlyConfig.dowFilter 0) (.ok 0) (floorDate 1800)
        (1800 - floorDate 1800) ((1800 - floorDate 1800) / hourlyConfig.parentBucketSizeSeconds) 0 =
        .ok firstBucket by
      simp [makeFirstBucketFrame, hourlyConfig, firstBucket, ceilDate, floorDate, secondsInDay,
        secondsInHour]
      norm_num)

/-! ### Without smoothing -/

/-- The hourly configuration with a smoothing factor of 1, which the constructor accepts. -/
def flatConfig : ValidConfig :=
  { hourlyConfig with
    exponentialSmoothingFactor := 1
    smoothing_nonneg := zero_le_one
    smoothing_le := le_rfl }

/-- The provider `makeSellTwapLevelProvider` starts from `flatConfig`. -/
def flatProvider : SellTwapLevelProvider := ⟨flatConfig, zeroThenHalf, 0, none, none⟩

/-- Half past one on 1 January 1970, nothing sold yet, the feed at 1. -/
def secondHour : CallEnv := ⟨3600 + 1800, .ok 0, .ok 1⟩

theorem flatProvider_run_firstHour :
    flatProvider.run [firstHour] = ⟨flatConfig, zeroThenHalf, 1, some firstBucket, some 0⟩ := by
  simp [SellTwapLevelProvider.getLevels, SellTwapLevelProvider.makeBucketInfo, flatProvider,
    flatConfig, hourlyConfig, firstHour, makeFirstBucketFrame, SellTwapLevelProvider.makeRoundInfo,
    SellTwapLevelProvider.sizeBaseCapped, BucketInfo.baseRemaining, zeroThenHalf, ceilDate,
    floorDate, secondsInDay, secondsInHour, SellTwapLevelProvider.makeRoundID, firstBucket]
  norm_num

/-- Without smoothing, the cutover into the second hour divides by zero: the surplus of 1 over
the 23 buckets left gives a series of 12 terms of ratio 1, and `1 ^ 12 - 1 = 0`. -/
theorem flat_smoothing_divides_by_zero :
    makeSellTwapLevelProvider flatConfig.toSellTwapConfig zeroThenHalf = .ok flatProvider ∧
    (flatProvider.run [firstHour]).activeBucket = some firstBucket ∧
    ∃ b, ((flatProvider.run [firstHour]).getLevels secondHour).2.activeBucket = some b ∧
      b.ID = firstBucket.ID + 1 ∧
      b.baseSurplusIncluded = firstDistributionOfBaseSurplus flatConfig 1 (b.totalBuckets - b.ID) ∧
      flatConfig.exponentialSmoothingFactor ^
        ⌈flatConfig.distributeSurplusOverRemainingIntervalsPercentCeiling *
          ↑(b.totalBuckets - b.ID)⌉ - 1 = 0 := by
  refine ⟨makeSellTwapLevelProvider_valid flatConfig zeroThenHalf, by rw [flatProvider_run_firstHour],
    ⟨1, 0, 86400, 24, 24, 0, 24, 0, 1, 1 / 2, ⟨true, 1, 0, 0⟩⟩, ?_, rfl, ?_, ?_⟩
  · rw [flatProvider_run_firstHour]
    simp [SellTwapLevelProvider.getLevels, SellTwapLevelProvider.makeBucketInfo, flatConfig,
      hourlyConfig, secondHour, cutoverToNewBucket, makeFirstBucketFrame,
      SellTwapLevelProvider.makeRoundInfo, SellTwapLevelProvider.sizeBaseCapped,
      BucketInfo.baseRemaining, zeroThenHalf, ceilDate, floorDate, secondsInDay, secondsInHour,
      SellTwapLevelProvider.makeRoundID, firstBucket, firstDistributionOfBaseSurplus]
    norm_num
  · simp [firstDistributionOfBaseSurplus, flatConfig]
  · simp [flatConfig]

end Kelp.Twap
