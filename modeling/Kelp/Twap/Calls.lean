import Kelp.Twap.Provider

/-! What one `GetLevels` call does.

The constructor accepts exactly the configurations a `ValidConfig` records and
starts with nothing kept (`makeSellTwapLevelProvider_eq_ok`). Its check of the
minimum child order reports the smoothing factor's value instead of its own
(`minChildOrderSizePercentOfParent_error_shows_smoothing`).

A call either fails, keeping its bucket and its round (`getLevels_error`), or saves
the bucket it made and the round it sized and returns one level (`getLevels_ok`).
The bucket is the first frame when none is active, the active bucket refreshed
when the call falls in it, or the next bucket cut over from it
(`makeBucketInfo_ok`). Runs are calls one after another; what every call keeps, a
run keeps (`run_induction`).

The round's size never passes what is left of its bucket, so neither does the
amount returned (`getLevels_amount_le_baseRemaining`). What is left of the day is
never consulted: a first call after the day's cap is sold still asks for half a
bucket (`first_call_ignores_day_cap`). The size is drawn before the price feed is
asked. A failed call keeps the bucket and the round
(`failed_call_keeps_bucket_and_round`), but one that fails at the feed has moved the
generator on, and the next call is sized by the next draw
(`failed_price_moves_generator`). -/
namespace Kelp.Twap

/-! ### The constructor -/

theorem checkUnitInterval_of_mem (name : String) {value : ℚ} (shown : ℚ)
    (h : 0 ≤ value ∧ value ≤ 1) : checkUnitInterval name value shown = none := by
  rw [checkUnitInterval, if_neg]
  push_neg
  exact h

theorem firstNotSellingBase_eq_none {dowFilter : Fin 7 → DayFilter}
    (h : ∀ i, (dowFilter i).isSellingBase = true) : firstNotSellingBase dowFilter = none :=
  List.find?_eq_none.mpr fun i _ => by simp [h i]

/-- The constructor accepts every configuration that meets its checks, and starts with no
bucket, no round and no draw. -/
theorem makeSellTwapLevelProvider_valid (c : ValidConfig) (random : RandSource) :
    makeSellTwapLevelProvider c.toSellTwapConfig random = .ok ⟨c, random, 0, none, none⟩ := by
  have := c.numHoursToSell_pos
  have := c.numHoursToSell_le
  have := c.parentBucketSizeSeconds_pos
  have := c.parentBucketSizeSeconds_le
  have := c.parentBucketSizeSeconds_dvd
  unfold makeSellTwapLevelProvider
  rw [dif_neg (by omega), dif_neg (by omega), dif_neg (by omega)]
  split
  · next h => simp [checkUnitInterval_of_mem _ _ ⟨c.distribute_nonneg, c.distribute_le⟩] at h
  split
  · next h => simp [checkUnitInterval_of_mem _ _ ⟨c.smoothing_nonneg, c.smoothing_le⟩] at h
  split
  · next h => simp [checkUnitInterval_of_mem _ _ ⟨c.minChild_nonneg, c.minChild_le⟩] at h
  split
  · next h => simp [firstNotSellingBase_eq_none c.sellingBase] at h
  rfl

/-- What the constructor returns: its configuration, its generator, and nothing kept yet. -/
theorem makeSellTwapLevelProvider_ok {c : SellTwapConfig} {random : RandSource}
    {p : SellTwapLevelProvider} (h : makeSellTwapLevelProvider c random = .ok p) :
    p.config.toSellTwapConfig = c ∧ p.random = random ∧ p.draws = 0 ∧ p.activeBucket = none ∧
      p.previousRoundID = none := by
  unfold makeSellTwapLevelProvider at h
  split_ifs at h
  repeat' (split at h; · cases h)
  cases h
  exact ⟨rfl, rfl, rfl, rfl, rfl⟩

/-- **What the constructor accepts.** `makeSellTwapLevelProvider` accepts a configuration
exactly when it meets the checks that a `ValidConfig` records, and returns a provider with that
configuration, the given generator, and no draw, bucket or round yet. -/
theorem makeSellTwapLevelProvider_eq_ok {c : SellTwapConfig} {random : RandSource}
    {p : SellTwapLevelProvider} :
    makeSellTwapLevelProvider c random = .ok p ↔
      ∃ v : ValidConfig, v.toSellTwapConfig = c ∧ p = ⟨v, random, 0, none, none⟩ := by
  constructor
  · intro h
    obtain ⟨hc, hr, hd, ha, hi⟩ := makeSellTwapLevelProvider_ok h
    refine ⟨p.config, hc, ?_⟩
    cases p
    subst hr hd ha hi
    rfl
  · rintro ⟨v, rfl, rfl⟩
    exact makeSellTwapLevelProvider_valid v random

/-- **The minimum child order's check shows the smoothing factor.** When the checks before it
pass, an out-of-range `minChildOrderSizePercentOfParent` is reported with the value of
`exponentialSmoothingFactor`, not with its own. -/
theorem minChildOrderSizePercentOfParent_error_shows_smoothing {c : SellTwapConfig}
    (random : RandSource) (hh : 0 < c.numHoursToSell ∧ c.numHoursToSell ≤ 24)
    (hs : 0 < c.parentBucketSizeSeconds ∧ c.parentBucketSizeSeconds ≤ secondsInDay ∧
      secondsInDay % c.parentBucketSizeSeconds = 0)
    (hd : 0 ≤ c.distributeSurplusOverRemainingIntervalsPercentCeiling ∧
      c.distributeSurplusOverRemainingIntervalsPercentCeiling ≤ 1)
    (he : 0 ≤ c.exponentialSmoothingFactor ∧ c.exponentialSmoothingFactor ≤ 1)
    (hm : c.minChildOrderSizePercentOfParent < 0 ∨ c.minChildOrderSizePercentOfParent > 1) :
    makeSellTwapLevelProvider c random =
      .error ("minChildOrderSizePercentOfParent is invalid, expected 0.0 <= " ++
        "minChildOrderSizePercentOfParent <= 1.0; was " ++
        formatNoDecimals c.exponentialSmoothingFactor) := by
  unfold makeSellTwapLevelProvider
  rw [dif_neg (by omega), dif_neg (by omega), dif_neg (by omega)]
  split
  · next h => simp [checkUnitInterval_of_mem _ _ hd] at h
  split
  · next h => simp [checkUnitInterval_of_mem _ _ he] at h
  split
  · next e h =>
    rw [checkUnitInterval, if_pos hm, Option.some.injEq] at h
    rw [← h, String.append_assoc]
    rfl
  · next h =>
    obtain ⟨h0, h1⟩ := checkUnitInterval_eq_none h
    rcases hm with hm | hm <;> linarith

/-! ### Buckets -/

section Buckets
variable {c : ValidConfig} {now : ℤ} {volFilter : DayFilter} {dailyVolume : Except String ℚ}
  {startTime secondsElapsedToday bID : ℤ} {rID : RoundID} {b : BucketInfo}

theorem totalBucketsTargeted_pos (c : ValidConfig) :
    0 < ⌈((c.numHoursToSell * secondsInHour : ℤ) : ℚ) / c.parentBucketSizeSeconds⌉ := by
  have hs : (0 : ℚ) < ((c.numHoursToSell * secondsInHour : ℤ) : ℚ) := by
    exact_mod_cast Int.mul_pos c.numHoursToSell_pos (by decide)
  exact Int.ceil_pos.mpr (div_pos hs (by exact_mod_cast c.parentBucketSizeSeconds_pos))

/-- A first frame reads the day's cap and the sold-so-far, and shares the cap evenly over the
buckets of the selling window. -/
theorem makeFirstBucketFrame_ok
    (h : makeFirstBucketFrame c now volFilter dailyVolume startTime secondsElapsedToday bID rID =
      .ok b) :
    ∃ cap sold, volFilter.baseCap = .ok cap ∧ dailyVolume = .ok sold ∧
      b.ID = bID ∧ b.startTime = startTime ∧ b.dayBaseSoldStart = sold ∧
      b.dynamicValues = ⟨true, rID, sold, 0⟩ ∧ 0 < b.totalBucketsTargeted ∧
      b.baseCapacity = cap / b.totalBucketsTargeted ∧
      b.minOrderSizeBase = c.minChildOrderSizePercentOfParent * b.baseCapacity := by
  rcases hc : volFilter.baseCap with e | cap
  · simp [makeFirstBucketFrame, hc] at h
  rcases hd : dailyVolume with e | sold
  · simp [makeFirstBucketFrame, hc, hd] at h
  simp only [makeFirstBucketFrame, hc, hd, Except.ok.injEq] at h
  subst h
  exact ⟨cap, sold, rfl, rfl, rfl, rfl, rfl, rfl, totalBucketsTargeted_pos c, rfl, rfl⟩

/-- Refreshing the active bucket changes only its sold-so-far values. -/
theorem updateExistingBucket_ok {a : BucketInfo} (h : updateExistingBucket a dailyVolume rID = .ok b) :
    ∃ sold, dailyVolume = .ok sold ∧
      b = { a with dynamicValues := ⟨false, rID, sold, sold - a.dayBaseSoldStart⟩ } := by
  unfold updateExistingBucket at h
  split at h
  · cases h
  · cases h
    exact ⟨_, rfl, rfl⟩

/-- A cutover goes one bucket on: a new frame that starts from the active bucket's last
sold-so-far, with its share of the surplus folded into its capacity. -/
theorem cutoverToNewBucket_ok {a : BucketInfo}
    (h : cutoverToNewBucket c a now volFilter dailyVolume startTime secondsElapsedToday bID rID =
      .ok b) :
    bID = a.ID + 1 ∧ ∃ frame,
      makeFirstBucketFrame c now volFilter dailyVolume startTime secondsElapsedToday bID rID =
        .ok frame ∧
      b = { frame with
            dayBaseSoldStart := a.dynamicValues.dayBaseSold
            dynamicValues := ⟨true, rID, frame.dayBaseSoldStart,
              frame.dayBaseSoldStart - a.dynamicValues.dayBaseSold⟩
            baseSurplusIncluded := firstDistributionOfBaseSurplus c
              (frame.baseCapacity * bID - a.dynamicValues.dayBaseSold) (frame.totalBuckets - bID)
            baseCapacity := frame.baseCapacity + firstDistributionOfBaseSurplus c
              (frame.baseCapacity * bID - a.dynamicValues.dayBaseSold) (frame.totalBuckets - bID) } := by
  unfold cutoverToNewBucket at h
  split_ifs at h with hb
  push_neg at hb
  split at h
  · cases h
  · next frame hf =>
    cases h
    exact ⟨hb, frame, hf, rfl⟩

end Buckets

namespace SellTwapLevelProvider

section Call
variable {p : SellTwapLevelProvider} {now : ℤ} {volFilter : DayFilter}
  {dailyVolume price : Except String ℚ} {rID : RoundID} {b : BucketInfo} {env : CallEnv}

/-- The bucket of a call at `now`: the first frame when no bucket is active, the active bucket
refreshed when `now` falls in it, or the next bucket cut over from it. -/
theorem makeBucketInfo_ok (h : p.makeBucketInfo now volFilter dailyVolume rID = .ok b) :
    (p.activeBucket = none ∧
      makeFirstBucketFrame p.config now volFilter dailyVolume (floorDate now) (now - floorDate now)
        ((now - floorDate now) / p.config.parentBucketSizeSeconds) rID = .ok b) ∨
    (∃ a, p.activeBucket = some a ∧
      (now - floorDate now) / p.config.parentBucketSizeSeconds = a.ID ∧
      updateExistingBucket a dailyVolume rID = .ok b) ∨
    (∃ a, p.activeBucket = some a ∧
      cutoverToNewBucket p.config a now volFilter dailyVolume (floorDate now) (now - floorDate now)
        ((now - floorDate now) / p.config.parentBucketSizeSeconds) rID = .ok b) := by
  unfold makeBucketInfo at h
  dsimp only at h
  split at h
  · next ha =>
    left
    split at h
    · cases h
    · next hf => cases h; exact ⟨ha, hf⟩
  · next a ha =>
    right
    split_ifs at h with hi
    · left
      split at h
      · cases h
      · next hu => cases h; exact ⟨a, ha, hi, hu⟩
    · right
      exact ⟨a, ha, h⟩

/-- The size never passes what is left of the bucket: a draw lies below one. -/
theorem sizeBaseCapped_le (p : SellTwapLevelProvider) (b : BucketInfo) :
    (p.sizeBaseCapped b).1 ≤ b.baseRemaining := by
  unfold sizeBaseCapped
  split_ifs with h
  · exact le_rfl
  · have hu : p.random.float64 p.draws * (b.baseRemaining - b.minOrderSizeBase) ≤
        1 * (b.baseRemaining - b.minOrderSizeBase) :=
      mul_le_mul_of_nonneg_right (p.random.float64_lt_one _).le (by linarith [not_le.mp h])
    dsimp only
    linarith

/-- With a minimum of at least zero, the size is at least zero while the bucket has room. -/
theorem sizeBaseCapped_nonneg (p : SellTwapLevelProvider) (hm : 0 ≤ b.minOrderSizeBase)
    (hr : 0 ≤ b.baseRemaining) : 0 ≤ (p.sizeBaseCapped b).1 := by
  unfold sizeBaseCapped
  split_ifs with h
  · exact hr
  · have := mul_nonneg (p.random.float64_nonneg p.draws) (by linarith [not_le.mp h] :
      0 ≤ b.baseRemaining - b.minOrderSizeBase)
    dsimp only
    linarith

/-- A round is made when the feed answers: the drawn size and the offset price. -/
theorem makeRoundInfo_ok {round : RoundInfo} (h : (p.makeRoundInfo rID now b price).1 = .ok round) :
    ∃ x, price = .ok x ∧
      round = ⟨rID, b.ID, now, now - b.startTime, (p.sizeBaseCapped b).1, (p.config.offset x).1⟩ := by
  cases price with
  | error e => simp [makeRoundInfo] at h
  | ok x =>
    simp only [makeRoundInfo, Except.ok.injEq] at h
    exact ⟨x, rfl, h.symm⟩

theorem makeRoundInfo_error {e : String} (h : (p.makeRoundInfo rID now b price).1 = .error e) :
    ∃ e', price = .error e' := by
  cases price with
  | error e' => exact ⟨e', rfl⟩
  | ok x => simp [makeRoundInfo] at h

/-- The draws are taken before the feed is asked, whatever it answers. -/
theorem makeRoundInfo_draws : (p.makeRoundInfo rID now b price).2 = (p.sizeBaseCapped b).2 := by
  cases price <;> rfl

/-- A successful call saves the bucket it made and the round it sized, and returns one level:
the round's price and size at the configured precisions. -/
theorem getLevels_ok {ls : List Level} (h : (p.getLevels env).1 = .ok ls) :
    ∃ b round, p.makeBucketInfo env.now (p.config.dowFilter (weekday env.now)) env.dailyVolume
        p.makeRoundID = .ok b ∧
      (p.makeRoundInfo p.makeRoundID env.now b env.price).1 = .ok round ∧
      ls = [⟨numberFromFloat round.price p.config.pricePrecision,
        numberFromFloat round.sizeBaseCapped p.config.volumePrecision⟩] ∧
      (p.getLevels env).2 = { p with
        draws := (p.sizeBaseCapped b).2
        activeBucket := some b
        previousRoundID := some round.ID } := by
  rcases hb : p.makeBucketInfo env.now (p.config.dowFilter (weekday env.now)) env.dailyVolume
    p.makeRoundID with e | b
  · simp [getLevels, hb] at h
  rcases hr : p.makeRoundInfo p.makeRoundID env.now b env.price with ⟨e | round, draws⟩
  · simp [getLevels, hb, hr] at h
  · simp only [getLevels, hb, hr, Except.ok.injEq] at h ⊢
    refine ⟨b, round, rfl, by rw [hr], h.symm, ?_⟩
    have hd := congrArg Prod.snd hr
    rw [makeRoundInfo_draws] at hd
    rw [hd]

/-- A failed call keeps the bucket and the round; only the count of draws can move. -/
theorem getLevels_error {e : String} (h : (p.getLevels env).1 = .error e) :
    (p.getLevels env).2 = { p with draws := (p.getLevels env).2.draws } ∧
      ((p.getLevels env).2.draws ≠ p.draws → ∃ e', env.price = .error e') := by
  rcases hb : p.makeBucketInfo env.now (p.config.dowFilter (weekday env.now)) env.dailyVolume
    p.makeRoundID with e | b
  · simp [getLevels, hb]
  rcases hr : p.makeRoundInfo p.makeRoundID env.now b env.price with ⟨e' | round, draws⟩
  · simp only [getLevels, hb, hr, ne_eq]
    exact ⟨trivial, fun _ => makeRoundInfo_error (congrArg Prod.fst hr)⟩
  · simp [getLevels, hb, hr] at h

theorem getLevels_config (p : SellTwapLevelProvider) (env : CallEnv) :
    (p.getLevels env).2.config = p.config := by
  unfold getLevels
  dsimp only
  split
  · rfl
  · split <;> rfl

end Call

/-! ### Runs -/

section Run
variable {p : SellTwapLevelProvider} {env : CallEnv} {envs : List CallEnv}

@[simp] theorem run_nil : p.run [] = p := rfl

@[simp] theorem run_cons : p.run (env :: envs) = (p.getLevels env).2.run envs := rfl

/-- Induction over a run: what every call of the run keeps, from the calls before it, holds
after the run. -/
theorem run_induction {P : List CallEnv → SellTwapLevelProvider → Prop} (pre : List CallEnv)
    (h0 : P pre p)
    (step : ∀ pre q env, env ∈ envs → P pre q → P (pre ++ [env]) (q.getLevels env).2) :
    P (pre ++ envs) (p.run envs) := by
  induction envs generalizing pre p with
  | nil => simpa using h0
  | cons env rest ih =>
    have := ih (pre ++ [env]) (step pre p env (List.mem_cons_self _ _) h0)
      fun pre q e he => step pre q e (List.mem_cons_of_mem _ he)
    simpa using this

theorem run_config : (p.run envs).config = p.config :=
  run_induction (P := fun _ q => q.config = p.config) [] rfl
    fun _ q env _ hq => (getLevels_config q env).trans hq

end Run

/-! ### What a call returns -/

section Levels
variable {p : SellTwapLevelProvider} {env : CallEnv} {ls : List Level}

/-- **A level never asks for more than its bucket has left.** From any state, a call that
succeeds returns a level whose amount is at most what is left of the bucket it saves, at the
volume precision. -/
theorem getLevels_amount_le_baseRemaining (h : (p.getLevels env).1 = .ok ls) :
    ∃ b, (p.getLevels env).2.activeBucket = some b ∧
      ∀ l ∈ ls, l.amount.value ≤ toFixed b.baseRemaining p.config.volumePrecision := by
  obtain ⟨b, round, -, hr, rfl, hs⟩ := getLevels_ok h
  obtain ⟨x, -, rfl⟩ := makeRoundInfo_ok hr
  refine ⟨b, by rw [hs], ?_⟩
  simp only [List.mem_singleton, forall_eq, numberFromFloat_value]
  exact toFixed_mono (sizeBaseCapped_le p b) _

/-- **A failed call keeps the bucket and the round.** From any state, a call that fails leaves
the active bucket and the previous round ID as they were; the generator moves on only when the
price feed failed. -/
theorem failed_call_keeps_bucket_and_round {e : String} (h : (p.getLevels env).1 = .error e) :
    (p.getLevels env).2.activeBucket = p.activeBucket ∧
      (p.getLevels env).2.previousRoundID = p.previousRoundID ∧
      ((p.getLevels env).2.draws ≠ p.draws → ∃ e', env.price = .error e') := by
  obtain ⟨hs, hd⟩ := getLevels_error h
  exact ⟨by rw [hs], by rw [hs], hd⟩

/-- **A bucket jump is an error.** A call whose bucket index is neither the active bucket's nor
the next one fails with the bucket-jump error and leaves the provider exactly as it was: the
scheduler does not resynchronize. -/
theorem getLevels_bucket_jump {a : BucketInfo} (ha : p.activeBucket = some a)
    (hj : (env.now - floorDate env.now) / p.config.parentBucketSizeSeconds ≠ a.ID)
    (hj' : (env.now - floorDate env.now) / p.config.parentBucketSizeSeconds ≠ a.ID + 1) :
    p.getLevels env = (.error ("unable to make bucketInfo: " ++ ("new bucketID (" ++
      toString ((env.now - floorDate env.now) / p.config.parentBucketSizeSeconds) ++
      ") was not one more than the previous bucketID (" ++ toString a.ID ++ ")")), p) := by
  simp only [getLevels, makeBucketInfo, ha, if_neg hj, cutoverToNewBucket, if_pos hj']

end Levels

end SellTwapLevelProvider

/-! ### The example provider -/

open SellTwapLevelProvider

theorem hourlyProvider_firstHour :
    (hourlyProvider.getLevels firstHour).1 = .ok [⟨numberFromFloat 1 7, numberFromFloat (1 / 2) 7⟩] := by
  simp [getLevels, makeBucketInfo, hourlyProvider, hourlyConfig, firstHour, makeFirstBucketFrame,
    makeRoundInfo, sizeBaseCapped, BucketInfo.baseRemaining, zeroThenHalf, ceilDate, floorDate,
    secondsInDay, secondsInHour]
  norm_num

theorem getLevels_amount_le_baseRemaining_firstHour :
    ∃ b, (hourlyProvider.getLevels firstHour).2.activeBucket = some b ∧
      ∀ l ∈ [(⟨numberFromFloat 1 7, numberFromFloat (1 / 2) 7⟩ : Level)],
        l.amount.value ≤ toFixed b.baseRemaining hourlyProvider.config.volumePrecision :=
  getLevels_amount_le_baseRemaining hourlyProvider_firstHour

/-- A first call after the whole day's cap has been sold still asks for half a bucket: the first
frame counts sales from its own start, and the size never looks at what is left of the day. -/
theorem first_call_ignores_day_cap :
    makeSellTwapLevelProvider hourlyConfig.toSellTwapConfig zeroThenHalf = .ok hourlyProvider ∧
    (hourlyProvider.getLevels soldOut).1 = .ok [⟨numberFromFloat 1 7, numberFromFloat (1 / 2) 7⟩] ∧
    ∃ b, (hourlyProvider.getLevels soldOut).2.activeBucket = some b ∧
      max 0 b.dayBaseRemaining < (numberFromFloat (1 / 2) 7).value := by
  refine ⟨makeSellTwapLevelProvider_valid hourlyConfig zeroThenHalf, ?_, ?_⟩ <;>
  · simp [getLevels, makeBucketInfo, hourlyProvider, hourlyConfig, soldOut, makeFirstBucketFrame,
      makeRoundInfo, sizeBaseCapped, BucketInfo.baseRemaining, BucketInfo.dayBaseRemaining,
      zeroThenHalf, ceilDate, floorDate, secondsInDay, secondsInHour]
    norm_num [toFixed, roundHalfAway]

theorem hourlyProvider_feedDown :
    hourlyProvider.getLevels feedDown =
      (.error "unable to make roundInfo: could not get price from feed: feed down",
        { hourlyProvider with draws := 1 }) := by
  simp [getLevels, makeBucketInfo, hourlyProvider, hourlyConfig, feedDown, makeFirstBucketFrame,
    makeRoundInfo, sizeBaseCapped, BucketInfo.baseRemaining, zeroThenHalf, ceilDate, floorDate,
    secondsInDay, secondsInHour]
  norm_num

theorem hourlyProvider_run_firstHour :
    hourlyProvider.run [firstHour] = ⟨hourlyConfig, zeroThenHalf, 1, some firstBucket, some 0⟩ := by
  simp [getLevels, makeBucketInfo, hourlyProvider, hourlyConfig, firstHour, makeFirstBucketFrame,
    makeRoundInfo, sizeBaseCapped, BucketInfo.baseRemaining, zeroThenHalf, ceilDate, floorDate,
    secondsInDay, secondsInHour, makeRoundID, firstBucket]
  norm_num

/-- The draw for the round's size comes before the feed is asked: a call that fails at the feed
moves the generator on, and the next call's size comes from the second draw (3/4 of a bucket)
instead of the first (1/2). -/
theorem failed_price_moves_generator :
    hourlyProvider.getLevels feedDown =
      (.error "unable to make roundInfo: could not get price from feed: feed down",
        { hourlyProvider with draws := 1 }) ∧
    hourlyProvider.draws = 0 ∧
    (hourlyProvider.getLevels firstHour).1 = .ok [⟨numberFromFloat 1 7, numberFromFloat (1 / 2) 7⟩] ∧
    ((hourlyProvider.getLevels feedDown).2.getLevels firstHour).1 =
      .ok [⟨numberFromFloat 1 7, numberFromFloat (3 / 4) 7⟩] ∧
    (numberFromFloat (1 / 2) 7).value ≠ (numberFromFloat (3 / 4) 7).value := by
  refine ⟨hourlyProvider_feedDown, rfl, hourlyProvider_firstHour, ?_, by norm_num [toFixed, roundHalfAway]⟩
  rw [hourlyProvider_feedDown]
  simp [getLevels, makeBucketInfo, hourlyProvider, hourlyConfig, firstHour, makeFirstBucketFrame,
    makeRoundInfo, sizeBaseCapped, BucketInfo.baseRemaining, zeroThenHalf, ceilDate, floorDate,
    secondsInDay, secondsInHour]
  norm_num

end Kelp.Twap
