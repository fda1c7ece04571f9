import Kelp.Twap.Calls

/-! Runs of `GetLevels` calls.

A successful call saves the round ID one past the previous round's, and a failed
call saves none, so the successful calls of a run from a fresh provider get the IDs
0, 1, 2, … in order (`getLevels_roundID_counts_successes`).

`makeBucketInfo` compares bucket indices, never days. Within one UTC day every
bucket starts at the day's start and carries sold-so-far values read during the run
(`getLevels_bucket_of_day`). Across midnight, a call that lands on the same index
refreshes the previous day's bucket (`bucket_outlives_its_day`).

A bucket's minimum child order is a share of a day's cap. So with caps of at least
zero, the amount returned has the sign of what is left of the bucket
(`getLevels_amount_sign`), and sales past the bucket's capacity give a negative
amount (`oversold_bucket_negative_amount`). -/
namespace Kelp.Twap

namespace SellTwapLevelProvider

/-! ### Round IDs -/

theorem roundID_add_ofNat_zero (r : RoundID) : r + UInt64.ofNat 0 = r :=
  UInt64.eq_of_toBitVec_eq (BitVec.add_zero _)

theorem roundID_zero_add_ofNat (n : ℕ) : 0 + UInt64.ofNat n = UInt64.ofNat n :=
  UInt64.eq_of_toBitVec_eq (BitVec.zero_add _)

theorem roundID_add_ofNat_add (r : RoundID) (m n : ℕ) :
    r + UInt64.ofNat m + UInt64.ofNat n = r + UInt64.ofNat (m + n) :=
  UInt64.eq_of_toBitVec_eq (by
    show r.toBitVec + BitVec.ofNat 64 m + BitVec.ofNat 64 n = r.toBitVec + BitVec.ofNat 64 (m + n)
    rw [BitVec.add_assoc, BitVec.ofNat_add_ofNat])

section RoundIDs
variable {p : SellTwapLevelProvider} {env : CallEnv}

/-- A successful call saves the round ID it made. -/
theorem getLevels_previousRoundID {ls : List Level} (h : (p.getLevels env).1 = .ok ls) :
    (p.getLevels env).2.previousRoundID = some p.makeRoundID := by
  obtain ⟨b, round, -, hr, -, hs⟩ := getLevels_ok h
  obtain ⟨x, -, rfl⟩ := makeRoundInfo_ok hr
  rw [hs]

theorem getLevels_makeRoundID_ok {ls : List Level} (h : (p.getLevels env).1 = .ok ls) :
    (p.getLevels env).2.makeRoundID = p.makeRoundID + 1 := by
  show (match (p.getLevels env).2.previousRoundID with
    | none => 0
    | some r => r + 1) = _
  rw [getLevels_previousRoundID h]

theorem getLevels_makeRoundID_error {e : String} (h : (p.getLevels env).1 = .error e) :
    (p.getLevels env).2.makeRoundID = p.makeRoundID := by
  rw [(getLevels_error h).1]
  rfl

/-- The next round ID counts on from the first by the calls of the run that succeeded. -/
theorem run_makeRoundID (envs : List CallEnv) :
    (p.run envs).makeRoundID = p.makeRoundID + UInt64.ofNat (p.succeeded envs) := by
  induction envs generalizing p with
  | nil => exact (roundID_add_ofNat_zero _).symm
  | cons env rest ih =>
    rw [run_cons, ih, succeeded]
    rcases h : (p.getLevels env).1 with e | ls
    · rw [getLevels_makeRoundID_error h, Nat.zero_add]
    · rw [getLevels_makeRoundID_ok h, ← UInt64.ofNat_one, roundID_add_ofNat_add]

end RoundIDs

/-- **Round IDs count the successful calls.** In any run from a provider that the constructor
returned, a call that succeeds saves the round ID `n`, where `n` is the number of calls before it
that succeeded. -/
theorem getLevels_roundID_counts_successes {c : SellTwapConfig} {random : RandSource}
    {p : SellTwapLevelProvider} (hp : makeSellTwapLevelProvider c random = .ok p)
    (envs : List CallEnv) (env : CallEnv) {ls : List Level}
    (h : ((p.run envs).getLevels env).1 = .ok ls) :
    ((p.run envs).getLevels env).2.previousRoundID = some (UInt64.ofNat (p.succeeded envs)) := by
  rw [getLevels_previousRoundID h, run_makeRoundID]
  have hi : p.makeRoundID = 0 := by
    rw [makeRoundID, (makeSellTwapLevelProvider_ok hp).2.2.2.2]
  rw [hi, roundID_zero_add_ofNat]

/-! ### Within one day -/

/-- A sold-so-far value that one of the run's daily-volume queries returned. -/
def Reading (envs : List CallEnv) (x : ℚ) : Prop := ∃ e ∈ envs, e.dailyVolume = .ok x

/-- The active bucket, if any, started at `day`, and its sold-so-far baseline and its last
sold-so-far were read during the run. -/
def DayBuckets (day : ℤ) (envs : List CallEnv) (p : SellTwapLevelProvider) : Prop :=
  ∀ a, p.activeBucket = some a →
    a.startTime = day ∧ Reading envs a.dayBaseSoldStart ∧ Reading envs a.dynamicValues.dayBaseSold

section Day
variable {p : SellTwapLevelProvider} {now : ℤ} {volFilter : DayFilter}
  {dailyVolume : Except String ℚ} {rID : RoundID} {b : BucketInfo} {env : CallEnv}

/-- The bucket of a call has the index of the call's time and the sold-so-far it read. It
starts at the call's day, from this call's reading or the active bucket's last one, or else it
is the active bucket with its start and its baseline. -/
theorem makeBucketInfo_day (h : p.makeBucketInfo now volFilter dailyVolume rID = .ok b) :
    b.ID = (now - floorDate now) / p.config.parentBucketSizeSeconds ∧
    dailyVolume = .ok b.dynamicValues.dayBaseSold ∧
    ((b.startTime = floorDate now ∧ dailyVolume = .ok b.dayBaseSoldStart) ∨
      ∃ a, p.activeBucket = some a ∧
        ((b.startTime = floorDate now ∧ b.dayBaseSoldStart = a.dynamicValues.dayBaseSold) ∨
          (b.startTime = a.startTime ∧ b.dayBaseSoldStart = a.dayBaseSoldStart))) := by
  rcases makeBucketInfo_ok h with ⟨-, hf⟩ | ⟨a, ha, hi, hu⟩ | ⟨a, ha, hc⟩
  · obtain ⟨cap, sold, -, hd, hID, hst, hss, hdyn, -⟩ := makeFirstBucketFrame_ok hf
    exact ⟨hID, by rw [hd, hdyn], Or.inl ⟨hst, by rw [hd, hss]⟩⟩
  · obtain ⟨sold, hd, rfl⟩ := updateExistingBucket_ok hu
    exact ⟨hi.symm, hd, Or.inr ⟨a, ha, Or.inr ⟨rfl, rfl⟩⟩⟩
  · obtain ⟨-, frame, hf, rfl⟩ := cutoverToNewBucket_ok hc
    obtain ⟨cap, sold, -, hd, hID, hst, hss, -⟩ := makeFirstBucketFrame_ok hf
    exact ⟨hID, by rw [hd, hss], Or.inr ⟨a, ha, Or.inl ⟨hst, rfl⟩⟩⟩

/-- A call of the day keeps the day's buckets. -/
theorem getLevels_dayBuckets {day : ℤ} {pre : List CallEnv} (hday : floorDate env.now = day)
    (hp : DayBuckets day pre p) : DayBuckets day (pre ++ [env]) (p.getLevels env).2 := by
  have before : ∀ x, Reading pre x → Reading (pre ++ [env]) x :=
    fun x ⟨e, he, hx⟩ => ⟨e, List.mem_append_left _ he, hx⟩
  have this_call : ∀ x, env.dailyVolume = .ok x → Reading (pre ++ [env]) x :=
    fun x hx => ⟨env, by simp, hx⟩
  rcases h : (p.getLevels env).1 with e | ls
  · intro a ha
    rw [(failed_call_keeps_bucket_and_round h).1] at ha
    obtain ⟨h1, h2, h3⟩ := hp a ha
    exact ⟨h1, before _ h2, before _ h3⟩
  · obtain ⟨b, round, hb, -, -, hs⟩ := getLevels_ok h
    intro a ha
    rw [hs] at ha
    obtain rfl := Option.some.inj ha
    obtain ⟨-, hd, hcase⟩ := makeBucketInfo_day hb
    rcases hcase with ⟨hst, hss⟩ | ⟨a', ha', ⟨hst, hss⟩ | ⟨hst, hss⟩⟩
    · exact ⟨hst.trans hday, this_call _ hss, this_call _ hd⟩
    · exact ⟨hst.trans hday, by rw [hss]; exact before _ (hp a' ha').2.2, this_call _ hd⟩
    · exact ⟨hst.trans (hp a' ha').1, by rw [hss]; exact before _ (hp a' ha').2.1, this_call _ hd⟩

end Day

/-- **Within one UTC day, buckets belong to the day.** Take a provider that the constructor
returned and a run of calls, any results included, on the day of a next call. If that call
succeeds, the bucket it saves starts at the day's start, has the index of the call's time, keeps
a sold-so-far baseline that one of the run's daily-volume queries returned, and carries the
sold-so-far this call read. -/
theorem getLevels_bucket_of_day {c : SellTwapConfig} {random : RandSource}
    {p : SellTwapLevelProvider} (hp : makeSellTwapLevelProvider c random = .ok p)
    (envs : List CallEnv) (env : CallEnv) (hday : ∀ e ∈ envs, floorDate e.now = floorDate env.now)
    {ls : List Level} (h : ((p.run envs).getLevels env).1 = .ok ls) :
    ∃ b, ((p.run envs).getLevels env).2.activeBucket = some b ∧
      b.startTime = floorDate env.now ∧
      b.ID = (env.now - floorDate env.now) / c.parentBucketSizeSeconds ∧
      Reading (envs ++ [env]) b.dayBaseSoldStart ∧
      env.dailyVolume = .ok b.dynamicValues.dayBaseSold := by
  obtain ⟨rfl, -, -, ha, -⟩ := makeSellTwapLevelProvider_ok hp
  have hrun : DayBuckets (floorDate env.now) envs (p.run envs) :=
    run_induction (P := DayBuckets (floorDate env.now)) []
      (fun a h => by simp [ha] at h) fun _ q e he hq => getLevels_dayBuckets (hday e he) hq
  obtain ⟨b, round, hb, -, -, hs⟩ := getLevels_ok h
  obtain ⟨hID, hd, -⟩ := makeBucketInfo_day hb
  obtain ⟨hst, hss, -⟩ := getLevels_dayBuckets rfl hrun b (by rw [hs])
  refine ⟨b, by rw [hs], hst, ?_, hss, hd⟩
  rw [hID, run_config]

/-! ### The sign of the amount -/

/-- The active bucket, if any, has a minimum child order of at least zero. -/
def MinOrderNonneg (p : SellTwapLevelProvider) : Prop :=
  ∀ a, p.activeBucket = some a → 0 ≤ a.minOrderSizeBase

section Sign
variable {p : SellTwapLevelProvider} {now : ℤ} {volFilter : DayFilter}
  {dailyVolume : Except String ℚ} {rID : RoundID} {b : BucketInfo} {env : CallEnv}

/-- A call's minimum child order is a share of the day's cap over a positive number of buckets,
or the active bucket's. -/
theorem makeBucketInfo_minOrderSizeBase (h : p.makeBucketInfo now volFilter dailyVolume rID = .ok b) :
    (∃ cap, volFilter.baseCap = .ok cap ∧ ∃ T : ℤ, 0 < T ∧
      b.minOrderSizeBase = p.config.minChildOrderSizePercentOfParent * (cap / T)) ∨
    ∃ a, p.activeBucket = some a ∧ b.minOrderSizeBase = a.minOrderSizeBase := by
  have frame : ∀ f : BucketInfo, makeFirstBucketFrame p.config now volFilter dailyVolume
      (floorDate now) (now - floorDate now)
      ((now - floorDate now) / p.config.parentBucketSizeSeconds) rID = .ok f →
      ∃ cap, volFilter.baseCap = .ok cap ∧ ∃ T : ℤ, 0 < T ∧
        f.minOrderSizeBase = p.config.minChildOrderSizePercentOfParent * (cap / T) := by
    intro f hf
    obtain ⟨cap, -, hc, -, -, -, -, -, hT, hcap, hmin⟩ := makeFirstBucketFrame_ok hf
    exact ⟨cap, hc, _, hT, by rw [hmin, hcap]⟩
  rcases makeBucketInfo_ok h with ⟨-, hf⟩ | ⟨a, ha, -, hu⟩ | ⟨a, -, hc⟩
  · exact Or.inl (frame b hf)
  · obtain ⟨sold, -, rfl⟩ := updateExistingBucket_ok hu
    exact Or.inr ⟨a, ha, rfl⟩
  · obtain ⟨-, f, hf, rfl⟩ := cutoverToNewBucket_ok hc
    exact Or.inl (frame f hf)

/-- With caps of at least zero, a call keeps minimum child orders at least zero. -/
theorem getLevels_minOrderNonneg
    (hcap : ∀ i cap, (p.config.dowFilter i).baseCap = .ok cap → 0 ≤ cap)
    (hp : MinOrderNonneg p) : MinOrderNonneg (p.getLevels env).2 := by
  rcases h : (p.getLevels env).1 with e | ls
  · intro a ha
    rw [(failed_call_keeps_bucket_and_round h).1] at ha
    exact hp a ha
  · obtain ⟨b, round, hb, -, -, hs⟩ := getLevels_ok h
    intro a ha
    rw [hs] at ha
    obtain rfl := Option.some.inj ha
    rcases makeBucketInfo_minOrderSizeBase hb with ⟨cap, hc, T, hT, hmin⟩ | ⟨a', ha', hmin⟩
    · rw [hmin]
      exact mul_nonneg p.config.minChild_nonneg
        (div_nonneg (hcap _ _ hc) (by exact_mod_cast hT.le))
    · rw [hmin]
      exact hp a' ha'

end Sign

/-- **The amount has the sign of what is left of the bucket.** Take a provider that the
constructor returned for a configuration whose daily caps are at least zero, and any run of
calls, any results included. If a next call succeeds, the bucket it saves has a minimum child
order of at least zero, and the amount returned is at least zero while the bucket's sales have
not passed its capacity, and at most zero once they have. -/
theorem getLevels_amount_sign {c : SellTwapConfig} {random : RandSource}
    {p : SellTwapLevelProvider} (hp : makeSellTwapLevelProvider c random = .ok p)
    (hcap : ∀ i cap, (c.dowFilter i).baseCap = .ok cap → 0 ≤ cap)
    (envs : List CallEnv) (env : CallEnv) {ls : List Level}
    (h : ((p.run envs).getLevels env).1 = .ok ls) :
    ∃ b, ((p.run envs).getLevels env).2.activeBucket = some b ∧ 0 ≤ b.minOrderSizeBase ∧
      (0 ≤ b.baseRemaining → ∀ l ∈ ls, 0 ≤ l.amount.value) ∧
      (b.baseRemaining < 0 → ∀ l ∈ ls, l.amount.value ≤ 0) := by
  obtain ⟨rfl, -, -, ha, -⟩ := makeSellTwapLevelProvider_ok hp
  have hrun : (p.run envs).config = p.config ∧ MinOrderNonneg (p.run envs) :=
    run_induction (P := fun _ q => q.config = p.config ∧ MinOrderNonneg q) []
      ⟨rfl, fun a h => by simp [ha] at h⟩
      fun _ q _ _ ⟨hc, hq⟩ => ⟨(getLevels_config q _).trans hc,
        getLevels_minOrderNonneg (hc ▸ hcap) hq⟩
  obtain ⟨b, round, -, hr, rfl, hs⟩ := getLevels_ok h
  have hmin := getLevels_minOrderNonneg (hrun.1 ▸ hcap) hrun.2 b (by rw [hs])
  obtain ⟨x, -, rfl⟩ := makeRoundInfo_ok hr
  refine ⟨b, by rw [hs], hmin, fun hR => ?_, fun hR => ?_⟩ <;>
    simp only [List.mem_singleton, forall_eq, numberFromFloat_value]
  · exact toFixed_nonneg (sizeBaseCapped_nonneg _ hmin hR) _
  · simpa using toFixed_mono ((sizeBaseCapped_le _ b).trans hR.le) (p.run envs).config.volumePrecision

end SellTwapLevelProvider

/-! ### The example provider -/

open SellTwapLevelProvider

/-- After a first call of the day, two units sold within the hour whose bucket holds one: the
call refreshes the bucket and asks for −1. -/
theorem hourlyProvider_oversold :
    ((hourlyProvider.run [firstHour]).getLevels oversold).1 =
      .ok [⟨numberFromFloat 1 7, numberFromFloat (-1) 7⟩] := by
  rw [hourlyProvider_run_firstHour]
  simp [getLevels, makeBucketInfo, hourlyConfig, oversold, firstBucket, updateExistingBucket,
    makeRoundInfo, sizeBaseCapped, BucketInfo.baseRemaining, makeRoundID, floorDate, secondsInDay,
    secondsInHour]
  norm_num

theorem getLevels_roundID_counts_successes_hourly :
    ((hourlyProvider.run [firstHour, feedDown]).getLevels oversold).2.previousRoundID =
      some (UInt64.ofNat (hourlyProvider.succeeded [firstHour, feedDown])) :=
  getLevels_roundID_counts_successes (makeSellTwapLevelProvider_valid hourlyConfig zeroThenHalf)
    _ _ (show _ = .ok [⟨numberFromFloat 1 7, numberFromFloat (-1) 7⟩] by
      simp [getLevels, makeBucketInfo, hourlyProvider, hourlyConfig, firstHour, feedDown, oversold,
        makeFirstBucketFrame, updateExistingBucket, makeRoundInfo, sizeBaseCapped,
        BucketInfo.baseRemaining, zeroThenHalf, makeRoundID, ceilDate, floorDate, secondsInDay,
        secondsInHour]
      norm_num)

theorem getLevels_bucket_of_day_oversold :
    ∃ b, ((hourlyProvider.run [firstHour]).getLevels oversold).2.activeBucket = some b ∧
      b.startTime = floorDate oversold.now ∧
      b.ID = (oversold.now - floorDate oversold.now) /
        hourlyConfig.toSellTwapConfig.parentBucketSizeSeconds ∧
      Reading ([firstHour] ++ [oversold]) b.dayBaseSoldStart ∧
      oversold.dailyVolume = .ok b.dynamicValues.dayBaseSold :=
  getLevels_bucket_of_day (makeSellTwapLevelProvider_valid hourlyConfig zeroThenHalf) _ _
    (by simp [firstHour, oversold, floorDate, secondsInDay, secondsInHour]) hourlyProvider_oversold

/-- A day later, a call in the same hourly bucket refreshes the previous day's bucket, which
still starts at midnight of the day before. -/
theorem bucket_outlives_its_day :
    makeSellTwapLevelProvider hourlyConfig.toSellTwapConfig zeroThenHalf = .ok hourlyProvider ∧
    firstHour.now ≤ nextDay.now ∧
    ((hourlyProvider.run [firstHour]).getLevels nextDay).1 =
      .ok [⟨numberFromFloat 1 7, numberFromFloat (3 / 4) 7⟩] ∧
    ∃ b, ((hourlyProvider.run [firstHour]).getLevels nextDay).2.activeBucket = some b ∧
      b.startTime = 0 ∧ floorDate nextDay.now = 86400 := by
  refine ⟨makeSellTwapLevelProvider_valid hourlyConfig zeroThenHalf, by decide, ?_, ?_⟩ <;>
  · rw [hourlyProvider_run_firstHour]
    simp [getLevels, makeBucketInfo, hourlyConfig, nextDay, firstBucket, updateExistingBucket,
      makeRoundInfo, sizeBaseCapped, BucketInfo.baseRemaining, zeroThenHalf, makeRoundID,
      floorDate, secondsInDay, secondsInHour] <;>
    norm_num

theorem hourlyConfig_caps_nonneg :
    ∀ i cap, (hourlyConfig.dowFilter i).baseCap = .ok cap → 0 ≤ cap := by
  intro i cap h
  simp only [hourlyConfig, Except.ok.injEq] at h
  rw [← h]
  norm_num

theorem getLevels_amount_sign_oversold :
    ∃ b, ((hourlyProvider.run [firstHour]).getLevels oversold).2.activeBucket = some b ∧
      0 ≤ b.minOrderSizeBase ∧
      (0 ≤ b.baseRemaining →
        ∀ l ∈ [(⟨numberFromFloat 1 7, numberFromFloat (-1) 7⟩ : Level)], 0 ≤ l.amount.value) ∧
      (b.baseRemaining < 0 →
        ∀ l ∈ [(⟨numberFromFloat 1 7, numberFromFloat (-1) 7⟩ : Level)], l.amount.value ≤ 0) :=
  getLevels_amount_sign (makeSellTwapLevelProvider_valid hourlyConfig zeroThenHalf)
    hourlyConfig_caps_nonneg _ _ hourlyProvider_oversold

/-- Within the first hour, with a cap of at least zero and sales rising from 0 to 2 units
against a bucket of one, the level asks for −1. -/
theorem oversold_bucket_negative_amount :
    makeSellTwapLevelProvider hourlyConfig.toSellTwapConfig zeroThenHalf = .ok hourlyProvider ∧
    (∀ i cap, (hourlyConfig.dowFilter i).baseCap = .ok cap → 0 ≤ cap) ∧
    floorDate firstHour.now = floorDate oversold.now ∧
    firstHour.dailyVolume = .ok 0 ∧ oversold.dailyVolume = .ok 2 ∧
    ((hourlyProvider.run [firstHour]).getLevels oversold).1 =
      .ok [⟨numberFromFloat 1 7, numberFromFloat (-1) 7⟩] ∧
    (numberFromFloat (-1) 7).value < 0 :=
  ⟨makeSellTwapLevelProvider_valid hourlyConfig zeroThenHalf, hourlyConfig_caps_nonneg,
    by simp [firstHour, oversold, floorDate, secondsInDay, secondsInHour], rfl, rfl,
    hourlyProvider_oversold, by norm_num [toFixed, roundHalfAway]⟩

end Kelp.Twap
