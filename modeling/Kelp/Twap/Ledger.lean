import Kelp.Twap.Calls

/-! The bucket ledger of the TWAP provider, over whole runs.

A bucket records how it was sized and what it has sold. Every bucket a call saves keeps its
accounts (`BucketInfo.Ledger`): its capacity is one of the configured daily caps shared evenly
over the buckets of the selling window, plus the surplus it took in; its minimum child order is
a share of the even share alone; and what it sold is the day's sales since its baseline. A first
frame, a refresh and a cutover each keep the accounts, the cutover whatever the bucket it
leaves, so every state a run reaches from the constructor keeps them (`run_ledger`): what is
left of the active bucket is its even share and its surplus less the day's sales since its
baseline.

A bucket's frame, everything but its sold-so-far values, never changes between calls: a call
refreshes the active bucket, cuts over to the one of the next index, or fails and keeps it. So
from any state, along any run, the active bucket's index never goes down and goes up by at most
one a call, and a run that ends in the bucket it began in has kept that bucket's frame
(`run_bucket_frame`). -/
namespace Kelp.Twap

namespace BucketInfo

/-- The even share of the day's cap over the buckets of the selling window: what a cutover
calls `averageBaseCapacity`. -/
def averageBaseCapacity (b : BucketInfo) : ℚ := b.dayBaseCapacity / b.totalBucketsTargeted

/-- The accounts a bucket keeps under a configuration. -/
structure Ledger (c : SellTwapConfig) (b : BucketInfo) : Prop where
  dayBaseCapacity : ∃ i, (c.dowFilter i).baseCap = .ok b.dayBaseCapacity
  totalBucketsTargeted :
    b.totalBucketsTargeted = ⌈((c.numHoursToSell * secondsInHour : ℤ) : ℚ) / c.parentBucketSizeSeconds⌉
  baseCapacity : b.baseCapacity = b.averageBaseCapacity + b.baseSurplusIncluded
  minOrderSizeBase : b.minOrderSizeBase = c.minChildOrderSizePercentOfParent * b.averageBaseCapacity
  baseSold : b.dynamicValues.baseSold = b.dynamicValues.dayBaseSold - b.dayBaseSoldStart

/-- What is left of a bucket that keeps its accounts: its even share and its surplus, less the
day's sales since its baseline. -/
theorem Ledger.baseRemaining {c : SellTwapConfig} {b : BucketInfo} (h : b.Ledger c) :
    b.baseRemaining =
      b.averageBaseCapacity + b.baseSurplusIncluded - (b.dynamicValues.dayBaseSold - b.dayBaseSoldStart) := by
  rw [BucketInfo.baseRemaining, h.baseCapacity, h.baseSold]

end BucketInfo

/-! ### One bucket -/

section Buckets
variable {c : ValidConfig} {now : ℤ} {i : Fin 7} {dailyVolume : Except String ℚ}
  {startTime secondsElapsedToday bID : ℤ} {rID : RoundID} {a b : BucketInfo}

/-- A first frame keeps the accounts, with no surplus. -/
theorem makeFirstBucketFrame_ledger
    (h : makeFirstBucketFrame c now (c.dowFilter i) dailyVolume startTime secondsElapsedToday bID rID =
      .ok b) :
    b.Ledger c.toSellTwapConfig ∧ b.baseSurplusIncluded = 0 := by
  rcases hc : (c.dowFilter i).baseCap with e | cap
  · simp [makeFirstBucketFrame, hc] at h
  rcases hd : dailyVolume with e | sold
  · simp [makeFirstBucketFrame, hc, hd] at h
  simp only [makeFirstBucketFrame, hc, hd, Except.ok.injEq] at h
  subst h
  exact ⟨⟨⟨i, hc⟩, rfl, (add_zero _).symm, rfl, (sub_self _).symm⟩, rfl⟩

/-- A refresh keeps the accounts: it counts the sales from the bucket's own baseline. -/
theorem updateExistingBucket_ledger {c : SellTwapConfig} (ha : a.Ledger c)
    (h : updateExistingBucket a dailyVolume rID = .ok b) : b.Ledger c := by
  obtain ⟨sold, -, rfl⟩ := updateExistingBucket_ok h
  exact ⟨ha.dayBaseCapacity, ha.totalBucketsTargeted, ha.baseCapacity, ha.minOrderSizeBase, rfl⟩

/-- A cutover keeps the accounts, whatever the bucket it leaves: its baseline is the last
sold-so-far of that bucket, and its surplus is added to its even share. -/
theorem cutoverToNewBucket_ledger
    (h : cutoverToNewBucket c a now (c.dowFilter i) dailyVolume startTime secondsElapsedToday bID
      rID = .ok b) : b.Ledger c.toSellTwapConfig := by
  obtain ⟨-, frame, hf, rfl⟩ := cutoverToNewBucket_ok h
  obtain ⟨hl, h0⟩ := makeFirstBucketFrame_ledger hf
  refine ⟨hl.dayBaseCapacity, hl.totalBucketsTargeted, ?_, hl.minOrderSizeBase, rfl⟩
  show frame.baseCapacity + _ = frame.averageBaseCapacity + _
  rw [hl.baseCapacity, h0, add_zero]

end Buckets

namespace SellTwapLevelProvider

/-- The active bucket, if any, keeps its accounts under the provider's configuration. -/
def Ledgered (p : SellTwapLevelProvider) : Prop :=
  ∀ a, p.activeBucket = some a → a.Ledger p.config.toSellTwapConfig

section Call
variable {p : SellTwapLevelProvider} {env : CallEnv}

/-- A call keeps the accounts of the active bucket. -/
theorem getLevels_ledgered (hp : Ledgered p) : Ledgered (p.getLevels env).2 := by
  rw [Ledgered, getLevels_config]
  rcases h : (p.getLevels env).1 with e | ls
  · rw [(getLevels_error h).1]
    exact hp
  · obtain ⟨b, round, hb, -, -, hs⟩ := getLevels_ok h
    rw [hs]
    rintro a ⟨⟩
    rcases makeBucketInfo_ok hb with ⟨-, hf⟩ | ⟨a, ha, -, hu⟩ | ⟨a, -, hc⟩
    · exact (makeFirstBucketFrame_ledger hf).1
    · exact updateExistingBucket_ledger (hp a ha) hu
    · exact cutoverToNewBucket_ledger hc

/-- A call keeps the active bucket's frame, or cuts over to the bucket of the next index. -/
theorem getLevels_bucket_step {a : BucketInfo} (ha : p.activeBucket = some a) (env : CallEnv) :
    ∃ b, (p.getLevels env).2.activeBucket = some b ∧
      ((b.ID = a.ID ∧ b = { a with dynamicValues := b.dynamicValues }) ∨ b.ID = a.ID + 1) := by
  rcases h : (p.getLevels env).1 with e | ls
  · exact ⟨a, (failed_call_keeps_bucket_and_round h).1.trans ha, .inl ⟨rfl, rfl⟩⟩
  · obtain ⟨b, round, hb, -, -, hs⟩ := getLevels_ok h
    refine ⟨b, by rw [hs], ?_⟩
    rcases makeBucketInfo_ok hb with ⟨hn, -⟩ | ⟨a', ha', -, hu⟩ | ⟨a', ha', hc⟩
    · rw [ha] at hn
      cases hn
    · obtain rfl := Option.some.inj (ha.symm.trans ha')
      obtain ⟨sold, -, rfl⟩ := updateExistingBucket_ok hu
      exact .inl ⟨rfl, rfl⟩
    · obtain rfl := Option.some.inj (ha.symm.trans ha')
      obtain ⟨hID, frame, hf, rfl⟩ := cutoverToNewBucket_ok hc
      obtain ⟨-, -, -, -, hfID, -⟩ := makeFirstBucketFrame_ok hf
      exact .inr (hfID.trans hID)

end Call

/-- **Every bucket keeps its accounts.** Take a provider that the constructor returned and any
run of calls, any results included. The active bucket's capacity is one of the configured daily
caps shared evenly over the buckets of the selling window, plus the surplus it took in; its
minimum child order is a share of the even share; and what it sold is the day's sales since its
baseline. -/
theorem run_ledger {c : SellTwapConfig} {random : RandSource} {p : SellTwapLevelProvider}
    (hp : makeSellTwapLevelProvider c random = .ok p) (envs : List CallEnv) {b : BucketInfo}
    (hb : (p.run envs).activeBucket = some b) : b.Ledger c := by
  obtain ⟨hc, -, -, ha, -⟩ := makeSellTwapLevelProvider_ok hp
  have hrun : Ledgered (p.run envs) :=
    run_induction (P := fun _ q => Ledgered q) [] (fun a h => by simp [ha] at h)
      fun _ q _ _ hq => getLevels_ledgered hq
  have := hrun b hb
  rwa [run_config, hc] at this

theorem run_ledger_firstHour : firstBucket.Ledger hourlyConfig.toSellTwapConfig :=
  run_ledger (p := hourlyProvider) (makeSellTwapLevelProvider_valid hourlyConfig zeroThenHalf)
    [firstHour] (by rw [hourlyProvider_run_firstHour])

/-- **A bucket's frame is fixed, and its index never skips.** From any state with an active
bucket, along any run of calls, any results included, the active bucket's index never goes down
and goes up by at most one a call; and if the run ends in a bucket of the index it began in,
that bucket is the one it began in, with only its sold-so-far values changed. -/
theorem run_bucket_frame {p : SellTwapLevelProvider} {a : BucketInfo}
    (ha : p.activeBucket = some a) (envs : List CallEnv) :
    ∃ b, (p.run envs).activeBucket = some b ∧ a.ID ≤ b.ID ∧ b.ID ≤ a.ID + envs.length ∧
      (b.ID = a.ID → b = { a with dynamicValues := b.dynamicValues }) := by
  have := run_induction (p := p)
    (P := fun pre q => ∃ b, q.activeBucket = some b ∧ a.ID ≤ b.ID ∧ b.ID ≤ a.ID + pre.length ∧
      (b.ID = a.ID → b = { a with dynamicValues := b.dynamicValues })) []
    ⟨a, ha, le_rfl, by simp, fun _ => rfl⟩
    fun pre q env (_ : env ∈ envs) ⟨b, hb, hlo, hhi, hframe⟩ => by
      obtain ⟨b', hb', hstep⟩ := getLevels_bucket_step hb env
      refine ⟨b', hb', ?_⟩
      rw [List.length_append, List.length_singleton, Nat.cast_add, Nat.cast_one]
      rcases hstep with ⟨hid, hb'eq⟩ | hid
      · refine ⟨by omega, by omega, fun h => ?_⟩
        rw [hb'eq, hframe (hid.symm.trans h)]
      · exact ⟨by omega, by omega, fun h => by omega⟩
  simpa using this

theorem run_bucket_frame_oversold :
    ∃ b, ((hourlyProvider.run [firstHour]).run [oversold]).activeBucket = some b ∧
      firstBucket.ID ≤ b.ID ∧ b.ID ≤ firstBucket.ID + [oversold].length ∧
      (b.ID = firstBucket.ID → b = { firstBucket with dynamicValues := b.dynamicValues }) :=
  run_bucket_frame (by rw [hourlyProvider_run_firstHour]) _

end SellTwapLevelProvider

end Kelp.Twap
