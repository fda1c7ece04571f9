import Kelp.Model.Number

/-! The TWAP level provider: `sellTwapLevelProvider`.

Each `GetLevels` call returns one sell level. The day is cut into buckets of
`parentBucketSizeSeconds`; the provider keeps the bucket of its last successful
call (`activeBucket`) and that call's round number (`previousRoundID`). A call
makes the bucket of its own time: the first bucket from scratch, the same bucket
again with fresh sold-so-far values, or the next bucket, which folds the surplus
of the elapsed ones into its capacity; any other jump is an error. It then sizes
the round (the rest of the bucket when that is below the minimum child order,
else a random size between the two), asks the price feed, and on success saves
the bucket and the round.

Time is the call's Unix time in seconds, in UTC. The world's answers during a
call (the daily-volume query, the price feed) are inputs of the call
(`CallEnv`). The seeded generator is its stream of `Float64` draws and the number
of draws taken. -/
namespace Kelp.Twap

def secondsInHour : ℤ := 60 * 60

def secondsInDay : ℤ := 24 * secondsInHour

/-- `floorDate`: the start of the UTC day. -/
def floorDate (t : ℤ) : ℤ := t - t % secondsInDay

/-- `ceilDate`: the start of the next UTC day. -/
def ceilDate (t : ℤ) : ℤ := floorDate t + secondsInDay

/-- `time.Weekday` in UTC, Sunday first; 1 January 1970 was a Thursday. -/
def weekday (t : ℤ) : Fin 7 :=
  ⟨((t / secondsInDay + 4) % 7).toNat, by omega⟩

/-- `fmt`'s `%.f`: the nearest whole number, ties to even, with the sign of a negative value
that rounds to zero. -/
def formatNoDecimals (x : ℚ) : String :=
  let f := ⌊x⌋
  let z := if x - f < 1 / 2 then f else if x - f > 1 / 2 then f + 1
    else if f % 2 = 0 then f else f + 1
  (if x < 0 ∧ z = 0 then "-" else "") ++ toString z

/-- What the provider reads of a day's `volumeFilter`, whose methods are not among the sources:
whether it sells the base asset, its base cap (`mustGetBaseAssetCapInBaseUnits`), and its
configuration as `%s` prints it. -/
structure DayFilter where
  isSellingBase : Bool
  baseCap : Except String ℚ
  configValue : String

/-- The arguments of `makeSellTwapLevelProvider` that the provider checks and keeps. The price
feed is asked during each call (`CallEnv`); the rate offset's `apply` is not among the
sources. -/
structure SellTwapConfig where
  offset : ℚ → ℚ × Bool
  pricePrecision : ℕ
  volumePrecision : ℕ
  dowFilter : Fin 7 → DayFilter
  numHoursToSell : ℤ
  parentBucketSizeSeconds : ℤ
  distributeSurplusOverRemainingIntervalsPercentCeiling : ℚ
  exponentialSmoothingFactor : ℚ
  minChildOrderSizePercentOfParent : ℚ

/-- A configuration `makeSellTwapLevelProvider` accepts. -/
structure ValidConfig extends SellTwapConfig where
  numHoursToSell_pos : 0 < numHoursToSell
  numHoursToSell_le : numHoursToSell ≤ 24
  parentBucketSizeSeconds_pos : 0 < parentBucketSizeSeconds
  parentBucketSizeSeconds_le : parentBucketSizeSeconds ≤ secondsInDay
  parentBucketSizeSeconds_dvd : secondsInDay % parentBucketSizeSeconds = 0
  distribute_nonneg : 0 ≤ distributeSurplusOverRemainingIntervalsPercentCeiling
  distribute_le : distributeSurplusOverRemainingIntervalsPercentCeiling ≤ 1
  smoothing_nonneg : 0 ≤ exponentialSmoothingFactor
  smoothing_le : exponentialSmoothingFactor ≤ 1
  minChild_nonneg : 0 ≤ minChildOrderSizePercentOfParent
  minChild_le : minChildOrderSizePercentOfParent ≤ 1
  sellingBase : ∀ i, (dowFilter i).isSellingBase = true

/-- A seeded `rand.Rand`: the `Float64` draws it gives, in order, each in `[0, 1)`. -/
structure RandSource where
  float64 : ℕ → ℚ
  float64_nonneg : ∀ k, 0 ≤ float64 k
  float64_lt_one : ∀ k, float64 k < 1

abbrev RoundID := UInt64

structure DynamicBucketValues where
  isNew : Bool
  roundID : RoundID
  dayBaseSold : ℚ
  baseSold : ℚ

structure BucketInfo where
  ID : ℤ
  startTime : ℤ
  endTime : ℤ
  totalBuckets : ℤ
  totalBucketsTargeted : ℤ
  dayBaseSoldStart : ℚ
  dayBaseCapacity : ℚ
  baseSurplusIncluded : ℚ
  baseCapacity : ℚ
  minOrderSizeBase : ℚ
  dynamicValues : DynamicBucketValues

namespace BucketInfo

def dayBaseRemaining (b : BucketInfo) : ℚ := b.dayBaseCapacity - b.dynamicValues.dayBaseSold

def baseRemaining (b : BucketInfo) : ℚ := b.baseCapacity - b.dynamicValues.baseSold

end BucketInfo

structure RoundInfo where
  ID : RoundID
  bucketID : ℤ
  now : ℤ
  secondsElapsedToday : ℤ
  sizeBaseCapped : ℚ
  price : ℚ

structure Level where
  price : Number
  amount : Number

/-- `sellTwapLevelProvider`: its accepted configuration, its generator with the draws taken,
and the state it keeps between calls. -/
structure SellTwapLevelProvider where
  config : ValidConfig
  random : RandSource
  draws : ℕ
  activeBucket : Option BucketInfo
  previousRoundID : Option RoundID

/-- What the world answers during one `GetLevels` call: the time, the daily-volume query's
base volume, and the price feed, each asked at most once. -/
structure CallEnv where
  now : ℤ
  dailyVolume : Except String ℚ
  price : Except String ℚ

/-! ### The constructor -/

/-- One of the checks that a fraction lies in `[0, 1]`, with the value its message shows. -/
def checkUnitInterval (name : String) (value shown : ℚ) : Option String :=
  if value < 0 ∨ value > 1 then
    some (name ++ " is invalid, expected 0.0 <= " ++ name ++ " <= 1.0; was " ++
      formatNoDecimals shown)
  else none

def firstNotSellingBase (dowFilter : Fin 7 → DayFilter) : Option (Fin 7) :=
  (List.finRange 7).find? fun i => !(dowFilter i).isSellingBase

theorem sellingBase_of_firstNotSellingBase {dowFilter : Fin 7 → DayFilter}
    (h : firstNotSellingBase dowFilter = none) (i : Fin 7) : (dowFilter i).isSellingBase = true := by
  have := List.find?_eq_none.mp h i (List.mem_finRange i)
  simpa using this

theorem checkUnitInterval_eq_none {name : String} {value shown : ℚ}
    (h : checkUnitInterval name value shown = none) : 0 ≤ value ∧ value ≤ 1 := by
  unfold checkUnitInterval at h
  split_ifs at h with hv
  push_neg at hv
  exact hv

/-- `makeSellTwapLevelProvider`, seeded with `random`. -/
def makeSellTwapLevelProvider (c : SellTwapConfig) (random : RandSource) :
    Except String SellTwapLevelProvider :=
  if h1 : c.numHoursToSell ≤ 0 ∨ c.numHoursToSell > 24 then
    .error ("invalid number of hours to sell, expected 0 < numHoursToSell <= 24; was " ++
      toString c.numHoursToSell)
  else if h2 : c.parentBucketSizeSeconds ≤ 0 ∨ c.parentBucketSizeSeconds > secondsInDay then
    .error ("invalid value for parentBucketSizeSeconds, expected 0 < parentBucketSizeSeconds <= " ++
      toString secondsInDay ++ " (secondsInDay); was " ++ toString c.parentBucketSizeSeconds)
  else if h3 : secondsInDay % c.parentBucketSizeSeconds ≠ 0 then
    .error ("parentBucketSizeSeconds needs to perfectly divide secondsInDay but it does not; " ++
      "secondsInDay is " ++ toString secondsInDay ++ " and parentBucketSizeSeconds was " ++
      toString c.parentBucketSizeSeconds)
  else
    match h4 : checkUnitInterval "distributeSurplusOverRemainingIntervalsPercentCeiling"
        c.distributeSurplusOverRemainingIntervalsPercentCeiling
        c.distributeSurplusOverRemainingIntervalsPercentCeiling with
    | some e => .error e
    | none =>
    match h5 : checkUnitInterval "exponentialSmoothingFactor" c.exponentialSmoothingFactor
        c.exponentialSmoothingFactor with
    | some e => .error e
    | none =>
    match h6 : checkUnitInterval "minChildOrderSizePercentOfParent"
        c.minChildOrderSizePercentOfParent c.exponentialSmoothingFactor with
    | some e => .error e
    | none =>
    match h7 : firstNotSellingBase c.dowFilter with
    | some i =>
      .error ("volume filter at index " ++ toString i ++
        " was not selling the base asset as expected: " ++ (c.dowFilter i).configValue)
    | none =>
      .ok { config := { c with
              numHoursToSell_pos := by omega
              numHoursToSell_le := by omega
              parentBucketSizeSeconds_pos := by omega
              parentBucketSizeSeconds_le := by omega
              parentBucketSizeSeconds_dvd := by omega
              distribute_nonneg := (checkUnitInterval_eq_none h4).1
              distribute_le := (checkUnitInterval_eq_none h4).2
              smoothing_nonneg := (checkUnitInterval_eq_none h5).1
              smoothing_le := (checkUnitInterval_eq_none h5).2
              minChild_nonneg := (checkUnitInterval_eq_none h6).1
              minChild_le := (checkUnitInterval_eq_none h6).2
              sellingBase := sellingBase_of_firstNotSellingBase h7 }
            random := random
            draws := 0
            activeBucket := none
            previousRoundID := none }

/-! ### Buckets -/

section Buckets
variable (c : ValidConfig)

/-- `sellTwapLevelProvider.makeFirstBucketFrame`: a bucket of the day's capacity shared evenly
over the buckets of the selling window, nothing sold in it yet. -/
def makeFirstBucketFrame (now : ℤ) (volFilter : DayFilter) (dailyVolume : Except String ℚ)
    (startTime _secondsElapsedToday bID : ℤ) (rID : RoundID) : Except String BucketInfo :=
  let endTime := ceilDate now
  let totalBuckets := ⌈((endTime - startTime : ℤ) : ℚ) / c.parentBucketSizeSeconds⌉
  let totalBucketsTargeted :=
    ⌈((c.numHoursToSell * secondsInHour : ℤ) : ℚ) / c.parentBucketSizeSeconds⌉
  match volFilter.baseCap with
  | .error e => .error ("could not fetch base asset cap in base units: " ++ e)
  | .ok dayBaseCapacity =>
    match dailyVolume with
    | .error e => .error ("could not fetch daily values for today: " ++ e)
    | .ok dayBaseSoldStart =>
      let baseSurplus := 0
      let baseCapacity := dayBaseCapacity / totalBucketsTargeted
      let minOrderSizeBase := c.minChildOrderSizePercentOfParent * baseCapacity
      .ok { ID := bID, startTime := startTime, endTime := endTime, totalBuckets := totalBuckets,
            totalBucketsTargeted := totalBucketsTargeted, dayBaseSoldStart := dayBaseSoldStart,
            dayBaseCapacity := dayBaseCapacity, baseSurplusIncluded := baseSurplus,
            baseCapacity := baseCapacity, minOrderSizeBase := minOrderSizeBase,
            dynamicValues := ⟨true, rID, dayBaseSoldStart, 0⟩ }

/-- `sellTwapLevelProvider.updateExistingBucket`: the active bucket with fresh sold-so-far
values. -/
def updateExistingBucket (activeBucket : BucketInfo) (dailyVolume : Except String ℚ)
    (rID : RoundID) : Except String BucketInfo :=
  match dailyVolume with
  | .error e => .error ("could not fetch daily values for today: " ++ e)
  | .ok dayBaseSold =>
    .ok { activeBucket with
          dynamicValues := ⟨false, rID, dayBaseSold, dayBaseSold - activeBucket.dayBaseSoldStart⟩ }

/-- `sellTwapLevelProvider.firstDistributionOfBaseSurplus`: the first term `a` of the geometric
series of ratio `exponentialSmoothingFactor` whose `n` terms add up to the surplus. -/
def firstDistributionOfBaseSurplus (totalSurplus : ℚ) (totalRemainingBuckets : ℤ) : ℚ :=
  let Sn := totalSurplus
  let r := c.exponentialSmoothingFactor
  let n := ⌈c.distributeSurplusOverRemainingIntervalsPercentCeiling * totalRemainingBuckets⌉
  Sn * (r - 1) / (r ^ n - 1)

/-- `sellTwapLevelProvider.cutoverToNewBucket`: the next bucket, starting from where the active
one's sales ended, with the surplus of the elapsed buckets folded into its capacity. -/
def cutoverToNewBucket (activeBucket : BucketInfo) (now : ℤ) (volFilter : DayFilter)
    (dailyVolume : Except String ℚ) (startTime secondsElapsedToday bID : ℤ) (rID : RoundID) :
    Except String BucketInfo :=
  if bID ≠ activeBucket.ID + 1 then
    .error ("new bucketID (" ++ toString bID ++ ") was not one more than the previous bucketID (" ++
      toString activeBucket.ID ++ ")")
  else
    match makeFirstBucketFrame c now volFilter dailyVolume startTime secondsElapsedToday bID rID with
    | .error e =>
      .error ("unable to make first bucket frame when cutting over with new bucketID (ID=" ++
        toString bID ++ "): " ++ e)
    | .ok bucket =>
      let thisBucketDayBaseSoldStart := activeBucket.dynamicValues.dayBaseSold
      let thisBucketDayBaseSold := bucket.dayBaseSoldStart
      let averageBaseCapacity := bucket.baseCapacity
      let numPreviousBuckets := bID
      let expectedSold := averageBaseCapacity * numPreviousBuckets
      let totalSurplus := expectedSold - thisBucketDayBaseSoldStart
      let totalRemainingBuckets := bucket.totalBuckets - numPreviousBuckets
      let baseSurplusIncluded := firstDistributionOfBaseSurplus c totalSurplus totalRemainingBuckets
      .ok { bucket with
            dayBaseSoldStart := thisBucketDayBaseSoldStart
            dynamicValues := ⟨true, rID, thisBucketDayBaseSold,
              thisBucketDayBaseSold - thisBucketDayBaseSoldStart⟩
            baseSurplusIncluded := baseSurplusIncluded
            baseCapacity := averageBaseCapacity + baseSurplusIncluded }

end Buckets

/-! ### A call -/

namespace SellTwapLevelProvider
variable (p : SellTwapLevelProvider)

/-- `sellTwapLevelProvider.makeBucketInfo`: the bucket of the call's time. -/
def makeBucketInfo (now : ℤ) (volFilter : DayFilter) (dailyVolume : Except String ℚ)
    (rID : RoundID) : Except String BucketInfo :=
  let startTime := floorDate now
  let secondsElapsedToday := now - startTime
  let bID := secondsElapsedToday / p.config.parentBucketSizeSeconds
  match p.activeBucket with
  | none =>
    match makeFirstBucketFrame p.config now volFilter dailyVolume startTime secondsElapsedToday
        bID rID with
    | .error e => .error ("could not make first bucket: " ++ e)
    | .ok bucket => .ok bucket
  | some activeBucket =>
    if bID = activeBucket.ID then
      match updateExistingBucket activeBucket dailyVolume rID with
      | .error e => .error ("could not update existing bucket (ID=" ++ toString bID ++ "): " ++ e)
      | .ok bucket => .ok bucket
    else
      cutoverToNewBucket p.config activeBucket now volFilter dailyVolume startTime
        secondsElapsedToday bID rID

def makeRoundID : RoundID :=
  match p.previousRoundID with
  | none => 0
  | some previousRoundID => previousRoundID + 1

/-- The size of a round in `makeRoundInfo`, `sizeBaseCapped`, with the count of draws after it:
the rest of the bucket when that is within the minimum child order, else a uniform draw between
the minimum and the rest. -/
def sizeBaseCapped (bucket : BucketInfo) : ℚ × ℕ :=
  if bucket.baseRemaining ≤ bucket.minOrderSizeBase then (bucket.baseRemaining, p.draws)
  else (bucket.minOrderSizeBase + p.random.float64 p.draws *
    (bucket.baseRemaining - bucket.minOrderSizeBase), p.draws + 1)

/-- `sellTwapLevelProvider.makeRoundInfo`: the round's size and price, and the count of draws
taken from the generator, which moves on when the size is drawn, whatever the feed answers
after it. -/
def makeRoundInfo (rID : RoundID) (now : ℤ) (bucket : BucketInfo) (price : Except String ℚ) :
    Except String RoundInfo × ℕ :=
  let secondsElapsedToday := now - bucket.startTime
  let sized := p.sizeBaseCapped bucket
  match price with
  | .error e => (.error ("could not get price from feed: " ++ e), sized.2)
  | .ok price =>
    (.ok { ID := rID, bucketID := bucket.ID, now := now, secondsElapsedToday := secondsElapsedToday,
           sizeBaseCapped := sized.1, price := (p.config.offset price).1 }, sized.2)

/-- `sellTwapLevelProvider.GetLevels`: the level, and the provider after the call. -/
def getLevels (env : CallEnv) : Except String (List Level) × SellTwapLevelProvider :=
  let volFilter := p.config.dowFilter (weekday env.now)
  let rID := p.makeRoundID
  match p.makeBucketInfo env.now volFilter env.dailyVolume rID with
  | .error e => (.error ("unable to make bucketInfo: " ++ e), p)
  | .ok bucket =>
    match p.makeRoundInfo rID env.now bucket env.price with
    | (.error e, draws) => (.error ("unable to make roundInfo: " ++ e), { p with draws := draws })
    | (.ok round, draws) =>
      (.ok [⟨numberFromFloat round.price p.config.pricePrecision,
          numberFromFloat round.sizeBaseCapped p.config.volumePrecision⟩],
        { p with draws := draws, activeBucket := some bucket, previousRoundID := some round.ID })

/-- Calls one after another. -/
def run : SellTwapLevelProvider → List CallEnv → SellTwapLevelProvider
  | p, [] => p
  | p, env :: rest => run (p.getLevels env).2 rest

/-- The number of calls of a run that succeed. -/
def succeeded : SellTwapLevelProvider → List CallEnv → ℕ
  | _, [] => 0
  | p, env :: rest =>
    (match (p.getLevels env).1 with
      | .ok _ => 1
      | .error _ => 0) + succeeded (p.getLevels env).2 rest

end SellTwapLevelProvider

/-! ### An example provider -/

/-- Hourly buckets over the whole day, a cap of 24 units every day, a minimum child order of half
a bucket, and the feed's price as it comes. -/
def hourlyConfig : ValidConfig where
  offset x := (x, false)
  pricePrecision := 7
  volumePrecision := 7
  dowFilter _ := ⟨true, .ok 24, "sell 24 base a day"⟩
  numHoursToSell := 24
  parentBucketSizeSeconds := 3600
  distributeSurplusOverRemainingIntervalsPercentCeiling := 1 / 2
  exponentialSmoothingFactor := 1 / 2
  minChildOrderSizePercentOfParent := 1 / 2
  numHoursToSell_pos := by decide
  numHoursToSell_le := by decide
  parentBucketSizeSeconds_pos := by decide
  parentBucketSizeSeconds_le := by decide
  parentBucketSizeSeconds_dvd := by decide
  distribute_nonneg := by norm_num
  distribute_le := by norm_num
  smoothing_nonneg := by norm_num
  smoothing_le := by norm_num
  minChild_nonneg := by norm_num
  minChild_le := by norm_num
  sellingBase _ := rfl

/-- A generator whose first draw is 0 and every later one 1/2. -/
def zeroThenHalf : RandSource where
  float64 k := if k = 0 then 0 else 1 / 2
  float64_nonneg k := by dsimp only; split_ifs <;> norm_num
  float64_lt_one k := by dsimp only; split_ifs <;> norm_num

def hourlyProvider : SellTwapLevelProvider := ⟨hourlyConfig, zeroThenHalf, 0, none, none⟩

/-- Half past midnight on 1 January 1970, nothing sold yet, the feed at 1. -/
def firstHour : CallEnv := ⟨1800, .ok 0, .ok 1⟩

/-- The same time, with the price feed down. -/
def feedDown : CallEnv := ⟨1800, .ok 0, .error "feed down"⟩

/-- The same time, with the whole day's cap already sold. -/
def soldOut : CallEnv := ⟨1800, .ok 24, .ok 1⟩

/-- A minute later, with 2 units sold: more than the first bucket holds. -/
def oversold : CallEnv := ⟨1860, .ok 2, .ok 1⟩

/-- Half past midnight a day later, nothing sold yet that day. -/
def nextDay : CallEnv := ⟨86400 + 1800, .ok 0, .ok 1⟩

/-- The bucket a first call at half past midnight makes: the first hour, an hour's share of the
cap, and a minimum child order of half of it. -/
def firstBucket : BucketInfo := ⟨0, 0, 86400, 24, 24, 0, 24, 0, 1, 1 / 2, ⟨true, 0, 0, 0⟩⟩

end Kelp.Twap
