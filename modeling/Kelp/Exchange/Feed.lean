import Kelp.Exchange.Ccxt

/-! Price feeds on an exchange's ticker, `exchangeFeed`.

An exchange feed quotes one trading pair of a ticker API: its ask, its bid, or for any other
modifier the mid price, the sum of the two halved at the precision they share. `Number`
arithmetic rounds, so the mid price is the exact midpoint only when it lies on that precision's
grid. It never leaves the spread, though: whatever the modifier, when the bid and the ask lie on
one grid the feed quotes a price between them (`getPrice_within_spread`). The CCXT adapter reads
both at its own precision, so a feed on it always quotes within the spread of the ticker it
fetched (`ccxt_getPrice_within_spread`). -/
namespace Kelp.Exchange

/-- `exchangeFeed`: a price feed on one trading pair of a ticker API. -/
structure ExchangeFeed (P : Type) where
  name : String
  pair : P
  modifier : String

namespace ExchangeFeed
variable {P : Type} (f : ExchangeFeed P)

/-- `exchangeFeed.GetPrice`, given what the ticker API's `GetTickerPrice` answers for the feed's
one pair. The pair's `String` is `renderPair`. -/
def getPrice (renderPair : P → String) (tickerPrice : Except String (P → Option Ticker)) :
    Except String ℚ :=
  match tickerPrice with
  | .error e => .error ("error while getting price from exchange feed: " ++ e)
  | .ok m =>
    match m f.pair with
    | none => .error ("could not get price for trading pair: " ++ renderPair f.pair)
    | some p =>
      let midPrice := (p.bidPrice.add p.askPrice).scale (1 / 2)
      let price :=
        if f.modifier = "ask" then p.askPrice
        else if f.modifier = "bid" then p.bidPrice
        else midPrice
      .ok price.value

/-- Rounding at a precision finer than a grid keeps a value between two points of the grid. -/
theorem toFixed_between {x y z : ℚ} {k q : ℕ} (hx : OnGrid k x) (hy : OnGrid k y) (hk : k ≤ q)
    (hxz : x ≤ z) (hzy : z ≤ y) : x ≤ toFixed z q ∧ toFixed z q ≤ y := by
  have h1 := toFixed_mono hxz q
  have h2 := toFixed_mono hzy q
  rw [toFixed_of_onGrid_le hx hk] at h1
  rw [toFixed_of_onGrid_le hy hk] at h2
  exact ⟨h1, h2⟩

/-- On one grid, the mid price lies between the bid and the ask. -/
theorem midPrice_between {t : Ticker} {k : ℕ} (hb : t.bidPrice.Fits k) (ha : t.askPrice.Fits k) :
    min t.bidPrice.value t.askPrice.value ≤ ((t.bidPrice.add t.askPrice).scale (1 / 2)).value ∧
      ((t.bidPrice.add t.askPrice).scale (1 / 2)).value ≤
        max t.bidPrice.value t.askPrice.value := by
  have hsum := Number.add_value hb ha
  have hk : k ≤ (t.bidPrice.add t.askPrice).precision := (Number.add_fits hb ha).1
  simp only [Number.scale, numberFromFloat_value, hsum]
  rcases le_total t.bidPrice.value t.askPrice.value with hle | hle
  · rw [min_eq_left hle, max_eq_right hle]
    exact toFixed_between hb.2 ha.2 hk (by linarith) (by linarith)
  · rw [min_eq_right hle, max_eq_left hle]
    exact toFixed_between ha.2 hb.2 hk (by linarith) (by linarith)

/-- **An exchange feed quotes within the spread.** Whatever its modifier, when the ticker's bid
and ask lie on one grid, the price the feed returns lies between them. -/
theorem getPrice_within_spread {renderPair : P → String} {m : P → Option Ticker} {t : Ticker}
    {k : ℕ} (ht : m f.pair = some t) (hb : t.bidPrice.Fits k) (ha : t.askPrice.Fits k)
    {price : ℚ} (h : f.getPrice renderPair (.ok m) = .ok price) :
    min t.bidPrice.value t.askPrice.value ≤ price ∧ price ≤ max t.bidPrice.value t.askPrice.value := by
  simp only [getPrice, ht, Except.ok.injEq] at h
  subst h
  split_ifs
  · exact ⟨min_le_right _ _, le_max_right _ _⟩
  · exact ⟨min_le_left _ _, le_max_left _ _⟩
  · exact midPrice_between hb ha

end ExchangeFeed

namespace CcxtExchange
variable (c : CcxtExchange) {P : Type} [DecidableEq P]

/-- A ticker the adapter read holds its two prices at the adapter's precision. -/
theorem fetchTickers_fits (pairsMap : P → String) (fetchTicker : String → Except String CcxtTicker) :
    ∀ (pairs : List P) (acc m : P → Option Ticker),
      c.fetchTickers pairsMap fetchTicker pairs acc = .ok m → ∀ p t, m p = some t →
        acc p = some t ∨ ∃ ask bid, fetchTicker (pairsMap p) = .ok ⟨.ok ask, .ok bid⟩ ∧
          t = ⟨numberFromFloat ask c.precision, numberFromFloat bid c.precision⟩
  | [], acc, m, h => by
    simp only [fetchTickers, Except.ok.injEq] at h
    subst h
    exact fun p t ht => .inl ht
  | q :: rest, acc, m, h => by
    unfold fetchTickers at h
    rcases hq : fetchTicker (pairsMap q) with e | ⟨ask, bid⟩
    · simp [hq] at h
    · rcases ask with e | ask <;> rcases bid with e' | bid <;> simp only [hq] at h <;>
        try cases h
      intro p t ht
      rcases fetchTickers_fits pairsMap fetchTicker rest _ m h p t ht with hacc | hnew
      · by_cases hpq : p = q
        · subst hpq
          rw [Function.update_same, Option.some.injEq] at hacc
          exact .inr ⟨ask, bid, hq, hacc.symm⟩
        · rw [Function.update_noteq hpq] at hacc
          exact .inl hacc
      · exact .inr hnew

/-- **A feed on the CCXT adapter quotes within the spread it fetched.** Whatever the feed's
modifier, when it returns a price, the service answered the feed's pair with an ask and a bid,
and the price lies between the two read at the adapter's precision. -/
theorem ccxt_getPrice_within_spread (f : ExchangeFeed P) (renderPair : P → String)
    (pairsMap : Except String (P → String)) (fetchTicker : String → Except String CcxtTicker)
    {price : ℚ} (h : f.getPrice renderPair (c.getTickerPrice pairsMap fetchTicker [f.pair]) = .ok price) :
    ∃ pm ask bid, pairsMap = .ok pm ∧ fetchTicker (pm f.pair) = .ok ⟨.ok ask, .ok bid⟩ ∧
      min (toFixed bid c.precision) (toFixed ask c.precision) ≤ price ∧
        price ≤ max (toFixed bid c.precision) (toFixed ask c.precision) := by
  rcases pairsMap with e | pm
  · simp [getTickerPrice, ExchangeFeed.getPrice] at h
  · rcases hm : c.fetchTickers pm fetchTicker [f.pair] fun _ => none with e | m
    · simp [getTickerPrice, hm, ExchangeFeed.getPrice] at h
    · rw [getTickerPrice, hm] at h
      rcases ht : m f.pair with _ | t
      · simp [ExchangeFeed.getPrice, ht] at h
      · rcases c.fetchTickers_fits pm fetchTicker [f.pair] _ m hm f.pair t ht with hnone | hread
        · cases hnone
        · obtain ⟨ask, bid, hq, rfl⟩ := hread
          have hfits (x : ℚ) : (numberFromFloat x c.precision).Fits c.precision :=
            ⟨le_rfl, toFixed_onGrid x c.precision⟩
          exact ⟨pm, ask, bid, rfl, hq, f.getPrice_within_spread ht (hfits bid) (hfits ask) h⟩

/-- A feed on the mid price of a pair quoted at 0.10 bid and 0.11 ask. -/
def midFeed : ExchangeFeed Unit := ⟨"exchange", (), "mid"⟩

theorem ccxt_getPrice_within_spread_midFeed :
    ∃ pm ask bid, (.ok fun _ => "XLM/USD" : Except String (Unit → String)) = .ok pm ∧
      (fun _ => .ok ⟨.ok (11 / 100), .ok (1 / 10)⟩ : String → Except String CcxtTicker) (pm ()) =
        .ok ⟨.ok ask, .ok bid⟩ ∧
      min (toFixed bid 7) (toFixed ask 7) ≤ 21 / 200 ∧ 21 / 200 ≤ max (toFixed bid 7) (toFixed ask 7) :=
  ccxt_getPrice_within_spread ⟨7⟩ midFeed (fun _ => "") (.ok fun _ => "XLM/USD")
    (fun _ => .ok ⟨.ok (11 / 100), .ok (1 / 10)⟩) (by
      simp [ExchangeFeed.getPrice, getTickerPrice, fetchTickers, midFeed, Number.scale, Number.add]
      norm_num [toFixed, roundHalfAway])

end CcxtExchange

end Kelp.Exchange
