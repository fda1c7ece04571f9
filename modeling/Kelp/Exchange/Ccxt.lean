import Kelp.Mirror.Hedge

/-! The CCXT exchange adapter, `ccxtExchange`: reading the backing exchange's answers.

The adapter turns what the CCXT REST service returns into the bot's model. Orderbook levels,
trades and open orders become `model.Order`s at the exchange's precision, and an order to place
becomes a limit-order request by side, volume and price. The pair-to-string conversion
(`TradingPair.ToString`, `TradingPairs2Strings`), `utils.CheckFetchFloat` and the service's
calls are not among the sources; their answers are inputs.

`GetTrades` reads the raw trades one after another into a growing list and gives up at the
first it cannot read: a trade of another symbol, or of a side that is neither `buy` nor `sell`.
It is all or nothing (`getTrades_all_or_nothing`): it returns one trade per raw trade, in the
service's order, exactly when every raw trade can be read, and otherwise the error of the first
that cannot. An open order is read more leniently: any side but `buy` is a sell.

`GetOpenOrders` reads the service's map of open orders by symbol in whatever order Go iterates
it, and gives up at the first symbol it did not ask for or the first order it cannot read. Its
result does not depend on that order: two orders of one map succeed alike and give the same open
orders by pair (`getOpenOrders_iteration_order`), since two symbols stand for two pairs. -/
namespace Kelp.Exchange
open Mirror (Order OrderAction OrderBook)

structure CcxtOrder where
  price : ℚ
  amount : ℚ

/-- What `FetchOrderBook` returns: its `asks` and `bids` fields, each of which may be missing. -/
structure CcxtOrderBook where
  asks : Option (List CcxtOrder)
  bids : Option (List CcxtOrder)

/-- `sdk.CcxtTrade`, the fields `readTrade` reads. -/
structure CcxtTrade where
  id : String
  symbol : String
  side : String
  price : ℚ
  amount : ℚ
  cost : ℚ
  timestamp : ℤ

/-- `sdk.CcxtOpenOrder`, the fields `convertOpenOrderFromCcxt` reads. -/
structure CcxtOpenOrder where
  id : String
  type : String
  side : String
  price : ℚ
  amount : ℚ
  filled : ℚ
  timestamp : ℤ

structure CcxtTicker where
  ask : Except String ℚ
  bid : Except String ℚ

/-- `model.Trade` as `readTrade` fills it: the side, price and volume the mirror strategy reads,
the order's timestamp, the transaction ID, and the cost, which stays nil when the raw cost is
zero. The pair and order type are the caller's, and `Fee` is nil. -/
structure Trade extends Mirror.Trade where
  timestamp : ℤ
  transactionID : String
  cost : Option Number

/-- `model.OpenOrder` as `convertOpenOrderFromCcxt` fills it; `ExpireTime` is nil. -/
structure OpenOrder where
  order : Order
  id : String
  startTime : ℤ
  volumeExecuted : Number

structure Ticker where
  askPrice : Number
  bidPrice : Number

/-- `ccxtExchange`: the precision it reads numbers at, `utils.SdexPrecision`. -/
structure CcxtExchange where
  precision : ℕ

namespace CcxtExchange
variable (c : CcxtExchange)

/-- `ccxtExchange.readOrders`: one limit order per level, on the given side, at the exchange's
precision. -/
def readOrders (orders : List CcxtOrder) (orderAction : OrderAction) : List Order :=
  orders.map fun o => ⟨orderAction, numberFromFloat o.price c.precision,
    numberFromFloat o.amount c.precision⟩

/-- `ccxtExchange.GetOrderBook`, given the pair's string and what the service answers for it
with `maxCount` levels. `%v` of the raw book is `render`. -/
def getOrderBook (pairString : Except String String)
    (fetchOrderBook : String → ℤ → Except String CcxtOrderBook) (render : CcxtOrderBook → String)
    (maxCount : ℤ) : Except String OrderBook :=
  match pairString with
  | .error e => .error ("error converting pair to string: " ++ e)
  | .ok pairString =>
    match fetchOrderBook pairString maxCount with
    | .error e =>
      .error ("error while fetching orderbook for trading pair '" ++ pairString ++ "': " ++ e)
    | .ok ob =>
      match ob.asks, ob.bids with
      | none, _ => .error ("orderbook did not contain the 'asks' field: " ++ render ob)
      | some _, none => .error ("orderbook did not contain the 'bids' field: " ++ render ob)
      | some asks, some bids => .ok ⟨c.readOrders bids .buy, c.readOrders asks .sell⟩

/-- `ccxtExchange.readTrade`. -/
def readTrade (pairString : String) (rawTrade : CcxtTrade) : Except String Trade :=
  if rawTrade.symbol ≠ pairString then
    .error ("expected '" ++ pairString ++ "' for 'symbol' field, got: " ++ rawTrade.symbol)
  else
    let trade (orderAction : OrderAction) : Trade :=
      { orderAction := orderAction
        price := numberFromFloat rawTrade.price c.precision
        volume := numberFromFloat rawTrade.amount c.precision
        timestamp := rawTrade.timestamp
        transactionID := rawTrade.id
        cost := if rawTrade.cost ≠ 0 then some (numberFromFloat rawTrade.cost (c.precision * 2))
          else none }
    if rawTrade.side = "sell" then .ok (trade .sell)
    else if rawTrade.side = "buy" then .ok (trade .buy)
    else .error ("unrecognized value for 'side' field: " ++ rawTrade.side)

/-- The loop of `GetTrades`, appending each trade it reads to those before it. -/
def readTrades (pairString : String) : List CcxtTrade → List Trade → Except String (List Trade)
  | [], trades => .ok trades
  | raw :: rest, trades =>
    match c.readTrade pairString raw with
    | .error e => .error ("error while reading trade: " ++ e)
    | .ok t => readTrades pairString rest (trades ++ [t])

/-- `ccxtExchange.GetTrades`: the trades of the result; its cursor is always nil. -/
def getTrades (pairString : Except String String)
    (fetchTrades : String → Except String (List CcxtTrade)) : Except String (List Trade) :=
  match pairString with
  | .error e => .error ("error converting pair to string: " ++ e)
  | .ok pairString =>
    match fetchTrades pairString with
    | .error e =>
      .error ("error while fetching trades for trading pair '" ++ pairString ++ "': " ++ e)
    | .ok tradesRaw => c.readTrades pairString tradesRaw []

/-- `ccxtExchange.convertOpenOrderFromCcxt`. -/
def convertOpenOrderFromCcxt (o : CcxtOpenOrder) : Except String OpenOrder :=
  if o.type ≠ "limit" then .error "we currently only support limit order types"
  else
    let orderAction : OrderAction := if o.side = "buy" then .buy else .sell
    .ok ⟨⟨orderAction, numberFromFloat o.price c.precision, numberFromFloat o.amount c.precision⟩,
      o.id, o.timestamp, numberFromFloat o.filled c.precision⟩

/-- `ccxtExchange.AddOrder`: the limit order asked of the service, by pair, side, volume and
price, and the transaction ID of the order it opened. `%s` of the order is `render`. -/
def addOrder (pairString : Except String String)
    (createLimitOrder : String → String → ℚ → ℚ → Except String String) (render : Order → String)
    (order : Order) : Except String String :=
  match pairString with
  | .error e => .error ("error converting pair to string: " ++ e)
  | .ok pairString =>
    let side := if order.orderAction = .buy then "buy" else "sell"
    match createLimitOrder pairString side order.volume.value order.price.value with
    | .error e => .error ("error while creating limit order " ++ render order ++ ": " ++ e)
    | .ok id => .ok id

def renderStrings (l : List String) : String := "[" ++ " ".intercalate l ++ "]"

/-- The first loop of `GetOpenOrders`: the pairs' strings in order, and the pair each string
stands for, a later pair of the same string taking the place of an earlier one. -/
def readPairs {P : Type} (pairToString : P → Except String String) :
    List P → List String → (String → Option P) → Except String (List String × (String → Option P))
  | [], pairStrings, string2Pair => .ok (pairStrings, string2Pair)
  | pair :: rest, pairStrings, string2Pair =>
    match pairToString pair with
    | .error e => .error ("error converting pairs to strings: " ++ e)
    | .ok pairString =>
      readPairs pairToString rest (pairStrings ++ [pairString])
        (Function.update string2Pair pairString (some pair))

/-- The inner loop of `GetOpenOrders`: one symbol's orders read in order, or the error of the
first that cannot be. -/
def convertOpenOrders : List CcxtOpenOrder → List OpenOrder → Except String (List OpenOrder)
  | [], openOrderList => .ok openOrderList
  | o :: rest, openOrderList =>
    match c.convertOpenOrderFromCcxt o with
    | .error e => .error ("cannot convertOpenOrderFromCcxt: " ++ e)
    | .ok openOrder => convertOpenOrders rest (openOrderList ++ [openOrder])

/-- The outer loop of `GetOpenOrders`, over the service's map of open orders by symbol in the
order Go happens to iterate it. -/
def readOpenOrders {P : Type} [DecidableEq P] (string2Pair : String → Option P)
    (pairStrings : List String) :
    List (String × List CcxtOpenOrder) → (P → Option (List OpenOrder)) →
      Except String (P → Option (List OpenOrder))
  | [], result => .ok result
  | (asset, ccxtOrderList) :: rest, result =>
    match string2Pair asset with
    | none => .error ("traing symbol " ++ asset ++
        " returned from FetchOpenOrders was not in the original list of trading pairs: " ++
        renderStrings pairStrings)
    | some pair =>
      match c.convertOpenOrders ccxtOrderList [] with
      | .error e => .error e
      | .ok openOrderList =>
        readOpenOrders string2Pair pairStrings rest (Function.update result pair (some openOrderList))

/-- `ccxtExchange.GetOpenOrders`, given each pair's string as `ToString` makes it and the
service's answer for the pairs' strings: its map of open orders by symbol, as a list in the
order Go iterates it. -/
def getOpenOrders {P : Type} [DecidableEq P] (pairToString : P → Except String String)
    (pairs : List P)
    (fetchOpenOrders : List String → Except String (List (String × List CcxtOpenOrder))) :
    Except String (P → Option (List OpenOrder)) :=
  match readPairs pairToString pairs [] (fun _ => none) with
  | .error e => .error e
  | .ok (pairStrings, string2Pair) =>
    match fetchOpenOrders pairStrings with
    | .error e => .error ("error while fetching open orders for trading pairs '" ++
        renderStrings pairStrings ++ "': " ++ e)
    | .ok openOrdersMap => c.readOpenOrders string2Pair pairStrings openOrdersMap (fun _ => none)

/-- The loop of `GetAccountBalances`: each asset's total at the adapter's precision, or zero when
the service reports no balance for its string. -/
def readBalances {A : Type} [DecidableEq A] (toString : A → Except String String)
    (balanceResponse : String → Option ℚ) :
    List A → (A → Option Number) → Except String (A → Option Number)
  | [], m => .ok m
  | asset :: rest, m =>
    match toString asset with
    | .error e => .error e
    | .ok ccxtAssetString =>
      let balance := match balanceResponse ccxtAssetString with
        | some total => numberFromFloat total c.precision
        | none => numberFromFloat 0 c.precision
      readBalances toString balanceResponse rest (Function.update m asset (some balance))

/-- `ccxtExchange.GetAccountBalances`, given what `FetchBalance` answers (the `Total` of each
asset it reports, by the asset's string) and each asset's string as the asset converter makes
it. -/
def getAccountBalances {A : Type} [DecidableEq A] (fetchBalance : Except String (String → Option ℚ))
    (toString : A → Except String String) (assetList : List A) : Except String (A → Option Number) :=
  match fetchBalance with
  | .error e => .error e
  | .ok balanceResponse => c.readBalances toString balanceResponse assetList (fun _ => none)

/-- The loop of `GetTickerPrice`, filling the map of tickers pair by pair; a pair seen twice
keeps its last ticker, as a Go map does. -/
def fetchTickers {P : Type} [DecidableEq P] (pairsMap : P → String)
    (fetchTicker : String → Except String CcxtTicker) :
    List P → (P → Option Ticker) → Except String (P → Option Ticker)
  | [], priceResult => .ok priceResult
  | p :: rest, priceResult =>
    match fetchTicker (pairsMap p) with
    | .error e =>
      .error ("error while fetching ticker price for trading pair " ++ pairsMap p ++ ": " ++ e)
    | .ok tickerMap =>
      match tickerMap.ask with
      | .error e => .error ("unable to correctly fetch value from tickerMap: " ++ e)
      | .ok askPrice =>
        match tickerMap.bid with
        | .error e => .error ("unable to correctly fetch value from tickerMap: " ++ e)
        | .ok bidPrice =>
          fetchTickers pairsMap fetchTicker rest (Function.update priceResult p
            (some ⟨numberFromFloat askPrice c.precision, numberFromFloat bidPrice c.precision⟩))

/-- `ccxtExchange.GetTickerPrice`, given the pairs' strings as `TradingPairs2Strings` makes
them. -/
def getTickerPrice {P : Type} [DecidableEq P] (pairsMap : Except String (P → String))
    (fetchTicker : String → Except String CcxtTicker) (pairs : List P) :
    Except String (P → Option Ticker) :=
  match pairsMap with
  | .error e => .error e
  | .ok pairsMap => c.fetchTickers pairsMap fetchTicker pairs fun _ => none

/-! ### Reading trades -/

theorem readTrade_isOk (pairString : String) (rawTrade : CcxtTrade) :
    (∃ t, c.readTrade pairString rawTrade = .ok t) ↔
      rawTrade.symbol = pairString ∧ (rawTrade.side = "sell" ∨ rawTrade.side = "buy") := by
  unfold readTrade
  by_cases hs : rawTrade.symbol = pairString
  · by_cases h1 : rawTrade.side = "sell"
    · simp [hs, h1]
    · by_cases h2 : rawTrade.side = "buy" <;> simp [hs, h1, h2]
  · simp [hs]

theorem readTrades_cases (pairString : String) :
    ∀ (raws : List CcxtTrade) (acc : List Trade),
      (∀ ts, c.readTrades pairString raws acc = .ok ts ↔
        ∃ read, List.Forall₂ (fun r t => c.readTrade pairString r = .ok t) raws read ∧
          ts = acc ++ read) ∧
      (∀ e, c.readTrades pairString raws acc = .error e ↔
        ∃ pre r post e', raws = pre ++ r :: post ∧
          (∀ x ∈ pre, ∃ t, c.readTrade pairString x = .ok t) ∧
          c.readTrade pairString r = .error e' ∧ e = "error while reading trade: " ++ e')
  | [], acc => by
    refine ⟨fun ts => ?_, fun e => ?_⟩
    · simp [readTrades, eq_comm]
    · simp only [readTrades, reduceCtorEq, false_iff, not_exists, not_and]
      intro pre r post _ h
      exact absurd h (List.append_ne_nil_of_right_ne_nil _ (List.cons_ne_nil _ _)).symm
  | raw :: rest, acc => by
    cases hr : c.readTrade pairString raw with
    | error e' =>
      refine ⟨fun ts => ?_, fun e => ?_⟩
      · simp only [readTrades, hr, reduceCtorEq, false_iff, not_exists, not_and]
        intro read hf
        cases hf with
        | cons h _ => rw [hr] at h; cases h
      · simp only [readTrades, hr, Except.error.injEq]
        constructor
        · rintro rfl
          exact ⟨[], raw, rest, e', rfl, by simp, hr, rfl⟩
        · rintro ⟨pre, r, post, e'', hsplit, hpre, hre, rfl⟩
          cases pre with
          | nil =>
            obtain ⟨rfl, -⟩ := List.cons.inj hsplit
            rw [hr, Except.error.injEq] at hre
            rw [hre]
          | cons x pre =>
            obtain ⟨rfl, -⟩ := List.cons.inj hsplit
            obtain ⟨t, ht⟩ := hpre raw (List.mem_cons_self _ _)
            rw [hr] at ht
            cases ht
    | ok t =>
      obtain ⟨ihok, iherr⟩ := readTrades_cases pairString rest (acc ++ [t])
      refine ⟨fun ts => ?_, fun e => ?_⟩
      · simp only [readTrades, hr, ihok, List.forall₂_cons, List.append_assoc,
          List.singleton_append]
        constructor
        · rintro ⟨read, hf, rfl⟩
          exact ⟨t :: read, .cons hr hf, rfl⟩
        · rintro ⟨_ | ⟨t', read⟩, hf, rfl⟩
          · cases hf
          · cases hf with
            | cons ht' hf =>
              rw [hr, Except.ok.injEq] at ht'
              exact ⟨read, hf, by rw [ht']⟩
      · simp only [readTrades, hr, iherr]
        constructor
        · rintro ⟨pre, r, post, e', rfl, hpre, hre, rfl⟩
          refine ⟨raw :: pre, r, post, e', rfl, ?_, hre, rfl⟩
          intro x hx
          rcases List.mem_cons.mp hx with rfl | hx
          · exact ⟨t, hr⟩
          · exact hpre x hx
        · rintro ⟨pre, r, post, e', hsplit, hpre, hre, rfl⟩
          cases pre with
          | nil =>
            obtain ⟨rfl, -⟩ := List.cons.inj hsplit
            rw [hr] at hre
            cases hre
          | cons x pre =>
            obtain ⟨rfl, rfl⟩ := List.cons.inj hsplit
            exact ⟨pre, r, post, e', rfl, fun y hy => hpre y (List.mem_cons_of_mem _ hy), hre, rfl⟩

/-- **`GetTrades` is all or nothing.** Once the service has answered with its raw trades, the
call returns one trade per raw trade, in the service's order, each the reading of its raw trade,
or the error of the first raw trade it cannot read, with every raw trade before it readable. -/
theorem getTrades_all_or_nothing {pairString : String}
    {fetchTrades : String → Except String (List CcxtTrade)} {raws : List CcxtTrade}
    (hf : fetchTrades pairString = .ok raws) :
    (∀ ts, c.getTrades (.ok pairString) fetchTrades = .ok ts ↔
      List.Forall₂ (fun r t => c.readTrade pairString r = .ok t) raws ts) ∧
    (∀ e, c.getTrades (.ok pairString) fetchTrades = .error e ↔
      ∃ pre r post e', raws = pre ++ r :: post ∧
        (∀ x ∈ pre, ∃ t, c.readTrade pairString x = .ok t) ∧
        c.readTrade pairString r = .error e' ∧ e = "error while reading trade: " ++ e') := by
  obtain ⟨hok, herr⟩ := c.readTrades_cases pairString raws []
  refine ⟨fun ts => ?_, fun e => ?_⟩
  · simp only [getTrades, hf, hok, List.nil_append]
    exact ⟨fun ⟨_, h, he⟩ => he ▸ h, fun h => ⟨ts, h, rfl⟩⟩
  · simp only [getTrades, hf, herr]

def xlmSell : CcxtTrade := ⟨"1", "XLM/USD", "sell", 1 / 10, 100, 10, 0⟩

theorem getTrades_all_or_nothing_xlmSell :
    (∀ ts, (⟨7⟩ : CcxtExchange).getTrades (.ok "XLM/USD") (fun _ => .ok [xlmSell]) = .ok ts ↔
      List.Forall₂ (fun r t => (⟨7⟩ : CcxtExchange).readTrade "XLM/USD" r = .ok t) [xlmSell] ts) ∧
    (∀ e, (⟨7⟩ : CcxtExchange).getTrades (.ok "XLM/USD") (fun _ => .ok [xlmSell]) = .error e ↔
      ∃ pre r post e', [xlmSell] = pre ++ r :: post ∧
        (∀ x ∈ pre, ∃ t, (⟨7⟩ : CcxtExchange).readTrade "XLM/USD" x = .ok t) ∧
        (⟨7⟩ : CcxtExchange).readTrade "XLM/USD" r = .error e' ∧
          e = "error while reading trade: " ++ e') :=
  getTrades_all_or_nothing ⟨7⟩ rfl

theorem readPairs_sound {P : Type} {pairToString : P → Except String String} :
    ∀ {pairs : List P} {pairStrings pairStrings' : List String}
      {string2Pair string2Pair' : String → Option P},
      readPairs pairToString pairs pairStrings string2Pair = .ok (pairStrings', string2Pair') →
      (∀ s p, string2Pair s = some p → pairToString p = .ok s) →
      ∀ s p, string2Pair' s = some p → pairToString p = .ok s
  | [], _, _, _, _, h, hs => by
    simp only [readPairs, Except.ok.injEq, Prod.mk.injEq] at h
    obtain ⟨-, rfl⟩ := h
    exact hs
  | pair :: rest, _, _, _, _, h, hs => by
    unfold readPairs at h
    rcases hp : pairToString pair with e | pairString <;> rw [hp] at h
    · cases h
    refine readPairs_sound h fun s q hq => ?_
    by_cases hsq : s = pairString
    · subst hsq
      rw [Function.update_same, Option.some.injEq] at hq
      rwa [← hq]
    · rw [Function.update_noteq hsq] at hq
      exact hs s q hq

theorem readOpenOrders_perm {P : Type} [DecidableEq P] {string2Pair : String → Option P}
    {pairStrings : List String}
    (hinj : ∀ a b p, string2Pair a = some p → string2Pair b = some p → a = b)
    {l₁ l₂ : List (String × List CcxtOpenOrder)} (hperm : l₁.Perm l₂)
    (hkeys : (l₁.map Prod.fst).Nodup) :
    ∀ r m, c.readOpenOrders string2Pair pairStrings l₁ r = .ok m ↔
      c.readOpenOrders string2Pair pairStrings l₂ r = .ok m := by
  induction hperm with
  | nil => exact fun _ _ => Iff.rfl
  | cons x _ ih =>
    obtain ⟨a, la⟩ := x
    rw [List.map_cons, List.nodup_cons] at hkeys
    intro r m
    simp only [readOpenOrders]
    rcases string2Pair a with _ | pa
    · exact Iff.rfl
    rcases c.convertOpenOrders la [] with _ | oa
    · exact Iff.rfl
    exact ih hkeys.2 _ m
  | swap x y l =>
    obtain ⟨b, lb⟩ := x
    obtain ⟨a, la⟩ := y
    simp only [List.map_cons, List.nodup_cons, List.mem_cons, not_or] at hkeys
    intro r m
    simp only [readOpenOrders]
    rcases ha : string2Pair a with _ | pa <;> rcases hb : string2Pair b with _ | pb <;>
      rcases hca : c.convertOpenOrders la [] with _ | oa <;>
      rcases hcb : c.convertOpenOrders lb [] with _ | ob <;> simp only [reduceCtorEq, false_iff, iff_false]
    have hne : pa ≠ pb := fun e => hkeys.1.1 (hinj a b pa ha (e ▸ hb))
    rw [Function.update_comm hne]
  | trans _ _ ih₁ ih₂ =>
    exact fun r m => (ih₁ hkeys r m).trans (ih₂ ((List.Perm.map Prod.fst ‹_›).nodup_iff.mp hkeys) r m)

/-- **`GetOpenOrders` does not depend on how Go iterates the service's map.** For any two orders
in which Go may iterate one map of open orders by symbol, `GetOpenOrders` succeeds for both or
for neither, and returns the same open orders by pair: only which error it reports can differ. -/
theorem getOpenOrders_iteration_order {P : Type} [DecidableEq P]
    (pairToString : P → Except String String) (pairs : List P)
    {l₁ l₂ : List (String × List CcxtOpenOrder)} (hperm : l₁.Perm l₂)
    (hkeys : (l₁.map Prod.fst).Nodup) (m : P → Option (List OpenOrder)) :
    c.getOpenOrders pairToString pairs (fun _ => .ok l₁) = .ok m ↔
      c.getOpenOrders pairToString pairs (fun _ => .ok l₂) = .ok m := by
  unfold getOpenOrders
  rcases hr : readPairs pairToString pairs [] (fun _ => none) with e | ⟨pairStrings, string2Pair⟩
  · exact Iff.rfl
  have hsound := readPairs_sound hr fun _ _ h => by cases h
  refine c.readOpenOrders_perm (fun a b p ha hb => ?_) hperm hkeys _ m
  have := (hsound a p ha).symm.trans (hsound b p hb)
  exact Except.ok.inj this

/-! ### Reading balances -/

theorem readBalances_ok {A : Type} [DecidableEq A] {toString : A → Except String String}
    {balanceResponse : String → Option ℚ} :
    ∀ {assetList : List A} {m m' : A → Option Number},
      c.readBalances toString balanceResponse assetList m = .ok m' → ∀ a,
        (a ∈ assetList → ∃ s, toString a = .ok s ∧
          m' a = some (numberFromFloat ((balanceResponse s).getD 0) c.precision)) ∧
        (a ∉ assetList → m' a = m a)
  | [], m, m', h, a => by
    simp only [readBalances, Except.ok.injEq] at h
    subst h
    exact ⟨fun ha => absurd ha (List.not_mem_nil a), fun _ => rfl⟩
  | asset :: rest, m, m', h, a => by
    unfold readBalances at h
    rcases hs : toString asset with e | s <;> rw [hs] at h
    · cases h
    obtain ⟨hin, hout⟩ := readBalances_ok h a
    by_cases hr : a ∈ rest
    · exact ⟨fun _ => hin hr, fun ha => absurd (List.mem_cons_of_mem _ hr) ha⟩
    refine ⟨fun ha => ?_, fun ha => ?_⟩
    · obtain rfl := (List.mem_cons.mp ha).resolve_right hr
      refine ⟨s, hs, ?_⟩
      rw [hout hr, Function.update_same]
      cases balanceResponse s <;> rfl
    · have hne : a ≠ asset := fun e => ha (e ▸ List.mem_cons_self a rest)
      rw [hout hr, Function.update_noteq hne]

theorem readBalances_isOk {A : Type} [DecidableEq A] (toString : A → Except String String)
    (balanceResponse : String → Option ℚ) :
    ∀ (assetList : List A) (m : A → Option Number),
      (∃ m', c.readBalances toString balanceResponse assetList m = .ok m') ↔
        ∀ a ∈ assetList, ∃ s, toString a = .ok s
  | [], m => by simp [readBalances]
  | asset :: rest, m => by
    rw [List.forall_mem_cons]
    rcases hs : toString asset with e | s
    · simp [readBalances, hs]
    · simp only [readBalances, hs, Except.ok.injEq, exists_eq', true_and]
      exact readBalances_isOk toString balanceResponse rest _

/-- **`GetAccountBalances` reads every asset asked for, and only those.** It succeeds exactly
when the service answers and every asset converts to a string. Then every asset of the list has
its total at the adapter's precision, zero when the service reports no balance for its string,
and no other asset has a balance. -/
theorem getAccountBalances_reads_every_asset {A : Type} [DecidableEq A]
    (fetchBalance : Except String (String → Option ℚ)) (toString : A → Except String String)
    (assetList : List A) :
    ((∃ m, c.getAccountBalances fetchBalance toString assetList = .ok m) ↔
      (∃ balanceResponse, fetchBalance = .ok balanceResponse) ∧
        ∀ a ∈ assetList, ∃ s, toString a = .ok s) ∧
    ∀ m, c.getAccountBalances fetchBalance toString assetList = .ok m →
      ∃ balanceResponse, fetchBalance = .ok balanceResponse ∧ ∀ a,
        (a ∈ assetList → ∃ s, toString a = .ok s ∧
          m a = some (numberFromFloat ((balanceResponse s).getD 0) c.precision)) ∧
        (a ∉ assetList → m a = none) := by
  rcases fetchBalance with e | balanceResponse
  · simp [getAccountBalances]
  refine ⟨?_, fun m h => ⟨balanceResponse, rfl, fun a => c.readBalances_ok h a⟩⟩
  simp only [getAccountBalances, Except.ok.injEq, exists_eq', true_and]
  exact c.readBalances_isOk toString balanceResponse assetList _

/-- A limit buy of 100 XLM at 0.1, still open. -/
def xlmBid : CcxtOpenOrder := ⟨"7", "limit", "buy", 1 / 10, 100, 0, 0⟩

theorem getOpenOrders_iteration_order_twoPairs :
    (⟨7⟩ : CcxtExchange).getOpenOrders (fun p : String => .ok p) ["XLM/USD", "BTC/USD"]
        (fun _ => .ok [("XLM/USD", [xlmBid]), ("BTC/USD", [])]) = .ok (fun _ => none) ↔
      (⟨7⟩ : CcxtExchange).getOpenOrders (fun p : String => .ok p) ["XLM/USD", "BTC/USD"]
        (fun _ => .ok [("BTC/USD", []), ("XLM/USD", [xlmBid])]) = .ok (fun _ => none) :=
  getOpenOrders_iteration_order ⟨7⟩ _ _ (List.Perm.swap _ _ _) (by simp) _

end CcxtExchange

end Kelp.Exchange
