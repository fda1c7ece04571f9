import Kelp.Model.Number

/-! What the mirror strategy works with.

Offers and assets come from Horizon, orders from the backing exchange's
orderbook, and the operations a pass builds go to the SDEX. An operation is
given by the request it was built from: the venue functions (`ModifyBuyOffer`,
`CreateSellOffer`, ...) only say whether they built one (`true`), returned nil
(`false`) or failed.

The SDEX caches the liabilities a pass commits, and `AddLiabilities` changes
that cache in place. A computation against it (`Sdex`) therefore carries the
liabilities it added next to its result, and keeps them when a later step
fails. -/
namespace Kelp.Mirror

/-- `horizon.Asset`. -/
structure Asset where
  assetType : String
  code : String
  issuer : String
  deriving DecidableEq, Repr

/-- `horizon.Offer`, with its amount and price given by the values their strings parse to. -/
structure Offer where
  id : ℕ
  selling : Asset
  buying : Asset
  amount : ℚ
  price : ℚ
  deriving DecidableEq

/-- `model.OrderAction`. -/
inductive OrderAction
  | buy
  | sell
  deriving DecidableEq, Repr

/-- `OrderAction.Reverse`. -/
def OrderAction.reverse : OrderAction → OrderAction
  | .buy => .sell
  | .sell => .buy

/-- `model.Order`: the action, price and volume; the pair and type are fixed by the caller. -/
structure Order where
  orderAction : OrderAction
  price : Number
  volume : Number

/-- `model.OrderConstraints`. -/
structure OrderConstraints where
  pricePrecision : ℕ
  volumePrecision : ℕ
  minBaseVolume : Number

/-- `model.OrderBook`, best price first on each side. -/
structure OrderBook where
  bids : List Order
  asks : List Order

/-- An operation of a pass, by the request it carries. -/
inductive TransactionMutator
  | deleteOffer (offer : Offer)
  | modifyOffer (offer : Offer) (price amount : ℚ)
  | createOffer (price amount : ℚ)
  deriving DecidableEq

/-- The arguments of one `sdex.AddLiabilities` call. -/
structure Liability where
  selling : Asset
  buying : Asset
  incrementalSell : ℚ
  incrementalBuy : ℚ
  incrementalNativeAmountRaw : ℚ
  deriving DecidableEq

/-- A venue function that modifies an offer to a price and amount: a built operation
(`true`), nil (`false`) or an error. -/
abbrev ModifyOfferFn := Offer → ℚ → ℚ → ℚ → Except String Bool

/-- A venue function that creates an offer between two assets. -/
abbrev CreateOfferFn := Asset → Asset → ℚ → ℚ → ℚ → Except String Bool

/-- The `SDEX` methods the strategy calls. -/
structure SDEX where
  computeIncrementalNativeAmountRaw : Bool → ℚ
  modifyBuyOffer : ModifyOfferFn
  createBuyOffer : CreateOfferFn
  modifySellOffer : ModifyOfferFn
  createSellOffer : CreateOfferFn

/-- The fields of `mirrorStrategy` that a pass and a fill read. -/
structure MirrorStrategy where
  sdex : SDEX
  baseAsset : Asset
  quoteAsset : Asset
  primaryConstraints : OrderConstraints
  backingConstraints : OrderConstraints
  perLevelSpread : ℚ
  volumeDivideBy : ℚ

/-! ### Computations against the SDEX -/

/-- A result, or the error that ended the computation, with the liabilities added on the way. -/
structure Sdex (α : Type) where
  result : Except String α
  added : List Liability

namespace Sdex

def bind {α β : Type} (x : Sdex α) (f : α → Sdex β) : Sdex β :=
  match x.result with
  | .error e => ⟨.error e, x.added⟩
  | .ok a => ⟨(f a).result, x.added ++ (f a).added⟩

instance : Monad Sdex where
  pure a := ⟨.ok a, []⟩
  bind := bind

/-- A venue call: its answer, with no liability added. -/
def venue {α : Type} (r : Except String α) : Sdex α := ⟨r, []⟩

/-- `sdex.AddLiabilities`. -/
def addLiabilities (l : Liability) : Sdex Unit := ⟨.ok (), [l]⟩

variable {α β : Type}

@[simp] theorem pure_eq (a : α) : (pure a : Sdex α) = ⟨.ok a, []⟩ := rfl

@[simp] theorem venue_eq (r : Except String α) : venue r = ⟨r, []⟩ := rfl

@[simp] theorem addLiabilities_eq (l : Liability) : addLiabilities l = ⟨.ok (), [l]⟩ := rfl

@[simp] theorem mk_ok_bind (a : α) (l : List Liability) (f : α → Sdex β) :
    (⟨.ok a, l⟩ : Sdex α) >>= f = ⟨(f a).result, l ++ (f a).added⟩ := rfl

@[simp] theorem mk_error_bind (e : String) (l : List Liability) (f : α → Sdex β) :
    (⟨.error e, l⟩ : Sdex α) >>= f = ⟨.error e, l⟩ := rfl

theorem bind_error {x : Sdex α} {e : String} (h : x.result = .error e) (f : α → Sdex β) :
    x >>= f = ⟨.error e, x.added⟩ := by
  show bind x f = _
  simp [bind, h]

end Sdex

/-! ### An example market -/

/-- Lumens against a dollar: the assets of the examples. -/
def xlm : Asset := ⟨"native", "", ""⟩

def usd : Asset := ⟨"credit_alphanum4", "USD", "GISSUER"⟩

/-- A strategy whose venue builds every operation asked of it, at the SDEX's seven decimals,
with no spread and a backing minimum of one unit. -/
def exampleStrategy : MirrorStrategy where
  sdex := ⟨fun _ => 0, fun _ _ _ _ => .ok true, fun _ _ _ _ _ => .ok true,
    fun _ _ _ _ => .ok true, fun _ _ _ _ _ => .ok true⟩
  baseAsset := xlm
  quoteAsset := usd
  primaryConstraints := ⟨7, 7, numberFromFloat 0 7⟩
  backingConstraints := ⟨8, 8, numberFromFloat 1 8⟩
  perLevelSpread := 0
  volumeDivideBy := 1

end Kelp.Mirror
