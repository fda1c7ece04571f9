import Kelp.Mirror.Basic

/-! The reconciler: `mirrorStrategy.updateLevels` and `doModifyOffer`.

A pass pairs each live offer with the target at the same index. A pair whose
price and volume are within `epsilon` of the target keeps its offer and
reserves what it commits. Otherwise the target is capped to the primary
exchange's precisions: below the backing exchange's minimum volume the offer is
deleted, else the venue is asked to modify it, and a nil answer deletes it too.
Targets past the live offers are created unless below the minimum; live offers
past the targets are deleted. Deletions go first in the result, so that the
capital they free is there for the rest.

On the buy side (`hack`) the venue holds an offer selling the quote asset, so
the live offer's amount and price are turned into a sell-equivalent volume and
price before the comparison. -/
namespace Kelp.Mirror

variable (s : MirrorStrategy)

def epsilon : ℚ := 1 / 10000

/-- The live offer's price and volume as `doModifyOffer` reads them: at the primary
precisions, and on the buy side turned into the sell-equivalent price and volume. -/
def oldLevel (hack : Bool) (oldOffer : Offer) : Number × Number :=
  let oldPrice := mustNumberFromString oldOffer.price s.primaryConstraints.pricePrecision
  let oldVol := mustNumberFromString oldOffer.amount s.primaryConstraints.volumePrecision
  if hack then (invertNumber oldPrice, oldVol.multiply oldPrice) else (oldPrice, oldVol)

/-- The liability of an offer of `vol` base units worth `quote` quote units, the selling
asset's amount first: on the buy side the offer sells the quote asset. -/
def liability (hack : Bool) (selling buying : Asset) (vol quote inc : ℚ) : Liability :=
  if hack then ⟨selling, buying, quote, vol, inc⟩ else ⟨selling, buying, vol, quote, inc⟩

/-- `mirrorStrategy.doModifyOffer`: the modify operation and the delete operation for one
live offer and its target. -/
def doModifyOffer (oldOffer : Offer) (newOrder : Order) (priceMultiplier : ℚ)
    (modifyOffer : ModifyOfferFn) (hack : Bool) :
    Sdex (Option TransactionMutator × Option TransactionMutator) :=
  let price := newOrder.price.scale priceMultiplier
  let vol := newOrder.volume.scale (1 / s.volumeDivideBy)
  let oldPrice := (oldLevel s hack oldOffer).1
  let oldVol := (oldLevel s hack oldOffer).2
  let incrementalNativeAmountRaw := s.sdex.computeIncrementalNativeAmountRaw false
  let sameOrderParams := oldPrice.equalsPrecisionNormalized price epsilon &&
    oldVol.equalsPrecisionNormalized vol epsilon
  if sameOrderParams then do
    Sdex.addLiabilities (liability hack oldOffer.selling oldOffer.buying oldVol.value
      (oldVol.multiply oldPrice).value incrementalNativeAmountRaw)
    pure (none, none)
  else
    let offerPrice := numberByCappingPrecision price s.primaryConstraints.pricePrecision
    let offerAmount := numberByCappingPrecision vol s.primaryConstraints.volumePrecision
    if offerAmount.value < s.backingConstraints.minBaseVolume.value then
      pure (none, some (.deleteOffer oldOffer))
    else do
      let mo ← Sdex.venue (modifyOffer oldOffer offerPrice.value offerAmount.value
        incrementalNativeAmountRaw)
      if mo then do
        Sdex.addLiabilities (liability hack oldOffer.selling oldOffer.buying offerAmount.value
          (offerAmount.multiply offerPrice).value incrementalNativeAmountRaw)
        pure (some (.modifyOffer oldOffer offerPrice.value offerAmount.value), none)
      else pure (none, some (.deleteOffer oldOffer))

def modifyLevels (modifyOffer : ModifyOfferFn) (priceMultiplier : ℚ) (hack : Bool) :
    List (Offer × Order) → List TransactionMutator → List TransactionMutator →
      Sdex (List TransactionMutator × List TransactionMutator)
  | [], ops, deleteOps => pure (ops, deleteOps)
  | (oldOffer, newOrder) :: rest, ops, deleteOps => do
    let (modifyOp, deleteOp) ← doModifyOffer s oldOffer newOrder priceMultiplier modifyOffer hack
    modifyLevels modifyOffer priceMultiplier hack rest (ops ++ modifyOp.toList)
      (deleteOps ++ deleteOp.toList)

/-- The loop creating offers for the targets past the live offers. -/
def createLevels (createOffer : CreateOfferFn) (priceMultiplier : ℚ) (hack : Bool) :
    List Order → List TransactionMutator → Sdex (List TransactionMutator)
  | [], ops => pure ops
  | newOrder :: rest, ops =>
    let price := (newOrder.price.scale priceMultiplier).value
    let vol := (newOrder.volume.scale (1 / s.volumeDivideBy)).value
    let incrementalNativeAmountRaw := s.sdex.computeIncrementalNativeAmountRaw true
    if vol < s.backingConstraints.minBaseVolume.value then
      createLevels createOffer priceMultiplier hack rest ops
    else do
      let mo ← Sdex.venue (createOffer s.baseAsset s.quoteAsset price vol incrementalNativeAmountRaw)
      if mo then do
        Sdex.addLiabilities (if hack then
            ⟨s.quoteAsset, s.baseAsset, vol * price, vol, incrementalNativeAmountRaw⟩
          else ⟨s.baseAsset, s.quoteAsset, vol, vol * price, incrementalNativeAmountRaw⟩)
        createLevels createOffer priceMultiplier hack rest (ops ++ [.createOffer price vol])
      else createLevels createOffer priceMultiplier hack rest ops

def updateLevels (oldOffers : List Offer) (newOrders : List Order) (modifyOffer : ModifyOfferFn)
    (createOffer : CreateOfferFn) (priceMultiplier : ℚ) (hack : Bool) :
    Sdex (List TransactionMutator) :=
  if oldOffers.length ≤ newOrders.length then do
    let (ops, deleteOps) ←
      modifyLevels s modifyOffer priceMultiplier hack (oldOffers.zip newOrders) [] []
    let ops ← createLevels s createOffer priceMultiplier hack (newOrders.drop oldOffers.length) ops
    pure (deleteOps ++ ops)
  else do
    let (ops, deleteOps) ←
      modifyLevels s modifyOffer priceMultiplier hack (oldOffers.zip newOrders) [] []
    pure (deleteOps ++ (oldOffers.drop newOrders.length).map .deleteOffer ++ ops)

/-- Whether the sell operations go first: the backing exchange's best bid reaches the
price of the first live sell offer. -/
def sellsFirst (bids : List Order) (sellingAOffers : List Offer) : Bool :=
  match bids, sellingAOffers with
  | bid :: _, offer :: _ => decide (offer.price ≤ bid.price.value)
  | _, _ => false

/-- `mirrorStrategy.UpdateWithOps`, given what `GetOrderBook` returned. Bids and asks are cut
to 50 levels each. -/
def updateWithOps (orderBook : Except String OrderBook) (buyingAOffers sellingAOffers : List Offer) :
    Sdex (List TransactionMutator) := do
  let ob ← Sdex.venue orderBook
  let bids := ob.bids.take 50
  let asks := ob.asks.take 50
  let buyOps ← updateLevels s buyingAOffers bids s.sdex.modifyBuyOffer s.sdex.createBuyOffer
    (1 - s.perLevelSpread) true
  let sellOps ← updateLevels s sellingAOffers asks s.sdex.modifySellOffer s.sdex.createSellOffer
    (1 + s.perLevelSpread) false
  pure (if sellsFirst ob.bids sellingAOffers then sellOps ++ buyOps else buyOps ++ sellOps)

end Kelp.Mirror
