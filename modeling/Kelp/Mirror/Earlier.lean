import Kelp.Mirror.Outcome
import Kelp.Mirror.Hedge

/-! The earlier revision of the mirror strategy, and what the later one changed.

The sources hold two revisions of `mirror.go`. The earlier one has no backing minimum:
`doModifyOffer` moves an offer to whatever its target caps to, the create loop creates
every target past the live offers, and `HandleFill` offsets each fill at once by the
reverse order for the fill's own volume, with no ledger. The later one (modelled in
`Kelp.Mirror.Reconcile` and `Kelp.Mirror.Hedge`) deletes an offer whose target falls below
the backing minimum, skips such a creation, and offsets fills through the surplus ledger.

Each change is invisible where its guard never fires. When every target the backing order
book hands the two passes clears the minimum, the later `UpdateWithOps` builds the same
operations, reserves the same liabilities and fails with the same error as the earlier one
(`updateWithOps_eq_earlier`). When the backing minimum is zero or less, the ledger never
holds an uncommitted surplus, and each fill is offset by one order for its own volume, on
the reverse side, at its capped price, whatever the venue answers: a run sends the earlier
revision's orders, one for one (`hedges_eq_earlier`). -/
namespace Kelp.Mirror

/-- An order as the venue reads it: its side, and its price and volume as floats. -/
def Order.asPlaced (o : Order) : OrderAction × ℚ × ℚ := (o.orderAction, o.price.value, o.volume.value)

namespace Earlier

variable (s : MirrorStrategy)

/-- `mirrorStrategy.doModifyOffer` of the earlier revision. -/
def doModifyOffer (oldOffer : Offer) (newOrder : Order) (priceMultiplier : ℚ)
    (modifyOffer : ModifyOfferFn) (hack : Bool) :
    Sdex (Option TransactionMutator × Option TransactionMutator) :=
  let price := newOrder.price.scale priceMultiplier
  let vol := newOrder.volume.scale (1 / s.volumeDivideBy)
  let oldPrice := (oldLevel s hack oldOffer).1
  let oldVol := (oldLevel s hack oldOffer).2
  let newPrice := price
  let newVol := vol
  let incrementalNativeAmountRaw := s.sdex.computeIncrementalNativeAmountRaw false
  let sameOrderParams := oldPrice.equalsPrecisionNormalized newPrice epsilon &&
    oldVol.equalsPrecisionNormalized newVol epsilon
  if sameOrderParams then do
    Sdex.addLiabilities (liability hack oldOffer.selling oldOffer.buying oldVol.value
      (oldVol.multiply oldPrice).value incrementalNativeAmountRaw)
    pure (none, none)
  else
    let offerPrice := numberByCappingPrecision price s.primaryConstraints.pricePrecision
    let offerAmount := numberByCappingPrecision vol s.primaryConstraints.volumePrecision
    do
      let mo ← Sdex.venue (modifyOffer oldOffer offerPrice.value offerAmount.value
        incrementalNativeAmountRaw)
      if mo then do
        Sdex.addLiabilities (liability hack oldOffer.selling oldOffer.buying offerAmount.value
          (offerAmount.multiply offerPrice).value incrementalNativeAmountRaw)
        pure (some (.modifyOffer oldOffer offerPrice.value offerAmount.value), none)
      else pure (none, some (.deleteOffer oldOffer))

/-- The first loop of the earlier `updateLevels`, over the live offers paired with their
targets. -/
def modifyLevels (modifyOffer : ModifyOfferFn) (priceMultiplier : ℚ) (hack : Bool) :
    List (Offer × Order) → List TransactionMutator → List TransactionMutator →
      Sdex (List TransactionMutator × List TransactionMutator)
  | [], ops, deleteOps => pure (ops, deleteOps)
  | (oldOffer, newOrder) :: rest, ops, deleteOps => do
    let (modifyOp, deleteOp) ← doModifyOffer s oldOffer newOrder priceMultiplier modifyOffer hack
    modifyLevels modifyOffer priceMultiplier hack rest (ops ++ modifyOp.toList)
      (deleteOps ++ deleteOp.toList)

/-- The earlier loop creating offers for the targets past the live offers. -/
def createLevels (createOffer : CreateOfferFn) (priceMultiplier : ℚ) (hack : Bool) :
    List Order → List TransactionMutator → Sdex (List TransactionMutator)
  | [], ops => pure ops
  | newOrder :: rest, ops =>
    let price := (newOrder.price.scale priceMultiplier).value
    let vol := (newOrder.volume.scale (1 / s.volumeDivideBy)).value
    let incrementalNativeAmountRaw := s.sdex.computeIncrementalNativeAmountRaw true
    do
      let mo ← Sdex.venue (createOffer s.baseAsset s.quoteAsset price vol incrementalNativeAmountRaw)
      if mo then do
        Sdex.addLiabilities (if hack then
            ⟨s.quoteAsset, s.baseAsset, vol * price, vol, incrementalNativeAmountRaw⟩
          else ⟨s.baseAsset, s.quoteAsset, vol, vol * price, incrementalNativeAmountRaw⟩)
        createLevels createOffer priceMultiplier hack rest (ops ++ [.createOffer price vol])
      else createLevels createOffer priceMultiplier hack rest ops

/-- `mirrorStrategy.updateLevels` of the earlier revision. -/
def updateLevels (oldOffers : List Offer) (newOrders : List Order) (modifyOffer : ModifyOfferFn)
    (createOffer : CreateOfferFn) (priceMultiplier : ℚ) (hack : Bool) :
    Sdex (List TransactionMutator) :=
  if oldOffers.length ≤ newOrders.length then do
    let (ops, deleteOps) ←
      modifyLevels s modifyOffer priceMultiplier hack (oldOffers.zip newOrders) [] []
    let ops ← createLevels s createOffer priceMultiplier hack (newOrders.drop oldOffers.length) ops
    pure (deleteOps ++ ops)
  else do
    let (ops, deleteOps) ←
      modifyLevels s modifyOffer priceMultiplier hack (oldOffers.zip newOrders) [] []
    pure (deleteOps ++ (oldOffers.drop newOrders.length).map .deleteOffer ++ ops)

/-- `mirrorStrategy.UpdateWithOps` of the earlier revision, given what `GetOrderBook`
returned. -/
def updateWithOps (orderBook : Except String OrderBook) (buyingAOffers sellingAOffers : List Offer) :
    Sdex (List TransactionMutator) := do
  let ob ← Sdex.venue orderBook
  let bids := ob.bids.take 50
  let asks := ob.asks.take 50
  let buyOps ← updateLevels s buyingAOffers bids s.sdex.modifyBuyOffer s.sdex.createBuyOffer
    (1 - s.perLevelSpread) true
  let sellOps ← updateLevels s sellingAOffers asks s.sdex.modifySellOffer s.sdex.createSellOffer
    (1 + s.perLevelSpread) false
  pure (if sellsFirst ob.bids sellingAOffers then sellOps ++ buyOps else buyOps ++ sellOps)

/-- The order the earlier `HandleFill` sends for a fill: the reverse side, at the fill's
price and volume capped to the backing precisions. -/
def newOrder (trade : Trade) : Order :=
  ⟨trade.orderAction.reverse, numberByCappingPrecision trade.price s.backingConstraints.pricePrecision,
    numberByCappingPrecision trade.volume s.backingConstraints.volumePrecision⟩

/-- `mirrorStrategy.HandleFill` of the earlier revision: it keeps no state, and any answer but
an error counts as success. -/
def handleFill (render : Order → String) (addOrder : AddOrderFn) (trade : Trade) :
    Except String Unit :=
  match addOrder (newOrder s trade) with
  | .error e => .error ("error when offsetting trade (" ++ render (newOrder s trade) ++ "): " ++ e)
  | .ok _ => .ok ()

end Earlier

/-! ### Targets that clear the minimum -/

section Reconcile
variable (s : MirrorStrategy)

/-- A target clears the backing minimum: its volume scaled by `volumeDivideBy` meets it both as
the create loop reads it and capped to the primary volume precision as `doModifyOffer` reads
it. -/
def ClearsMinimum (o : Order) : Prop :=
  s.backingConstraints.minBaseVolume.value ≤ (o.volume.scale (1 / s.volumeDivideBy)).value ∧
    s.backingConstraints.minBaseVolume.value ≤
      (numberByCappingPrecision (o.volume.scale (1 / s.volumeDivideBy))
        s.primaryConstraints.volumePrecision).value

instance (o : Order) : Decidable (ClearsMinimum s o) := inferInstanceAs (Decidable (_ ∧ _))

variable {s}

theorem doModifyOffer_eq_earlier {newOrder : Order} (h : ClearsMinimum s newOrder)
    (oldOffer : Offer) (priceMultiplier : ℚ) (modifyOffer : ModifyOfferFn) (hack : Bool) :
    doModifyOffer s oldOffer newOrder priceMultiplier modifyOffer hack =
      Earlier.doModifyOffer s oldOffer newOrder priceMultiplier modifyOffer hack := by
  simp only [doModifyOffer, Earlier.doModifyOffer, not_lt.mpr h.2, if_false]

theorem modifyLevels_eq_earlier (modifyOffer : ModifyOfferFn) (priceMultiplier : ℚ) (hack : Bool) :
    ∀ (pairs : List (Offer × Order)) (ops deleteOps : List TransactionMutator),
      (∀ p ∈ pairs, ClearsMinimum s p.2) →
      modifyLevels s modifyOffer priceMultiplier hack pairs ops deleteOps =
        Earlier.modifyLevels s modifyOffer priceMultiplier hack pairs ops deleteOps
  | [], _, _, _ => rfl
  | (oldOffer, newOrder) :: rest, ops, deleteOps, h => by
    have ih := fun ops deleteOps => modifyLevels_eq_earlier modifyOffer priceMultiplier hack rest
      ops deleteOps fun p hp => h p (List.mem_cons_of_mem _ hp)
    simp only [modifyLevels, Earlier.modifyLevels, ih,
      doModifyOffer_eq_earlier (h _ (List.mem_cons_self _ _))]

theorem createLevels_eq_earlier (createOffer : CreateOfferFn) (priceMultiplier : ℚ) (hack : Bool) :
    ∀ (newOrders : List Order) (ops : List TransactionMutator),
      (∀ o ∈ newOrders, ClearsMinimum s o) →
      createLevels s createOffer priceMultiplier hack newOrders ops =
        Earlier.createLevels s createOffer priceMultiplier hack newOrders ops
  | [], _, _ => rfl
  | newOrder :: rest, ops, h => by
    have ih := fun ops => createLevels_eq_earlier createOffer priceMultiplier hack rest ops
      fun o ho => h o (List.mem_cons_of_mem _ ho)
    simp only [createLevels, Earlier.createLevels, ih,
      not_lt.mpr (h newOrder (List.mem_cons_self _ _)).1, if_false]

theorem updateLevels_eq_earlier {oldOffers : List Offer} {newOrders : List Order}
    (h : ∀ o ∈ newOrders, ClearsMinimum s o) (modifyOffer : ModifyOfferFn)
    (createOffer : CreateOfferFn) (priceMultiplier : ℚ) (hack : Bool) :
    updateLevels s oldOffers newOrders modifyOffer createOffer priceMultiplier hack =
      Earlier.updateLevels s oldOffers newOrders modifyOffer createOffer priceMultiplier hack := by
  have hz := modifyLevels_eq_earlier modifyOffer priceMultiplier hack (oldOffers.zip newOrders) [] []
    fun p hp => h p.2 (List.of_mem_zip hp).2
  have hc := fun ops => createLevels_eq_earlier createOffer priceMultiplier hack
    (newOrders.drop oldOffers.length) ops fun o ho => h o (List.mem_of_mem_drop ho)
  simp only [updateLevels, Earlier.updateLevels, hz, hc]

/-- **Where no target falls below the backing minimum, the later reconciler is the earlier
one.** If every bid and ask that `UpdateWithOps` hands the two passes clears the minimum, the
later revision returns the same operations or the same error, and reserves the same
liabilities, as the earlier one, whatever the live offers and the venue's answers. -/
theorem updateWithOps_eq_earlier (orderBook : Except String OrderBook)
    (buyingAOffers sellingAOffers : List Offer)
    (h : ∀ ob, orderBook = .ok ob → ∀ o ∈ ob.bids.take 50 ++ ob.asks.take 50, ClearsMinimum s o) :
    updateWithOps s orderBook buyingAOffers sellingAOffers =
      Earlier.updateWithOps s orderBook buyingAOffers sellingAOffers := by
  cases orderBook with
  | error e => rfl
  | ok ob =>
    have hob := h ob rfl
    simp only [updateWithOps, Earlier.updateWithOps, Sdex.venue_eq, Sdex.mk_ok_bind,
      updateLevels_eq_earlier fun o ho => hob o (List.mem_append_left _ ho),
      updateLevels_eq_earlier fun o ho => hob o (List.mem_append_right _ ho)]

/-- A backing book with one bid of two lumens. -/
def twoLumenBook : OrderBook := ⟨[⟨.buy, numberFromFloat 1 7, numberFromFloat 2 7⟩], []⟩

theorem updateWithOps_eq_earlier_twoLumenBook :
    updateWithOps exampleStrategy (.ok twoLumenBook) [] [] =
      Earlier.updateWithOps exampleStrategy (.ok twoLumenBook) [] [] :=
  updateWithOps_eq_earlier _ _ _ fun ob h => by
    cases h
    simp [twoLumenBook, ClearsMinimum, exampleStrategy, Number.scale, numberByCappingPrecision]
    norm_num [toFixed, roundHalfAway]

end Reconcile

/-! ### What the minimum buys -/

/-- The amount an operation puts on the book: a modified offer's new amount or a created
offer's volume. A deletion puts nothing. -/
def TransactionMutator.placedAmount : TransactionMutator → Option ℚ
  | .deleteOffer _ => none
  | .modifyOffer _ _ amount => some amount
  | .createOffer _ amount => some amount

section Minimum
variable {s : MirrorStrategy} {mo : ModifyOfferFn} {co : CreateOfferFn} {m : ℚ} {hack : Bool}

/-- A level's fate puts nothing on the book below the backing minimum. -/
def MeetsMinimum (s : MirrorStrategy) (f : Fate) : Prop :=
  ∀ a ∈ f.manageOp.bind TransactionMutator.placedAmount, s.backingConstraints.minBaseVolume.value ≤ a

theorem meetsMinimum_deleted (o : Offer) : MeetsMinimum s (.deleted o) := by
  simp [MeetsMinimum, Fate.manageOp]

theorem pairFate_meetsMinimum {o : Offer} {n : Order} {f : Fate}
    (h : pairFate s o n m mo hack = .ok f) : MeetsMinimum s f := by
  unfold pairFate at h
  dsimp only at h
  split_ifs at h with hs hmin
  · cases h
    simp [MeetsMinimum, Fate.manageOp]
  · cases h
    exact meetsMinimum_deleted o
  · simp only [Except.map] at h
    split at h
    · cases h
    · rename_i mo' _
      cases mo' <;> simp only [Except.ok.injEq, Bool.false_eq_true, if_true, if_false] at h <;>
        subst h
      · exact meetsMinimum_deleted o
      · simpa [MeetsMinimum, Fate.manageOp, TransactionMutator.placedAmount] using hmin

theorem createFate_meetsMinimum {n : Order} {f : Fate} (h : createFate s co m n = .ok f) :
    MeetsMinimum s f := by
  unfold createFate at h
  dsimp only at h
  split_ifs at h with hmin
  · cases h
    simp [MeetsMinimum, Fate.manageOp]
  · simp only [Except.map] at h
    split at h
    · cases h
    · rename_i mo' _
      cases mo' <;> simp only [Except.ok.injEq, Bool.false_eq_true, if_true, if_false] at h <;>
        subst h
      · simp [MeetsMinimum, Fate.manageOp]
      · simpa [MeetsMinimum, Fate.manageOp, TransactionMutator.placedAmount] using hmin

theorem createFates_meetsMinimum :
    ∀ {ts : List Order} {fs : List Fate}, createFates s co m ts = .ok fs → ∀ f ∈ fs, MeetsMinimum s f
  | [], fs, h => by
    simp only [createFates, Except.ok.injEq] at h
    simp [← h]
  | n :: rest, fs, h => by
    obtain ⟨f, fs', hf, hr, rfl⟩ := createFates_cons_ok s h
    intro g hg
    rcases List.mem_cons.mp hg with rfl | hg
    · exact createFate_meetsMinimum hf
    · exact createFates_meetsMinimum hr g hg

theorem passFates_meetsMinimum :
    ∀ {L : List Offer} {T : List Order} {fs : List Fate}, passFates s L T mo co m hack = .ok fs →
      ∀ f ∈ fs, MeetsMinimum s f
  | [], T, fs, h => createFates_meetsMinimum (by rwa [passFates_nil_left] at h)
  | o :: L, [], fs, h => by
    rw [passFates_nil_right, Except.ok.injEq] at h
    subst h
    intro g hg
    obtain ⟨o', -, rfl⟩ := List.mem_map.mp hg
    exact meetsMinimum_deleted o'
  | o :: L, n :: T, fs, h => by
    obtain ⟨f, fs', hf, hr, rfl⟩ := passFates_cons_cons_ok s h
    intro g hg
    rcases List.mem_cons.mp hg with rfl | hg
    · exact pairFate_meetsMinimum hf
    · exact passFates_meetsMinimum hr g hg

/-- Every operation of a successful pass puts nothing below the backing minimum on the book. -/
theorem updateLevels_meetsMinimum {L : List Offer} {T : List Order} {ops : List TransactionMutator}
    (h : (updateLevels s L T mo co m hack).result = .ok ops) :
    ∀ op ∈ ops, ∀ a ∈ op.placedAmount, s.backingConstraints.minBaseVolume.value ≤ a := by
  rw [updateLevels_result] at h
  cases hp : passFates s L T mo co m hack with
  | error e => simp [hp, Except.map] at h
  | ok fs =>
    simp only [hp, Except.map, Except.ok.injEq] at h
    subst h
    intro op hop a ha
    rcases List.mem_append.mp hop with hd | hm
    · obtain ⟨f, -, hf⟩ := List.mem_filterMap.mp hd
      cases f <;> simp only [Fate.deleteOp, Option.some.injEq, reduceCtorEq] at hf
      subst hf
      simp [TransactionMutator.placedAmount] at ha
    · obtain ⟨f, hfs, hf⟩ := List.mem_filterMap.mp hm
      exact passFates_meetsMinimum hp f hfs a (by rw [hf]; exact ha)

/-- **The later revision places nothing below the backing minimum.** Every operation of a
successful `UpdateWithOps`, on either side, modifies an offer to an amount or creates one of a
volume at least the backing exchange's `MinBaseVolume`. A live offer kept within tolerance of
its target is left as it is, and is not checked. -/
theorem updateWithOps_meetsMinimum {orderBook : Except String OrderBook}
    {buyingAOffers sellingAOffers : List Offer} {ops : List TransactionMutator}
    (h : (updateWithOps s orderBook buyingAOffers sellingAOffers).result = .ok ops) :
    ∀ op ∈ ops, ∀ a ∈ op.placedAmount, s.backingConstraints.minBaseVolume.value ≤ a := by
  cases orderBook with
  | error e => simp [updateWithOps, Sdex.bind_error] at h
  | ok ob =>
    obtain ⟨buyOps, sellOps, hb, hs, hops⟩ := updateWithOps_ok s h
    have hall : ∀ op ∈ buyOps ++ sellOps, ∀ a ∈ op.placedAmount,
        s.backingConstraints.minBaseVolume.value ≤ a := fun op hop =>
      (List.mem_append.mp hop).elim (updateLevels_meetsMinimum hb op) (updateLevels_meetsMinimum hs op)
    rcases hops with rfl | rfl
    · exact fun op hop => hall op (List.perm_append_comm.mem_iff.mp hop)
    · exact hall

theorem updateWithOps_meetsMinimum_twoLumenBook :
    (updateWithOps exampleStrategy (.ok twoLumenBook) [] []).result = .ok [.createOffer 1 2] ∧
      exampleStrategy.backingConstraints.minBaseVolume.value ≤ 2 := by
  have hr : (updateWithOps exampleStrategy (.ok twoLumenBook) [] []).result =
      .ok [.createOffer 1 2] := by
    simp [updateWithOps, updateLevels, modifyLevels, createLevels, exampleStrategy, twoLumenBook,
      Number.scale, sellsFirst]
    norm_num [toFixed, roundHalfAway]
  exact ⟨hr, updateWithOps_meetsMinimum hr _ (List.mem_singleton_self _) 2 rfl⟩

end Minimum

/-! ### Hedging with no backing minimum -/

section Hedge
variable {s : MirrorStrategy} {k : ℕ}

/-- With no backing minimum, half of it rounds to nothing or less. -/
theorem minBaseVolume_half_nonpos (hm : s.backingConstraints.minBaseVolume.value ≤ 0) :
    (s.backingConstraints.minBaseVolume.scale (1 / 2)).value ≤ 0 := by
  have := toFixed_mono (show s.backingConstraints.minBaseVolume.value * (1 / 2) ≤ 0 by linarith)
    s.backingConstraints.minBaseVolume.precision
  simpa [Number.scale] using this

/-- With no backing minimum, a record with a surplus of its own is offset whole. -/
theorem baseVolumeToOffset_of_nonpos (hg : OnHedgeGrid s k)
    (hm : s.backingConstraints.minBaseVolume.value ≤ 0) {a : AssetSurplus} (ha : a.Fits k)
    (hu : 0 ≤ a.uncommitted) : ∃ nv, baseVolumeToOffset s a = some nv ∧ nv.value = a.uncommitted := by
  cases hn : baseVolumeToOffset s a with
  | none =>
    have := (baseVolumeToOffset_eq_none_iff ha).mp hn
    linarith [minBaseVolume_half_nonpos hm]
  | some nv =>
    obtain ⟨-, hval, -⟩ := baseVolumeToOffset_eq_some hg ha hn
    refine ⟨nv, rfl, ?_⟩
    rw [hval]
    split_ifs <;> linarith

/-- With no backing minimum, a fill recorded on a balanced ledger is offset by one order for
its own volume, and the venue reads it as the earlier revision's order. -/
theorem offsetOrder_of_balanced (hg : OnHedgeGrid s k)
    (hm : s.backingConstraints.minBaseVolume.value ≤ 0) {bs : BaseSurplus} {trade : Trade}
    (hb : (bs trade.orderAction.reverse).Fits k) (hu : (bs trade.orderAction.reverse).uncommitted = 0)
    (hv : trade.volume.Fits k) (hv0 : 0 ≤ trade.volume.value) :
    ∃ o, offsetOrder s bs trade = some o ∧ o.volume.value = trade.volume.value ∧
      o.asPlaced = (Earlier.newOrder s trade).asPlaced := by
  have hau : AssetSurplus.uncommitted ⟨(bs trade.orderAction.reverse).total.add trade.volume,
      (bs trade.orderAction.reverse).committed⟩ = trade.volume.value := by
    unfold AssetSurplus.uncommitted at hu ⊢
    rw [Number.add_value hb.1 hv]
    linarith
  obtain ⟨nv, hn, hnv⟩ := baseVolumeToOffset_of_nonpos hg hm
    (a := ⟨(bs trade.orderAction.reverse).total.add trade.volume,
      (bs trade.orderAction.reverse).committed⟩) ⟨Number.add_fits hb.1 hv, hb.2⟩ (hau ▸ hv0)
  rw [hau] at hnv
  refine ⟨_, by rw [offsetOrder_eq_map, hn]; rfl, hnv, ?_⟩
  simp only [Order.asPlaced, Earlier.newOrder, hnv, Number.capping_value hv hg.volumePrecision]

variable (render : Order → String) (addOrder : AddOrderFn) in
/-- With no backing minimum, a fill keeps a balanced ledger balanced, whatever the venue
answers. -/
theorem handleFill_balanced (hg : OnHedgeGrid s k)
    (hm : s.backingConstraints.minBaseVolume.value ≤ 0) {bs : BaseSurplus} {trade : Trade}
    (hb : ∀ d, (bs d).Fits k ∧ (bs d).uncommitted = 0) (hv : trade.volume.Fits k)
    (hv0 : 0 ≤ trade.volume.value) (d : OrderAction) :
    ((handleFill s render addOrder bs trade).1 d).Fits k ∧
      ((handleFill s render addOrder bs trade).1 d).uncommitted = 0 := by
  by_cases hd : d = trade.orderAction.reverse
  swap
  · rw [handleFill_other s hd]
    exact hb d
  subst hd
  obtain ⟨hf, ht, hc⟩ := handleFill_self_exact render addOrder hg (hb _).1 hv
  obtain ⟨o, ho, hov, -⟩ := offsetOrder_of_balanced hg hm (hb _).1 (hb _).2 hv hv0
  have hsum := hedgedVolume_hedgeOf s bs trade addOrder
  rw [ho, Option.map_some', Option.getD_some, hov] at hsum
  have hu := (hb trade.orderAction.reverse).2
  unfold AssetSurplus.uncommitted at hu ⊢
  refine ⟨hf, ?_⟩
  rw [ht, hc]
  linarith

/-- **With no backing minimum, the ledger is invisible.** On the grid, from a balanced ledger,
over any run of fills of nonnegative volume and any answers of the venue, the ledger stays
balanced, and the hedge orders the run sends are, one for one and in order, the orders the
earlier revision sends for the same fills. -/
theorem hedges_eq_earlier (hg : OnHedgeGrid s k)
    (hm : s.backingConstraints.minBaseVolume.value ≤ 0) (render : Order → String) :
    ∀ (bs : BaseSurplus) (steps : List (Trade × AddOrderFn)),
      (∀ d, (bs d).Fits k ∧ (bs d).uncommitted = 0) →
      (∀ x ∈ steps, x.1.volume.Fits k ∧ 0 ≤ x.1.volume.value) →
      (∀ d, (handleFills s render bs steps d).uncommitted = 0) ∧
        (hedges s render bs steps).map (fun h => h.1.asPlaced) =
          steps.map fun x => (Earlier.newOrder s x.1).asPlaced
  | bs, [], hb, _ => ⟨fun d => (hb d).2, rfl⟩
  | bs, (trade, addOrder) :: rest, hb, hv => by
    obtain ⟨hv1, hv0⟩ := hv _ (List.mem_cons_self _ _)
    obtain ⟨o, ho, -, hplaced⟩ := offsetOrder_of_balanced hg hm (hb _).1 (hb _).2 hv1 hv0
    obtain ⟨hu, hrest⟩ := hedges_eq_earlier hg hm render _ rest
      (handleFill_balanced render addOrder hg hm hb hv1 hv0)
      fun x hx => hv x (List.mem_cons_of_mem _ hx)
    refine ⟨hu, ?_⟩
    simp only [hedges, hedgeOf, ho, Option.map_some', Option.toList_some, List.singleton_append,
      List.map_cons, hplaced, hrest]

/-- The example market with no backing minimum. -/
def noMinimumStrategy : MirrorStrategy :=
  { exampleStrategy with backingConstraints := ⟨8, 8, numberFromFloat 0 8⟩ }

theorem noMinimumStrategy_onHedgeGrid : OnHedgeGrid noMinimumStrategy 0 :=
  ⟨Nat.zero_le _, ⟨Nat.zero_le _, by simp [noMinimumStrategy, onGrid_zero]⟩⟩

theorem hedges_eq_earlier_threeSell :
    (∀ d, (handleFills noMinimumStrategy (fun _ => "") (fun _ => makeAssetSurplus 0)
        [(threeSell, takeAll)] d).uncommitted = 0) ∧
      (hedges noMinimumStrategy (fun _ => "") (fun _ => makeAssetSurplus 0)
        [(threeSell, takeAll)]).map (fun h => h.1.asPlaced) =
        [(Earlier.newOrder noMinimumStrategy threeSell).asPlaced] :=
  hedges_eq_earlier noMinimumStrategy_onHedgeGrid (by simp [noMinimumStrategy]) _ _ _
    (fun _ => ⟨makeAssetSurplus_fits le_rfl, by simp [AssetSurplus.uncommitted, makeAssetSurplus]⟩)
    threeSell_fits

end Hedge

end Kelp.Mirror
