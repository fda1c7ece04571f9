import Kelp.Mirror.Pass
import Mathlib.Tactic.NormNum

/-! What a pass commits, and how many operations an update returns.

`updateLevels_liabilities`: the liabilities a successful pass adds come from the
same per-level decisions as its operations, one per surviving level, each with
the selling asset's amount first. For a kept offer the amounts are those
`doModifyOffer` reads back; on the buy side that goes through the inverted
price, so the liability of a kept offer need not be the offer's own amount
(`kept_buy_offer_liability`).

`updateLevels_loses_and_duplicates_nothing`: a successful pass returns its
deletions first; every live offer is acted on at most once, and every one past the
targets is deleted; every creation is a target past the live offers that reaches
the backing minimum, each at most once and in order.

`updateWithOps_length_le`: an update returns at most the larger of each side's
live offers and its first 50 levels. Cutting the orderbook to 50 levels a side
does not bound the deletions of live offers past the targets
(`updateWithOps_exceeds_transaction_limit`). -/
namespace Kelp.Mirror

variable (s : MirrorStrategy)

/-! ### Liabilities -/

/-- A live buy offer selling 1 USD at 3 XLM per USD. -/
def keptBuyOffer : Offer := ⟨1, usd, xlm, 1, 3⟩

/-- A bid for 3 XLM at 1/3 USD each: the level `keptBuyOffer` stands for. -/
def keptBuyTarget : Order := ⟨.buy, numberFromFloat (1 / 3) 7, numberFromFloat 3 7⟩

/-- The pair loop keeps the offer, and the liability it adds sells `3 × 0.3333333` USD. -/
theorem modifyLevels_keptBuyOffer :
    modifyLevels exampleStrategy exampleStrategy.sdex.modifyBuyOffer 1 true
        [(keptBuyOffer, keptBuyTarget)] [] [] =
      ⟨.ok ([], []), [⟨usd, xlm, 9999999 / 10000000, 3, 0⟩]⟩ := by
  simp [modifyLevels, doModifyOffer, oldLevel, exampleStrategy, keptBuyOffer, keptBuyTarget,
    Number.equalsPrecisionNormalized, Number.scale, Number.multiply, invertNumber,
    mustNumberFromString, liability, epsilon]
  norm_num [toFixed, roundHalfAway]

theorem updateLevels_keptBuyOffer :
    updateLevels exampleStrategy [keptBuyOffer] [keptBuyTarget] exampleStrategy.sdex.modifyBuyOffer
        exampleStrategy.sdex.createBuyOffer 1 true =
      ⟨.ok [], [⟨usd, xlm, 9999999 / 10000000, 3, 0⟩]⟩ := by
  simp [updateLevels, modifyLevels_keptBuyOffer, createLevels]

/-- **Liabilities follow the surviving levels.** A successful pass adds, in level order, the
liability of each level its fates keep, modify or create (`Fate.liability_isSome`),
and returns the operations of the same fates. -/
theorem updateLevels_liabilities {L : List Offer} {T : List Order} {mo : ModifyOfferFn}
    {co : CreateOfferFn} {m : ℚ} {hack : Bool} {ops : List TransactionMutator}
    (h : (updateLevels s L T mo co m hack).result = .ok ops) :
    ∃ fates, passFates s L T mo co m hack = .ok fates ∧ ops = opsOf fates ∧
      (updateLevels s L T mo co m hack).added = fates.filterMap (Fate.liability s hack) := by
  rw [updateLevels_result] at h
  cases hp : passFates s L T mo co m hack with
  | error e => simp [hp, Except.map] at h
  | ok fates =>
    simp only [hp, Except.map, Except.ok.injEq] at h
    exact ⟨fates, rfl, h.symm, by rw [updateLevels_of_passFates s hp]⟩

theorem keptBuyOffer_fates :
    ∃ fates, passFates exampleStrategy [keptBuyOffer] [keptBuyTarget]
        exampleStrategy.sdex.modifyBuyOffer exampleStrategy.sdex.createBuyOffer 1 true = .ok fates ∧
      [] = opsOf fates ∧
      (updateLevels exampleStrategy [keptBuyOffer] [keptBuyTarget] exampleStrategy.sdex.modifyBuyOffer
        exampleStrategy.sdex.createBuyOffer 1 true).added =
        fates.filterMap (Fate.liability exampleStrategy true) :=
  updateLevels_liabilities exampleStrategy (by rw [updateLevels_keptBuyOffer])

/-- The liability of the kept buy offer is not the offer's own: it sells 0.9999999 USD where
the offer sells 1. -/
theorem kept_buy_offer_liability :
    updateLevels exampleStrategy [keptBuyOffer] [keptBuyTarget] exampleStrategy.sdex.modifyBuyOffer
        exampleStrategy.sdex.createBuyOffer 1 true =
      ⟨.ok [], [⟨keptBuyOffer.selling, keptBuyOffer.buying, 9999999 / 10000000, 3, 0⟩]⟩ ∧
    keptBuyOffer.amount ≠ 9999999 / 10000000 :=
  ⟨updateLevels_keptBuyOffer, by norm_num [keptBuyOffer]⟩

/-! ### Each level once -/

namespace TransactionMutator

/-- The live offer an operation acts on. -/
def subject : TransactionMutator → Option Offer
  | deleteOffer o | modifyOffer o _ _ => some o
  | createOffer .. => none

/-- The price and amount of a creation. -/
def creation : TransactionMutator → Option (ℚ × ℚ)
  | createOffer p a => some (p, a)
  | _ => none

def isDelete : TransactionMutator → Bool
  | deleteOffer _ => true
  | _ => false

end TransactionMutator

namespace Fate

/-- The live offer a level's fate is about. -/
def subject : Fate → Option Offer
  | kept o .. | modified o .. | deleted o => some o
  | created .. | skipped => none

/-- The price and volume of a created level. -/
def creation : Fate → Option (ℚ × ℚ)
  | created p v => some (p, v)
  | _ => none

end Fate

/-- A target past the live offers as the create loop sees it: its scaled price and volume, when
the volume reaches the backing minimum. -/
def creatable (m : ℚ) (newOrder : Order) : Option (ℚ × ℚ) :=
  let price := (newOrder.price.scale m).value
  let vol := (newOrder.volume.scale (1 / s.volumeDivideBy)).value
  if vol < s.backingConstraints.minBaseVolume.value then none else some (price, vol)

/-- Two selectors that never both pick an element, each picking the element's value under a
third, pick each value at most as often as the third. -/
theorem filterMap_append_subperm {α β : Type} (g₁ g₂ g : α → Option β)
    (h : ∀ a, ((g₁ a).toList ++ (g₂ a).toList).Sublist (g a).toList) :
    ∀ l : List α, (l.filterMap g₁ ++ l.filterMap g₂).Subperm (l.filterMap g)
  | [] => by simp
  | a :: l => by
    have ih := filterMap_append_subperm g₁ g₂ g h l
    have hp : ((g₁ a).toList ++ l.filterMap g₁ ++ ((g₂ a).toList ++ l.filterMap g₂)).Perm
        ((g₁ a).toList ++ (g₂ a).toList ++ (l.filterMap g₁ ++ l.filterMap g₂)) := by
      simpa only [List.append_assoc] using (List.perm_append_comm_assoc _ _ _).append_left _
    simp only [filterMap_cons_toList]
    exact hp.subperm.trans (((List.subperm_append_right _).mpr (h a).subperm).trans
      ((List.subperm_append_left _).mpr ih))

/-- The live offers a pass's operations act on are, with multiplicity, among those its fates are
about: each fate gives at most one operation, about its own offer. -/
theorem opsOf_subjects (fates : List Fate) :
    ((opsOf fates).filterMap TransactionMutator.subject).Subperm (fates.filterMap Fate.subject) := by
  rw [opsOf, List.filterMap_append, List.filterMap_filterMap, List.filterMap_filterMap]
  refine filterMap_append_subperm _ _ _ (fun f => ?_) fates
  cases f <;> simp [Fate.deleteOp, Fate.manageOp, Fate.subject, TransactionMutator.subject]

/-- A pass's creations are its created fates'. -/
theorem opsOf_creations (fates : List Fate) :
    (opsOf fates).filterMap TransactionMutator.creation = fates.filterMap Fate.creation := by
  rw [opsOf, List.filterMap_append, List.filterMap_filterMap, List.filterMap_filterMap,
    List.filterMap_eq_nil_iff.mpr (fun f _ => by cases f <;> rfl), List.nil_append]
  congr 1
  funext f
  cases f <;> rfl

theorem map_fst_zip_take {α β : Type} : ∀ (L : List α) (T : List β),
    (L.zip T).map Prod.fst = L.take T.length
  | [], _ => by simp
  | _ :: _, [] => by simp
  | a :: L, _ :: T => by simp [map_fst_zip_take L T]

section Levels
variable {mo : ModifyOfferFn} {co : CreateOfferFn} {m : ℚ} {hack : Bool}

theorem pairFates_subjects_creations :
    ∀ {ps : List (Offer × Order)} {fs : List Fate}, pairFates s mo m hack ps = .ok fs →
      fs.filterMap Fate.subject = ps.map Prod.fst ∧ fs.filterMap Fate.creation = []
  | [], fs, h => by simp only [pairFates, Except.ok.injEq] at h; simp [← h]
  | (o, n) :: rest, fs, h => by
    obtain ⟨f, fs', hf, hr, rfl⟩ := pairFates_cons_ok s h
    obtain ⟨ih₁, ih₂⟩ := pairFates_subjects_creations hr
    rcases pairFate_cases s hf with ⟨-, rfl⟩ | rfl | rfl <;>
      simp [Fate.subject, Fate.creation, ih₁, ih₂]

/-- A created level is a target that reaches the backing minimum, at its scaled price and
volume. -/
theorem createFate_creation {n : Order} {f : Fate} (h : createFate s co m n = .ok f) :
    f.creation.toList.Sublist (creatable s m n).toList := by
  unfold createFate at h
  unfold creatable
  dsimp only at h ⊢
  split_ifs at h ⊢
  · simp only [Except.ok.injEq] at h
    simp [← h, Fate.creation]
  · simp only [Except.map] at h
    split at h
    · cases h
    · rename_i mo _
      cases mo <;> simp only [Except.ok.injEq, Bool.false_eq_true, if_true, if_false] at h <;>
        simp [← h, Fate.creation]

theorem createFates_subjects_creations :
    ∀ {ts : List Order} {fs : List Fate}, createFates s co m ts = .ok fs →
      fs.filterMap Fate.subject = [] ∧
        (fs.filterMap Fate.creation).Sublist (ts.filterMap (creatable s m))
  | [], fs, h => by simp only [createFates, Except.ok.injEq] at h; simp [← h]
  | n :: rest, fs, h => by
    obtain ⟨f, fs', hf, hr, rfl⟩ := createFates_cons_ok s h
    obtain ⟨ih₁, ih₂⟩ := createFates_subjects_creations hr
    refine ⟨?_, ?_⟩
    · rcases createFate_cases s hf with rfl | rfl <;> simp [Fate.subject, ih₁]
    · simp only [filterMap_cons_toList]
      exact (createFate_creation s hf).append ih₂

/-- The fates of a pass are about its live offers, each once and in order; its creations are
among the targets past the live offers that reach the minimum; and it deletes each live offer
past the targets. -/
theorem passFates_levels {L : List Offer} {T : List Order} {fates : List Fate}
    (h : passFates s L T mo co m hack = .ok fates) :
    fates.filterMap Fate.subject = L ∧
      (fates.filterMap Fate.creation).Sublist ((T.drop L.length).filterMap (creatable s m)) ∧
      ((L.drop T.length).map .deleteOffer).Sublist (fates.filterMap Fate.deleteOp) := by
  unfold passFates at h
  cases hp : pairFates s mo m hack (L.zip T) with
  | error e => simp [hp, bind, Except.bind] at h
  | ok paired =>
    obtain ⟨hps, hpc⟩ := pairFates_subjects_creations s hp
    rw [map_fst_zip_take] at hps
    split_ifs at h with hlen
    · cases hc : createFates s co m (T.drop L.length) with
      | error e => simp [hp, hc, bind, Except.bind] at h
      | ok created =>
        simp only [hp, hc, bind, Except.bind, pure, Except.pure, Except.ok.injEq] at h
        subst h
        obtain ⟨hcs, hcc⟩ := createFates_subjects_creations s hc
        refine ⟨?_, ?_, ?_⟩
        · rw [List.filterMap_append, hps, hcs, List.append_nil, List.take_of_length_le hlen]
        · rwa [List.filterMap_append, hpc, List.nil_append]
        · rw [List.drop_eq_nil_of_le hlen, List.map_nil]
          exact List.nil_sublist _
    · simp only [hp, bind, Except.bind, pure, Except.pure, Except.ok.injEq] at h
      subst h
      obtain ⟨hd, -, -⟩ := filterMap_deleted s (L.drop T.length) hack
      refine ⟨?_, ?_, ?_⟩
      · rw [List.filterMap_append, hps, List.filterMap_map]
        simp [Function.comp_def, Fate.subject]
      · have hnone : (L.drop T.length).filterMap (Fate.creation ∘ Fate.deleted) = [] :=
          List.filterMap_eq_nil_iff.mpr fun _ _ => rfl
        rw [List.filterMap_append, hpc, List.filterMap_map, hnone]
        exact List.nil_sublist _
      · rw [List.filterMap_append, hd]
        exact List.sublist_append_right _ _

end Levels

/-- **A pass loses and duplicates nothing.** A successful pass returns its deletions followed by
its modifications and creations. The live offers its operations act on are, with multiplicity,
among the live offers, and every live offer past the targets is deleted, in order. Its creations
are, in order, among the targets past the live offers whose scaled volume reaches the backing
minimum, at their scaled prices and volumes. It returns at most one operation per level. -/
theorem updateLevels_loses_and_duplicates_nothing {L : List Offer} {T : List Order}
    {mo : ModifyOfferFn} {co : CreateOfferFn} {m : ℚ} {hack : Bool} {ops : List TransactionMutator}
    (h : (updateLevels s L T mo co m hack).result = .ok ops) :
    ∃ dels mans, ops = dels ++ mans ∧ (∀ op ∈ dels, op.isDelete = true) ∧
      (∀ op ∈ mans, op.isDelete = false) ∧
      (ops.filterMap TransactionMutator.subject).Subperm L ∧
      ((L.drop T.length).map .deleteOffer).Sublist dels ∧
      (ops.filterMap TransactionMutator.creation).Sublist
        ((T.drop L.length).filterMap (creatable s m)) ∧
      ops.length ≤ max L.length T.length := by
  have hlen := updateLevels_length_le s h
  rw [updateLevels_result] at h
  cases hp : passFates s L T mo co m hack with
  | error e => simp [hp, Except.map] at h
  | ok fates =>
    simp only [hp, Except.map, Except.ok.injEq] at h
    subst h
    obtain ⟨hsub, hcre, hdel⟩ := passFates_levels s hp
    refine ⟨_, _, rfl, fun op hop => ?_, fun op hop => ?_, hsub ▸ opsOf_subjects fates, hdel,
      (opsOf_creations fates).symm ▸ hcre, hlen⟩
    · obtain ⟨f, -, hf⟩ := List.mem_filterMap.mp hop
      cases f <;> simp only [Fate.deleteOp, reduceCtorEq, Option.some.injEq] at hf
      simp [← hf, TransactionMutator.isDelete]
    · obtain ⟨f, -, hf⟩ := List.mem_filterMap.mp hop
      cases f <;> simp only [Fate.manageOp, reduceCtorEq, Option.some.injEq] at hf <;>
        simp [← hf, TransactionMutator.isDelete]

/-- Two live asks of 3 lumens at 2 USD. -/
def twoAsks : List Offer := [⟨1, xlm, usd, 3, 2⟩, ⟨2, xlm, usd, 3, 2⟩]

/-- Asks for half a lumen at 2 USD, below the backing minimum, for 3 lumens at 2.5 USD, and for 2
lumens at 3 USD. -/
def askLadder : List Order :=
  [⟨.sell, numberFromFloat 2 7, numberFromFloat (1 / 2) 7⟩,
    ⟨.sell, numberFromFloat (5 / 2) 7, numberFromFloat 3 7⟩,
    ⟨.sell, numberFromFloat 3 7, numberFromFloat 2 7⟩]

/-- The pass deletes the first ask, paired with a level below the minimum, moves the second to
2.5 USD, and creates the third level. -/
def askLadderOps : List TransactionMutator :=
  [.deleteOffer ⟨1, xlm, usd, 3, 2⟩, .modifyOffer ⟨2, xlm, usd, 3, 2⟩ (5 / 2) 3, .createOffer 3 2]

theorem updateLevels_askLadder :
    (updateLevels exampleStrategy twoAsks askLadder exampleStrategy.sdex.modifySellOffer
      exampleStrategy.sdex.createSellOffer 1 false).result = .ok askLadderOps := by
  simp [updateLevels, modifyLevels, doModifyOffer, oldLevel, createLevels, exampleStrategy,
    twoAsks, askLadder, askLadderOps, Number.equalsPrecisionNormalized, Number.scale,
    mustNumberFromString, numberByCappingPrecision, epsilon]
  norm_num [toFixed, roundHalfAway, abs_of_pos]

theorem updateLevels_loses_and_duplicates_nothing_askLadder :
    (updateLevels exampleStrategy twoAsks askLadder exampleStrategy.sdex.modifySellOffer
      exampleStrategy.sdex.createSellOffer 1 false).result = .ok askLadderOps ∧
    ∃ dels mans, askLadderOps = dels ++ mans ∧ (∀ op ∈ dels, op.isDelete = true) ∧
      (∀ op ∈ mans, op.isDelete = false) ∧
      (askLadderOps.filterMap TransactionMutator.subject).Subperm twoAsks ∧
      ((twoAsks.drop askLadder.length).map .deleteOffer).Sublist dels ∧
      (askLadderOps.filterMap TransactionMutator.creation).Sublist
        ((askLadder.drop twoAsks.length).filterMap (creatable exampleStrategy 1)) ∧
      askLadderOps.length ≤ max twoAsks.length askLadder.length :=
  ⟨updateLevels_askLadder, updateLevels_loses_and_duplicates_nothing exampleStrategy updateLevels_askLadder⟩

/-! ### One transaction -/

/-- Each side of an update is one pass against the first 50 levels of the orderbook. -/
theorem updateWithOps_ok {ob : OrderBook} {buyingAOffers sellingAOffers : List Offer}
    {ops : List TransactionMutator}
    (h : (updateWithOps s (.ok ob) buyingAOffers sellingAOffers).result = .ok ops) :
    ∃ buyOps sellOps,
      (updateLevels s buyingAOffers (ob.bids.take 50) s.sdex.modifyBuyOffer s.sdex.createBuyOffer
        (1 - s.perLevelSpread) true).result = .ok buyOps ∧
      (updateLevels s sellingAOffers (ob.asks.take 50) s.sdex.modifySellOffer
        s.sdex.createSellOffer (1 + s.perLevelSpread) false).result = .ok sellOps ∧
      (ops = sellOps ++ buyOps ∨ ops = buyOps ++ sellOps) := by
  unfold updateWithOps at h
  simp only [Sdex.venue_eq, Sdex.mk_ok_bind] at h
  rcases hb : updateLevels s buyingAOffers (ob.bids.take 50) s.sdex.modifyBuyOffer
    s.sdex.createBuyOffer (1 - s.perLevelSpread) true with ⟨rb, ab⟩
  rcases hs : updateLevels s sellingAOffers (ob.asks.take 50) s.sdex.modifySellOffer
    s.sdex.createSellOffer (1 + s.perLevelSpread) false with ⟨rs, as⟩
  rw [hb] at h
  cases rb with
  | error e => simp at h
  | ok buyOps =>
    rw [Sdex.mk_ok_bind, hs] at h
    cases rs with
    | error e => simp at h
    | ok sellOps =>
      refine ⟨buyOps, sellOps, rfl, rfl, ?_⟩
      simp only [Sdex.mk_ok_bind, Sdex.pure_eq, Except.ok.injEq] at h
      split_ifs at h
      · exact .inl h.symm
      · exact .inr h.symm

/-- With an empty orderbook an update deletes every live offer. -/
theorem updateWithOps_empty_book (buyingAOffers sellingAOffers : List Offer) :
    updateWithOps s (.ok ⟨[], []⟩) buyingAOffers sellingAOffers =
      ⟨.ok (buyingAOffers.map .deleteOffer ++ sellingAOffers.map .deleteOffer), []⟩ := by
  simp [updateWithOps, updateLevels_no_targets, sellsFirst]

/-- An update returns at most, on each side, the larger of the live offers and the first 50
levels of the orderbook. -/
theorem updateWithOps_length_le {ob : OrderBook} {buyingAOffers sellingAOffers : List Offer}
    {ops : List TransactionMutator}
    (h : (updateWithOps s (.ok ob) buyingAOffers sellingAOffers).result = .ok ops) :
    ops.length ≤ max buyingAOffers.length (min ob.bids.length 50) +
      max sellingAOffers.length (min ob.asks.length 50) := by
  obtain ⟨buyOps, sellOps, hb, hs, hops⟩ := updateWithOps_ok s h
  have hb' := updateLevels_length_le s hb
  have hs' := updateLevels_length_le s hs
  rw [List.length_take, min_comm] at hb' hs'
  rcases hops with rfl | rfl
  · rw [List.length_append, add_comm]
    exact Nat.add_le_add hb' hs'
  · rw [List.length_append]
    exact Nat.add_le_add hb' hs'

theorem updateWithOps_length_le_empty_book :
    ([keptBuyOffer].map TransactionMutator.deleteOffer ++
        ([] : List Offer).map TransactionMutator.deleteOffer).length ≤
      max [keptBuyOffer].length (min (⟨[], []⟩ : OrderBook).bids.length 50) +
        max ([] : List Offer).length (min (⟨[], []⟩ : OrderBook).asks.length 50) :=
  updateWithOps_length_le exampleStrategy
    (congrArg Sdex.result (updateWithOps_empty_book exampleStrategy [keptBuyOffer] []))

/-- 101 live buy offers against an empty orderbook make an update of 101 operations, past
the 100 of one Stellar transaction. -/
theorem updateWithOps_exceeds_transaction_limit (o : Offer) :
    (updateWithOps s (.ok ⟨[], []⟩) (List.replicate 101 o) []).result =
        .ok ((List.replicate 101 o).map .deleteOffer) ∧
      100 < ((List.replicate 101 o).map TransactionMutator.deleteOffer).length := by
  simp [updateWithOps_empty_book]

end Kelp.Mirror
