import Kelp.Mirror.Basic
import Mathlib.Tactic.NormNum

/-! Offsetting fills on the backing exchange: `mirrorStrategy.HandleFill`.

Each fill on the SDEX is hedged by the reverse order on the backing exchange. The
strategy keeps, per direction, the base volume still to offset (`total`) and the
part of it committed to a hedge order in flight (`committed`). A fill adds its
volume to `total`. If the uncommitted rest reaches half the backing minimum, a
hedge order goes out for the rest, or for the minimum when the rest is smaller,
capped to the backing volume precision. Its volume is committed before the order
is submitted, and taken off both records only when the venue returns a
transaction ID.

`Number` arithmetic rounds at the precision its operands share, so the records
are exact only while every volume lies on one grid that all the precisions
involved can hold (`OnHedgeGrid`). On that grid the records are a ledger of the
run (`handleFills_ledger`) and the uncommitted surplus stays within half a
minimum order (`handleFills_uncommitted_bounded`). Off it, a fill of one whole
unit against a minimum of 1.5 leaves `total` at −1 where the ledger says −0.5
(`hedge_rounding_breaks_ledger`).

Capping the hedge's volume rounds it to the nearest unit of the volume precision.
When the backing minimum lies on that grid, no hedge order is below the minimum
(`hedges_volume_ge_min`); when it does not, the minimum itself can round down, and
a minimum of 1.4 against whole units is hedged by an order of 1
(`hedge_below_minimum`). -/
namespace Kelp.Mirror

/-- `model.Trade`: the side of the fill, its price and its base volume. -/
structure Trade where
  orderAction : OrderAction
  price : Number
  volume : Number

/-- `assetSurplus`: base volume pending to be offset, and the part committed to a hedge. -/
structure AssetSurplus where
  total : Number
  committed : Number

/-- `makeAssetSurplus`. `NumberConstants.Zero` is not among the sources; its precision is a
parameter. -/
def makeAssetSurplus (zeroPrecision : ℕ) : AssetSurplus :=
  ⟨numberFromFloat 0 zeroPrecision, numberFromFloat 0 zeroPrecision⟩

/-- `mirrorStrategy.baseSurplus`: one record per direction of hedge. -/
abbrev BaseSurplus := OrderAction → AssetSurplus

/-- `tradeAPI.AddOrder`: a transaction ID, nil, or an error. -/
abbrev AddOrderFn := Order → Except String (Option String)

variable (s : MirrorStrategy)

/-- `mirrorStrategy.baseVolumeToOffset`, given the record of the hedge's direction. -/
def baseVolumeToOffset (surplus : AssetSurplus) : Option Number :=
  let uncommittedBase := surplus.total.subtract surplus.committed
  if uncommittedBase.value < (s.backingConstraints.minBaseVolume.scale (1 / 2)).value then none
  else
    let newVolume :=
      if uncommittedBase.value > s.backingConstraints.minBaseVolume.value then uncommittedBase
      else s.backingConstraints.minBaseVolume
    some (numberByCappingPrecision newVolume s.backingConstraints.volumePrecision)

/-- The error of a failed hedge. `model.Order`'s rendering is not among the sources. -/
def offsetError (render : Order → String) (newOrder : Order) (e : String) : String :=
  "error when offsetting trade (newOrder=" ++ render newOrder ++ "): " ++ e

/-- `mirrorStrategy.HandleFill`: the records after the fill, and the error returned. -/
def handleFill (render : Order → String) (addOrder : AddOrderFn) (baseSurplus : BaseSurplus)
    (trade : Trade) : BaseSurplus × Except String Unit :=
  let newOrderAction := trade.orderAction.reverse
  let baseSurplus := Function.update baseSurplus newOrderAction
    { baseSurplus newOrderAction with total := (baseSurplus newOrderAction).total.add trade.volume }
  match baseVolumeToOffset s (baseSurplus newOrderAction) with
  | none => (baseSurplus, .ok ())
  | some newVolume =>
    let baseSurplus := Function.update baseSurplus newOrderAction
      { baseSurplus newOrderAction with
        committed := (baseSurplus newOrderAction).committed.add newVolume }
    let newOrder : Order := ⟨newOrderAction,
      numberByCappingPrecision trade.price s.backingConstraints.pricePrecision, newVolume⟩
    match addOrder newOrder with
    | .error e => (baseSurplus, .error (offsetError render newOrder e))
    | .ok none => (baseSurplus, .error (offsetError render newOrder "transactionID was <nil>"))
    | .ok (some _) =>
      (Function.update baseSurplus newOrderAction
        { total := (baseSurplus newOrderAction).total.subtract newVolume,
          committed := (baseSurplus newOrderAction).committed.subtract newVolume }, .ok ())

/-! ### Runs -/

/-- The hedge order `HandleFill` submits for a fill, if any. -/
def offsetOrder (baseSurplus : BaseSurplus) (trade : Trade) : Option Order :=
  (baseVolumeToOffset s { baseSurplus trade.orderAction.reverse with
      total := (baseSurplus trade.orderAction.reverse).total.add trade.volume }).map
    fun newVolume => ⟨trade.orderAction.reverse,
      numberByCappingPrecision trade.price s.backingConstraints.pricePrecision, newVolume⟩

/-- The venue took the order: it returned a transaction ID. -/
def accepted : Except String (Option String) → Bool
  | .ok (some _) => true
  | _ => false

/-- Fills handled one after another, each with the venue's behaviour at its call. -/
def handleFills (render : Order → String) :
    BaseSurplus → List (Trade × AddOrderFn) → BaseSurplus
  | baseSurplus, [] => baseSurplus
  | baseSurplus, (trade, addOrder) :: rest =>
    handleFills render (handleFill s render addOrder baseSurplus trade).1 rest

/-- The hedge order of one fill, if any, with whether the venue took it. -/
def hedgeOf (baseSurplus : BaseSurplus) (trade : Trade) (addOrder : AddOrderFn) :
    List (Order × Bool) :=
  ((offsetOrder s baseSurplus trade).map fun o => (o, accepted (addOrder o))).toList

/-- The hedge orders of a run, each with whether the venue took it. -/
def hedges (render : Order → String) :
    BaseSurplus → List (Trade × AddOrderFn) → List (Order × Bool)
  | _, [] => []
  | baseSurplus, (trade, addOrder) :: rest =>
    hedgeOf s baseSurplus trade addOrder ++
      hedges render (handleFill s render addOrder baseSurplus trade).1 rest

/-- Base volume of the fills of a run that call for a hedge in direction `d`. -/
def filledVolume (d : OrderAction) (steps : List (Trade × AddOrderFn)) : ℚ :=
  ((steps.filter fun x => x.1.orderAction.reverse = d).map fun x => x.1.volume.value).sum

/-- Volume of the hedge orders in direction `d` that the venue took (`true`) or did not. -/
def hedgedVolume (d : OrderAction) (succeeded : Bool) (hs : List (Order × Bool)) : ℚ :=
  ((hs.filter fun h => h.1.orderAction = d ∧ h.2 = succeeded).map fun h => h.1.volume.value).sum

/-! ### One fill -/

section Fill
variable {render : Order → String} {addOrder : AddOrderFn} {bs : BaseSurplus} {trade : Trade}

/-- A fill leaves the record of the other direction alone. -/
theorem handleFill_other {d : OrderAction} (hd : d ≠ trade.orderAction.reverse) :
    (handleFill s render addOrder bs trade).1 d = bs d := by
  unfold handleFill
  dsimp only
  split
  · exact Function.update_noteq hd _ _
  · split <;> simp [Function.update_noteq hd]

/-- The record of the hedge's direction after a fill: the fill's volume added to `total`, the
hedge order's volume committed, and taken off both records when the venue took the order. -/
theorem handleFill_self :
    (handleFill s render addOrder bs trade).1 trade.orderAction.reverse =
      match offsetOrder s bs trade with
      | none => ⟨(bs trade.orderAction.reverse).total.add trade.volume,
          (bs trade.orderAction.reverse).committed⟩
      | some o => if accepted (addOrder o) then
          ⟨((bs trade.orderAction.reverse).total.add trade.volume).subtract o.volume,
            ((bs trade.orderAction.reverse).committed.add o.volume).subtract o.volume⟩
        else ⟨(bs trade.orderAction.reverse).total.add trade.volume,
          (bs trade.orderAction.reverse).committed.add o.volume⟩ := by
  unfold handleFill offsetOrder
  simp only [Function.update_same]
  cases baseVolumeToOffset s ⟨(bs trade.orderAction.reverse).total.add trade.volume,
    (bs trade.orderAction.reverse).committed⟩ with
  | none => simp
  | some v =>
    simp only [Option.map_some']
    cases addOrder _ with
    | error e => simp [accepted]
    | ok r => cases r <;> simp [accepted]

end Fill

/-! ### On one grid -/

/-- The volumes of a run lie on the grid `10⁻ᵏ`, which the backing volume precision and the
backing minimum hold. -/
structure OnHedgeGrid (k : ℕ) : Prop where
  volumePrecision : k ≤ s.backingConstraints.volumePrecision
  minBaseVolume : s.backingConstraints.minBaseVolume.Fits k

namespace AssetSurplus

/-- Both records lie on the grid `10⁻ᵏ`. -/
def Fits (k : ℕ) (a : AssetSurplus) : Prop := a.total.Fits k ∧ a.committed.Fits k

/-- Volume pending and not committed to a hedge. -/
def uncommitted (a : AssetSurplus) : ℚ := a.total.value - a.committed.value

end AssetSurplus

section Grid
variable {s} {k : ℕ} {a : AssetSurplus}

theorem baseVolumeToOffset_eq_none_iff (ha : a.Fits k) :
    baseVolumeToOffset s a = none ↔
      a.uncommitted < (s.backingConstraints.minBaseVolume.scale (1 / 2)).value := by
  unfold baseVolumeToOffset
  dsimp only
  rw [Number.subtract_value ha.1 ha.2]
  split_ifs with h <;> simpa [AssetSurplus.uncommitted] using h

/-- A hedge goes out for the whole uncommitted volume when it exceeds the minimum, and for the
minimum otherwise; on the grid, capping to the volume precision changes neither. -/
theorem baseVolumeToOffset_eq_some (hg : OnHedgeGrid s k) (ha : a.Fits k) {v : Number}
    (h : baseVolumeToOffset s a = some v) :
    v.Fits k ∧
      v.value = (if s.backingConstraints.minBaseVolume.value < a.uncommitted then a.uncommitted
        else s.backingConstraints.minBaseVolume.value) ∧
      (s.backingConstraints.minBaseVolume.scale (1 / 2)).value ≤ a.uncommitted := by
  have hu := Number.subtract_value ha.1 ha.2
  have hf := Number.subtract_fits ha.1 ha.2
  unfold baseVolumeToOffset at h
  simp only [hu, gt_iff_lt] at h
  unfold AssetSurplus.uncommitted
  split_ifs at h with h1 h2 <;> simp only [Option.some.injEq] at h <;> subst h
  · exact ⟨Number.capping_fits hf hg.volumePrecision, by
      rw [Number.capping_value hf hg.volumePrecision, hu, if_pos h2], not_lt.mp h1⟩
  · exact ⟨Number.capping_fits hg.minBaseVolume hg.volumePrecision, by
      rw [Number.capping_value hg.minBaseVolume hg.volumePrecision, if_neg h2], not_lt.mp h1⟩

theorem offsetOrder_orderAction {bs : BaseSurplus} {trade : Trade} {o : Order}
    (h : offsetOrder s bs trade = some o) : o.orderAction = trade.orderAction.reverse := by
  obtain ⟨_, _, rfl⟩ := Option.map_eq_some'.mp h
  rfl

section Fill
variable {render : Order → String} {addOrder : AddOrderFn} {bs : BaseSurplus} {trade : Trade}

variable (render addOrder) in
/-- On the grid, a fill moves the records of its hedge's direction exactly: `total` by the
fill's volume less a hedge the venue took, `committed` by a hedge it did not take. -/
theorem handleFill_self_exact (hg : OnHedgeGrid s k) (hb : (bs trade.orderAction.reverse).Fits k)
    (hv : trade.volume.Fits k) :
    ((handleFill s render addOrder bs trade).1 trade.orderAction.reverse).Fits k ∧
    ((handleFill s render addOrder bs trade).1 trade.orderAction.reverse).total.value =
      (bs trade.orderAction.reverse).total.value + trade.volume.value -
        hedgedVolume trade.orderAction.reverse true (hedgeOf s bs trade addOrder) ∧
    ((handleFill s render addOrder bs trade).1 trade.orderAction.reverse).committed.value =
      (bs trade.orderAction.reverse).committed.value +
        hedgedVolume trade.orderAction.reverse false (hedgeOf s bs trade addOrder) := by
  have ht := Number.add_value hb.1 hv
  have htf := Number.add_fits hb.1 hv
  rw [handleFill_self, hedgeOf]
  cases ho : offsetOrder s bs trade with
  | none => exact ⟨⟨htf, hb.2⟩, by simp [ht, hedgedVolume], by simp [hedgedVolume]⟩
  | some o =>
    obtain ⟨nv, hnv, rfl⟩ := Option.map_eq_some'.mp ho
    have hb1 : AssetSurplus.Fits k ⟨(bs trade.orderAction.reverse).total.add trade.volume,
      (bs trade.orderAction.reverse).committed⟩ := ⟨htf, hb.2⟩
    obtain ⟨hf, -, -⟩ := baseVolumeToOffset_eq_some hg hb1 hnv
    have hc := Number.add_value hb.2 hf
    have hcf := Number.add_fits hb.2 hf
    dsimp only
    cases hacc : accepted (addOrder ⟨trade.orderAction.reverse,
      numberByCappingPrecision trade.price s.backingConstraints.pricePrecision, nv⟩)
    · exact ⟨⟨htf, hcf⟩, by simp [ht, hacc, hedgedVolume], by simp [hc, hacc, hedgedVolume]⟩
    · refine ⟨⟨Number.subtract_fits htf hf, Number.subtract_fits hcf hf⟩, ?_, ?_⟩
      · simp [Number.subtract_value htf hf, ht, hacc, hedgedVolume]
      · simp [Number.subtract_value hcf hf, hc, hacc, hedgedVolume]

variable (render addOrder) in
/-- On the grid, a fill moves each direction's records by that direction's part of the fill
and of its hedge. -/
theorem handleFill_exact (hg : OnHedgeGrid s k) (hb : ∀ d, (bs d).Fits k)
    (hv : trade.volume.Fits k) (d : OrderAction) :
    ((handleFill s render addOrder bs trade).1 d).Fits k ∧
    ((handleFill s render addOrder bs trade).1 d).total.value = (bs d).total.value +
      filledVolume d [(trade, addOrder)] - hedgedVolume d true (hedgeOf s bs trade addOrder) ∧
    ((handleFill s render addOrder bs trade).1 d).committed.value = (bs d).committed.value +
      hedgedVolume d false (hedgeOf s bs trade addOrder) := by
  by_cases hd : d = trade.orderAction.reverse
  · subst hd
    simpa [filledVolume] using handleFill_self_exact render addOrder hg (hb _) hv
  · have h0 : ∀ b, hedgedVolume d b (hedgeOf s bs trade addOrder) = 0 := by
      intro b
      cases ho : offsetOrder s bs trade with
      | none => simp [hedgeOf, hedgedVolume, ho]
      | some o => simp [hedgeOf, hedgedVolume, ho, offsetOrder_orderAction ho, Ne.symm hd]
    rw [handleFill_other s hd, h0, h0]
    simp [filledVolume, Ne.symm hd, hb d]

end Fill

theorem filledVolume_cons (d : OrderAction) (x : Trade × AddOrderFn)
    (rest : List (Trade × AddOrderFn)) :
    filledVolume d (x :: rest) = filledVolume d [x] + filledVolume d rest := by
  unfold filledVolume
  by_cases h : x.1.orderAction.reverse = d <;> simp [List.filter_cons, h]

theorem hedgedVolume_singleton (d : OrderAction) (b c : Bool) (o : Order) :
    hedgedVolume d b [(o, c)] = if o.orderAction = d ∧ c = b then o.volume.value else 0 := by
  unfold hedgedVolume
  split_ifs with h <;> simp [h]

theorem hedgedVolume_append (d : OrderAction) (b : Bool) (hs hs' : List (Order × Bool)) :
    hedgedVolume d b (hs ++ hs') = hedgedVolume d b hs + hedgedVolume d b hs' := by
  simp [hedgedVolume, List.filter_append]

/-- On the grid, the records after a run are those before it, moved by the run's fills and
hedges. -/
theorem handleFills_exact (hg : OnHedgeGrid s k) (render : Order → String) :
    ∀ {bs : BaseSurplus} {steps : List (Trade × AddOrderFn)}, (∀ d, (bs d).Fits k) →
      (∀ x ∈ steps, x.1.volume.Fits k) → ∀ d,
      (handleFills s render bs steps d).Fits k ∧
      (handleFills s render bs steps d).total.value = (bs d).total.value +
        filledVolume d steps - hedgedVolume d true (hedges s render bs steps) ∧
      (handleFills s render bs steps d).committed.value = (bs d).committed.value +
        hedgedVolume d false (hedges s render bs steps)
  | bs, [], hb, _, d => ⟨hb d, by simp [handleFills, filledVolume, hedges, hedgedVolume],
      by simp [handleFills, hedges, hedgedVolume]⟩
  | bs, (trade, addOrder) :: rest, hb, hv, d => by
    have hstep := handleFill_exact render addOrder hg hb (hv _ (List.mem_cons_self _ _))
    obtain ⟨hf, ht, hc⟩ := handleFills_exact hg render (fun d => (hstep d).1)
      (fun x hx => hv x (List.mem_cons_of_mem _ hx)) d
    obtain ⟨-, ht1, hc1⟩ := hstep d
    simp only [handleFills, hedges, hedgedVolume_append]
    refine ⟨hf, ?_, ?_⟩
    · rw [ht, ht1, filledVolume_cons d _ rest]
      ring
    · rw [hc, hc1]
      ring

end Grid

/-! ### Half a minimum order -/

section Bounded
variable {render : Order → String} {addOrder : AddOrderFn} {bs : BaseSurplus} {trade : Trade}

/-- The record of the hedge's direction once the fill's volume is added. -/
theorem offsetOrder_eq_map (bs : BaseSurplus) (trade : Trade) :
    offsetOrder s bs trade = (baseVolumeToOffset s
      ⟨(bs trade.orderAction.reverse).total.add trade.volume,
        (bs trade.orderAction.reverse).committed⟩).map fun newVolume =>
      ⟨trade.orderAction.reverse,
        numberByCappingPrecision trade.price s.backingConstraints.pricePrecision, newVolume⟩ :=
  rfl

/-- Taken by the venue or not, a fill's hedge counts once towards its direction. -/
theorem hedgedVolume_hedgeOf (bs : BaseSurplus) (trade : Trade) (addOrder : AddOrderFn) :
    hedgedVolume trade.orderAction.reverse true (hedgeOf s bs trade addOrder) +
        hedgedVolume trade.orderAction.reverse false (hedgeOf s bs trade addOrder) =
      ((offsetOrder s bs trade).map fun o => o.volume.value).getD 0 := by
  unfold hedgeOf
  cases ho : offsetOrder s bs trade with
  | none => simp [hedgedVolume]
  | some o =>
    have hd := offsetOrder_orderAction ho
    cases hacc : accepted (addOrder o) <;> simp [hedgedVolume, hd, hacc]

variable (render addOrder) in
/-- On the grid, with a minimum of `m ≥ 0` and fills of nonnegative volume, a fill keeps the
uncommitted surplus of each direction within `m / 2`: a surplus below half the minimum is
left, a larger one is offset whole, and one up to the minimum is offset by the minimum. -/
theorem handleFill_bounded (hg : OnHedgeGrid s k)
    (hm : 0 ≤ s.backingConstraints.minBaseVolume.value)
    (hb : ∀ d, (bs d).Fits k ∧
      |(bs d).uncommitted| ≤ s.backingConstraints.minBaseVolume.value / 2)
    (hv : trade.volume.Fits k) (hv0 : 0 ≤ trade.volume.value) (d : OrderAction) :
    ((handleFill s render addOrder bs trade).1 d).Fits k ∧
      |((handleFill s render addOrder bs trade).1 d).uncommitted| ≤
        s.backingConstraints.minBaseVolume.value / 2 := by
  by_cases hd : d = trade.orderAction.reverse
  swap
  · rw [handleFill_other s hd]
    exact hb d
  subst hd
  obtain ⟨hf, ht, hc⟩ := handleFill_self_exact render addOrder hg (hb _).1 hv
  refine ⟨hf, ?_⟩
  have hu := abs_le.mp (hb trade.orderAction.reverse).2
  have ha1 : AssetSurplus.Fits k ⟨(bs trade.orderAction.reverse).total.add trade.volume,
      (bs trade.orderAction.reverse).committed⟩ := ⟨Number.add_fits (hb _).1.1 hv, (hb _).1.2⟩
  have hgrid := (ha1.1.2.sub ha1.2.2).mono hg.minBaseVolume.1
  have htv := Number.add_value (hb trade.orderAction.reverse).1.1 hv
  have hsum := hedgedVolume_hedgeOf s bs trade addOrder
  dsimp only at hgrid
  unfold AssetSurplus.uncommitted at hu ⊢
  rw [ht, hc, abs_le]
  rw [offsetOrder_eq_map] at hsum
  cases hn : baseVolumeToOffset s ⟨(bs trade.orderAction.reverse).total.add trade.volume,
      (bs trade.orderAction.reverse).committed⟩ with
  | none =>
    -- Nothing goes out: the surplus stays below half the minimum.
    have hlt := lt_of_lt_toFixed hgrid ((baseVolumeToOffset_eq_none_iff ha1).mp hn)
    simp only [hn, Option.map_none', Option.getD_none] at hsum
    constructor <;> linarith only [hu.1, hlt, hsum, htv, hv0]
  | some nv =>
    -- The hedge takes the whole surplus, or the minimum when the surplus is at most that.
    obtain ⟨-, hval, hhalf⟩ := baseVolumeToOffset_eq_some hg ha1 hn
    have hhalf' := (le_toFixed_half hm s.backingConstraints.minBaseVolume.onGrid).trans hhalf
    dsimp only [AssetSurplus.uncommitted] at hval hhalf'
    simp only [hn, Option.map_some', Option.getD_some] at hsum
    split_ifs at hval with hbig <;> constructor <;> linarith only [hval, hsum, htv, hhalf', hm, hbig]

/-- On the grid, every run keeps each direction's uncommitted surplus within half the
minimum. -/
theorem handleFills_bounded (hg : OnHedgeGrid s k)
    (hm : 0 ≤ s.backingConstraints.minBaseVolume.value) (render : Order → String) :
    ∀ {bs : BaseSurplus} {steps : List (Trade × AddOrderFn)},
      (∀ d, (bs d).Fits k ∧
        |(bs d).uncommitted| ≤ s.backingConstraints.minBaseVolume.value / 2) →
      (∀ x ∈ steps, x.1.volume.Fits k ∧ 0 ≤ x.1.volume.value) → ∀ d,
      (handleFills s render bs steps d).Fits k ∧
        |(handleFills s render bs steps d).uncommitted| ≤
          s.backingConstraints.minBaseVolume.value / 2
  | _, [], hb, _, d => hb d
  | _, (_, addOrder) :: _, hb, hv, d =>
    handleFills_bounded hg hm render
      (handleFill_bounded s render addOrder hg hm hb (hv _ (List.mem_cons_self _ _)).1
        (hv _ (List.mem_cons_self _ _)).2)
      (fun x hx => hv x (List.mem_cons_of_mem _ hx)) d

end Bounded

/-! ### From fresh records -/

theorem makeAssetSurplus_fits {k zeroPrecision : ℕ} (hz : k ≤ zeroPrecision) :
    (makeAssetSurplus zeroPrecision).Fits k :=
  ⟨⟨hz, by simp [makeAssetSurplus, onGrid_zero]⟩, ⟨hz, by simp [makeAssetSurplus, onGrid_zero]⟩⟩

/-- **The hedge ledger.** On the grid, from fresh records, after any run each direction's
`total` is the volume filled towards it less the volume of the hedges the venue took, and its
`committed` is the volume of the hedges the venue did not take; a fill never touches the other
direction. -/
theorem handleFills_ledger {k zeroPrecision : ℕ} (hg : OnHedgeGrid s k)
    (hz : k ≤ zeroPrecision) (render : Order → String) (steps : List (Trade × AddOrderFn))
    (hv : ∀ x ∈ steps, x.1.volume.Fits k) (d : OrderAction) :
    (∀ (bs : BaseSurplus) (trade : Trade) (addOrder : AddOrderFn), d ≠ trade.orderAction.reverse →
      (handleFill s render addOrder bs trade).1 d = bs d) ∧
    (handleFills s render (fun _ => makeAssetSurplus zeroPrecision) steps d).total.value =
      filledVolume d steps -
        hedgedVolume d true (hedges s render (fun _ => makeAssetSurplus zeroPrecision) steps) ∧
    (handleFills s render (fun _ => makeAssetSurplus zeroPrecision) steps d).committed.value =
      hedgedVolume d false (hedges s render (fun _ => makeAssetSurplus zeroPrecision) steps) := by
  obtain ⟨-, ht, hc⟩ := handleFills_exact hg render (fun _ => makeAssetSurplus_fits hz) hv d
  refine ⟨fun _ _ _ hd => handleFill_other s hd, ?_, ?_⟩
  · rw [ht]
    simp [makeAssetSurplus]
  · rw [hc]
    simp [makeAssetSurplus]

/-- A sell fill of three whole lumens. -/
def threeSell : Trade := ⟨.sell, numberFromFloat 2 0, numberFromFloat 3 0⟩

/-- A venue that takes every order. -/
def takeAll : AddOrderFn := fun _ => .ok (some "1")

theorem threeSell_fits : ∀ x ∈ [(threeSell, takeAll)], x.1.volume.Fits 0 ∧ 0 ≤ x.1.volume.value := by
  simp only [List.mem_singleton, forall_eq, threeSell]
  exact ⟨⟨le_rfl, ⟨3, by norm_num [toFixed, roundHalfAway]⟩⟩, by norm_num [toFixed, roundHalfAway]⟩

/-- A venue that refuses every order. -/
def refuseAll : AddOrderFn := fun _ => .error "venue down"

/-- Sell fills of 0.3, 0.5 and 2 lumens at 2 USD. -/
def dustSell : Trade := ⟨.sell, numberFromFloat 2 1, numberFromFloat (3 / 10) 1⟩
def halfSell : Trade := ⟨.sell, numberFromFloat 2 1, numberFromFloat (1 / 2) 1⟩
def twoSell : Trade := ⟨.sell, numberFromFloat 2 1, numberFromFloat 2 1⟩

/-- A run on the grid of tenths against the example market's minimum of one lumen: the first fill
is too small to hedge, the second is hedged by an order of the minimum that the venue refuses,
and the third by an order of the 1.8 lumens left uncommitted, which the venue takes. -/
def mixedRun : List (Trade × AddOrderFn) :=
  [(dustSell, takeAll), (halfSell, refuseAll), (twoSell, takeAll)]

/-- The example market's backing minimum of one lumen lies on the grid of tenths. -/
theorem exampleStrategy_onHedgeGrid : OnHedgeGrid exampleStrategy 1 :=
  ⟨by decide, by decide, ⟨10, by norm_num [exampleStrategy, toFixed, roundHalfAway]⟩⟩

theorem mixedRun_fits : ∀ x ∈ mixedRun, x.1.volume.Fits 1 ∧ 0 ≤ x.1.volume.value := by
  simp only [mixedRun, dustSell, halfSell, twoSell, List.mem_cons, List.mem_nil_iff, or_false,
    forall_eq_or_imp, forall_eq, Number.Fits, numberFromFloat_precision, numberFromFloat_value,
    le_refl, true_and]
  norm_num [toFixed, roundHalfAway, OnGrid]
  exact ⟨⟨3, by norm_num⟩, ⟨5, by norm_num⟩, ⟨20, by norm_num⟩⟩

/-- The run skips its first fill and sends two hedges: one of the minimum, refused, and one of
1.8 lumens, taken. Each step is read off `handleFill_self` once the hedge is known. -/
theorem hedges_mixedRun :
    (hedges exampleStrategy (fun _ => "") (fun _ => makeAssetSurplus 1) mixedRun).map
      (fun h => (h.1.volume.value, h.2)) = [(1, false), (9 / 5, true)] := by
  have o1 : offsetOrder exampleStrategy (fun _ => makeAssetSurplus 1) dustSell = none := by
    simp only [offsetOrder, baseVolumeToOffset, dustSell, makeAssetSurplus, Number.add,
      Number.subtract, Number.scale, exampleStrategy]
    norm_num [toFixed, roundHalfAway]
  have e1 : (handleFill exampleStrategy (fun _ => "") takeAll (fun _ => makeAssetSurplus 1)
      dustSell).1 .buy =
      ⟨(makeAssetSurplus 1).total.add dustSell.volume, (makeAssetSurplus 1).committed⟩ :=
    (handleFill_self exampleStrategy).trans (by rw [o1])
  have o2 : offsetOrder exampleStrategy (handleFill exampleStrategy (fun _ => "") takeAll
      (fun _ => makeAssetSurplus 1) dustSell).1 halfSell = some ⟨.buy,
      numberByCappingPrecision halfSell.price 8,
      numberByCappingPrecision exampleStrategy.backingConstraints.minBaseVolume 8⟩ := by
    rw [offsetOrder_eq_map, show halfSell.orderAction.reverse = .buy from rfl, e1]
    simp only [baseVolumeToOffset, dustSell, halfSell, makeAssetSurplus, Number.add,
      Number.subtract, Number.scale, exampleStrategy, OrderAction.reverse]
    norm_num [toFixed, roundHalfAway]
  have e2 : (handleFill exampleStrategy (fun _ => "") refuseAll (handleFill exampleStrategy
      (fun _ => "") takeAll (fun _ => makeAssetSurplus 1) dustSell).1 halfSell).1 .buy =
      ⟨((makeAssetSurplus 1).total.add dustSell.volume).add halfSell.volume,
        (makeAssetSurplus 1).committed.add
          (numberByCappingPrecision exampleStrategy.backingConstraints.minBaseVolume 8)⟩ :=
    (handleFill_self exampleStrategy).trans
      (by rw [o2, show halfSell.orderAction.reverse = .buy from rfl, e1]; rfl)
  simp only [mixedRun, hedges, hedgeOf, o1, o2]
  rw [offsetOrder_eq_map, show twoSell.orderAction.reverse = .buy from rfl, e2]
  simp only [baseVolumeToOffset, dustSell, halfSell, twoSell, makeAssetSurplus, Number.add,
    Number.subtract, Number.scale, exampleStrategy, accepted, takeAll, refuseAll,
    numberByCappingPrecision]
  norm_num [toFixed, roundHalfAway]

theorem handleFills_ledger_mixedRun :
    (hedges exampleStrategy (fun _ => "") (fun _ => makeAssetSurplus 1) mixedRun).map
      (fun h => (h.1.volume.value, h.2)) = [(1, false), (9 / 5, true)] ∧
    (∀ (bs : BaseSurplus) (trade : Trade) (addOrder : AddOrderFn),
      OrderAction.buy ≠ trade.orderAction.reverse →
        (handleFill exampleStrategy (fun _ => "") addOrder bs trade).1 .buy = bs .buy) ∧
    (handleFills exampleStrategy (fun _ => "") (fun _ => makeAssetSurplus 1) mixedRun
        .buy).total.value =
      filledVolume .buy mixedRun - hedgedVolume .buy true
        (hedges exampleStrategy (fun _ => "") (fun _ => makeAssetSurplus 1) mixedRun) ∧
    (handleFills exampleStrategy (fun _ => "") (fun _ => makeAssetSurplus 1) mixedRun
        .buy).committed.value =
      hedgedVolume .buy false
        (hedges exampleStrategy (fun _ => "") (fun _ => makeAssetSurplus 1) mixedRun) :=
  ⟨hedges_mixedRun, handleFills_ledger exampleStrategy exampleStrategy_onHedgeGrid le_rfl
    (fun _ => "") _ (fun x hx => (mixedRun_fits x hx).1) .buy⟩

/-- **Half a minimum order.** On the grid, with a minimum `m ≥ 0` and fills of nonnegative
volume, from fresh records, after any run each direction's uncommitted surplus lies within
`m / 2` of zero. -/
theorem handleFills_uncommitted_bounded {k zeroPrecision : ℕ} (hg : OnHedgeGrid s k)
    (hz : k ≤ zeroPrecision) (hm : 0 ≤ s.backingConstraints.minBaseVolume.value)
    (render : Order → String) (steps : List (Trade × AddOrderFn))
    (hv : ∀ x ∈ steps, x.1.volume.Fits k ∧ 0 ≤ x.1.volume.value) (d : OrderAction) :
    |(handleFills s render (fun _ => makeAssetSurplus zeroPrecision) steps d).uncommitted| ≤
      s.backingConstraints.minBaseVolume.value / 2 :=
  (handleFills_bounded s hg hm render (fun _ => ⟨makeAssetSurplus_fits hz, by
    simp [AssetSurplus.uncommitted, makeAssetSurplus]; linarith⟩) hv d).2

theorem handleFills_uncommitted_bounded_mixedRun :
    (hedges exampleStrategy (fun _ => "") (fun _ => makeAssetSurplus 1) mixedRun).map
      (fun h => (h.1.volume.value, h.2)) = [(1, false), (9 / 5, true)] ∧
    |(handleFills exampleStrategy (fun _ => "") (fun _ => makeAssetSurplus 1) mixedRun
        .buy).uncommitted| ≤
      exampleStrategy.backingConstraints.minBaseVolume.value / 2 :=
  ⟨hedges_mixedRun, handleFills_uncommitted_bounded exampleStrategy exampleStrategy_onHedgeGrid
    le_rfl (by norm_num [exampleStrategy, toFixed, roundHalfAway]) (fun _ => "") _ mixedRun_fits
    .buy⟩

/-! ### Off the grid -/

/-- A backing exchange with one decimal of volume and a minimum order of 1.5. -/
def hedgeStrategy : MirrorStrategy :=
  { exampleStrategy with backingConstraints := ⟨1, 1, numberFromFloat (3 / 2) 1⟩ }

/-- A sell fill of one unit, given without decimals. -/
def unitSell : Trade := ⟨.sell, numberFromFloat 1 0, numberFromFloat 1 0⟩

theorem unitSell_offset (zeroPrecision : ℕ) :
    baseVolumeToOffset hedgeStrategy ⟨(makeAssetSurplus zeroPrecision).total.add unitSell.volume,
      (makeAssetSurplus zeroPrecision).committed⟩ = some (numberFromFloat (3 / 2) 1) := by
  simp only [baseVolumeToOffset, hedgeStrategy, unitSell, makeAssetSurplus, Number.add,
    Number.subtract, Number.scale, numberFromFloat_value, numberFromFloat_precision, toFixed_zero,
    zero_add, Nat.min_zero, Nat.zero_min, sub_zero]
  norm_num [toFixed, roundHalfAway, numberByCappingPrecision]

/-- The fill is hedged by the minimum of 1.5, which the venue takes; `total` then rounds
`1 − 1.5` at the fill's precision of no decimals, to −1. -/
theorem unitSell_run (zeroPrecision : ℕ) :
    (handleFills hedgeStrategy (fun _ => "") (fun _ => makeAssetSurplus zeroPrecision)
        [(unitSell, takeAll)] .buy).total.value = -1 ∧
    0 ≤ (handleFills hedgeStrategy (fun _ => "") (fun _ => makeAssetSurplus zeroPrecision)
        [(unitSell, takeAll)] .buy).committed.value ∧
    hedges hedgeStrategy (fun _ => "") (fun _ => makeAssetSurplus zeroPrecision)
        [(unitSell, takeAll)] =
      [(⟨.buy, numberByCappingPrecision unitSell.price 1, numberFromFloat (3 / 2) 1⟩, true)] := by
  have hoff : offsetOrder hedgeStrategy (fun _ => makeAssetSurplus zeroPrecision) unitSell =
      some ⟨.buy, numberByCappingPrecision unitSell.price 1, numberFromFloat (3 / 2) 1⟩ := by
    rw [offsetOrder_eq_map, unitSell_offset]
    rfl
  have hrun : handleFills hedgeStrategy (fun _ => "") (fun _ => makeAssetSurplus zeroPrecision)
      [(unitSell, takeAll)] .buy = (handleFill hedgeStrategy (fun _ => "") takeAll
        (fun _ => makeAssetSurplus zeroPrecision) unitSell).1 unitSell.orderAction.reverse := rfl
  rw [hrun, handleFill_self, hoff]
  refine ⟨?_, ?_, by simp [hedges, hedgeOf, hoff, takeAll, accepted]⟩
  · simp [takeAll, accepted, Number.add, Number.subtract, makeAssetSurplus, unitSell]
    norm_num [toFixed, roundHalfAway]
  · rcases Nat.eq_zero_or_pos zeroPrecision with rfl | hz
    · simp [takeAll, accepted, Number.add, Number.subtract, makeAssetSurplus]
      norm_num [toFixed, roundHalfAway]
    · simp [takeAll, accepted, Number.add, Number.subtract, makeAssetSurplus, Nat.min_eq_right hz]
      norm_num [toFixed, roundHalfAway]

/-- One whole-unit fill against a minimum of 1.5: the venue takes the 1.5 hedge, and `total`
ends at −1 where the ledger has `1 − 1.5 = −0.5`, whatever the precision of
`NumberConstants.Zero`. -/
theorem hedge_rounding_breaks_ledger :
    (∀ o, takeAll o = .ok (some "1")) ∧
    ∀ zeroPrecision : ℕ,
      (handleFills hedgeStrategy (fun _ => "") (fun _ => makeAssetSurplus zeroPrecision)
          [(unitSell, takeAll)] .buy).total.value = -1 ∧
      filledVolume .buy [(unitSell, takeAll)] - hedgedVolume .buy true
          (hedges hedgeStrategy (fun _ => "") (fun _ => makeAssetSurplus zeroPrecision)
            [(unitSell, takeAll)]) = -1 / 2 := by
  refine ⟨fun _ => rfl, fun zeroPrecision => ⟨(unitSell_run zeroPrecision).1, ?_⟩⟩
  rw [(unitSell_run zeroPrecision).2.2]
  simp [filledVolume, hedgedVolume, unitSell, OrderAction.reverse]
  norm_num [toFixed, roundHalfAway]

/-- The same run leaves an uncommitted surplus of −1 or less, past `−max(m/2, h) = −0.75`. -/
theorem hedge_rounding_overshoots :
    (∀ o, takeAll o = .ok (some "1")) ∧
    ∀ zeroPrecision : ℕ,
      (handleFills hedgeStrategy (fun _ => "") (fun _ => makeAssetSurplus zeroPrecision)
          [(unitSell, takeAll)] .buy).uncommitted <
        -max (hedgeStrategy.backingConstraints.minBaseVolume.value / 2)
          (1 / 2 / 10 ^ hedgeStrategy.backingConstraints.volumePrecision) := by
  refine ⟨fun _ => rfl, fun zeroPrecision => ?_⟩
  obtain ⟨ht, hc, -⟩ := unitSell_run zeroPrecision
  have hmax : max (hedgeStrategy.backingConstraints.minBaseVolume.value / 2)
      (1 / 2 / 10 ^ hedgeStrategy.backingConstraints.volumePrecision) = 3 / 4 := by
    norm_num [hedgeStrategy, toFixed, roundHalfAway]
  rw [AssetSurplus.uncommitted, ht, hmax]
  linarith

/-! ### The minimum order -/

section Minimum
variable {s}

/-- With the backing minimum on the grid of the backing volume precision, a hedge is never below
the minimum: before capping its volume is the uncommitted surplus above the minimum, or the
minimum, and rounding to the grid keeps it at or above a value on the grid below it. -/
theorem baseVolumeToOffset_ge_min
    (hm : OnGrid s.backingConstraints.volumePrecision s.backingConstraints.minBaseVolume.value)
    {a : AssetSurplus} {v : Number} (h : baseVolumeToOffset s a = some v) :
    s.backingConstraints.minBaseVolume.value ≤ v.value := by
  unfold baseVolumeToOffset at h
  dsimp only at h
  split_ifs at h with h1 h2 <;> simp only [Option.some.injEq] at h <;> subst h <;>
    rw [Number.capping_value_eq_toFixed]
  · calc s.backingConstraints.minBaseVolume.value
        = toFixed s.backingConstraints.minBaseVolume.value s.backingConstraints.volumePrecision :=
          (toFixed_of_onGrid hm).symm
      _ ≤ _ := toFixed_mono h2.le _
  · rw [toFixed_of_onGrid hm]

/-- **No hedge order below the minimum, on the volume grid.** When the backing minimum lies on
the grid of the backing volume precision, every hedge order of any run, from any records, has at
least the minimum's volume. -/
theorem hedges_volume_ge_min
    (hm : OnGrid s.backingConstraints.volumePrecision s.backingConstraints.minBaseVolume.value)
    (render : Order → String) :
    ∀ (bs : BaseSurplus) (steps : List (Trade × AddOrderFn)), ∀ x ∈ hedges s render bs steps,
      s.backingConstraints.minBaseVolume.value ≤ x.1.volume.value
  | _, [] => by simp [hedges]
  | bs, (trade, addOrder) :: rest => by
    intro x hx
    rcases List.mem_append.mp hx with hx | hx
    · simp only [hedgeOf, offsetOrder_eq_map, Option.map_map] at hx
      obtain ⟨v, hv, rfl⟩ := Option.map_eq_some'.mp (Option.mem_toList.mp hx)
      exact baseVolumeToOffset_ge_min hm hv
    · exact hedges_volume_ge_min hm render _ rest x hx

end Minimum

theorem hedges_volume_ge_min_threeSell :
    ∃ x ∈ hedges exampleStrategy (fun _ => "") (fun _ => makeAssetSurplus 0) [(threeSell, takeAll)],
      exampleStrategy.backingConstraints.minBaseVolume.value ≤ x.1.volume.value := by
  have hne : hedges exampleStrategy (fun _ => "") (fun _ => makeAssetSurplus 0)
      [(threeSell, takeAll)] ≠ [] := by
    simp [hedges, hedgeOf, offsetOrder, baseVolumeToOffset, exampleStrategy, threeSell,
      makeAssetSurplus, Number.add, Number.subtract, Number.scale]
    norm_num [toFixed, roundHalfAway]
  obtain ⟨x, hx⟩ := List.exists_mem_of_ne_nil _ hne
  exact ⟨x, hx, hedges_volume_ge_min ⟨100000000, by norm_num [exampleStrategy, toFixed,
    roundHalfAway]⟩ _ _ _ x hx⟩

/-- A backing exchange with whole units of volume and a minimum order of 1.4. -/
def offGridStrategy : MirrorStrategy :=
  { exampleStrategy with backingConstraints := ⟨1, 0, numberFromFloat (7 / 5) 1⟩ }

/-- A one-unit fill from fresh records is hedged by the minimum of 1.4 capped to no decimals:
an order of 1, below the minimum. -/
theorem hedge_below_minimum :
    (hedges offGridStrategy (fun _ => "") (fun _ => makeAssetSurplus 0) [(unitSell, takeAll)]).map
        (fun h => h.1.volume.value) = [1] ∧
      (1 : ℚ) < offGridStrategy.backingConstraints.minBaseVolume.value := by
  constructor
  · simp [hedges, hedgeOf, offsetOrder, baseVolumeToOffset, offGridStrategy, unitSell,
      makeAssetSurplus, Number.add, Number.subtract, Number.scale, numberByCappingPrecision]
    norm_num [toFixed, roundHalfAway]
  · norm_num [offGridStrategy, toFixed, roundHalfAway]

end Kelp.Mirror
