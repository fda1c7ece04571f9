import Kelp.Filter.Volume

/-! A pass of the volume filter.

`Apply` reads the day's volumes on the books once (`dailyOTB`), starts the
to-be-booked volumes at zero (`dailyTBB`), and hands `volumeFilterFn` over both to
`filterOps`, which is not among the sources: every operation of the pass goes
through it in order, and what one books counts against the next
(`volumeFilterOps`).

In `exact` mode with a single cap, a pass books exactly the smaller of the demand
and the room left under the cap, in whatever order the operations come
(`volumeFilterOps_exact_books_min`): each is kept while it fits, shrunk to the room
when it does not, and dropped once there is none.

An operation that does not sell the base asset is not passed on: the filter
returns nil for it, which drops it (`volumeFilterOps_drops_buy_op`). It leaves the
running totals alone, so the sell operations fare as they would without it
(`volumeFilterOps_sells_only`). -/
namespace Kelp.Filter

/-- A pass through `volumeFilterFn`: each operation's result, in order, and the to-be-booked
volumes after the last. -/
def volumeFilterOps (f : VolumeFilter) (isSelling : IsSellingFn)
    (render : ManageSellOffer → String) (dailyOTB : DailyVolumes) :
    DailyVolumes → List ManageSellOffer → List (Except String (Option ManageSellOffer)) × DailyVolumes
  | dailyTBB, [] => ([], dailyTBB)
  | dailyTBB, op :: ops =>
    let step := volumeFilterFn f isSelling render dailyOTB dailyTBB op
    let rest := volumeFilterOps f isSelling render dailyOTB step.2 ops
    (step.1 :: rest.1, rest.2)

/-- `IsSelling` reports that the operation sells the base asset. -/
def sellsBase (f : VolumeFilter) (isSelling : IsSellingFn) (op : ManageSellOffer) : Bool :=
  match isSelling f.baseAsset f.quoteAsset op.selling op.buying with
  | .ok b => b
  | .error _ => false

section Steps
variable {f : VolumeFilter} {isSelling : IsSellingFn} {render : ManageSellOffer → String}
  {dailyOTB dailyTBB : DailyVolumes} {op : ManageSellOffer}

@[simp] theorem volumeFilterOps_nil :
    volumeFilterOps f isSelling render dailyOTB dailyTBB [] = ([], dailyTBB) := rfl

@[simp] theorem volumeFilterOps_cons (ops : List ManageSellOffer) :
    volumeFilterOps f isSelling render dailyOTB dailyTBB (op :: ops) =
      ((volumeFilterFn f isSelling render dailyOTB dailyTBB op).1 ::
        (volumeFilterOps f isSelling render dailyOTB
          (volumeFilterFn f isSelling render dailyOTB dailyTBB op).2 ops).1,
       (volumeFilterOps f isSelling render dailyOTB
          (volumeFilterFn f isSelling render dailyOTB dailyTBB op).2 ops).2) := rfl

/-- An operation not reported as selling leaves the to-be-booked volumes alone. -/
theorem volumeFilterFn_snd_of_not_sellsBase (h : sellsBase f isSelling op = false) :
    (volumeFilterFn f isSelling render dailyOTB dailyTBB op).2 = dailyTBB := by
  unfold sellsBase at h
  unfold volumeFilterFn
  split <;> simp_all

/-- A buy operation is returned as nil. -/
theorem volumeFilterFn_of_buying
    (h : isSelling f.baseAsset f.quoteAsset op.selling op.buying = .ok false) :
    volumeFilterFn f isSelling render dailyOTB dailyTBB op = (.ok none, dailyTBB) := by
  simp [volumeFilterFn, h]

/-- The to-be-booked volumes after a sell operation: grown by its amount after both checks when
both keep it, else unchanged. -/
theorem volumeFilterFn_snd_of_selling
    (h : isSelling f.baseAsset f.quoteAsset op.selling op.buying = .ok true) :
    (volumeFilterFn f isSelling render dailyOTB dailyTBB op).2 =
      let byBase := checkCap f.config.mode f.config.sellBaseAssetCapInBaseUnits dailyOTB.base
        dailyTBB.base 1 op.amount
      let byQuote := checkCap f.config.mode f.config.sellBaseAssetCapInQuoteUnits dailyOTB.quote
        dailyTBB.quote op.price (byBase.2.getD op.amount)
      let a := byQuote.2.getD (byBase.2.getD op.amount)
      if byBase.1 && byQuote.1 then ⟨dailyTBB.base + a, dailyTBB.quote + a * op.price⟩
      else dailyTBB := by
  simp only [volumeFilterFn, h]
  split <;> rfl

variable {C : ℚ}

/-- With only a base cap, a sell operation books in base units what the base check lets
through. -/
theorem volumeFilterFn_base_of_selling (hmode : f.config.mode = .exact)
    (h : isSelling f.baseAsset f.quoteAsset op.selling op.buying = .ok true)
    (hb : f.config.sellBaseAssetCapInBaseUnits = some C)
    (hq : f.config.sellBaseAssetCapInQuoteUnits = none) :
    (volumeFilterFn f isSelling render dailyOTB dailyTBB op).2.base =
      if (capCheck .exact C dailyOTB.base dailyTBB.base 1 op.amount).1 then
        dailyTBB.base + (capCheck .exact C dailyOTB.base dailyTBB.base 1 op.amount).2.getD
          op.amount * 1
      else dailyTBB.base := by
  rw [volumeFilterFn_snd_of_selling h]
  simp only [checkCap, hmode, hb, hq, Bool.and_true, Option.getD_none, mul_one]
  split <;> rfl

/-- With only a quote cap, a sell operation books in quote units what the quote check lets
through. -/
theorem volumeFilterFn_quote_of_selling (hmode : f.config.mode = .exact)
    (h : isSelling f.baseAsset f.quoteAsset op.selling op.buying = .ok true)
    (hb : f.config.sellBaseAssetCapInBaseUnits = none)
    (hq : f.config.sellBaseAssetCapInQuoteUnits = some C) :
    (volumeFilterFn f isSelling render dailyOTB dailyTBB op).2.quote =
      if (capCheck .exact C dailyOTB.quote dailyTBB.quote op.price op.amount).1 then
        dailyTBB.quote + (capCheck .exact C dailyOTB.quote dailyTBB.quote op.price
          op.amount).2.getD op.amount * op.price
      else dailyTBB.quote := by
  rw [volumeFilterFn_snd_of_selling h]
  simp only [checkCap, hmode, hb, hq, Bool.true_and, Option.getD_none]
  split <;> rfl

end Steps

/-! ### Exact mode books the smaller of demand and room -/

/-- An `exact`-mode check keeps an operation that fits, shrinks one that does not to the room
left, and drops it when no room is left. -/
theorem capCheck_exact (cap onTheBooks toBeBooked unitPrice amount : ℚ) :
    capCheck .exact cap onTheBooks toBeBooked unitPrice amount =
      if onTheBooks + toBeBooked + amount * unitPrice ≤ cap then (true, none)
      else if (cap - onTheBooks - toBeBooked) / unitPrice > 0 then
        (true, some ((cap - onTheBooks - toBeBooked) / unitPrice))
      else (false, none) := by
  unfold capCheck
  by_cases hk : onTheBooks + toBeBooked + amount * unitPrice ≤ cap <;> simp [hk]

/-- What an `exact`-mode check books, in the cap's units. From a running total that is the
smaller of the demand so far `s ≥ 0` and the room `max 0 (cap - onTheBooks)`, an operation worth
`w ≥ 0` leaves the smaller of `s + w` and the room: it is kept while it fits, shrunk to the room
when it does not, and dropped when there is none. -/
theorem capCheck_exact_books {cap onTheBooks toBeBooked unitPrice amount s : ℚ}
    (hu : 0 < unitPrice) (hs : 0 ≤ s) (hw : 0 ≤ amount * unitPrice)
    (ht : toBeBooked = min s (max 0 (cap - onTheBooks))) :
    (if (capCheck .exact cap onTheBooks toBeBooked unitPrice amount).1 then
        toBeBooked +
          (capCheck .exact cap onTheBooks toBeBooked unitPrice amount).2.getD amount * unitPrice
      else toBeBooked) = min (s + amount * unitPrice) (max 0 (cap - onTheBooks)) := by
  set room := max 0 (cap - onTheBooks)
  have hroom0 : 0 ≤ room := le_max_left _ _
  have hroom : cap - onTheBooks ≤ room := le_max_right _ _
  have hts : toBeBooked ≤ s := ht ▸ min_le_left _ _
  have htr : toBeBooked ≤ room := ht ▸ min_le_right _ _
  have ht0 : 0 ≤ toBeBooked := ht ▸ le_min hs hroom0
  rw [capCheck_exact]
  by_cases hk : onTheBooks + toBeBooked + amount * unitPrice ≤ cap
  · -- Kept whole: it fits in the room.
    simp only [hk, if_true, Option.getD_none]
    rcases le_total s room with hsr | hrs
    · have hfit : toBeBooked = s := ht.trans (min_eq_left hsr)
      rw [hfit, min_eq_left (by linarith)]
    · -- The room was full already, so the operation is worth nothing.
      have hfull : toBeBooked = room := ht.trans (min_eq_right hrs)
      rw [min_eq_right (by linarith)]
      linarith
  · rw [if_neg hk]
    by_cases hn : (cap - onTheBooks - toBeBooked) / unitPrice > 0
    · -- Shrunk to the room, which it fills.
      simp only [hn, if_true, Option.getD_some, div_mul_cancel₀ _ hu.ne']
      rw [gt_iff_lt, div_pos_iff_of_pos_right hu] at hn
      have hr : room = cap - onTheBooks := max_eq_right (by linarith)
      rw [min_eq_right (by linarith)]
      linarith
    · -- Dropped: the room is full.
      simp only [hn, Bool.false_eq_true, if_false]
      rw [gt_iff_lt, div_pos_iff_of_pos_right hu] at hn
      have hfull : room ≤ toBeBooked := max_le ht0 (by linarith)
      rw [min_eq_right (by linarith)]
      linarith

section Exact
variable {f : VolumeFilter} {isSelling : IsSellingFn} {render : ManageSellOffer → String}
  {dailyOTB : DailyVolumes} {C : ℚ}

/-- One cap, in its own units. When every operation books, in the units `vol` reads, what an
`exact`-mode check of the cap lets through at the operation's `unit` price, a pass from a total
that is the smaller of the demand `s` and the room books the smaller of the demand with the
pass's own and the room. -/
theorem volumeFilterOps_books_min (vol : DailyVolumes → ℚ) (unit : ManageSellOffer → ℚ) :
    ∀ ops : List ManageSellOffer,
      (∀ op ∈ ops, ∀ tbb, vol (volumeFilterFn f isSelling render dailyOTB tbb op).2 =
        if (capCheck .exact C (vol dailyOTB) (vol tbb) (unit op) op.amount).1 then
          vol tbb +
            (capCheck .exact C (vol dailyOTB) (vol tbb) (unit op) op.amount).2.getD op.amount *
              unit op
        else vol tbb) →
      (∀ op ∈ ops, 0 < unit op ∧ 0 ≤ op.amount) →
      ∀ tbb s, 0 ≤ s → vol tbb = min s (max 0 (C - vol dailyOTB)) →
        vol (volumeFilterOps f isSelling render dailyOTB tbb ops).2 =
          min (s + (ops.map fun op => op.amount * unit op).sum) (max 0 (C - vol dailyOTB))
  | [], _, _, tbb, s, _, ht => by simpa using ht
  | op :: ops, hstep, hpos, tbb, s, hs, ht => by
    obtain ⟨hu, ha⟩ := hpos op (List.mem_cons_self ..)
    have hnext := (hstep op (List.mem_cons_self ..) tbb).trans
      (capCheck_exact_books hu hs (mul_nonneg ha hu.le) ht)
    rw [volumeFilterOps_cons, volumeFilterOps_books_min vol unit ops
      (fun o ho => hstep o (List.mem_cons_of_mem _ ho)) (fun o ho => hpos o (List.mem_cons_of_mem _ ho))
      _ _ (add_nonneg hs (mul_nonneg ha hu.le)) hnext]
    simp only [List.map_cons, List.sum_cons, add_assoc]

theorem min_zero_max_zero (x : ℚ) : min 0 (max 0 x) = 0 := min_eq_left (le_max_left 0 x)

/-- **Exact mode books the smaller of demand and room, in any order.** In `exact` mode with one
cap `C`, in base or in quote units, a pass from nothing booked over sell operations of amounts at
least zero and prices above zero, taken in any order, books in the cap's units exactly the smaller
of their total worth (amounts for a base cap, amounts times prices for a quote cap) and the room
`max 0 (C - v)` left by the volume `v` on the books. -/
theorem volumeFilterOps_exact_books_min {ops : List ManageSellOffer}
    (hmode : f.config.mode = .exact)
    (hsell : ∀ op ∈ ops, isSelling f.baseAsset f.quoteAsset op.selling op.buying = .ok true)
    (ha : ∀ op ∈ ops, 0 ≤ op.amount) (hp : ∀ op ∈ ops, 0 < op.price) :
    (f.config.sellBaseAssetCapInBaseUnits = some C → f.config.sellBaseAssetCapInQuoteUnits = none →
      ∀ ops' : List ManageSellOffer, ops'.Perm ops →
        (volumeFilterOps f isSelling render dailyOTB ⟨0, 0⟩ ops').2.base =
          min (ops.map (·.amount)).sum (max 0 (C - dailyOTB.base))) ∧
    (f.config.sellBaseAssetCapInBaseUnits = none → f.config.sellBaseAssetCapInQuoteUnits = some C →
      ∀ ops' : List ManageSellOffer, ops'.Perm ops →
        (volumeFilterOps f isSelling render dailyOTB ⟨0, 0⟩ ops').2.quote =
          min (ops.map fun op => op.amount * op.price).sum (max 0 (C - dailyOTB.quote))) := by
  refine ⟨fun hb hq ops' hperm => ?_, fun hb hq ops' hperm => ?_⟩
  · refine (volumeFilterOps_books_min DailyVolumes.base (fun _ => 1) ops'
      (fun op hop tbb =>
        volumeFilterFn_base_of_selling hmode (hsell op (hperm.subset hop)) hb hq)
      (fun op hop => ⟨one_pos, ha op (hperm.subset hop)⟩) ⟨0, 0⟩ 0 le_rfl
      (min_zero_max_zero _).symm).trans ?_
    rw [zero_add, (hperm.map _).sum_eq]
    simp only [mul_one]
  · refine (volumeFilterOps_books_min DailyVolumes.quote ManageSellOffer.price ops'
      (fun op hop tbb =>
        volumeFilterFn_quote_of_selling hmode (hsell op (hperm.subset hop)) hb hq)
      (fun op hop => ⟨hp op (hperm.subset hop), ha op (hperm.subset hop)⟩) ⟨0, 0⟩ 0 le_rfl
      (min_zero_max_zero _).symm).trans ?_
    rw [zero_add, (hperm.map _).sum_eq]

end Exact

/-- Half a lumen at 2 USD. -/
def halfLumen : ManageSellOffer := ⟨Mirror.xlm, Mirror.usd, 1 / 2, 2⟩

/-- A cap of one USD of lumens sold a day, in `exact` mode. -/
def oneDollarCap : VolumeFilter := ⟨Mirror.xlm, Mirror.usd, ⟨none, some 1, .exact⟩⟩

/-- Two lumens and half a lumen, in either order, against a cap of one lumen or of one USD: the
pass books exactly the cap, though which operation it shrinks depends on the order. -/
theorem volumeFilterOps_exact_books_min_bothOrders :
    (volumeFilterOps oneLumenCap (fun _ _ _ _ => .ok true) (fun _ => "") ⟨0, 0⟩ ⟨0, 0⟩
        [twoLumens, halfLumen]).2.base = 1 ∧
    (volumeFilterOps oneLumenCap (fun _ _ _ _ => .ok true) (fun _ => "") ⟨0, 0⟩ ⟨0, 0⟩
        [halfLumen, twoLumens]).2.base = 1 ∧
    (volumeFilterOps oneDollarCap (fun _ _ _ _ => .ok true) (fun _ => "") ⟨0, 0⟩ ⟨0, 0⟩
        [twoLumens, halfLumen]).2.quote = 1 ∧
    (volumeFilterOps oneDollarCap (fun _ _ _ _ => .ok true) (fun _ => "") ⟨0, 0⟩ ⟨0, 0⟩
        [halfLumen, twoLumens]).2.quote = 1 := by
  have ha : ∀ op ∈ [twoLumens, halfLumen], 0 ≤ op.amount := by norm_num [twoLumens, halfLumen]
  have hp : ∀ op ∈ [twoLumens, halfLumen], 0 < op.price := by norm_num [twoLumens, halfLumen]
  have hb := (@volumeFilterOps_exact_books_min oneLumenCap (fun _ _ _ _ => .ok true) (fun _ => "")
    ⟨0, 0⟩ 1 _ rfl (fun _ _ => rfl) ha hp).1 rfl rfl
  have hq := (@volumeFilterOps_exact_books_min oneDollarCap (fun _ _ _ _ => .ok true)
    (fun _ => "") ⟨0, 0⟩ 1 _ rfl (fun _ _ => rfl) ha hp).2 rfl rfl
  refine ⟨(hb _ (.refl _)).trans ?_, (hb _ (.swap _ _ _)).trans ?_, (hq _ (.refl _)).trans ?_,
    (hq _ (.swap _ _ _)).trans ?_⟩ <;> norm_num [twoLumens, halfLumen]

/-! ### Buy operations -/

/-- Whatever the operations, those `IsSelling` does not report as selling leave the to-be-booked
volumes alone: a pass ends with the volumes of the pass over its sell operations only, its sell
operations get the results they get there, and each buy operation gets nil. -/
theorem volumeFilterOps_sells_only (f : VolumeFilter) (isSelling : IsSellingFn)
    (render : ManageSellOffer → String) (dailyOTB : DailyVolumes) :
    ∀ (dailyTBB : DailyVolumes) (ops : List ManageSellOffer),
      (volumeFilterOps f isSelling render dailyOTB dailyTBB ops).2 =
          (volumeFilterOps f isSelling render dailyOTB dailyTBB
            (ops.filter (sellsBase f isSelling))).2 ∧
        ((ops.zip (volumeFilterOps f isSelling render dailyOTB dailyTBB ops).1).filter
            fun x => sellsBase f isSelling x.1).map Prod.snd =
          (volumeFilterOps f isSelling render dailyOTB dailyTBB
            (ops.filter (sellsBase f isSelling))).1 ∧
        ∀ x ∈ ops.zip (volumeFilterOps f isSelling render dailyOTB dailyTBB ops).1,
          isSelling f.baseAsset f.quoteAsset x.1.selling x.1.buying = .ok false → x.2 = .ok none
  | dailyTBB, [] => by simp
  | dailyTBB, op :: ops => by
    obtain ⟨ih₁, ih₂, ih₃⟩ := volumeFilterOps_sells_only f isSelling render dailyOTB
      (volumeFilterFn f isSelling render dailyOTB dailyTBB op).2 ops
    refine ⟨?_, ?_, ?_⟩
    · cases hs : sellsBase f isSelling op
      · rw [volumeFilterOps_cons, List.filter_cons_of_neg (by simp [hs]), ih₁,
          volumeFilterFn_snd_of_not_sellsBase hs]
      · rw [volumeFilterOps_cons, List.filter_cons_of_pos hs, volumeFilterOps_cons, ih₁]
    · cases hs : sellsBase f isSelling op
      · rw [volumeFilterFn_snd_of_not_sellsBase hs] at ih₂
        simp only [volumeFilterOps_cons, List.zip_cons_cons, List.filter_cons, hs,
          Bool.false_eq_true, if_false, volumeFilterFn_snd_of_not_sellsBase hs, ih₂]
      · simp only [volumeFilterOps_cons, List.zip_cons_cons, List.filter_cons, hs, if_true,
          List.map_cons, ih₂]
    · intro x hx hbuy
      rw [volumeFilterOps_cons, List.zip_cons_cons] at hx
      rcases List.mem_cons.mp hx with rfl | hx
      · exact congrArg Prod.fst (volumeFilterFn_of_buying hbuy)
      · exact ih₃ x hx hbuy

/-- A buy of one lumen: it sells dollars for lumens. -/
def buyLumens : ManageSellOffer := ⟨Mirror.usd, Mirror.xlm, 1, 1⟩

/-- An `IsSelling` that reports an operation as selling when it sells the base asset. -/
def sellingBase : IsSellingFn := fun baseAsset _ selling _ => .ok (decide (selling = baseAsset))

/-- A pass over one buy returns nil for it: the buy is dropped, not passed on. -/
theorem volumeFilterOps_drops_buy_op :
    volumeFilterOps oneLumenCap sellingBase (fun _ => "") ⟨0, 0⟩ ⟨0, 0⟩ [buyLumens] =
      ([.ok none], ⟨0, 0⟩) := by
  simp [volumeFilterFn, sellingBase, buyLumens, oneLumenCap, Mirror.usd, Mirror.xlm]

end Kelp.Filter
