import Kelp.Mirror.Basic
import Mathlib.Tactic.NormNum
import Mathlib.Tactic.Linarith

/-! The volume filter: `volumeFilter.volumeFilterFn`.

Every sell operation of a pass goes through `volumeFilterFn` in order. Against a
configured cap, counted in base or in quote units, the volume already booked today
(`dailyOTB`) plus the volume kept so far in the pass (`dailyTBB`) plus the
operation's own must stay within the cap. Past it, `ignore` mode drops the
operation and `exact` mode shrinks it to what is left of the cap, writing the new
amount with seven decimals. A kept operation adds its amount, unrounded, to the
running totals.

`volumeFilterFn_within_caps`: whatever came before, an operation the filter keeps
leaves the running totals within every configured cap. The amount it returns is
the rounded one, though, and rounding can go up: a shrink to 0.99999996 returns
an amount of 1 against a cap that had 0.99999996 left
(`volumeFilterFn_rounds_past_cap`). -/
namespace Kelp.Filter

open Mirror (Asset)

/-- `volumeFilterMode`. -/
inductive VolumeFilterMode
  | exact
  | ignore
  deriving DecidableEq

/-- The fields of `VolumeFilterConfig` that `volumeFilterFn` reads: the two caps, each unset
(`nil`) or a value, and the mode. -/
structure VolumeFilterConfig where
  sellBaseAssetCapInBaseUnits : Option ℚ
  sellBaseAssetCapInQuoteUnits : Option ℚ
  mode : VolumeFilterMode

/-- Volumes sold in base and in quote units: what `Apply`'s `dailyOTB` and `dailyTBB` carry in
their cap fields. -/
structure DailyVolumes where
  base : ℚ
  quote : ℚ

/-- `txnbuild.ManageSellOffer`, with its amount and price by the values their strings hold. -/
structure ManageSellOffer where
  selling : Asset
  buying : Asset
  amount : ℚ
  price : ℚ

/-- `utils.IsSelling`, which is not among the sources: whether an operation between two assets
sells the base asset, or an error. -/
abbrev IsSellingFn := Asset → Asset → Asset → Asset → Except String Bool

/-- The fields of `volumeFilter` that `volumeFilterFn` reads. -/
structure VolumeFilter where
  baseAsset : Asset
  quoteAsset : Asset
  config : VolumeFilterConfig

/-- `fmt.Sprintf("%.7f", x)`, by the value the text holds. -/
def sprintf7 (x : ℚ) : ℚ := toFixed x 7

/-- One cap's check in `volumeFilterFn`, for a cap counted in units of which one base unit is
`unitPrice` (1 for the base cap, the sell price for the quote cap): whether the operation
stays, and the shrunk amount if `exact` mode shrank it. -/
def capCheck (mode : VolumeFilterMode) (cap onTheBooks toBeBooked unitPrice amount : ℚ) :
    Bool × Option ℚ :=
  let projected := onTheBooks + toBeBooked + amount * unitPrice
  let keep := decide (projected ≤ cap)
  if mode = .exact ∧ !keep then
    let newAmount := (cap - onTheBooks - toBeBooked) / unitPrice
    if newAmount > 0 then (true, some newAmount) else (keep, none)
  else (keep, none)

/-- A cap's check, or a pass when the cap is unset. -/
def checkCap (mode : VolumeFilterMode) (cap : Option ℚ) (onTheBooks toBeBooked unitPrice amount : ℚ) :
    Bool × Option ℚ :=
  match cap with
  | some cap => capCheck mode cap onTheBooks toBeBooked unitPrice amount
  | none => (true, none)

/-- `volumeFilter.volumeFilterFn`: the operation kept (possibly shrunk) or dropped, and the
to-be-booked volumes after it. `%+v` rendering of an operation is not among the sources. -/
def volumeFilterFn (f : VolumeFilter) (isSelling : IsSellingFn) (render : ManageSellOffer → String)
    (dailyOTB dailyTBB : DailyVolumes) (op : ManageSellOffer) :
    Except String (Option ManageSellOffer) × DailyVolumes :=
  match isSelling f.baseAsset f.quoteAsset op.selling op.buying with
  | .error e =>
    (.error ("error when running the isSelling check for offer '" ++ render op ++ "': " ++ e),
      dailyTBB)
  | .ok false => (.ok none, dailyTBB)
  | .ok true =>
    let sellPrice := op.price
    let amountValueUnitsBeingSold := op.amount
    let byBase := checkCap f.config.mode f.config.sellBaseAssetCapInBaseUnits dailyOTB.base
      dailyTBB.base 1 amountValueUnitsBeingSold
    let newAmountBeingSold := byBase.2.getD amountValueUnitsBeingSold
    let byQuote := checkCap f.config.mode f.config.sellBaseAssetCapInQuoteUnits dailyOTB.quote
      dailyTBB.quote sellPrice newAmountBeingSold
    let newAmountBeingSold := byQuote.2.getD newAmountBeingSold
    let opToReturn := if byBase.2.isSome || byQuote.2.isSome then
        { op with amount := sprintf7 newAmountBeingSold } else op
    if byBase.1 && byQuote.1 then
      (.ok (some opToReturn), ⟨dailyTBB.base + newAmountBeingSold,
        dailyTBB.quote + newAmountBeingSold * sellPrice⟩)
    else (.ok none, dailyTBB)

/-! ### What a kept operation leaves -/

section Caps
variable {mode : VolumeFilterMode} {cap onTheBooks toBeBooked unitPrice amount : ℚ}

/-- A cap's check that keeps an operation keeps it within the cap, at its possibly shrunk
amount. -/
theorem capCheck_within (hu : 0 < unitPrice)
    (h : (capCheck mode cap onTheBooks toBeBooked unitPrice amount).1 = true) :
    onTheBooks + toBeBooked +
      (capCheck mode cap onTheBooks toBeBooked unitPrice amount).2.getD amount * unitPrice ≤ cap := by
  unfold capCheck at h ⊢
  dsimp only at h ⊢
  split_ifs at h ⊢ with hx hn
  · simp only [Option.getD_some]
    rw [div_mul_cancel₀ _ hu.ne']
    linarith
  · simp_all
  · simp_all

/-- A cap's check only ever shrinks the amount. -/
theorem capCheck_le (hu : 0 < unitPrice) :
    (capCheck mode cap onTheBooks toBeBooked unitPrice amount).2.getD amount ≤ amount := by
  unfold capCheck
  dsimp only
  split_ifs with hx hn
  · simp only [Option.getD_some]
    rw [div_le_iff₀ hu]
    simp only [Bool.not_eq_true', decide_eq_false_iff_not, not_le] at hx
    linarith [hx.2]
  all_goals exact le_rfl

theorem checkCap_within (hu : 0 < unitPrice) {c : Option ℚ}
    (h : (checkCap mode c onTheBooks toBeBooked unitPrice amount).1 = true) {cap : ℚ}
    (hc : c = some cap) :
    onTheBooks + toBeBooked +
      (checkCap mode c onTheBooks toBeBooked unitPrice amount).2.getD amount * unitPrice ≤ cap := by
  subst hc
  exact capCheck_within hu h

theorem checkCap_le (hu : 0 < unitPrice) {c : Option ℚ} :
    (checkCap mode c onTheBooks toBeBooked unitPrice amount).2.getD amount ≤ amount := by
  cases c
  · exact le_rfl
  · exact capCheck_le hu

end Caps

/-- What a kept operation books: it sells the base asset, both caps' checks keep it, and the
to-be-booked volumes grow by its amount after both checks, in base and in quote units. -/
theorem volumeFilterFn_kept {f : VolumeFilter} {isSelling : IsSellingFn}
    {render : ManageSellOffer → String} {dailyOTB dailyTBB dailyTBB' : DailyVolumes}
    {op op' : ManageSellOffer}
    (h : volumeFilterFn f isSelling render dailyOTB dailyTBB op = (.ok (some op'), dailyTBB')) :
    ∃ a₁ a₂,
      (checkCap f.config.mode f.config.sellBaseAssetCapInBaseUnits dailyOTB.base dailyTBB.base 1
        op.amount).1 = true ∧
      (checkCap f.config.mode f.config.sellBaseAssetCapInBaseUnits dailyOTB.base dailyTBB.base 1
        op.amount).2.getD op.amount = a₁ ∧
      (checkCap f.config.mode f.config.sellBaseAssetCapInQuoteUnits dailyOTB.quote dailyTBB.quote
        op.price a₁).1 = true ∧
      (checkCap f.config.mode f.config.sellBaseAssetCapInQuoteUnits dailyOTB.quote dailyTBB.quote
        op.price a₁).2.getD a₁ = a₂ ∧
      dailyTBB' = ⟨dailyTBB.base + a₂, dailyTBB.quote + a₂ * op.price⟩ := by
  unfold volumeFilterFn at h
  split at h
  · simp at h
  · simp at h
  · dsimp only at h
    split at h
    · next hk =>
      simp only [Bool.and_eq_true] at hk
      exact ⟨_, _, hk.1, rfl, hk.2, rfl, (Prod.mk.inj h).2.symm⟩
    · simp at h

/-- **Kept operations stay within the caps.** Whatever the volumes booked and to be booked
before it, an operation at a positive price that `volumeFilterFn` keeps leaves the to-be-booked
volumes, added to those on the books, within every configured cap. -/
theorem volumeFilterFn_within_caps {f : VolumeFilter} {isSelling : IsSellingFn}
    {render : ManageSellOffer → String} {dailyOTB dailyTBB dailyTBB' : DailyVolumes}
    {op op' : ManageSellOffer} (hp : 0 < op.price)
    (h : volumeFilterFn f isSelling render dailyOTB dailyTBB op = (.ok (some op'), dailyTBB')) :
    (∀ c, f.config.sellBaseAssetCapInBaseUnits = some c → dailyOTB.base + dailyTBB'.base ≤ c) ∧
    (∀ c, f.config.sellBaseAssetCapInQuoteUnits = some c →
      dailyOTB.quote + dailyTBB'.quote ≤ c) := by
  obtain ⟨a₁, a₂, hb, ha₁, hq, ha₂, rfl⟩ := volumeFilterFn_kept h
  refine ⟨fun c hc => ?_, fun c hc => ?_⟩
  · -- The base check bounds the amount it passes on, which the quote check only shrinks.
    have hbase := checkCap_within one_pos hb hc
    have hshrink : (checkCap f.config.mode f.config.sellBaseAssetCapInQuoteUnits dailyOTB.quote
        dailyTBB.quote op.price a₁).2.getD a₁ ≤ a₁ := checkCap_le hp
    rw [ha₁] at hbase
    rw [ha₂] at hshrink
    dsimp only
    linarith
  · have hquote := checkCap_within hp hq hc
    rw [ha₂] at hquote
    dsimp only
    linarith

/-! ### Writing the shrunk amount -/

/-- A cap of one lumen sold a day, in `exact` mode. -/
def oneLumenCap : VolumeFilter := ⟨Mirror.xlm, Mirror.usd, ⟨some 1, none, .exact⟩⟩

/-- A sale of two lumens at 1 USD. -/
def twoLumens : ManageSellOffer := ⟨Mirror.xlm, Mirror.usd, 2, 1⟩

/-- With 0.00000004 lumens sold today, the filter shrinks the sale to the 0.99999996 left
under the cap and books that, but returns it written with seven decimals, as 1.0000000. -/
theorem volumeFilterFn_twoLumens :
    volumeFilterFn oneLumenCap (fun _ _ _ _ => .ok true) (fun _ => "") ⟨1 / 25000000, 0⟩ ⟨0, 0⟩
        twoLumens =
      (.ok (some { twoLumens with amount := 1 }), ⟨24999999 / 25000000, 24999999 / 25000000⟩) := by
  simp [volumeFilterFn, checkCap, capCheck, oneLumenCap, twoLumens, sprintf7]
  norm_num [toFixed, roundHalfAway]

theorem volumeFilterFn_within_caps_twoLumens :
    (∀ c, oneLumenCap.config.sellBaseAssetCapInBaseUnits = some c →
      (1 / 25000000 : ℚ) + 24999999 / 25000000 ≤ c) ∧
    (∀ c, oneLumenCap.config.sellBaseAssetCapInQuoteUnits = some c →
      (0 : ℚ) + 24999999 / 25000000 ≤ c) :=
  volumeFilterFn_within_caps (by norm_num [twoLumens]) volumeFilterFn_twoLumens

/-- The returned amount of 1 takes the day's sales to 1.00000004, past the cap of 1. -/
theorem volumeFilterFn_rounds_past_cap :
    volumeFilterFn oneLumenCap (fun _ _ _ _ => .ok true) (fun _ => "") ⟨1 / 25000000, 0⟩ ⟨0, 0⟩
        twoLumens =
      (.ok (some { twoLumens with amount := 1 }), ⟨24999999 / 25000000, 24999999 / 25000000⟩) ∧
    oneLumenCap.config.sellBaseAssetCapInBaseUnits = some 1 ∧ (1 : ℚ) < 1 / 25000000 + 1 :=
  ⟨volumeFilterFn_twoLumens, rfl, by norm_num⟩

end Kelp.Filter
