import Kelp.Mirror.Pass
import Mathlib.Tactic.NormNum

/-! Passing twice.

Apply the operations of a pass (deleted offers removed, modified ones replaced in place,
created ones appended in target order), with the venue reporting each offer submitted
(`Applied`), and pass again against the same targets. On the sell side the venue reports the
price and amount submitted. On the buy side the SDEX holds the inverse offer, selling the quote
asset at `1 / p` for `p * a` of it, and Horizon reports both with seven decimals (`reported`):
`doModifyOffer` inverts them back, which is exact only when `1 / p` has seven decimals. A
target whose report reads back within `epsilon` of it (`RoundTrips`) is met again by the second
pass. Every sell target does (`roundTrips_sell`): a submitted value read back at a precision no
finer than the cap rounds like the target at the precision they share
(`Number.toFixed_readBack`). So the second pass keeps everything (`updateLevels_idempotent`), as
long as the first left no gap (`NoGap`) and every buy target round-trips.

Both conditions are needed (`second_pass_moves_levels`). Pairing is by position, so a target
skipped before one that is created shifts every later pair, and the second pass moves what the
first placed. And a bid at 98 is reported at 0.0102041, which reads back as 97.9998236, more
than `epsilon` away: the second pass modifies it to 98 again, and so does every pass after. -/
namespace Kelp.Mirror

/-! ### The live offers after a pass -/

/-- Horizon reports an offer's price and amount with seven decimals. -/
def horizonPrecision : ℕ := 7

/-- The price and amount the venue reports for a level submitted at price `p` and amount `a`:
as submitted on the sell side; on the buy side the SDEX holds an offer selling the quote asset
at `1 / p` for `p * a` of it. -/
def reported (hack : Bool) (p a : ℚ) : ℚ × ℚ :=
  if hack then (toFixed (1 / p) horizonPrecision, toFixed (p * a) horizonPrecision) else (p, a)

/-- How the venue reports an offer a pass leaves: a kept offer as it was, and a modified or
created one at what `reported` gives for the price and amount submitted. -/
def Reports (hack : Bool) : Fate → Offer → Prop
  | .kept o _ _, o' => o' = o
  | .modified _ p a, o' => (o'.price, o'.amount) = reported hack p.value a.value
  | .created p v, o' => (o'.price, o'.amount) = reported hack p v
  | .deleted _, _ | .skipped, _ => False

/-- `L'` is the live list once the operations of a pass with fates `fs` apply: deleted offers
gone, skipped targets absent, the others in level order as the venue reports them. -/
inductive Applied (hack : Bool) : List Fate → List Offer → Prop
  | nil : Applied hack [] []
  | survives {f : Fate} {fs : List Fate} {o' : Offer} {L' : List Offer} :
      Reports hack f o' → Applied hack fs L' → Applied hack (f :: fs) (o' :: L')
  | deleted {o : Offer} {fs : List Fate} {L' : List Offer} :
      Applied hack fs L' → Applied hack (.deleted o :: fs) L'
  | skipped {fs : List Fate} {L' : List Offer} :
      Applied hack fs L' → Applied hack (.skipped :: fs) L'

/-- No level is deleted, and no target is skipped before one that is kept, modified or
created. -/
def NoGap : List Fate → Prop
  | [] => True
  | .deleted _ :: _ => False
  | .skipped :: fs => ∀ f ∈ fs, f = .skipped
  | _ :: fs => NoGap fs

theorem Reports.survives {hack : Bool} {f : Fate} {o' : Offer} (h : Reports hack f o') :
    f.survives = true := by
  cases f <;> first | rfl | exact h.elim

theorem Applied.eq_nil {hack : Bool} {fs : List Fate} {L' : List Offer}
    (ha : Applied hack fs L') (h : ∀ f ∈ fs, f.survives = false) : L' = [] := by
  induction ha with
  | nil => rfl
  | survives hr _ _ =>
    have := h _ (List.mem_cons_self _ _)
    rw [hr.survives] at this
    cases this
  | deleted _ ih => exact ih fun f hf => h f (List.mem_cons_of_mem _ hf)
  | skipped _ ih => exact ih fun f hf => h f (List.mem_cons_of_mem _ hf)

variable (s : MirrorStrategy)

/-! ### A reported level meets its target again -/

/-- `doModifyOffer`'s test that a live offer already stands at its target. -/
def sameOrderParams (hack : Bool) (m : ℚ) (n : Order) (o : Offer) : Bool :=
  (oldLevel s hack o).1.equalsPrecisionNormalized (n.price.scale m) epsilon &&
    (oldLevel s hack o).2.equalsPrecisionNormalized (n.volume.scale (1 / s.volumeDivideBy)) epsilon

/-- A live offer of the strategy's pair reported at price and amount `r`. -/
def offerAt (r : ℚ × ℚ) : Offer := ⟨0, s.baseAsset, s.quoteAsset, r.2, r.1⟩

/-- Target `n` round-trips when an offer at either value a pass submits for it, capped to the
primary precisions by a modify or as scaled by a create, is reported so that `doModifyOffer`
reads it back within `epsilon` of `n`. -/
def RoundTrips (hack : Bool) (m : ℚ) (n : Order) : Prop :=
  sameOrderParams s hack m n (offerAt s (reported hack
      (numberByCappingPrecision (n.price.scale m) s.primaryConstraints.pricePrecision).value
      (numberByCappingPrecision (n.volume.scale (1 / s.volumeDivideBy))
        s.primaryConstraints.volumePrecision).value)) = true ∧
    sameOrderParams s hack m n (offerAt s (reported hack (n.price.scale m).value
      (n.volume.scale (1 / s.volumeDivideBy)).value)) = true

instance (hack : Bool) (m : ℚ) (n : Order) : Decidable (RoundTrips s hack m n) :=
  inferInstanceAs (Decidable (_ ∧ _))

theorem sameOrderParams_offerAt (hack : Bool) (m : ℚ) (n : Order) (o : Offer) :
    sameOrderParams s hack m n (offerAt s (o.price, o.amount)) = sameOrderParams s hack m n o :=
  rfl

theorem epsilon_pos : (0 : ℚ) < epsilon := by norm_num [epsilon]

theorem equalsPrecisionNormalized_readBack {x : ℚ} {a : Number} {p : ℕ}
    (hx : toFixed x p = (numberByCappingPrecision a p).value) :
    (mustNumberFromString x p).equalsPrecisionNormalized a epsilon = true :=
  Number.equalsPrecisionNormalized_of_toFixed_eq epsilon_pos (Number.toFixed_readBack le_rfl hx)

/-- Every sell target round-trips: the venue reports what was submitted, and a value read back
at the primary precision, whether it was submitted capped to that precision or at the target's
own, rounds like the target. -/
theorem roundTrips_sell (m : ℚ) (n : Order) : RoundTrips s false m n := by
  have capped (a : Number) (p : ℕ) :
      toFixed (numberByCappingPrecision a p).value p = (numberByCappingPrecision a p).value := by
    rw [Number.capping_value_eq_toFixed, toFixed_of_onGrid (toFixed_onGrid _ _)]
  have scaled (a : Number) (p : ℕ) : toFixed a.value p = (numberByCappingPrecision a p).value :=
    (Number.capping_value_eq_toFixed a p).symm
  exact ⟨Bool.and_eq_true_iff.mpr ⟨equalsPrecisionNormalized_readBack (capped _ _),
      equalsPrecisionNormalized_readBack (capped _ _)⟩,
    Bool.and_eq_true_iff.mpr ⟨equalsPrecisionNormalized_readBack (scaled _ _),
      equalsPrecisionNormalized_readBack (scaled _ _)⟩⟩

section Reapply
variable {mo : ModifyOfferFn} {co : CreateOfferFn} {m : ℚ} {hack : Bool}

theorem pairFate_of_same {o : Offer} {n : Order} (h : sameOrderParams s hack m n o = true) :
    pairFate s o n m mo hack = .ok (.kept o (oldLevel s hack o).1 (oldLevel s hack o).2) := by
  unfold pairFate
  exact if_pos h

/-- A level the first pass kept or modified is kept by the second against the same target. -/
theorem pairFate_of_reports {o o' : Offer} {n : Order} {f : Fate} (hn : RoundTrips s hack m n)
    (hf : pairFate s o n m mo hack = .ok f) (hr : Reports hack f o') :
    ∃ p v, pairFate s o' n m mo hack = .ok (.kept o' p v) := by
  rcases pairFate_cases s hf with ⟨hs, rfl⟩ | rfl | rfl
  · cases hr
    exact ⟨_, _, pairFate_of_same s hs⟩
  · exact ⟨_, _, pairFate_of_same s (by rw [← sameOrderParams_offerAt, hr]; exact hn.1)⟩
  · exact hr.elim

/-- A target the first pass created is met by the created offer in the second. -/
theorem pairFate_of_reports_created (mo : ModifyOfferFn) {o' : Offer} {n : Order} {f : Fate}
    (hn : RoundTrips s hack m n) (hf : createFate s co m n = .ok f) (hr : Reports hack f o') :
    ∃ p v, pairFate s o' n m mo hack = .ok (.kept o' p v) := by
  rcases createFate_cases s hf with rfl | rfl
  · exact hr.elim
  · exact ⟨_, _, pairFate_of_same s (by rw [← sameOrderParams_offerAt, hr]; exact hn.2)⟩

theorem opsOf_kept_cons (o : Offer) (p v : Number) (fs : List Fate) :
    opsOf (.kept o p v :: fs) = opsOf fs := by
  simp [opsOf, Fate.deleteOp, Fate.manageOp]

/-- The second pass over what a gapless first pass left keeps every level whose target
round-trips. -/
theorem passFates_again : ∀ {L : List Offer} {T : List Order} {fs : List Fate} {L' : List Offer},
    passFates s L T mo co m hack = .ok fs → NoGap (fs.take T.length) →
      (∀ n ∈ T, RoundTrips s hack m n) → Applied hack fs L' →
        ∃ fs', passFates s L' T mo co m hack = .ok fs' ∧ opsOf fs' = []
  | L, [], fs, L', h, _, _, ha => by
    rw [passFates_nil_right, Except.ok.injEq] at h
    subst h
    rw [ha.eq_nil (by simp [Fate.survives])]
    exact ⟨[], passFates_nil_right s [], rfl⟩
  | [], n :: T, fs, L', h, hg, hT, ha => by
    rw [passFates_nil_left] at h
    obtain ⟨f, fs', hf, hr, rfl⟩ := createFates_cons_ok s h
    rcases createFate_cases s hf with rfl | rfl
    · have hsk : ∀ g ∈ fs', g = .skipped := by
        simpa [NoGap, ← createFates_length s hr] using hg
      have hall : ∀ g ∈ Fate.skipped :: fs', g = .skipped := by simpa using hsk
      rw [ha.eq_nil fun g hg => by rw [hall g hg]; rfl]
      refine ⟨_, (passFates_nil_left s _).trans h, ?_⟩
      simp only [opsOf, List.append_eq_nil, List.filterMap_eq_nil_iff]
      exact ⟨fun g hg => by rw [hall g hg]; rfl, fun g hg => by rw [hall g hg]; rfl⟩
    · cases ha with
      | survives hrep ha' =>
        obtain ⟨p, v, hk⟩ :=
          pairFate_of_reports_created s mo (hT n (List.mem_cons_self _ _)) hf hrep
        obtain ⟨fs₂, h₂, hops⟩ := passFates_again ((passFates_nil_left s T).trans hr)
          (by simpa [NoGap] using hg) (fun n' hn' => hT n' (List.mem_cons_of_mem _ hn')) ha'
        exact ⟨_, by rw [passFates_cons_cons, hk, h₂]; rfl, by rw [opsOf_kept_cons, hops]⟩
  | o :: L, n :: T, fs, L', h, hg, hT, ha => by
    obtain ⟨f, fs', hf, hr, rfl⟩ := passFates_cons_cons_ok s h
    have hng : NoGap (f :: fs'.take T.length) := by simpa using hg
    rcases pairFate_cases s hf with ⟨-, rfl⟩ | rfl | rfl
    all_goals first
      | exact absurd hng id
      | cases ha with
        | survives hrep ha' =>
          obtain ⟨p, v, hk⟩ := pairFate_of_reports s (hT n (List.mem_cons_self _ _)) hf hrep
          obtain ⟨fs₂, h₂, hops⟩ := passFates_again hr hng
            (fun n' hn' => hT n' (List.mem_cons_of_mem _ hn')) ha'
          exact ⟨_, by rw [passFates_cons_cons, hk, h₂]; rfl, by rw [opsOf_kept_cons, hops]⟩

/-- **Reconciliation is idempotent without gaps.** Apply a successful pass whose fates leave no
gap among the levels of its targets, the venue reporting each offer as `reported` says; if the
side is the buy side, let every target round-trip. A second pass against the same targets
returns no operation. -/
theorem updateLevels_idempotent {L L' : List Offer} {T : List Order} {fs : List Fate}
    (h : passFates s L T mo co m hack = .ok fs) (hg : NoGap (fs.take T.length))
    (hT : hack = true → ∀ n ∈ T, RoundTrips s true m n) (ha : Applied hack fs L') :
    (updateLevels s L' T mo co m hack).result = .ok [] := by
  have hrt : ∀ n ∈ T, RoundTrips s hack m n := by
    cases hack
    · exact fun n _ => roundTrips_sell s m n
    · exact hT rfl
  obtain ⟨fs', h', hops⟩ := passFates_again s h hg hrt ha
  rw [updateLevels_result, h', Except.map, hops]

end Reapply

/-! ### Two passes over the example market -/

/-- A bid for 2 lumens at 3 USD. -/
def bid : Order := ⟨.buy, numberFromFloat 3 7, numberFromFloat 2 7⟩

/-- The offer the venue reports once `bid` is created: 6 USD for sale at 0.3333333 XLM. -/
def bidOffer : Offer := ⟨1, usd, xlm, 6, 3333333 / 10000000⟩

theorem passFates_bid :
    passFates exampleStrategy [] [bid] exampleStrategy.sdex.modifyBuyOffer
      exampleStrategy.sdex.createBuyOffer 1 true = .ok [.created 3 2] := by
  simp [passFates_nil_left, createFates, createFate, exampleStrategy, bid, Number.scale,
    bind, Except.bind, pure, Except.pure, Except.map]
  norm_num [toFixed, roundHalfAway]

theorem roundTrips_bid : RoundTrips exampleStrategy true 1 bid := by
  simp [RoundTrips, sameOrderParams, offerAt, reported, horizonPrecision, oldLevel, bid,
    exampleStrategy, Number.equalsPrecisionNormalized, Number.scale, Number.multiply,
    mustNumberFromString, invertNumber, numberByCappingPrecision, epsilon]
  norm_num [toFixed, roundHalfAway, abs_of_pos]

theorem updateLevels_idempotent_bid :
    (updateLevels exampleStrategy [bidOffer] [bid] exampleStrategy.sdex.modifyBuyOffer
      exampleStrategy.sdex.createBuyOffer 1 true).result = .ok [] :=
  updateLevels_idempotent exampleStrategy passFates_bid (by simp [NoGap])
    (fun _ n hn => by rw [List.mem_singleton.mp hn]; exact roundTrips_bid)
    (.survives (by norm_num [Reports, reported, horizonPrecision, bidOffer, toFixed,
      roundHalfAway]) .nil)

/-- An ask for half a lumen at 2 USD: below the backing minimum of one. -/
def smallAsk : Order := ⟨.sell, numberFromFloat 2 7, numberFromFloat (1 / 2) 7⟩

/-- An ask for 3 lumens at 2 USD. -/
def ask : Order := ⟨.sell, numberFromFloat 2 7, numberFromFloat 3 7⟩

/-- The offer the venue reports once `ask` is created: 3 XLM for sale at 2 USD. -/
def askOffer : Offer := ⟨1, xlm, usd, 3, 2⟩

/-- A bid for one lumen at 98 USD. -/
def bid98 : Order := ⟨.buy, numberFromFloat 98 7, numberFromFloat 1 7⟩

/-- The offer the venue reports once `bid98` is created: 98 USD for sale at 0.0102041 XLM. -/
def bid98Offer : Offer := ⟨1, usd, xlm, 98, 102041 / 10000000⟩

/-- Neither condition can be dropped. With the venue building every operation:

* a pass over no live offers skips a small ask and creates the next; the venue then holds the
  created offer, and the second pass pairs it with the small ask, deletes it, and creates the
  ask again;
* a pass over no live offers creates a bid at 98, which the venue reports at 0.0102041; that
  reads back as 97.9998236, so the second pass modifies the offer to 98 again. -/
theorem second_pass_moves_levels :
    (∀ o p a i, exampleStrategy.sdex.modifySellOffer o p a i = .ok true) ∧
    (∀ b q p a i, exampleStrategy.sdex.createSellOffer b q p a i = .ok true) ∧
    (∀ o p a i, exampleStrategy.sdex.modifyBuyOffer o p a i = .ok true) ∧
    (∀ b q p a i, exampleStrategy.sdex.createBuyOffer b q p a i = .ok true) ∧
    passFates exampleStrategy [] [smallAsk, ask] exampleStrategy.sdex.modifySellOffer
      exampleStrategy.sdex.createSellOffer 1 false = .ok [.skipped, .created 2 3] ∧
    Applied false [.skipped, .created 2 3] [askOffer] ∧
    (updateLevels exampleStrategy [askOffer] [smallAsk, ask] exampleStrategy.sdex.modifySellOffer
      exampleStrategy.sdex.createSellOffer 1 false).result =
      .ok [.deleteOffer askOffer, .createOffer 2 3] ∧
    passFates exampleStrategy [] [bid98] exampleStrategy.sdex.modifyBuyOffer
      exampleStrategy.sdex.createBuyOffer 1 true = .ok [.created 98 1] ∧
    Applied true [.created 98 1] [bid98Offer] ∧
    ¬ RoundTrips exampleStrategy true 1 bid98 ∧
    (updateLevels exampleStrategy [bid98Offer] [bid98] exampleStrategy.sdex.modifyBuyOffer
      exampleStrategy.sdex.createBuyOffer 1 true).result =
      .ok [.modifyOffer bid98Offer 98 1] := by
  refine ⟨fun _ _ _ _ => rfl, fun _ _ _ _ _ => rfl, fun _ _ _ _ => rfl, fun _ _ _ _ _ => rfl,
    ?_, .skipped (.survives (by simp [Reports, reported, askOffer]) .nil), ?_, ?_,
    .survives (by norm_num [Reports, reported, horizonPrecision, bid98Offer, toFixed,
      roundHalfAway]) .nil, ?_, ?_⟩
  · simp [passFates_nil_left, createFates, createFate, exampleStrategy, ask, smallAsk,
      Number.scale, bind, Except.bind, pure, Except.pure, Except.map]
    norm_num [toFixed, roundHalfAway]
  · simp [updateLevels, modifyLevels, doModifyOffer, oldLevel, createLevels, exampleStrategy,
      askOffer, ask, smallAsk, Number.equalsPrecisionNormalized, Number.scale, mustNumberFromString,
      numberByCappingPrecision, epsilon]
    norm_num [toFixed, roundHalfAway, abs_of_pos]
  · simp [passFates_nil_left, createFates, createFate, exampleStrategy, bid98, Number.scale,
      bind, Except.bind, pure, Except.pure, Except.map]
    norm_num [toFixed, roundHalfAway]
  · simp [RoundTrips, sameOrderParams, offerAt, reported, horizonPrecision, oldLevel, bid98,
      exampleStrategy, Number.equalsPrecisionNormalized, Number.scale, Number.multiply,
      mustNumberFromString, invertNumber, numberByCappingPrecision, epsilon]
    norm_num [toFixed, roundHalfAway, abs_of_pos]
  · simp [updateLevels, modifyLevels, doModifyOffer, oldLevel, createLevels, exampleStrategy,
      bid98Offer, bid98, Number.equalsPrecisionNormalized, Number.scale, Number.multiply,
      mustNumberFromString, invertNumber, numberByCappingPrecision, epsilon]
    norm_num [toFixed, roundHalfAway, abs_of_pos]

end Kelp.Mirror
