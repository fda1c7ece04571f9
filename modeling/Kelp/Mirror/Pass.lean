import Kelp.Mirror.Reconcile

/-! What a pass does to each level.

A pass decides a `Fate` for every level: a live offer paired with a target is
kept, modified or deleted; a target past the live offers is created or
skipped; a live offer past the targets is deleted. `passFates` makes those
decisions; `updateLevels` is their effect. `updateLevels_of_passFates` and
`updateLevels_result` say the effect is exactly the decisions': the operations
are the fates' deletions followed by their modifications and creations, and the
liabilities added are one per surviving level (`Fate.liability`), in order. -/
namespace Kelp.Mirror

/-- What one pass does to one level. -/
inductive Fate
  /-- A live offer within tolerance of its target, kept; with the price and volume read
  from it. -/
  | kept (offer : Offer) (price vol : Number)
  /-- A live offer moved to its target's capped price and amount. -/
  | modified (offer : Offer) (price amount : Number)
  /-- A target past the live offers, created at its scaled price and volume. -/
  | created (price vol : ℚ)
  /-- A live offer deleted. -/
  | deleted (offer : Offer)
  /-- A target past the live offers that was not created. -/
  | skipped

namespace Fate

def deleteOp : Fate → Option TransactionMutator
  | deleted o => some (.deleteOffer o)
  | _ => none

def manageOp : Fate → Option TransactionMutator
  | modified o p a => some (.modifyOffer o p.value a.value)
  | created p v => some (.createOffer p v)
  | _ => none

/-- The level's offer survives the pass. -/
def survives : Fate → Bool
  | kept .. | modified .. | created .. => true
  | deleted _ | skipped => false

/-- The liability a surviving level commits: its base volume and that volume's worth in the
quote asset, the selling asset's amount first. -/
def liability (s : MirrorStrategy) (hack : Bool) : Fate → Option Liability
  | kept o p v => some (Mirror.liability hack o.selling o.buying v.value (v.multiply p).value
      (s.sdex.computeIncrementalNativeAmountRaw false))
  | modified o p a => some (Mirror.liability hack o.selling o.buying a.value (a.multiply p).value
      (s.sdex.computeIncrementalNativeAmountRaw false))
  | created p v => some (Mirror.liability hack (if hack then s.quoteAsset else s.baseAsset)
      (if hack then s.baseAsset else s.quoteAsset) v (v * p)
      (s.sdex.computeIncrementalNativeAmountRaw true))
  | deleted _ | skipped => none

theorem liability_isSome (s : MirrorStrategy) (hack : Bool) (f : Fate) :
    (f.liability s hack).isSome = f.survives := by
  cases f <;> rfl

end Fate

/-- The operations of a pass: deletions first, then modifications and creations. -/
def opsOf (fates : List Fate) : List TransactionMutator :=
  fates.filterMap Fate.deleteOp ++ fates.filterMap Fate.manageOp

variable (s : MirrorStrategy)

/-- The fate of a live offer paired with its target: `doModifyOffer`'s decision. -/
def pairFate (oldOffer : Offer) (newOrder : Order) (priceMultiplier : ℚ)
    (modifyOffer : ModifyOfferFn) (hack : Bool) : Except String Fate :=
  let price := newOrder.price.scale priceMultiplier
  let vol := newOrder.volume.scale (1 / s.volumeDivideBy)
  let oldPrice := (oldLevel s hack oldOffer).1
  let oldVol := (oldLevel s hack oldOffer).2
  if oldPrice.equalsPrecisionNormalized price epsilon &&
      oldVol.equalsPrecisionNormalized vol epsilon then
    .ok (.kept oldOffer oldPrice oldVol)
  else
    let offerPrice := numberByCappingPrecision price s.primaryConstraints.pricePrecision
    let offerAmount := numberByCappingPrecision vol s.primaryConstraints.volumePrecision
    if offerAmount.value < s.backingConstraints.minBaseVolume.value then .ok (.deleted oldOffer)
    else
      (modifyOffer oldOffer offerPrice.value offerAmount.value
        (s.sdex.computeIncrementalNativeAmountRaw false)).map
        fun mo => if mo then .modified oldOffer offerPrice offerAmount else .deleted oldOffer

/-- The fate of a target past the live offers. -/
def createFate (createOffer : CreateOfferFn) (priceMultiplier : ℚ) (newOrder : Order) :
    Except String Fate :=
  let price := (newOrder.price.scale priceMultiplier).value
  let vol := (newOrder.volume.scale (1 / s.volumeDivideBy)).value
  if vol < s.backingConstraints.minBaseVolume.value then .ok .skipped
  else
    (createOffer s.baseAsset s.quoteAsset price vol (s.sdex.computeIncrementalNativeAmountRaw true)).map
      fun mo => if mo then .created price vol else .skipped

def pairFates (modifyOffer : ModifyOfferFn) (priceMultiplier : ℚ) (hack : Bool) :
    List (Offer × Order) → Except String (List Fate)
  | [] => .ok []
  | (oldOffer, newOrder) :: rest => do
    let f ← pairFate s oldOffer newOrder priceMultiplier modifyOffer hack
    let fs ← pairFates modifyOffer priceMultiplier hack rest
    pure (f :: fs)

def createFates (createOffer : CreateOfferFn) (priceMultiplier : ℚ) :
    List Order → Except String (List Fate)
  | [] => .ok []
  | newOrder :: rest => do
    let f ← createFate s createOffer priceMultiplier newOrder
    let fs ← createFates createOffer priceMultiplier rest
    pure (f :: fs)

/-- The fates of a whole pass, in level order. -/
def passFates (oldOffers : List Offer) (newOrders : List Order) (modifyOffer : ModifyOfferFn)
    (createOffer : CreateOfferFn) (priceMultiplier : ℚ) (hack : Bool) : Except String (List Fate) := do
  let paired ← pairFates s modifyOffer priceMultiplier hack (oldOffers.zip newOrders)
  if oldOffers.length ≤ newOrders.length then do
    let created ← createFates s createOffer priceMultiplier (newOrders.drop oldOffers.length)
    pure (paired ++ created)
  else pure (paired ++ (oldOffers.drop newOrders.length).map .deleted)

/-! ### What one level can become -/

/-- A paired level is kept when its offer is within tolerance of the target, and otherwise
modified to the capped target or deleted. -/
theorem pairFate_cases {o : Offer} {n : Order} {m : ℚ} {mo : ModifyOfferFn} {hack : Bool}
    {f : Fate} (h : pairFate s o n m mo hack = .ok f) :
    (((oldLevel s hack o).1.equalsPrecisionNormalized (n.price.scale m) epsilon &&
        (oldLevel s hack o).2.equalsPrecisionNormalized (n.volume.scale (1 / s.volumeDivideBy))
          epsilon) = true ∧ f = .kept o (oldLevel s hack o).1 (oldLevel s hack o).2) ∨
    f = .modified o (numberByCappingPrecision (n.price.scale m) s.primaryConstraints.pricePrecision)
      (numberByCappingPrecision (n.volume.scale (1 / s.volumeDivideBy))
        s.primaryConstraints.volumePrecision) ∨
    f = .deleted o := by
  unfold pairFate at h
  dsimp only at h
  split_ifs at h with hs
  · exact .inl ⟨hs, (Except.ok.inj h).symm⟩
  · exact .inr (.inr (Except.ok.inj h).symm)
  · simp only [Except.map] at h
    split at h
    · cases h
    · rename_i mo' _
      cases mo' <;> simp only [Except.ok.injEq, Bool.false_eq_true, if_true, if_false] at h <;>
        simp [← h]

/-- A target past the live offers is skipped, or created at its scaled price and volume. -/
theorem createFate_cases {co : CreateOfferFn} {m : ℚ} {n : Order} {f : Fate}
    (h : createFate s co m n = .ok f) :
    f = .skipped ∨
      f = .created (n.price.scale m).value (n.volume.scale (1 / s.volumeDivideBy)).value := by
  unfold createFate at h
  dsimp only at h
  split_ifs at h
  · exact .inl (Except.ok.inj h).symm
  · simp only [Except.map] at h
    split at h
    · cases h
    · rename_i mo _
      cases mo <;> simp only [Except.ok.injEq, Bool.false_eq_true, if_true, if_false] at h <;>
        simp [← h]

theorem pairFates_cons_ok {mo : ModifyOfferFn} {m : ℚ} {hack : Bool} {o : Offer} {n : Order}
    {rest : List (Offer × Order)} {fs : List Fate}
    (h : pairFates s mo m hack ((o, n) :: rest) = .ok fs) :
    ∃ f fs', pairFate s o n m mo hack = .ok f ∧ pairFates s mo m hack rest = .ok fs' ∧
      fs = f :: fs' := by
  simp only [pairFates] at h
  cases hf : pairFate s o n m mo hack <;> cases hr : pairFates s mo m hack rest <;>
    simp_all [bind, Except.bind, pure, Except.pure]

theorem createFates_cons_ok {co : CreateOfferFn} {m : ℚ} {n : Order} {rest : List Order}
    {fs : List Fate} (h : createFates s co m (n :: rest) = .ok fs) :
    ∃ f fs', createFate s co m n = .ok f ∧ createFates s co m rest = .ok fs' ∧ fs = f :: fs' := by
  simp only [createFates] at h
  cases hf : createFate s co m n <;> cases hr : createFates s co m rest <;>
    simp_all [bind, Except.bind, pure, Except.pure]

section Levels
variable {mo : ModifyOfferFn} {co : CreateOfferFn} {m : ℚ} {hack : Bool}

/-- With no live offers a pass is the create loop over every target. -/
theorem passFates_nil_left (T : List Order) :
    passFates s [] T mo co m hack = createFates s co m T := by
  simp only [passFates, pairFates, List.zip_nil_left, List.length_nil, Nat.zero_le, if_true,
    List.drop_zero]
  cases createFates s co m T <;> rfl

/-- With no targets a pass deletes every live offer. -/
theorem passFates_nil_right (L : List Offer) :
    passFates s L [] mo co m hack = .ok (L.map .deleted) := by
  cases L <;> simp [passFates, pairFates, createFates, bind, Except.bind, pure, Except.pure]

/-- A pass is the fate of its first pair followed by the pass over the rest. -/
theorem passFates_cons_cons (o : Offer) (L : List Offer) (n : Order) (T : List Order) :
    passFates s (o :: L) (n :: T) mo co m hack = (do
      let f ← pairFate s o n m mo hack
      let fs ← passFates s L T mo co m hack
      pure (f :: fs)) := by
  unfold passFates
  rw [List.zip_cons_cons, pairFates]
  simp only [List.length_cons, Nat.add_le_add_iff_right, List.drop_succ_cons]
  cases pairFate s o n m mo hack <;> cases pairFates s mo m hack (L.zip T) <;>
    cases createFates s co m (T.drop L.length) <;> split_ifs <;> rfl

theorem passFates_cons_cons_ok {o : Offer} {L : List Offer} {n : Order} {T : List Order}
    {fs : List Fate} (h : passFates s (o :: L) (n :: T) mo co m hack = .ok fs) :
    ∃ f fs', pairFate s o n m mo hack = .ok f ∧ passFates s L T mo co m hack = .ok fs' ∧
      fs = f :: fs' := by
  rw [passFates_cons_cons] at h
  cases hf : pairFate s o n m mo hack <;> cases hr : passFates s L T mo co m hack <;>
    simp_all [bind, Except.bind, pure, Except.pure]

end Levels

/-! ### The pass is the effect of its fates -/

theorem doModifyOffer_eq (oldOffer : Offer) (newOrder : Order) (m : ℚ) (modifyOffer : ModifyOfferFn)
    (hack : Bool) :
    doModifyOffer s oldOffer newOrder m modifyOffer hack =
      match pairFate s oldOffer newOrder m modifyOffer hack with
      | .error e => ⟨.error e, []⟩
      | .ok f => ⟨.ok (f.manageOp, f.deleteOp), (f.liability s hack).toList⟩ := by
  unfold doModifyOffer pairFate
  dsimp only
  split_ifs
  · simp [Fate.manageOp, Fate.deleteOp, Fate.liability]
  · simp [Fate.manageOp, Fate.deleteOp, Fate.liability]
  · cases hm : modifyOffer oldOffer _ _ _ with
    | error e => simp only [Sdex.venue_eq, Sdex.mk_error_bind, Except.map]
    | ok mo =>
      cases mo <;> simp only [Sdex.venue_eq, Sdex.mk_ok_bind, Except.map, Bool.false_eq_true,
        if_true, if_false, Sdex.pure_eq, Sdex.addLiabilities_eq, Fate.manageOp, Fate.deleteOp,
        Fate.liability, List.nil_append, List.append_nil, Option.toList]

theorem filterMap_cons_toList {α β : Type} (g : α → Option β) (a : α) (l : List α) :
    (a :: l).filterMap g = (g a).toList ++ l.filterMap g := by
  cases h : g a <;> simp [h]

theorem modifyLevels_of_pairFates (mo : ModifyOfferFn) (m : ℚ) (hack : Bool) :
    ∀ {ps : List (Offer × Order)} {fs : List Fate} (ops dels : List TransactionMutator),
      pairFates s mo m hack ps = .ok fs →
      modifyLevels s mo m hack ps ops dels =
        ⟨.ok (ops ++ fs.filterMap Fate.manageOp, dels ++ fs.filterMap Fate.deleteOp),
          fs.filterMap (Fate.liability s hack)⟩
  | [], fs, ops, dels, h => by
    simp only [pairFates, Except.ok.injEq] at h
    subst h
    simp [modifyLevels]
  | (o, n) :: rest, fs, ops, dels, h => by
    obtain ⟨f, fs', hf, hr, rfl⟩ := pairFates_cons_ok s h
    simp only [modifyLevels, doModifyOffer_eq, hf, Sdex.mk_ok_bind,
      modifyLevels_of_pairFates mo m hack _ _ hr, filterMap_cons_toList, List.append_assoc]

theorem modifyLevels_error (mo : ModifyOfferFn) (m : ℚ) (hack : Bool) :
    ∀ {ps : List (Offer × Order)} {e : String} (ops dels : List TransactionMutator),
      pairFates s mo m hack ps = .error e → (modifyLevels s mo m hack ps ops dels).result = .error e
  | [], e, ops, dels, h => by simp [pairFates] at h
  | (o, n) :: rest, e, ops, dels, h => by
    simp only [pairFates] at h
    cases hf : pairFate s o n m mo hack with
    | error e' =>
      simp only [hf] at h
      simp only [modifyLevels, doModifyOffer_eq, hf, Sdex.mk_error_bind]
      simpa [bind, Except.bind] using h
    | ok f =>
      cases hr : pairFates s mo m hack rest with
      | error e' =>
        simp only [hf, hr] at h
        simp only [modifyLevels, doModifyOffer_eq, hf, Sdex.mk_ok_bind]
        rw [modifyLevels_error mo m hack _ _ hr]
        simpa [bind, Except.bind] using h
      | ok fs => simp [hf, hr, bind, Except.bind, pure, Except.pure] at h

/-- One step of the create loop is the fate of its target. -/
theorem createLevels_cons (co : CreateOfferFn) (m : ℚ) (hack : Bool) (n : Order)
    (rest : List Order) (ops : List TransactionMutator) :
    createLevels s co m hack (n :: rest) ops =
      match createFate s co m n with
      | .error e => ⟨.error e, []⟩
      | .ok f => ⟨(createLevels s co m hack rest (ops ++ f.manageOp.toList)).result,
          (f.liability s hack).toList ++ (createLevels s co m hack rest (ops ++ f.manageOp.toList)).added⟩ := by
  unfold createFate
  rw [createLevels]
  dsimp only
  by_cases hv : (n.volume.scale (1 / s.volumeDivideBy)).value < s.backingConstraints.minBaseVolume.value
  · simp only [hv, if_true, Fate.manageOp, Fate.liability, Option.toList, List.append_nil,
      List.nil_append]
  · simp only [hv, if_false]
    cases hc : co s.baseAsset s.quoteAsset _ _ _ with
    | error e => simp only [Sdex.venue_eq, Sdex.mk_error_bind, Except.map]
    | ok mo =>
      cases mo
      · simp only [Sdex.venue_eq, Sdex.mk_ok_bind, Except.map, Bool.false_eq_true, if_false,
          Fate.manageOp, Fate.liability, Option.toList, List.append_nil, List.nil_append]
      · cases hack <;> simp only [Sdex.venue_eq, Sdex.mk_ok_bind, Except.map, if_true,
          Sdex.addLiabilities_eq, Fate.manageOp, Fate.liability, Option.toList, List.nil_append,
          liability, Bool.false_eq_true, if_false, List.singleton_append]

theorem createLevels_of_createFates (co : CreateOfferFn) (m : ℚ) (hack : Bool) :
    ∀ {ts : List Order} {fs : List Fate} (ops : List TransactionMutator),
      createFates s co m ts = .ok fs →
      createLevels s co m hack ts ops =
        ⟨.ok (ops ++ fs.filterMap Fate.manageOp), fs.filterMap (Fate.liability s hack)⟩
  | [], fs, ops, h => by
    simp only [createFates, Except.ok.injEq] at h
    subst h
    simp [createLevels]
  | n :: rest, fs, ops, h => by
    obtain ⟨f, fs', hf, hr, rfl⟩ := createFates_cons_ok s h
    simp only [createLevels_cons, hf, createLevels_of_createFates co m hack _ hr,
      filterMap_cons_toList, List.append_assoc]

theorem createLevels_error (co : CreateOfferFn) (m : ℚ) (hack : Bool) :
    ∀ {ts : List Order} {e : String} (ops : List TransactionMutator),
      createFates s co m ts = .error e → (createLevels s co m hack ts ops).result = .error e
  | [], e, ops, h => by simp [createFates] at h
  | n :: rest, e, ops, h => by
    simp only [createFates] at h
    rw [createLevels_cons]
    cases hf : createFate s co m n with
    | error e' => simpa [hf, bind, Except.bind] using h
    | ok f =>
      cases hr : createFates s co m rest with
      | error e' =>
        simp only [hf, hr, bind, Except.bind, Except.error.injEq] at h
        rw [createLevels_error co m hack _ hr, h]
      | ok fs => simp [hf, hr, bind, Except.bind, pure, Except.pure] at h

theorem createFates_deleteOps {co : CreateOfferFn} {m : ℚ} :
    ∀ {ts : List Order} {fs : List Fate}, createFates s co m ts = .ok fs →
      fs.filterMap Fate.deleteOp = []
  | [], fs, h => by simp only [createFates, Except.ok.injEq] at h; simp [← h]
  | n :: rest, fs, h => by
    obtain ⟨f, fs', hf, hr, rfl⟩ := createFates_cons_ok s h
    rcases createFate_cases s hf with rfl | rfl <;> simp [Fate.deleteOp, createFates_deleteOps hr]

theorem filterMap_deleted (S : List Offer) (hack : Bool) :
    (S.map Fate.deleted).filterMap Fate.deleteOp = S.map .deleteOffer ∧
      (S.map Fate.deleted).filterMap Fate.manageOp = [] ∧
      (S.map Fate.deleted).filterMap (Fate.liability s hack) = [] := by
  refine ⟨?_, by simp [List.filterMap_map, Function.comp_def, Fate.manageOp],
    by simp [List.filterMap_map, Function.comp_def, Fate.liability]⟩
  rw [List.filterMap_map, ← List.filterMap_eq_map]
  rfl

/-- **`updateLevels` is the effect of its fates.** -/
theorem updateLevels_of_passFates {L : List Offer} {T : List Order} {mo : ModifyOfferFn}
    {co : CreateOfferFn} {m : ℚ} {hack : Bool} {fs : List Fate}
    (h : passFates s L T mo co m hack = .ok fs) :
    updateLevels s L T mo co m hack = ⟨.ok (opsOf fs), fs.filterMap (Fate.liability s hack)⟩ := by
  unfold passFates at h
  cases hp : pairFates s mo m hack (L.zip T) with
  | error e => simp [hp, bind, Except.bind] at h
  | ok paired =>
    have hm := modifyLevels_of_pairFates s mo m hack [] [] hp
    unfold updateLevels
    split_ifs at h ⊢ with hlen
    · cases hc : createFates s co m (T.drop L.length) with
      | error e => simp [hp, hc, bind, Except.bind] at h
      | ok created =>
        simp only [hp, hc, bind, Except.bind, pure, Except.pure, Except.ok.injEq] at h
        subst h
        simp [hm, createLevels_of_createFates s co m hack _ hc, opsOf, createFates_deleteOps s hc]
    · simp only [hp, bind, Except.bind, pure, Except.pure, Except.ok.injEq] at h
      subst h
      obtain ⟨hd, hmg, hl⟩ := filterMap_deleted s (L.drop T.length) hack
      simp only [hm, Sdex.mk_ok_bind, Sdex.pure_eq, opsOf, List.filterMap_append, hd, hmg, hl,
        List.nil_append, List.append_nil, List.append_assoc]

theorem updateLevels_result (L : List Offer) (T : List Order) (mo : ModifyOfferFn)
    (co : CreateOfferFn) (m : ℚ) (hack : Bool) :
    (updateLevels s L T mo co m hack).result = (passFates s L T mo co m hack).map opsOf := by
  cases h : passFates s L T mo co m hack with
  | ok fs => simp [updateLevels_of_passFates s h, Except.map]
  | error e =>
    simp only [Except.map]
    unfold passFates at h
    unfold updateLevels
    cases hp : pairFates s mo m hack (L.zip T) with
    | error e' =>
      simp only [hp, bind, Except.bind, Except.error.injEq] at h
      subst h
      split_ifs <;> simp [Sdex.bind_error (modifyLevels_error s mo m hack [] [] hp)]
    | ok paired =>
      have hm := modifyLevels_of_pairFates s mo m hack [] [] hp
      split_ifs at h ⊢
      · cases hc : createFates s co m (T.drop L.length) with
        | error e' =>
          simp only [hp, hc, bind, Except.bind, Except.error.injEq] at h
          subst h
          simp [hm, Sdex.bind_error (createLevels_error s co m hack _ hc)]
        | ok created => simp [hp, hc, bind, Except.bind, pure, Except.pure] at h
      · simp [hp, bind, Except.bind, pure, Except.pure] at h

/-! ### Sizes -/

theorem opsOf_length_le : ∀ fs : List Fate, (opsOf fs).length ≤ fs.length
  | [] => by simp [opsOf]
  | f :: fs => by
    have ih := opsOf_length_le fs
    have hf : f.deleteOp.toList.length + f.manageOp.toList.length ≤ 1 := by
      cases f <;> simp [Fate.deleteOp, Fate.manageOp]
    simp only [opsOf, filterMap_cons_toList, List.length_append] at ih ⊢
    simp only [List.length_cons]
    omega

theorem pairFates_length {mo : ModifyOfferFn} {m : ℚ} {hack : Bool} :
    ∀ {ps : List (Offer × Order)} {fs : List Fate}, pairFates s mo m hack ps = .ok fs →
      fs.length = ps.length
  | [], fs, h => by simp only [pairFates, Except.ok.injEq] at h; simp [← h]
  | (o, n) :: rest, fs, h => by
    obtain ⟨f, fs', _, hr, rfl⟩ := pairFates_cons_ok s h
    simp [pairFates_length hr]

theorem createFates_length {co : CreateOfferFn} {m : ℚ} :
    ∀ {ts : List Order} {fs : List Fate}, createFates s co m ts = .ok fs → fs.length = ts.length
  | [], fs, h => by simp only [createFates, Except.ok.injEq] at h; simp [← h]
  | n :: rest, fs, h => by
    obtain ⟨f, fs', -, hr, rfl⟩ := createFates_cons_ok s h
    simp [createFates_length hr]

/-- A pass decides one fate per level: as many as the longer of its two lists. -/
theorem passFates_length {L : List Offer} {T : List Order} {mo : ModifyOfferFn}
    {co : CreateOfferFn} {m : ℚ} {hack : Bool} {fs : List Fate}
    (h : passFates s L T mo co m hack = .ok fs) : fs.length = max L.length T.length := by
  unfold passFates at h
  cases hp : pairFates s mo m hack (L.zip T) with
  | error e => simp [hp, bind, Except.bind] at h
  | ok paired =>
    have hpl := pairFates_length s hp
    split_ifs at h with hlen
    · cases hc : createFates s co m (T.drop L.length) with
      | error e => simp [hp, hc, bind, Except.bind] at h
      | ok created =>
        simp only [hp, hc, bind, Except.bind, pure, Except.pure, Except.ok.injEq] at h
        subst h
        simp only [List.length_append, hpl, createFates_length s hc, List.length_zip,
          List.length_drop]
        omega
    · simp only [hp, bind, Except.bind, pure, Except.pure, Except.ok.injEq] at h
      subst h
      simp only [List.length_append, hpl, List.length_map, List.length_zip, List.length_drop]
      omega

/-- A successful pass returns at most one operation per level. -/
theorem updateLevels_length_le {L : List Offer} {T : List Order} {mo : ModifyOfferFn}
    {co : CreateOfferFn} {m : ℚ} {hack : Bool} {ops : List TransactionMutator}
    (h : (updateLevels s L T mo co m hack).result = .ok ops) :
    ops.length ≤ max L.length T.length := by
  rw [updateLevels_result] at h
  cases hp : passFates s L T mo co m hack with
  | error e => simp [hp, Except.map] at h
  | ok fs =>
    simp only [hp, Except.map, Except.ok.injEq] at h
    rw [← h, ← passFates_length s hp]
    exact opsOf_length_le fs

/-- Without targets, a pass deletes every live offer and commits nothing. -/
theorem updateLevels_no_targets (L : List Offer) (mo : ModifyOfferFn) (co : CreateOfferFn)
    (m : ℚ) (hack : Bool) : updateLevels s L [] mo co m hack = ⟨.ok (L.map .deleteOffer), []⟩ := by
  obtain ⟨hd, hm, hl⟩ := filterMap_deleted s L hack
  rw [updateLevels_of_passFates s (passFates_nil_right s L), opsOf, hd, hm, hl, List.append_nil]

end Kelp.Mirror
