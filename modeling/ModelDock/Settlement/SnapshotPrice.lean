import ModelDock.Promotion.Redemption

/-!
# The price of a settlement and of its snapshot

Logging prices a settled request again, from the rounded promotion and tax rate, so the two amounts agree only
while no rounding boundary lies between them. The snapshot of a waived settlement has the full price.
-/

namespace ModelDock.Store

open Relational Pricing ModelDock.Numeric Table FundingOperation

variable {s s' : Session} {log : RequestLog} {req : FundingSettlementRequest}
  {op settled : FundingOperation} {operation? : Option FundingOperation} {version : PriceVersion}
  {result : Result} {promotion tax : ℤ} {st st' : LoggedDb} {db' : Db}

theorem usagePrice_of_platform (h : op.credentialOwner = .platform) :
    (usagePrice version result (some op)).finalAmount = result.finalAmount := by
  rw [usagePrice, h]
  rfl

theorem settlePricingUsage_snapshot (hst : log.statusCode < 400) (hvr : log.pricingVersionId.isSome)
    (hln : log.fundingOperationId = some op.id) (hop : st.db.operations.find? op.id = some op)
    (h : settlePricingUsage s log st = .ok st') :
    ∃ version result, log.pricingVersionId.bind st.db.catalog.priceVersions.find? = some version ∧
      log.calculate version op.consumedPromotionAmount.units = .ok result ∧
      ∃ snapshot ∈ st'.snapshots.rows, snapshot.requestId = log.requestId ∧
        snapshot.finalUserAmount.units = (usagePrice version result (some op)).finalAmount := by
  rcases settlePricingUsage_cases h with ⟨hfl | hnone, _⟩ | ⟨_, versionId, version, hsome, hf, hpr⟩
  · exact absurd hst (not_lt.mpr hfl)
  · rw [hnone] at hvr
    cases hvr
  · obtain ⟨operation?, _, result, hprs⟩ := settlePriced_eq_ok hpr
    have hsame : operation? = some op := by
      rcases RequestLog.operation?_eq_ok.mp hprs.linked with ⟨hnone, _⟩ | ⟨_, _, hid, hstor, rfl⟩
      · rw [hln] at hnone
        cases hnone
      · rw [hln, Option.some.injEq] at hid
        rw [← hid, hop] at hstor
        exact hstor.symm
    subst hsame
    obtain ⟨hprom, _⟩ := Prod.mk.inj (Except.ok.inj hprs.redeemed)
    obtain ⟨_, hrow, hins⟩ := hprs.snapshot
    simp only [snapshotRow, eq_ok, money_eq_ok] at hrow
    obtain ⟨_, _, _, _, _, _, _, _, _, _, _, _, _, _, _, _, _, hfn, _, _, _, rfl⟩ := hrow
    refine ⟨version, result, ?_, hprom ▸ hprs.calculated, _, (mem_insert hins).mpr (.inl rfl), rfl,
      hfn⟩
    rw [hsome, Option.bind_some, hf]

/-- The log of a successful request whose operation was settled: it names the operation, the settled
tokens and the frozen price version, and a tax rate that the reservation froze. -/
structure RequestLog.Reports (log : RequestLog) (request : FundingSettlementRequest)
    (operation : FundingOperation) (tax : ℤ) : Prop where
  successful : log.statusCode < 400
  tokens : log.tokens = request.tokens
  priced : log.pricingVersionId = operation.pricingVersionId
  linked : log.fundingOperationId = some operation.id
  taxed : log.taxRate.orElse 0 = .units tax
  frozen : taxRateColumn (rat tax) = .ok operation.taxRate

/-- The snapshot of a settled usage has the settled amount. A waived usage costs less than half a unit.
A usage that the promotion covers leaves less than half a unit after the promotion is rounded. Else no
rounding boundary lies between the rest under the frozen tax rate and under the reported one. -/
def SnapshotAgrees (request : FundingSettlementRequest) (operation : FundingOperation) (tax : ℤ)
    (catalog : Catalog) : Prop :=
  let retail := operation.retail request.tokens catalog
  let rest := retail - rat operation.promotionAmount.units
  if request.waive then retail + retail * rat tax < halfUnit 12
  else if rest ≤ 0 then
    retail - rat (format retail) + (retail - rat (format retail)) * rat tax < halfUnit 12
  else ∀ n : ℤ, rat n + halfUnit 12 ≤ rest + rest * rat operation.taxRate.units ↔
    rat n + halfUnit 12 ≤ rest + rest * rat tax

theorem format_rest_eq_zero_iff {retail : ℚ} {promotion tax : ℤ} (htax : 0 ≤ rat tax) :
    format (retail - min (rat promotion) retail + (retail - min (rat promotion) retail) * rat tax) = 0 ↔
      retail - rat promotion + (retail - rat promotion) * rat tax < halfUnit 12 := by
  rcases le_total (rat promotion) retail with hle | hle
  · have hrest : 0 ≤ retail - rat promotion := sub_nonneg.mpr hle
    rw [min_eq_left hle]
    exact quantize_eq_zero_iff (add_nonneg hrest (mul_nonneg hrest htax))
  · -- A promotion rounded up leaves nothing at all.
    have hhalf : (0 : ℚ) < halfUnit 12 := by norm_num [halfUnit]
    have hrest : retail - rat promotion ≤ 0 := sub_nonpos.mpr hle
    have hpr : (retail - rat promotion) * rat tax ≤ 0 := mul_nonpos_of_nonpos_of_nonneg hrest htax
    rw [min_eq_right hle, sub_self, zero_mul, add_zero, format_zero]
    exact iff_of_true rfl (by linarith)

theorem format_eq_charge_iff {charge : SettlementCharge} {shadow : Table ShadowSpend} {db : Db}
    (hown : op.credentialOwner = .platform)
    (hch : settlementCharge s req op db = .ok (charge, shadow)) (htax : 0 ≤ rat tax) :
    format (op.retail req.tokens db.catalog -
          min (rat charge.promotion) (op.retail req.tokens db.catalog) +
        (op.retail req.tokens db.catalog -
          min (rat charge.promotion) (op.retail req.tokens db.catalog)) * rat tax) =
        charge.amount ↔ SnapshotAgrees req op tax db.catalog := by
  rcases settlementCharge_eq_ok hch with ⟨hwv, rfl⟩ | ⟨hwv, _, ham⟩ | ⟨_, hcs, _⟩
  · have hzero : rat 0 = 0 := by simp [rat, decimalValue]
    rw [format_rest_eq_zero_iff htax]
    simp only [SnapshotAgrees, hwv, if_true, hzero, sub_zero]
  · obtain ⟨_, hamt, hpr⟩ := amounts_eq_ok ham
    simp only [SnapshotAgrees, hwv, Bool.false_eq_true, if_false]
    by_cases hcd : op.retail req.tokens db.catalog - rat op.promotionAmount.units ≤ 0
    · have hcv : op.covers (op.retail req.tokens db.catalog) =
          op.retail req.tokens db.catalog := min_eq_right (sub_nonpos.mp hcd)
      have hnot : charge.amount = 0 := by
        rw [hamt, price, hcv, sub_self]
        simp [taxed]
      rw [if_pos hcd, hnot, hpr, hcv, format_rest_eq_zero_iff htax]
    · have hbl : rat op.promotionAmount.units < op.retail req.tokens db.catalog :=
        sub_pos.mp (not_le.mp hcd)
      have hcv : op.covers (op.retail req.tokens db.catalog) =
          rat op.promotionAmount.units := min_eq_left hbl.le
      have hwr : charge.promotion = op.promotionAmount.units := by
        rw [hpr, hcv]
        exact formatRat_rat _
      have hrest : 0 ≤ op.retail req.tokens db.catalog - rat op.promotionAmount.units :=
        (sub_pos.mpr hbl).le
      have htd {units : ℤ} (hu : 0 ≤ rat units) :
          0 ≤ op.retail req.tokens db.catalog - rat op.promotionAmount.units +
            (op.retail req.tokens db.catalog - rat op.promotionAmount.units) * rat units :=
        add_nonneg hrest (mul_nonneg hrest hu)
      rw [if_neg hcd, hamt, price, taxed, hcv, hwr, min_eq_left hbl.le, eq_comm]
      exact quantize_eq_quantize_iff (htd (decimalValue_nonneg op.taxRate.nonneg)) (htd htax)
  · rw [hown] at hcs
    cases hcs

/-- For every price version, promotion reservation, tax rate, exchange rate and usage of a successful
request on a platform credential, the price snapshot has the settled amount exactly when no rounding
boundary lies between the two prices, and a waived usage has no price. -/
theorem snapshot_final_eq_settledAmount_iff {genesis : LoggedDb} (h : LoggedGenesis genesis)
    (calls : List (Session × LoggedCall))
    (hfound : (run execLogged genesis calls).db.operations.find? req.operationId = some op)
    (hopen : op.status.isOpen) (howner : op.credentialOwner = .platform)
    (hversion : op.pricingVersionId.isSome)
    (hsettle : settleFunding s req (run execLogged genesis calls).db = .ok (settled, db'))
    (hstored : st.db.operations.find? req.operationId = some settled)
    (hcatalog : st.db.catalog = db'.catalog) (hreports : log.Reports req op tax)
    (hbilled : settlePricingUsage s' log st = .ok st') :
    ∃ snapshot ∈ st'.snapshots.rows, snapshot.requestId = log.requestId ∧
      (snapshot.finalUserAmount = settled.settledAmount ↔
        SnapshotAgrees req op tax (run execLogged genesis calls).db.catalog) := by
  obtain ⟨hmem, hid⟩ := found hfound
  obtain ⟨_, hsettle⟩ := (settleFunding_of_open hfound hopen).mp hsettle
  obtain ⟨_, _, _, hset⟩ := settleOpen_eq_ok hsettle
  obtain ⟨hcn, _⟩ := (h.usageBooks_run calls).linked.settle hmem hopen hset
  have hcl := hset.closed
  have hsame : settled.id = req.operationId := (congrArg FundingOperationKey.id hcl.key).trans hid
  have hln : log.fundingOperationId = some settled.id := by
    rw [hsame, ← hid]
    exact hreports.linked
  obtain ⟨version, _, hpr, hca, snapshot, hsn, hrq, hfn⟩ :=
    settlePricingUsage_snapshot hreports.successful (hreports.priced ▸ hversion) hln (hsame ▸ hstored)
      hbilled
  obtain ⟨htax, _⟩ := RequestLog.calculate_eq_ok hca
  have hvl : (log.taxRate.orElse 0).value = rat tax := by
    rw [hreports.taxed]
    rfl
  have hpric : op.retail req.tokens (run execLogged genesis calls).db.catalog =
      calculateRate version.retail.toRate log.tokens := by
    rw [hcatalog, hset.catalog, hreports.priced] at hpr
    rw [retail, hpr, hreports.tokens]
  refine ⟨snapshot, hsn, hrq, ?_⟩
  rw [Money.ext_iff, hfn, usagePrice_of_platform (hcl.credentialOwner.trans howner),
    RequestLog.calculate_finalAmount hca, hcl.settledAmount, hcl.consumedPromotionAmount,
    hcn, RequestLog.price, ← hpric, hvl]
  exact format_eq_charge_iff howner hset.charged (hvl ▸ htax)

theorem SnapshotAgrees.of_untaxed {catalog : Catalog} (hwv : req.waive = false)
    (htax : op.taxRate.units = 0) (hrt : 0 ≤ op.retail req.tokens catalog) :
    SnapshotAgrees req op 0 catalog := by
  have hzero : rat 0 = 0 := by simp [rat, decimalValue]
  simp only [SnapshotAgrees, hwv, Bool.false_eq_true, if_false, htax, hzero, mul_zero, add_zero]
  split
  · have hrn := not_le.mp ((lt_quantize_iff hrt).not.mp
      (lt_irrefl (quantize 12 (op.retail req.tokens catalog))))
    exact sub_left_lt_of_lt_add hrn
  · exact fun _ => trivial

/-- After a recharge of 100 units, 40 are reserved with a promotion of 20. -/
def demoPromoted : LoggedDb := run execLogged demoLogged (demoPromotionUsage.take 2)

/-- A usage of 30 units costs 10 after a promotion of 20, in the settlement and in the snapshot. -/
theorem snapshot_final_eq_settledAmount_demo :
    ((settleFunding (demoSession 3) (demoSettlement demoOperationId 30 false) demoPromoted.db).bind
        fun settled => settlePricingUsage (demoSession 4) (demoLog "a" 30 (some demoOperationId))
          { demoPromoted with db := settled.2 }).toOption.map (fun st => st.snapshots.rows.map fun snapshot =>
            (snapshot.requestId, snapshot.finalUserAmount.units)) = some [("a", 10)] ∧
      ∀ settled db' st',
        settleFunding (demoSession 3) (demoSettlement demoOperationId 30 false) demoPromoted.db =
          .ok (settled, db') →
        settlePricingUsage (demoSession 4) (demoLog "a" 30 (some demoOperationId))
          { demoPromoted with db := db' } = .ok st' →
        ∃ snapshot ∈ st'.snapshots.rows, snapshot.requestId = "a" ∧
          snapshot.finalUserAmount = settled.settledAmount := by
  refine ⟨by decide +kernel, fun settled db' st' hse hbl => ?_⟩
  obtain ⟨op, hf, hop⟩ := (Option.any_eq_true _ _).mp
    (show (demoPromoted.db.operations.find? demoOperationId).any (fun op =>
      op.status.isOpen && decide (op.credentialOwner = .platform) &&
      decide (op.pricingVersionId = some 1) && decide (op.taxRate = .zero) &&
      decide (0 ≤ op.retail ⟨30, 0, 0⟩ demoPromoted.db.catalog)) by decide +kernel)
  simp only [cond_iff] at hop
  obtain ⟨⟨⟨⟨hopen, hpl⟩, hvr⟩, htax⟩, hrt⟩ := hop
  have hid : op.id = demoOperationId := (found hf).2
  have hstor : db'.operations.find? demoOperationId = some settled := by
    obtain ⟨_, hopn⟩ := (settleFunding_of_open hf hopen).mp hse
    obtain ⟨_, _, _, hset⟩ := settleOpen_eq_ok hopn
    rw [hset.operations]
    exact find?_replace_of_find? hf hset.closed.key
  have hrp : (demoLog "a" 30 (some demoOperationId)).Reports (demoSettlement demoOperationId 30 false)
      op 0 := by
    refine ⟨by decide, rfl, hvr.symm, ?_, rfl, ?_⟩
    · rw [hid]
      rfl
    · rw [htax]
      decide +kernel
  have hf : (run execLogged demoLogged (demoPromotionUsage.take 2)).db.operations.find?
      (demoSettlement demoOperationId 30 false).operationId = some op := hf
  obtain ⟨snapshot, hsn, hrq, hag⟩ := snapshot_final_eq_settledAmount_iff demoLogged_genesis
    (demoPromotionUsage.take 2) hf hopen hpl (by rw [hvr]; rfl) hse hstor rfl hrp
    hbl
  refine ⟨snapshot, hsn, hrq, hag.mpr (SnapshotAgrees.of_untaxed rfl ?_ hrt)⟩
  rw [htax]
  rfl

/-- The small store with a price of one unit for ten tokens. -/
def demoFractions : LoggedDb where
  db := { demoDb with catalog :=
    ⟨tableOf [⟨1, demoRate 0, { demoRate 1 with unit := 10, unit_pos := by decide }⟩] (by decide),
      .empty, .empty, .empty⟩ }
  requestLogs := .empty
  snapshots := .empty
  redemptions := .empty

/-- A reservation with a promotion of one unit and a tax rate of a quarter, settled with four tokens
and logged. -/
def demoRoundedPromotion : List (Session × LoggedCall) :=
  [(demoSession 1, .store (.creditPaidRecharge 1)),
    (demoSession 2, .store (.reserveFunding { demoReservation "a" 40 1 with taxRate := some (1 / 4) })),
    (demoSession 3, .store (.settleFunding (demoSettlement demoOperationId 4 false))),
    (demoSession 4, .insertScopedRequestLog
      { demoLog "a" 4 (some demoOperationId) with taxRate := .units 250000000000 })]

/-- Four tokens cost 0.4 units, all covered by the promotion, so nothing is settled. The consumed
promotion is written as nothing, so the snapshot has the taxed 0.5 units, written as one. -/
theorem snapshot_above_settledAmount :
    (run execLogged demoFractions demoRoundedPromotion).db.operations.rows.map (fun op =>
        (op.requestId, op.status, op.settledAmount.units,
          op.consumedPromotionAmount.units)) = [("a", .released, 0, 0)] ∧
      (run execLogged demoFractions demoRoundedPromotion).snapshots.rows.map (fun snapshot =>
        (snapshot.requestId, snapshot.finalUserAmount.units)) = [("a", 1)] := by
  decide +kernel

end ModelDock.Store
