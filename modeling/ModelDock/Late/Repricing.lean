import ModelDock.Store.Lifecycle
import ModelDock.Wallet.LedgerProjection

/-!
# Reporting a settled usage again

A settlement may waive the amount or charge a service fee; a late report always charges the retail price.
Reporting the settled usage once more moves nothing exactly when the two prices agree.
-/

namespace ModelDock.Store

open Relational Pricing ModelDock.Numeric FundingOperation

variable {shadow : Table ShadowSpend} (operation : FundingOperation) (s : Session) (tokens : Tokens)

/-- The shadow spend already counted for an operation's credential in the month of a settlement. -/
def FundingOperation.shadowSpent (credentialId : Uuid) (db : Db) : ℤ :=
  match db.shadowSpend.find?
      (Nat.pair operation.projectId (Nat.pair credentialId (providerBudgetMonth s.clock))) with
  | some spend => spend.shadowAmount.units
  | none => 0

/-- The token fee of a usage under the operation's fee terms. -/
def FundingOperation.fee : ℤ :=
  format (calculateRate (operation.fees.toRate operation.currency) tokens)

/-- The service fee a settlement charges for a usage on a customer's credential. -/
def FundingOperation.serviceFee (db : Db) : ℤ :=
  match operation.pricingVersionId, operation.providerCredentialId with
  | some _, some credentialId =>
    feeWithBasisPoints operation.fees (operation.fee tokens) (operation.shadowSpent s credentialId db)
      (format (operation.retail tokens db.catalog))
  | _, _ => operation.fee tokens

variable {s s' : Session} {req : FundingSettlementRequest} {late : LateUsageRequest}
  {op settled : FundingOperation} {charge : SettlementCharge} {consumed : ℤ} {db db' : Db} {tokens : Tokens}

theorem FundingOperation.tokenFee_eq_ok {fee : ℤ}
    (h : op.tokenFee tokens = .ok fee) : fee = op.fee tokens := by
  simp only [tokenFee, eq_ok, priced_eq_ok] at h
  obtain ⟨_, hrs, rfl⟩ := h
  obtain ⟨_, _, _, hp, ht, _, _, hrate, rfl⟩ := calculate_eq_ok hrs
  cases hp
  cases ht
  have hzero : decimalValue 12 0 = 0 := by simp [decimalValue]
  simp only [resultOf, fee, hzero, min_eq_left hrate, sub_zero, max_eq_left hrate, mul_zero, add_zero]

theorem shadowRow_spent {credentialId : Uuid} {row : ShadowSpend × Table ShadowSpend}
    (h : shadowRow op.projectId credentialId (providerBudgetMonth s.clock) op.currency
      db.shadowSpend = .ok row) :
    row.1.shadowAmount.units = op.shadowSpent s credentialId db := by
  unfold shadowRow at h
  split at h
  · next _ hsp =>
    cases h
    rw [shadowSpent, hsp]
  · next hnone =>
    simp only [eq_ok] at h
    obtain ⟨_, _, rfl⟩ := h
    rw [shadowSpent, hnone]
    rfl

theorem customerCharge_amount (h : customerCharge s op tokens db = .ok (charge, shadow)) :
    charge.amount = op.serviceFee s tokens db := by
  simp only [customerCharge, bind_eq_ok] at h
  obtain ⟨fee, hfee, h⟩ := h
  have hfee : fee = op.fee tokens := tokenFee_eq_ok hfee
  split at h
  · next versionId credentialId hvr hcr =>
    simp only [eq_ok] at h
    obtain ⟨⟨_, _⟩, ham, _, hrow, _, _, _, _, rfl, _⟩ := h
    obtain ⟨version, hf, hrt, rfl, _⟩ := fundingAmountsForVersion_eq_ok ham
    have hzero : rat 0 = 0 := by simp [rat, decimalValue]
    have hvl : op.retail tokens db.catalog =
        calculateRate version.retail.toRate tokens := by
      rw [retail, hvr, Option.bind_some, hf]
    rw [serviceFee, hvr, hcr]
    simp only [hfee, shadowRow_spent hrow, hvl, hzero, min_eq_left hrt, sub_zero, mul_zero, add_zero]
  · next hnone =>
    simp only [pure_eq_ok, Prod.mk.injEq] at h
    rw [← h.1, serviceFee]
    split
    · next versionId credentialId hvr hcr => exact absurd hcr (hnone _ _ hvr)
    · exact hfee

/-- The settlement charges what a late report of the same usage would: a waived usage has no price,
and on a customer's credential the service fee is the retail price. -/
def SamePrice (s : Session) (request : FundingSettlementRequest) (operation : FundingOperation) (db : Db) : Prop :=
  if request.waive then
    operation.Priced db.catalog ∧ operation.price request.tokens db.catalog = 0
  else operation.credentialOwner = .customer →
    operation.price request.tokens db.catalog = operation.serviceFee s request.tokens db

theorem FundingOperation.priced_of_amounts {catalog : Catalog} {amounts : ℤ × ℤ}
    (h : op.amounts tokens catalog = .ok amounts) : op.Priced catalog := by
  intro _ hvr
  unfold FundingOperation.amounts at h
  rw [hvr] at h
  obtain ⟨_, hf, _⟩ := fundingAmountsForVersion_eq_ok h
  rw [hf]
  rfl

theorem FundingOperation.Closed.amounts (h : op.Closed req charge consumed settled)
    (tokens : Tokens) (catalog : Catalog) : settled.amounts tokens catalog = op.amounts tokens catalog := by
  simp only [FundingOperation.amounts, h.pricingVersionId, h.promotionAmount, h.taxRate, h.exchangeRate]

theorem SamePrice.iff_amounts (htk : req.tokens.Valid)
    (hch : settlementCharge s req op db = .ok (charge, shadow)) :
    SamePrice s req op db ↔
      ∃ promotion, op.amounts req.tokens db.catalog = .ok (charge.amount, promotion) := by
  have hpr : ∀ {amounts}, op.amounts req.tokens db.catalog = .ok amounts →
      op.amounts req.tokens db.catalog = .ok (op.price req.tokens db.catalog,
        format (op.covers (op.retail req.tokens db.catalog))) :=
    fun h => amounts_of_valid htk (priced_of_amounts h)
  rcases settlementCharge_eq_ok hch with ⟨hwv, rfl⟩ | ⟨hwv, hown, ham⟩ |
    ⟨hwv, hown, ⟨amounts, ham⟩, hcs⟩
  · simp only [SamePrice, hwv]
    constructor
    · rintro ⟨hvr, hzero⟩
      exact ⟨_, hzero ▸ amounts_of_valid htk hvr⟩
    · rintro ⟨promotion, hzero⟩
      exact ⟨priced_of_amounts hzero, (amounts_eq_ok hzero).2.1.symm⟩
  · simp only [SamePrice, hwv, hown]
    exact ⟨fun _ => ⟨charge.promotion, ham⟩, fun _ h => nomatch h⟩
  · simp only [SamePrice, hwv, hown, customerCharge_amount hcs]
    constructor
    · intro hsame
      exact ⟨_, hsame trivial ▸ hpr ham⟩
    · rintro ⟨promotion, hfee⟩ _
      exact (amounts_eq_ok hfee).2.1.symm

/-- Reporting the usage that was just settled once more, under a key that is new, succeeds and
changes neither a wallet nor the settled amount exactly when the settlement charged the retail price
of the usage. -/
theorem adjustLateFundingUsage_of_settled_iff (hfound : db.operations.find? req.operationId = some op)
    (hopen : op.status.isOpen)
    (hsettle : settleFunding s req db = .ok (settled, db'))
    (hsame : late.operationId = req.operationId ∧ late.tokens = req.tokens)
    (hkey : late.idempotencyKey ≠ "" ∧ late.replayed db' = false)
    (hfresh : ∀ row ∈ db'.adjustments.rows, row.id ≠ s'.uuid .adjustment) :
    (∃ adjusted st, adjustLateFundingUsage s' late db' = .ok (adjusted, st) ∧
        st.wallets = db'.wallets ∧ adjusted.settledAmount = settled.settledAmount) ↔
      SamePrice s req op db := by
  obtain ⟨⟨htk, _⟩, hsd⟩ := (settleFunding_of_open hfound hopen).mp hsettle
  obtain ⟨_, _, _, hset⟩ := settleOpen_eq_ok hsd
  have hcl := hset.closed
  have hid : settled.id = late.operationId := by
    rw [hsame.1]
    exact (congrArg FundingOperationKey.id hcl.key).trans (Table.found hfound).2
  have hstor : db'.operations.find? late.operationId = some settled := by
    rw [hsame.1, hset.operations]
    exact Table.find?_replace_of_find? hfound hcl.key
  have ham : settled.amounts late.tokens db'.catalog = op.amounts req.tokens db.catalog := by
    rw [hcl.amounts, hset.catalog, hsame.2]
  rw [SamePrice.iff_amounts htk hset.charged, ← ham, ← hcl.settledAmount]
  constructor
  · rintro ⟨adjusted, st, hadj, _, hamt⟩
    obtain ⟨_, _, hop', _, hcase⟩ := adjustLateFundingUsage_cases hadj
    rw [hstor] at hop'
    cases hop'
    rcases hcase with ⟨hrp, _⟩ | ⟨_, corrected, hads⟩
    · rw [hkey.2] at hrp
      cases hrp
    · have hcr : corrected = settled.settledAmount := by
        rw [← hamt, show adjusted = _ from hads.written]
        rfl
      exact hcr ▸ hads.priced
  · rintro ⟨_, hpr⟩
    have hpos : postDifference s' late settled
        (settled.settledAmount.units - settled.settledAmount.units) db' = .ok db' := by
      rw [sub_self]
      rfl
    obtain ⟨st, hadj, hws⟩ := adjustNew_of_posted hpr hpos rfl hid hkey.2 hfresh
    refine ⟨settled.correct s' late settled.settledAmount, st, ?_, hws, rfl⟩
    simp only [adjustLateFundingUsage, eq_ok]
    refine ⟨(), ⟨hkey.1, hsame.2 ▸ htk⟩, settled, hstor, (), ?_, ?_⟩
    · rw [hcl.status, settlementStatus_closed]
    · rw [hid]
      rw [LateUsageRequest.replayed] at hkey
      rw [hkey.2]
      exact hadj

/-- A settlement of 30 units at the retail price that is reported again moves nothing. -/
theorem adjustLateFundingUsage_of_settled_demo :
    ∃ settled db', settleFunding (demoSession 3) (demoSettlement demoOperationId 30 false) demoReserved =
        .ok (settled, db') ∧ settled.settledAmount.units = 30 ∧
      ∃ adjusted st, adjustLateFundingUsage (demoSession 4) (demoLate demoOperationId "late" 30) db' =
        .ok (adjusted, st) ∧ st.wallets = db'.wallets ∧
          adjusted.settledAmount = settled.settledAmount := by
  obtain ⟨⟨settled, db'⟩, hset⟩ := exists_of_isOk (show (settleFunding (demoSession 3)
    (demoSettlement demoOperationId 30 false) demoReserved).isOk by decide +kernel)
  obtain ⟨op, hf, hop⟩ := (Option.any_eq_true _ _).mp
    (show (demoReserved.operations.find? demoOperationId).any (fun op =>
      op.status.isOpen && decide (op.credentialOwner = .platform)) by decide +kernel)
  simp only [cond_iff] at hop
  have ham : (settleFunding (demoSession 3) (demoSettlement demoOperationId 30 false)
      demoReserved).toOption.map (fun result => result.1.settledAmount.units) = some 30 := by
    decide +kernel
  have hrun : run exec demoReserved (demoUsage.drop 2) = db' := by
    change commit demoReserved ((settleFunding (demoSession 3) (demoSettlement demoOperationId 30 false)
      demoReserved).map Prod.snd) = db'
    rw [hset]
    rfl
  refine ⟨settled, db', hset, ?_, ?_⟩
  · rw [hset] at ham
    exact Option.some.inj ham
  · refine (adjustLateFundingUsage_of_settled_iff hf hop.1 hset ⟨rfl, rfl⟩ ?_ ?_).mpr ?_
    · rw [← hrun]
      decide +kernel
    · rw [← hrun]
      decide +kernel
    · simp [SamePrice, demoSettlement, hop.2]

/-- The settlement of 30 units is waived, and the same usage is reported late. -/
def demoWaived : List (Session × Call) :=
  demoUsage.take 2 ++
    [(demoSession 3, .settleFunding (demoSettlement demoOperationId 30 true)),
      (demoSession 4, .adjustLateFundingUsage (demoLate demoOperationId "late" 30))]

/-- A waived usage is charged when it is reported again: the wallet has 100 units after the
settlement and 70 after the report, and the settled amount rises from nothing to 30. -/
theorem adjustLateFundingUsage_of_waived : (run exec demoDb (demoWaived.take 3)).wallets.rows.map (fun wallet =>
        (wallet.availableBalance.units, wallet.reservedBalance.units)) = [(100, 0)] ∧
      (run exec demoDb (demoWaived.take 3)).operations.rows.map (fun op =>
        (op.status, op.settledAmount.units)) = [(.released, 0)] ∧
      (run exec demoDb demoWaived).wallets.rows.map (fun wallet =>
        (wallet.availableBalance.units, wallet.reservedBalance.units)) = [(70, 0)] ∧
      (run exec demoDb demoWaived).operations.rows.map (fun op =>
        (op.status, op.settledAmount.units)) = [(.settled, 30)] := by
  decide +kernel

end ModelDock.Store
