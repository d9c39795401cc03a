import ModelDock.Late.Repricing
import ModelDock.Promotion.Conservation

/-!
# Who pays a discount

A late report prices the corrected usage with the whole reserved promotion again and moves no promotion row.
Promotion credits pay the discount exactly as long as every priced usage has the discount that was consumed.
-/

namespace ModelDock.Store

open Relational Pricing ModelDock.Numeric Table

variable (operationId : Uuid) (db : Db)

/-- The promotion consumed in the holds of a request. -/
def promotionConsumed (holds : Table PromotionAllocation) : ℤ :=
  holds.sum fun hold => if hold.operationId = operationId then hold.consumedAmount.units else 0

/-- The discount of an operation on the undiscounted price of its last usage is the promotion it
consumed, which is the consumed part of its promotion holds. -/
def DiscountPaid : Prop :=
  ∃ operation, db.operations.find? operationId = some operation ∧
    operation.undiscounted operation.lastUsage db.catalog - operation.settledAmount.units =
      operation.consumedPromotionAmount.units ∧
    operation.consumedPromotionAmount.units = promotionConsumed operationId db.promotions.allocations

/-- What a promotion takes off a retail amount, tax included. -/
def discountOn (retail promotion tax : ℚ) : ℤ :=
  format (retail + retail * tax) - format (retail - min promotion retail + (retail - min promotion retail) * tax)

/-- What the reserved promotion takes off the retail amount of a settled usage, with its tax, is the promotion that is
used; what is waived costs nothing with its tax. -/
def SettlesDiscount (request : FundingSettlementRequest) (operation : FundingOperation) (catalog : Catalog) : Prop :=
  let retail := operation.retail request.tokens catalog
  let promotion := rat operation.promotionAmount.units
  let tax := rat operation.taxRate.units
  if request.waive then format (retail + retail * tax) = 0
  else discountOn retail promotion tax = format (min promotion retail)

/-- What the reserved promotion takes off the retail amount of a late report that is new, with its tax, is the
promotion the operation's settlement consumed. -/
def KeepsDiscount (late : Session × LateUsageRequest) : Prop :=
  late.2.replayed db = false → ∀ operation ∈ db.operations.find? late.2.operationId,
    discountOn (operation.retail late.2.tokens db.catalog) (rat operation.promotionAmount.units)
      (rat operation.taxRate.units) = operation.consumedPromotionAmount.units

/-- A late report as a transaction of its own. -/
def reportLate (late : Session × LateUsageRequest) (db : Db) : Except StoreError Db :=
  (adjustLateFundingUsage late.1 late.2 db).map Prod.snd

variable {s : Session} {req : FundingSettlementRequest} {late : Session × LateUsageRequest}
  {op settled : FundingOperation} {opId : Uuid} {db st st' : Db}

theorem discountPaid_of_settle (h : PromotionsLinked db) (hf : db.operations.find? req.operationId = some op)
    (hopen : op.status.isOpen) (hpl : op.credentialOwner = .platform)
    (hse : settleFunding s req db = .ok (settled, st)) :
    DiscountPaid req.operationId st ↔ SettlesDiscount req op db.catalog := by
  obtain ⟨_, hsd⟩ := (settleFunding_of_open hf hopen).mp hse
  obtain ⟨_, charge, _, hset⟩ := settleOpen_eq_ok hsd
  obtain ⟨hmem, hid⟩ := found hf
  have hid : op.id = req.operationId := hid
  have hcl := hset.closed
  obtain ⟨_, hspec, _, _, hused, hrv⟩ := h.settle_spec hmem hopen hset.charged
  obtain ⟨hcn, hpr⟩ := Prod.mk.inj (Except.ok.inj (hset.promotions.symm.trans hspec))
  have hprn := hcl.consumedPromotionAmount.trans hcn
  have hhs : charge.promotion = promotionConsumed req.operationId st.promotions.allocations := by
    rw [hpr, ← hused, ← hid]
    -- Nothing of these holds was reversed yet.
    refine sum_congr fun hold hhold => ?_
    split
    · next hown => rw [PromotionAllocation.unreversed, (hrv hold hhold hown).2, sub_zero]
    · rfl
  have hstor : st.operations.find? req.operationId = some settled := by
    rw [hset.operations]
    exact find?_replace_of_find? hf hcl.key
  have htm : settled.undiscounted settled.lastUsage st.catalog =
      op.undiscounted req.tokens db.catalog := by
    simp only [FundingOperation.undiscounted, FundingOperation.taxed, FundingOperation.retail,
      hcl.lastUsage, hset.catalog, hcl.taxRate, hcl.pricingVersionId]
  have hpaid : DiscountPaid req.operationId st ↔
      op.undiscounted req.tokens db.catalog - charge.amount = charge.promotion := by
    simp only [DiscountPaid, hstor, Option.some.injEq, exists_eq_left', htm, hcl.settledAmount, hprn]
    exact and_iff_left hhs
  rw [hpaid]
  rcases settlementCharge_eq_ok hset.charged with ⟨hwv, rfl⟩ | ⟨hwv, _, ham⟩ |
    ⟨_, hcs, _⟩
  · simp only [SettlesDiscount, hwv, if_true, sub_zero]
    rfl
  · obtain ⟨_, hamt, hused⟩ := FundingOperation.amounts_eq_ok ham
    simp only [SettlesDiscount, hwv, hamt, hused]
    rfl
  · rw [hpl] at hcs
    cases hcs

theorem discountPaid_of_late (hpaid : DiscountPaid late.2.operationId db) (hlate : reportLate late db = .ok st) :
    DiscountPaid late.2.operationId st ↔ KeepsDiscount db late := by
  obtain ⟨⟨adjusted, _⟩, hadt, hst⟩ := map_eq_ok.mp hlate
  obtain rfl : _ = st := hst
  obtain ⟨_, op, hf, _, hcase⟩ := adjustLateFundingUsage_cases hadt
  rcases hcase with ⟨hrp, hsame⟩ | ⟨hnew, corrected, hadj⟩
  · cases hsame
    refine iff_of_true hpaid fun hnew => ?_
    rw [hrp] at hnew
    cases hnew
  · obtain ⟨_, hf', _, hcn⟩ := hpaid
    cases hf.symm.trans hf'
    obtain ⟨_, hpr⟩ := hadj.priced
    obtain ⟨_, ham, _⟩ := FundingOperation.amounts_eq_ok hpr
    obtain rfl : adjusted = op.correct late.1 late.2 corrected := hadj.written
    have hstor : (db.operations.replace (op.correct late.1 late.2 corrected)).find?
        late.2.operationId = some (op.correct late.1 late.2 corrected) :=
      find?_replace_of_find? hf rfl
    rw [← show _ = db.operations.replace _ from hadj.operations] at hstor
    simp only [DiscountPaid, KeepsDiscount, hstor, hf, hnew, Option.some.injEq, exists_eq_left',
      Option.mem_def, forall_eq', forall_const]
    rw [hadj.promotions, hadj.catalog, show discountOn _ _ _ = op.undiscounted late.2.tokens db.catalog -
      op.price late.2.tokens db.catalog from rfl, ← ham]
    exact and_iff_left hcn

theorem DiscountPaid.reportLate (h : DiscountPaid opId db) (hid : late.2.operationId = opId)
    (hk : KeepsDiscount db late) (hlate : reportLate late db = .ok st) :
    DiscountPaid opId st := by
  subst hid
  exact (discountPaid_of_late h hlate).mpr hk

/-- In every reachable state, a settlement of an operation on a platform credential gives a discount
that is paid by promotion credits exactly when the discount of its usage is the promotion its price
uses. Any number of late reports that all have the discount the settlement consumed keep it so, and the
next one that succeeds keeps it exactly when it has this discount too. -/
theorem discount_paid_by_credits (h : Genesis db) (calls : List (Session × Call))
    (hfound : (run exec db calls).operations.find? req.operationId = some op)
    (hopen : op.status.isOpen) (hplatform : op.credentialOwner = .platform)
    (hsettle : settleFunding s req (run exec db calls) = .ok (settled, st)) :
    (DiscountPaid req.operationId st ↔
        SettlesDiscount req op (run exec db calls).catalog) ∧
      (SettlesDiscount req op (run exec db calls).catalog →
        ∀ lates : List (Session × LateUsageRequest),
          (∀ late ∈ lates, late.2.operationId = req.operationId) →
          Along reportLate KeepsDiscount st lates →
          DiscountPaid req.operationId (run reportLate st lates) ∧
            ∀ late st', late.2.operationId = req.operationId →
              reportLate late (run reportLate st lates) = .ok st' →
              (DiscountPaid req.operationId st' ↔ KeepsDiscount (run reportLate st lates) late)) := by
  have hset := discountPaid_of_settle (h.promotionsLinked_run calls) hfound hopen hplatform hsettle
  refine ⟨hset, fun hds lates hids hlat => ?_⟩
  have hpaid : DiscountPaid req.operationId (run reportLate st lates) := by
    refine run_invariant (fun db late db' hinv hok hlate => ?_) (hset.mpr hds)
      (hlat.and_mem hids)
    exact hinv.reportLate hok.2 hok.1 hlate
  refine ⟨hpaid, fun late st' hid hlate => ?_⟩
  rw [← hid] at hpaid ⊢
  exact discountPaid_of_late hpaid hlate

/-- The settlement of 4 units uses 4 of a promotion of 10, and a late report has 30 units. -/
def demoDiscountTwice : List (Session × Call) :=
  [(demoSession 1, .creditPaidRecharge 1),
    (demoSession 2, .reserveFunding (demoReservation "a" 40 10)),
    (demoSession 3, .settleFunding (demoSettlement demoOperationId 4 false)),
    (demoSession 4, .adjustLateFundingUsage (demoLate demoOperationId "late" 30))]

/-- After a recharge of 100 units, 40 are reserved with a promotion of 10. -/
def demoDiscounted : Db := run exec demoDb (demoDiscountTwice.take 2)

/-- The promotion of 10 units is consumed by a settlement of 30 units, and a late report of 40 units has
the same discount. -/
theorem discount_paid_by_credits_demo :
    (settleFunding (demoSession 3) (demoSettlement demoOperationId 30 false) demoDiscounted).isOk ∧
      ∀ settled st, settleFunding (demoSession 3) (demoSettlement demoOperationId 30 false)
          demoDiscounted = .ok (settled, st) →
        DiscountPaid demoOperationId
          (run reportLate st [(demoSession 4, demoLate demoOperationId "late" 40)]) := by
  refine ⟨by decide +kernel, fun settled st hset => ?_⟩
  obtain ⟨op, hf, hop⟩ := (Option.any_eq_true _ _).mp
    (show (demoDiscounted.operations.find? demoOperationId).any (fun op =>
      op.status.isOpen && decide (op.credentialOwner = .platform) &&
      decide (op.undiscounted ⟨30, 0, 0⟩ demoDiscounted.catalog -
        op.price ⟨30, 0, 0⟩ demoDiscounted.catalog =
          format (op.covers (op.retail ⟨30, 0, 0⟩ demoDiscounted.catalog)))) by decide +kernel)
  simp only [cond_iff] at hop
  obtain ⟨⟨hopen, hpl⟩, hds⟩ := hop
  have hrun : run exec demoDiscounted
      [(demoSession 3, .settleFunding (demoSettlement demoOperationId 30 false))] = st := by
    change commit demoDiscounted ((settleFunding (demoSession 3) (demoSettlement demoOperationId 30 false)
      demoDiscounted).map Prod.snd) = st
    rw [hset]
    rfl
  have hstor : (run exec demoDb (demoDiscountTwice.take 2)).operations.find?
      (demoSettlement demoOperationId 30 false).operationId = some op := hf
  have hlat := (discount_paid_by_credits demoDb_genesis (demoDiscountTwice.take 2) hstor hopen
    hpl hset).2 hds
  refine (hlat [(demoSession 4, demoLate demoOperationId "late" 40)] ?_ ⟨?_, trivial⟩).1
  · simp [demoLate, demoSettlement]
  · rw [← hrun]
    unfold KeepsDiscount
    decide +kernel

/-- The late report gives a discount of 10 units of which promotion credits have paid 4; the other 6 are
back on the credit. -/
theorem discount_above_consumed_promotion :
    (run exec demoDb demoDiscountTwice).operations.rows.map (fun op =>
        (op.undiscounted op.lastUsage (run exec demoDb demoDiscountTwice).catalog,
          op.settledAmount.units, op.consumedPromotionAmount.units,
          promotionConsumed op.id (run exec demoDb demoDiscountTwice).promotions.allocations)) =
        [(30, 20, 4, 4)] ∧
      (run exec demoDb demoDiscountTwice).promotions.credits.rows.map (fun credit =>
        credit.amountRemaining.units) = [96] ∧
      ¬DiscountPaid demoOperationId (run exec demoDb demoDiscountTwice) := by
  refine ⟨by decide +kernel, by decide +kernel, ?_⟩
  rintro ⟨op, hf, hds, _⟩
  have hun : ((run exec demoDb demoDiscountTwice).operations.find? demoOperationId).all (fun op =>
      decide (op.undiscounted op.lastUsage (run exec demoDb demoDiscountTwice).catalog -
        op.settledAmount.units ≠ op.consumedPromotionAmount.units)) := by
    decide +kernel
  rw [hf, Option.all_some, decide_eq_true_eq] at hun
  exact hun hds

end ModelDock.Store
