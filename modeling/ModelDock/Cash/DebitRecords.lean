import ModelDock.Cash.Allocations
import ModelDock.Cash.Conservation
import ModelDock.Store.Usage

/-!
# Which debits are attributed

Every wallet transaction that takes money is attributed by allocations in full, except the charge of a logged
request without a funding operation: it writes the transaction and no allocation.
-/

namespace ModelDock.Store

open Relational Table Option

variable {cash : Cash} {currency : Currency}

/-- The debits recorded for a transaction. -/
def debitsOf (transactionId : Uuid) (allocations : Table CashAllocation) : ℤ :=
  allocations.sum fun row =>
    if row.walletTransactionId = transactionId ∧ row.direction = .debit then row.amount.units else 0

/-- Every transaction that takes money has debits of its amount. -/
def DebitsMatch (db : Db) : Prop :=
  ∀ row ∈ db.transactions.rows, row.amount.units < 0 →
    debitsOf row.id db.cash.allocations = -row.amount.units

/-- The debits match, and every allocation is one of a stored transaction. -/
structure DebitsRecorded (db : Db) : Prop where
  linked : CashLinked db
  matched : DebitsMatch db
  stored : ∀ row ∈ db.cash.allocations.rows, ∃ tx ∈ db.transactions.rows, tx.id = row.walletTransactionId

variable {s : Session} {call : Call} {log : RequestLog} {db db' : Db} {st st' : LoggedDb} {cash' : Cash}
  {txs : Table WalletTransaction} {walletId txId : Uuid} {debit : Bool} {amount : ℤ}

theorem debitsOf_eq_tally (id : Uuid) (allocations : Table CashAllocation) : debitsOf id allocations =
      tally (fun _ txId debit => if txId = id ∧ debit then 1 else 0) allocations := by
  refine sum_congr fun row _ => ?_
  cases hdr : row.direction <;> simp [Direction.isDebit]

theorem Cash.Attributes.debitsOf (h : cash.Attributes txs walletId txId debit amount cash') (id : Uuid) :
    debitsOf id cash'.allocations = debitsOf id cash.allocations +
      if txId = id ∧ debit then amount else 0 := by
  rw [debitsOf_eq_tally, h.tally, ← debitsOf_eq_tally]
  split <;> simp

section

variable (h : DebitsRecorded db)
include h

theorem DebitsRecorded.debitsOf_new (hnew : ∀ row ∈ db.transactions.rows, row.id ≠ txId) :
    debitsOf txId db.cash.allocations = 0 := by
  refine sum_eq_zero fun row hrow => if_neg fun hsame => ?_
  obtain ⟨tx, htx, hid⟩ := h.stored row hrow
  exact hnew tx htx (hid.trans hsame.1)

section

variable (hlin : CashLinked db')
include hlin

theorem DebitsRecorded.of_nothing (htr : db'.transactions = db.transactions)
    (hat : db.cash.Attributes db'.transactions walletId txId debit 0 db'.cash) :
    DebitsRecorded db' := by
  refine ⟨hlin, fun row hrow hneg => ?_, fun x hx => ?_⟩
  · rw [htr] at hrow
    rw [hat.debitsOf, ite_self, add_zero]
    exact h.matched row hrow hneg
  · rcases hat.rows x hx with hx | ⟨hid, hstor⟩
    · rw [htr]
      exact h.stored x hx
    · obtain ⟨tx, hf⟩ := isSome_iff_exists.mp hstor
      obtain ⟨htx, htxId⟩ := found hf
      exact ⟨tx, htx, htxId.trans hid.symm⟩

theorem DebitsRecorded.of_same (htx : db'.transactions = db.transactions)
    (hall : db'.cash.allocations = db.cash.allocations) : DebitsRecorded db' :=
  h.of_nothing hlin htx
    (Cash.Attributes.of_same hall : db.cash.Attributes db'.transactions 0 0 true 0 db'.cash)

theorem DebitsRecorded.insert {row : WalletTransaction} (hins : Inserts db.transactions row db'.transactions)
    (hat : db.cash.Attributes db'.transactions walletId row.id debit amount db'.cash)
    (ham : row.amount.units < 0 → debit ∧ amount = -row.amount.units) : DebitsRecorded db' := by
  have hnew (tx : WalletTransaction) (htx : tx ∈ db.transactions.rows) : tx.id ≠ row.id :=
    rowId_ne_of_insert hins htx
  have hcs (tx : WalletTransaction) : tx ∈ db'.transactions.rows ↔ tx = row ∨ tx ∈ db.transactions.rows :=
    mem_insert hins
  refine ⟨hlin, fun tx htx hneg => ?_, fun x hx => ?_⟩
  · rcases (hcs tx).mp htx with rfl | htx
    · obtain ⟨rfl, rfl⟩ := ham hneg
      rw [hat.debitsOf, h.debitsOf_new hnew, if_pos ⟨rfl, rfl⟩, zero_add]
    · rw [hat.debitsOf, if_neg fun hsame => hnew tx htx hsame.1.symm, add_zero]
      exact h.matched tx htx hneg
  · rcases hat.rows x hx with hx | ⟨hid, _⟩
    · obtain ⟨tx, htx, hid⟩ := h.stored x hx
      exact ⟨tx, (hcs tx).mpr (.inr htx), hid⟩
    · exact ⟨row, (hcs row).mpr (.inl rfl), hid.symm⟩

theorem DebitsRecorded.transfer {delta : ℤ} {journalType : JournalType} {externalKey : ExternalKey}
    (htr : Transfer s walletId delta journalType externalKey db db')
    (hat : db.cash.Attributes db'.transactions walletId (s.uuid .transaction) debit amount db'.cash)
    (ham : delta < 0 → debit ∧ amount = -delta) : DebitsRecorded db' := by
  obtain ⟨_, hins, hid, _, _, _, hdl⟩ := htr.transactions
  rw [← hid] at hat
  rw [← hdl] at ham
  exact h.insert hlin hins hat ham

end

end

theorem DebitsRecorded.settle {req : FundingSettlementRequest} {op settled : FundingOperation}
    {wallet : Wallet} {charge : SettlementCharge} {consumed : ℤ} (h : DebitsRecorded db)
    (hfr : s.Fresh db) (hlin : CashLinked db')
    (hset : Settles s req op wallet charge consumed db settled db') : DebitsRecorded db' := by
  obtain ⟨_, _, hcash, _⟩ := hset.wallets
  have ham := hset.amount_nonneg
  obtain ⟨_?, htx, hcash, hind⟩ := settleCash_eq_ok hcash
  have hat := settleCashLotsTx_attributes htx ham hcash
  have hun : debitsOf (s.uuid .transaction) db.cash.allocations = 0 :=
    h.debitsOf_new fun row hrow => hfr.transactions row hrow _
  rcases hind with ⟨_, hins⟩ | ⟨hnot, hsame⟩
  · rcases insertTransactionOnce_eq_ok rfl hins with ⟨_, hsame⟩ | ⟨_, row, hins, hid, hrow⟩
    · exfalso
      -- The debits of the amount are rows of a transaction that is stored nowhere.
      have hdb := hat.debitsOf (s.uuid .transaction)
      rw [hun, if_pos ⟨rfl, rfl⟩] at hdb
      have hnone : debitsOf (s.uuid .transaction) db'.cash.allocations = 0 := by
        refine sum_eq_zero fun row hrow => if_neg fun hown => ?_
        rcases hat.rows row hrow with hold | ⟨_, hstor⟩
        · obtain ⟨tx, htx, hid⟩ := h.stored row hold
          exact hfr.transactions tx htx _ (hid.trans hown.1)
        · obtain ⟨tx, hf⟩ := isSome_iff_exists.mp hstor
          rw [hsame] at hf
          obtain ⟨htx, hid⟩ := found hf
          exact hfr.transactions tx htx _ hid
      omega
    · have hid : row.id = s.uuid .transaction := hid
      have hrow : row.amount.units = -charge.amount := hrow
      rw [← hid] at hat
      exact h.insert hlin hins hat fun _ => ⟨rfl, by omega⟩
  · have hzero : charge.amount = 0 := le_antisymm hnot ham
    rw [hzero] at hat
    exact h.of_nothing hlin hsame hat

theorem moveLateCash_attributes {op : FundingOperation} {difference : ℤ}
    (h : moveLateCash s op difference txs cash = .ok cash') :
    cash.Attributes txs op.walletId (s.uuid .transaction) (decide (0 < difference))
      |difference| cash' := by
  unfold moveLateCash at h
  split at h
  · next hpos =>
    rw [decide_eq_true hpos, abs_of_pos hpos]
    exact allocateCashDebitTx_attributes hpos.le h
  · next hneg =>
    simp only [eq_ok] at h
    obtain ⟨_, _, hrs⟩ := h
    rw [decide_eq_false hneg]
    exact restoreCashAllocationTx_attributes (abs_nonneg _) hrs

theorem moveReversalCash_attributes {journalId : Uuid} {available : ℤ}
    (h : moveReversalCash s walletId journalId available txs cash = .ok cash') :
    cash.Attributes txs walletId (s.uuid .transaction) (decide (available < 0)) |available| cash' := by
  unfold moveReversalCash at h
  split at h
  · next hneg =>
    rw [decide_eq_true hneg]
    exact allocateCashDebitTx_attributes (abs_nonneg _) h
  · next hpos =>
    simp only [eq_ok] at h
    obtain ⟨_, _, hrs⟩ := h
    have hnn : 0 ≤ available := not_lt.mp hpos
    rw [decide_eq_false hpos, abs_of_nonneg hnn]
    exact restoreCashAllocationTx_attributes hnn hrs

theorem createCashLotTx_allocations {rechargeOrderId? : Option Uuid} {sourceKind : LotSource}
    {sourceReference : SourceReference} {refundable : Bool}
    (h : createCashLotTx s walletId rechargeOrderId? txId sourceKind sourceReference amount
      currency refundable cash = .ok cash') : cash'.allocations = cash.allocations := by
  obtain ⟨_, _, ⟨hsame, _⟩ | ⟨_, hop⟩⟩ := createCashLotTx_eq_ok h
  · rw [hsame]
  · rw [hop]

theorem moveTransactionCash_attributes {req : WalletTransactionRequest}
    (h : moveTransactionCash s req currency txs cash = .ok cash') :
    ∃ amount, cash.Attributes txs req.walletId (s.uuid .transaction) true amount cash' ∧
      (req.amount < 0 → amount = -req.amount) := by
  unfold moveTransactionCash at h
  split at h
  · next hpos =>
    exact ⟨0, .of_same (createCashLotTx_allocations h), fun hneg => absurd hpos (not_lt.mpr hneg.le)⟩
  · split at h
    · next hneg =>
      refine ⟨|req.amount|, allocateCashDebitTx_attributes (abs_nonneg _) h, fun _ => ?_⟩
      exact abs_of_neg hneg
    · next hneg =>
      obtain rfl := Except.ok.inj h
      exact ⟨0, .of_same rfl, fun hless => absurd hless hneg⟩

theorem DebitsRecorded.committed (h : DebitsRecorded db) (hfr : s.Fresh db)
    (hc : Committed s db call db') : DebitsRecorded db' := by
  have hlin := h.linked.committed hc
  cases hc with
  | quiet hq => exact h.of_same hlin hq.transactions (by rw [hq.cash])
  | reserve _ _ _ _ hrs =>
    exact h.of_same hlin hrs.transactions
      (reserveCashLotsTx_sound h.linked.sound hrs.cash).2.allocations
  | settle _ _ _ hset => exact h.settle hfr hlin hset
  | adjust _ _ _ _ hadj =>
    rcases hadj.moved with ⟨_, _, _, htx, hcash⟩ | ⟨_, htr, hcash⟩
    · exact h.of_same hlin htx (by rw [hcash])
    · refine h.transfer hlin htr (moveLateCash_attributes hcash) fun hneg => ?_
      have hpos := sub_pos.mpr (sub_neg.mp hneg)
      exact ⟨decide_eq_true hpos, by rw [neg_sub, abs_of_pos hpos]⟩
  | reverse _ _ hpos hrv =>
    obtain ⟨_, _, hcash⟩ := hrv.cash
    exact h.transfer hlin hrv.transfer (restoreCashAllocationTx_attributes hpos.le hcash)
      fun hneg => absurd hpos (not_lt.mpr hneg.le)
  | manual hmn =>
    obtain ⟨_, hcash⟩ := hmn.cash
    obtain ⟨_, hat, ham⟩ := moveTransactionCash_attributes hcash
    exact h.transfer hlin hmn.transfer hat fun hneg => ⟨rfl, ham hneg⟩
  | @credit _ order _ _ _ hcrs =>
    have hat : db.cash.Attributes db'.transactions order.walletId (s.uuid .transaction) true 0 db'.cash :=
      .of_same (createCashLotTx_allocations hcrs.cash)
    exact h.transfer hlin hcrs.transfer hat
      fun hneg => absurd order.positive (not_lt.mpr hneg.le)
  | createRefund _ _ hcr =>
    obtain ⟨_, _, _, hall, _⟩ := reserveRefundCashTx_sound h.linked.sound hcr.cash
    exact h.of_same hlin hcr.transactions hall
  | failRefund _ _ hfl =>
    obtain ⟨_, _, _, hat⟩ := settleRefundCashTx_attributes
      (fun id (hid : none = some id) => (nomatch hid : id = s.uuid .transaction)) hfl.cash
    rw [← hfl.transactions] at hat
    exact h.of_nothing hlin hfl.transactions hat
  | completeRefund hr _ hcm =>
    obtain ⟨_, hhold, hown, hat⟩ := settleRefundCashTx_attributes
      (fun _ hid => (some.inj hid).symm) hcm.cash
    refine h.transfer hlin hcm.transfer hat fun _ => ⟨rfl, ?_⟩
    rw [if_pos rfl, h.linked.refundAmount (found hr).1 hhold hown, neg_neg]
  | chargeback _ _ hch =>
    refine h.transfer hlin hch.transfer
      (allocateChargebackTx_attributes (Money.nonneg _) hch.cash) fun _ => ⟨rfl, (neg_neg _).symm⟩
  | reconcile _ _ hrec =>
    rcases hrec.applied with ⟨_, _, htx, hcash⟩ | ⟨_, _, hap⟩
    · exact h.of_same hlin htx (by rw [hcash])
    · rcases hap.cash with ⟨_, htx, hcash⟩ | ⟨_, ⟨_, hins, hid, _, _, _, hrow⟩, hcash⟩
      · exact h.of_same hlin htx (by rw [hcash])
      · have hat := moveReversalCash_attributes hcash
        rw [← hid] at hat
        refine h.insert hlin hins hat fun hneg => ?_
        rw [hrow] at hneg ⊢
        exact ⟨decide_eq_true hneg, abs_of_neg hneg⟩

/-- The promotion a request without an operation redeems: what it asks for, within its retail amount
and what the usable credits have. -/
def RequestLog.redeemable (log : RequestLog) (version : PriceVersion) (now : Timestamp)
    (promotions : Promotions) : ℤ :=
  if 0 < log.promotionAmount.getD 0 then
    min (formatRat (min (log.promotionAmount.getD 0)
        (rat (Pricing.format (Pricing.calculateRate version.retail.toRate log.tokens)))))
      ((promotions.usable log.organizationId version.retail.currency now).map fun credit =>
        credit.amountRemaining.units).sum
  else 0

/-- The request is charged to a wallet when it is logged: it succeeded, has a price version but neither
an operation nor a usage record, costs something after its promotion, and its organization has an
active wallet without a charge for it. -/
def ChargesDirectly (s : Session) (log : RequestLog) (st : LoggedDb) : Prop :=
  log.statusCode < 400 ∧ log.fundingOperationId = none ∧
    (∀ record ∈ st.db.usageRecords.rows, record.requestId ≠ log.requestId) ∧
    ∃ version wallet, log.pricingVersionId.bind st.db.catalog.priceVersions.find? = some version ∧
      0 < log.price version (log.redeemable version s.now st.db.promotions) ∧
      activeWallet? log.organizationId st.db.wallets = some wallet ∧
      ∀ row ∈ st.db.transactions.rows,
        ¬(row.walletId = wallet.id ∧ row.idempotencyKey = some (.usage log.requestId))

theorem usagePromotion_redeemable {version : PriceVersion} {promotion : ℤ} {promotions : Promotions}
    {redemptions : Table PromotionRedemption}
    (h : usagePromotion s log version none st = .ok (promotion, promotions, redemptions)) :
    promotion = log.redeemable version s.now st.db.promotions := by
  unfold RequestLog.redeemable
  unfold usagePromotion at h
  split at h
  · next hnone => cases hnone
  · split at h
    · next hasks =>
      simp only [eq_ok, redeemPromotionCredits] at h
      obtain ⟨_, hrs, _, hrq, ⟨left, _⟩, hloop, rfl, _⟩ := h
      obtain ⟨_, hleft⟩ := takeEach_eq_ok.mp hloop
      obtain ⟨_, _, _, rfl⟩ := RequestLog.calculate_eq_ok hrs
      rw [if_pos hasks, hleft, sub_sub_cancel]
      exact allocated_takes (fun credit _ => credit.amountRemaining.nonneg) hrq
    · next hnot =>
      simp only [Except.ok.injEq, Prod.mk.injEq] at h
      rw [if_neg hnot, ← h.1]

/-- The wallet that a due charge of a request without an operation is booked to: an active one that has
no charge for the request. -/
def ChargeableTo (log : RequestLog) (operation? : Option FundingOperation) (db : Db) : Prop :=
  operation? = none ∧ ∃ wallet, activeWallet? log.organizationId db.wallets = some wallet ∧
    ∀ row ∈ db.transactions.rows,
      ¬(row.walletId = wallet.id ∧ row.idempotencyKey = some (.usage log.requestId))

theorem bookUsage_transactions {due : Bool} {operation? : Option FundingOperation}
    (h : bookUsage s log currency amount due operation? db = .ok db') :
    (due ∧ ChargeableTo log operation? db) ∧ (∃ row,
        Inserts db.transactions row db'.transactions ∧
        row.amount.units = -amount) ∨
      ¬(due ∧ ChargeableTo log operation? db) ∧ db'.transactions = db.transactions := by
  unfold bookUsage at h
  split at h
  · next hdue =>
    split at h
    · cases h
      exact .inr ⟨fun hchar => (nomatch hchar.2.1), rfl⟩
    · obtain ⟨⟨hnone, rfl⟩ | ⟨wallet, hch⟩, _⟩ := chargeWallet_eq_ok h
      · refine .inr ⟨?_, rfl⟩
        rintro ⟨_, _, wallet, hw, _⟩
        rw [hnone] at hw
        cases hw
      · obtain ⟨_, hins⟩ := hch.transactions
        rcases insertTransactionOnce_eq_ok rfl hins with ⟨⟨row, hrow, htk⟩, hsame⟩ |
          ⟨hfree, row, hins, _, hrow⟩
        · refine .inr ⟨?_, hsame⟩
          rintro ⟨_, _, _, hne, hfree⟩
          obtain rfl := mem_unique hch.found hne
          exact hfree row hrow htk
        · exact .inl ⟨⟨hdue, rfl, wallet, hch.found, hfree⟩, row, hins, hrow⟩
  · next hdue =>
    cases h
    exact .inr ⟨fun hchar => hdue hchar.1, rfl⟩

theorem insertScopedRequestLog_transactions (h : insertScopedRequestLog s log st = .ok st') :
    ChargesDirectly s log st ∧ (∃ row,
        Inserts st.db.transactions row st'.db.transactions ∧
        row.amount.units < 0) ∨
      ¬ChargesDirectly s log st ∧ st'.db.transactions = st.db.transactions := by
  simp only [insertScopedRequestLog, bind_eq_ok] at h
  obtain ⟨_, _, _, _, h⟩ := h
  rcases settlePricingUsage_cases h with ⟨hunp, h⟩ | ⟨hstat, _, version, hvr, hf, h⟩
  · obtain ⟨_, _, _, _, hst⟩ := settleUnpriced_eq_ok h
    refine .inr ⟨?_, by rw [hst]⟩
    rintro ⟨hstat, _, _, version, _, hvr, _⟩
    rcases hunp with hfl | hnone
    · exact absurd hstat (not_lt.mpr hfl)
    · rw [hnone] at hvr
      cases hvr
  · obtain ⟨operation?, promotion, result, hprs⟩ := settlePriced_eq_ok h
    obtain ⟨_, written, _, hrec, hwr, hbk⟩ := hprs.booked
    simp only [pricedRecord, eq_ok, money_eq_ok] at hrec
    obtain ⟨_, _, _, _, _, _, _, _, _, _, _, rfl⟩ := hrec
    have hpr : log.pricingVersionId.bind st.db.catalog.priceVersions.find? = some version := by
      rw [hvr]
      exact hf
    have hnew : written ↔ ∀ row ∈ st.db.usageRecords.rows, row.requestId ≠ log.requestId := by
      simp only [insertUsageRecord, List.any_eq_true, decide_eq_true_eq] at hwr
      split at hwr
      · next htk =>
        obtain ⟨row, hrow, hsame⟩ := htk
        cases hwr
        exact iff_of_false Bool.false_ne_true fun hfree => hfree row hrow hsame
      · next hfree =>
        simp only [eq_ok] at hwr
        obtain ⟨_, _, rfl, _⟩ := hwr
        exact iff_of_true rfl fun row hrow hsame => hfree ⟨row, hrow, hsame⟩
    have hchar : ((written && decide (0 < (usagePrice version result operation?).finalAmount)) ∧
        ChargeableTo log operation? st.db ↔ ChargesDirectly s log st) ∧
        (operation? = none → (usagePrice version result operation?).finalAmount = result.finalAmount) := by
      rcases RequestLog.operation?_eq_ok.mp hprs.linked with ⟨hnone, rfl⟩ | ⟨_, op, hsome, _, rfl⟩
      · -- Without an operation the usage is priced with the promotion it can redeem.
        have hpric : (usagePrice version result none).finalAmount =
            log.price version (log.redeemable version s.now st.db.promotions) := by
          rw [← usagePromotion_redeemable hprs.redeemed]
          exact RequestLog.calculate_finalAmount hprs.calculated
        refine ⟨?_, fun _ => rfl⟩
        rw [Bool.and_eq_true, hnew, decide_eq_true_eq, hpric]
        constructor
        · rintro ⟨⟨hfree, hpos⟩, _, wallet, hw, hun⟩
          exact ⟨hstat, hnone, hfree, version, wallet, hpr, hpos, hw, hun⟩
        · rintro ⟨_, _, hfree, _, wallet, hne, hpos, hw, hun⟩
          obtain rfl := mem_unique hpr hne
          exact ⟨⟨hfree, hpos⟩, rfl, wallet, hw, hun⟩
      · refine ⟨iff_of_false (fun hch => some_ne_none _ hch.2.1) ?_, by simp⟩
        rintro ⟨_, hnone, _⟩
        rw [hsome] at hnone
        cases hnone
    obtain ⟨hdr, hfn⟩ := hchar
    rcases bookUsage_transactions hbk with ⟨hch, row, hins, hrow⟩ | ⟨hch, hsame⟩
    · have hpos := hch.1
      rw [Bool.and_eq_true, decide_eq_true_eq, hfn hch.2.1] at hpos
      exact .inl ⟨hdr.mp hch, row, hins, by omega⟩
    · exact .inr ⟨fun hchd => hch (hdr.mpr hchd), hsame⟩

/-- The call draws new identifiers. -/
def DrawsFresh (st : LoggedDb) (invocation : Session × LoggedCall) : Prop := invocation.1.Fresh st.db

/-- The call logs no request that is charged to a wallet directly. -/
def KeepsDebits (st : LoggedDb) (invocation : Session × LoggedCall) : Prop :=
  ∀ log, invocation.2 = .insertScopedRequestLog log → ¬ChargesDirectly invocation.1 log st

theorem DebitsRecorded.step {inv : Session × LoggedCall} (h : DebitsRecorded st.db)
    (hfr : DrawsFresh st inv) (hexec : execLogged inv st = .ok st') :
    (KeepsDebits st inv → DebitsRecorded st'.db) ∧
      (DebitsMatch st'.db → KeepsDebits st inv) := by
  obtain ⟨_, call⟩ := inv
  cases call with
  | store call =>
    obtain ⟨_, hcall, rfl⟩ := map_eq_ok.mp hexec
    exact ⟨fun _ => h.committed hfr (exec_committed hcall), fun _ log hlog => (nomatch hlog)⟩
  | createPromotionCredit _ =>
    obtain ⟨_, _, rfl⟩ := map_eq_ok.mp hexec
    exact ⟨fun _ => h.of_same (h.linked.of_tables rfl rfl rfl) rfl rfl, fun _ log hlog => (nomatch hlog)⟩
  | insertScopedRequestLog log =>
    obtain ⟨_, hbl⟩ := insertScopedRequestLog_billed hexec
    have hlin := h.linked.of_tables hbl.frame.cash hbl.frame.operations hbl.frame.payments
    rcases insertScopedRequestLog_transactions hexec with ⟨hdr, row, hins, hneg⟩ |
      ⟨hind, hsame⟩
    · refine ⟨fun hk => absurd hdr (hk log rfl), fun hmt => ?_⟩
      -- The new transaction takes money, and no allocation was written.
      have hnew (old : WalletTransaction) (hold : old ∈ st.db.transactions.rows) : old.id ≠ row.id :=
        rowId_ne_of_insert hins hold
      have hdb := hmt row ((mem_insert hins).mpr (.inl rfl)) hneg
      rw [hbl.frame.cash, h.debitsOf_new hnew] at hdb
      omega
    · refine ⟨fun _ => h.of_same hlin hsame (by rw [hbl.frame.cash]), fun _ other hne => ?_⟩
      cases hne
      exact hind

theorem LoggedGenesis.debitsRecorded (h : LoggedGenesis st) : DebitsRecorded st.db := by
  refine ⟨h.db.cashLinked, ?_, ?_⟩
  · simp [DebitsMatch, h.db.transactions]
  · simp [h.db.allocations]

/-- In every history without direct charges the debits recorded for every transaction that takes money
are its amount, and the next committed call keeps it so exactly when it charges no wallet directly. -/
theorem debits_recorded (h : LoggedGenesis st) (calls : List (Session × LoggedCall))
    (hcalls : Along execLogged (fun st inv => DrawsFresh st inv ∧ KeepsDebits st inv)
      st calls) :
    DebitsMatch (run execLogged st calls).db ∧
      ∀ inv st', DrawsFresh (run execLogged st calls) inv →
        execLogged inv (run execLogged st calls) = .ok st' →
        (DebitsMatch st'.db ↔ KeepsDebits (run execLogged st calls) inv) := by
  have hstep (st : LoggedDb) (inv : Session × LoggedCall) (st' : LoggedDb)
      (hinv : DebitsRecorded st.db) (hok : DrawsFresh st inv ∧ KeepsDebits st inv)
      (hexec : execLogged inv st = .ok st') : DebitsRecorded st'.db :=
    (hinv.step hok.1 hexec).1 hok.2
  have hrun := run_invariant hstep h.debitsRecorded hcalls
  refine ⟨hrun.matched, fun inv st' hfr hexec => ?_⟩
  obtain ⟨hk, hmt⟩ := hrun.step hfr hexec
  exact ⟨hmt, fun hok => (hk hok).matched⟩

/-- A recharge, a reservation, its settlement with 30 units and the log of the request. -/
def demoLoggedUsage : List (Session × LoggedCall) :=
  [(demoSession 1, .store (.creditPaidRecharge 1)),
    (demoSession 2, .store (.reserveFunding (demoReservation "a" 40 0))),
    (demoSession 3, .store (.settleFunding (demoSettlement demoOperationId 30 false))),
    (demoSession 4, .insertScopedRequestLog (demoLog "a" 30 (some demoOperationId)))]

/-- The charge of 30 units has debits of 30, and the history has no direct charge. -/
theorem debits_recorded_demo :
    (run execLogged demoLogged demoLoggedUsage).db.transactions.rows.map (fun row => (row.amount.units,
        debitsOf row.id (run execLogged demoLogged demoLoggedUsage).db.cash.allocations)) =
        [(-30, 30), (100, 0)] ∧
      DebitsMatch (run execLogged demoLogged demoLoggedUsage).db := by
  refine ⟨by decide +kernel, (debits_recorded demoLogged_genesis demoLoggedUsage
    ⟨⟨demoSession_fresh ?_, fun _ hlog => (nomatch hlog)⟩, ⟨demoSession_fresh ?_, fun _ hlog => (nomatch hlog)⟩,
      ⟨demoSession_fresh ?_, fun _ hlog => (nomatch hlog)⟩, ⟨demoSession_fresh ?_, fun log hlog => ?_⟩,
      trivial⟩).1⟩
  case refine_5 =>
    cases hlog
    rintro ⟨_, hun, _⟩
    cases hun
  all_goals decide +kernel

/-- A recharge, and the log of a request without an operation. -/
def demoDirectCharge : List (Session × LoggedCall) :=
  [(demoSession 1, .store (.creditPaidRecharge 1)),
    (demoSession 2, .insertScopedRequestLog (demoLog "a" 30 none))]

/-- The direct charge of 30 units has no debits, and the lot of the recharge is untouched. -/
theorem direct_charge_unrecorded :
    (run execLogged demoLogged demoDirectCharge).db.transactions.rows.map (fun row => (row.amount.units,
        debitsOf row.id (run execLogged demoLogged demoDirectCharge).db.cash.allocations)) =
        [(-30, 0), (100, 0)] ∧
      (run execLogged demoLogged demoDirectCharge).db.cash.lots.rows.map (fun lot =>
        lot.remainingAmount.units) = [100] ∧
      ¬DebitsMatch (run execLogged demoLogged demoDirectCharge).db := by
  refine ⟨by decide +kernel, by decide +kernel, ?_⟩
  unfold DebitsMatch
  decide +kernel

end ModelDock.Store
