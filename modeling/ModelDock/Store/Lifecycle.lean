import ModelDock.Store.System

/-!
# How rows live on

Operations, orders and refunds keep their identity and terms; what was closed is never opened again, and a
credited order stays credited.
-/

namespace ModelDock.Store

open Relational Table

/-- A later version of an operation: same wallet and terms, and open only if it was. -/
structure FundingOperation.Later (operation operation' : FundingOperation) : Prop where
  id : operation'.id = operation.id
  walletId : operation'.walletId = operation.walletId
  maximumAmount : operation'.maximumAmount = operation.maximumAmount
  promotionAmount : operation'.promotionAmount = operation.promotionAmount
  wasOpen : operation'.status.isOpen → operation.status.isOpen

/-- A later version of a recharge order: same wallet and amount, and still credited if it was. -/
structure RechargeOrder.Later (order order' : RechargeOrder) : Prop where
  id : order'.id = order.id
  platformOrderNo : order'.platformOrderNo = order.platformOrderNo
  walletId : order'.walletId = order.walletId
  amount : order'.amount = order.amount
  stillCredited : order.status.isCredited → order'.status.isCredited

/-- A later version of a refund: same order and amount, and open only if it was. -/
structure RefundOrder.Later (refund refund' : RefundOrder) : Prop where
  id : refund'.id = refund.id
  rechargeOrderId : refund'.rechargeOrderId = refund.rechargeOrderId
  amount : refund'.amount = refund.amount
  wasOpen : refund'.status.isOpen → refund.status.isOpen

variable (op : FundingOperation)

theorem FundingOperation.Later.refl : op.Later op :=
  ⟨rfl, rfl, rfl, rfl, fun h => h⟩

theorem RechargeOrder.Later.refl (order : RechargeOrder) : order.Later order :=
  ⟨rfl, rfl, rfl, rfl, fun h => h⟩

theorem RefundOrder.Later.refl (refund : RefundOrder) : refund.Later refund :=
  ⟨rfl, rfl, rfl, fun h => h⟩

theorem FundingOperation.Later.trans {a b c : FundingOperation} (h : a.Later b) (h' : b.Later c) : a.Later c :=
  ⟨h'.id.trans h.id, h'.walletId.trans h.walletId, h'.maximumAmount.trans h.maximumAmount,
    h'.promotionAmount.trans h.promotionAmount, fun hopen => h.wasOpen (h'.wasOpen hopen)⟩

theorem RechargeOrder.Later.trans {a b c : RechargeOrder} (h : a.Later b) (h' : b.Later c) : a.Later c :=
  ⟨h'.id.trans h.id, h'.platformOrderNo.trans h.platformOrderNo, h'.walletId.trans h.walletId,
    h'.amount.trans h.amount, fun hcr => h'.stillCredited (h.stillCredited hcr)⟩

theorem RefundOrder.Later.trans {a b c : RefundOrder} (h : a.Later b) (h' : b.Later c) : a.Later c :=
  ⟨h'.id.trans h.id, h'.rechargeOrderId.trans h.rechargeOrderId, h'.amount.trans h.amount,
    fun hopen => h.wasOpen (h'.wasOpen hopen)⟩

theorem FundingOperation.Later.of_terms (op op' : FundingOperation)
    (h : op'.terms = op.terms) : op.Later op' := by
  have hcl : (op'.terms.id, op'.terms.walletId, op'.terms.maximumAmount,
      op'.terms.promotionAmount, op'.terms.status) = (op.terms.id,
      op.terms.walletId, op.terms.maximumAmount, op.terms.promotionAmount,
      op.terms.status) := by rw [h]
  simp only [Prod.mk.injEq] at hcl
  obtain ⟨hid, hw, hmax, hpr, hst⟩ := hcl
  exact ⟨hid, hw, hmax, hpr, fun hopen => hst ▸ hopen⟩

theorem RechargeOrder.Later.of_terms (order order' : RechargeOrder) (h : order'.terms = order.terms) :
    order.Later order' := by
  have hcl : (order'.terms.id, order'.terms.platformOrderNo, order'.terms.walletId,
      order'.terms.amount, order'.terms.status) = (order.terms.id, order.terms.platformOrderNo,
      order.terms.walletId, order.terms.amount, order.terms.status) := by rw [h]
  simp only [RechargeOrder.terms, Prod.mk.injEq] at hcl
  obtain ⟨hid, hno, hw, ham, hst⟩ := hcl
  refine ⟨hid, hno, hw, ham, fun hcr => ?_⟩
  split at hst
  · next hcr' => exact hcr'
  · rw [← hst] at hcr
    cases hcr

theorem RefundOrder.Later.of_terms (refund refund' : RefundOrder) (h : refund'.terms = refund.terms) :
    refund.Later refund' := by
  have hcl : (refund'.terms.id, refund'.terms.rechargeOrderId, refund'.terms.amount,
      refund'.terms.status) = (refund.terms.id, refund.terms.rechargeOrderId, refund.terms.amount,
      refund.terms.status) := by rw [h]
  simp only [RefundOrder.terms, Prod.mk.injEq] at hcl
  obtain ⟨hid, ho, ham, hst⟩ := hcl
  refine ⟨hid, ho, ham, fun hopen => ?_⟩
  rw [if_pos hopen] at hst
  split at hst
  · next hopen' => exact hopen'
  · rw [← hst]
    rfl

variable {s : Session} {call : Call} {db db' : Db}

theorem settlementStatus_closed (req : FundingSettlementRequest) (actual : ℤ) :
    (settlementStatus req actual).isOpen = false := by
  unfold settlementStatus
  split <;> split <;> rfl

theorem FundingOperation.correct_closed (s : Session) (req : LateUsageRequest) (corrected : Money) :
    (op.correct s req corrected).status.isOpen = false := by
  simp only [FundingOperation.correct]
  split <;> rfl

theorem Committed.operations_kept (h : Committed s db call db') :
    Table.Kept FundingOperation.Later db.operations db'.operations := by
  have hrefl := FundingOperation.Later.refl
  cases h with
  | quiet hq => exact .of_view FundingOperation.Later.of_terms hq.operations
  | reserve _ _ _ _ hrs => exact .of_insert hrefl hrs.operations
  | settle hop _ _ hset =>
    have hcl := hset.closed
    rw [hset.operations]
    refine .of_replace hrefl (found hop).1 hcl.key ⟨?_, hcl.walletId,
      hcl.maximumAmount, hcl.promotionAmount, fun hopen => ?_⟩
    · exact congrArg FundingOperationKey.id hcl.key
    · rw [hcl.status, settlementStatus_closed] at hopen
      cases hopen
  | adjust hop _ _ _ hadj =>
    rw [hadj.operations, hadj.written]
    refine .of_replace hrefl (found hop).1 rfl ⟨rfl, rfl, rfl, rfl, fun hopen => ?_⟩
    rw [FundingOperation.correct_closed] at hopen
    cases hopen
  | reverse hop _ _ hrv =>
    obtain ⟨_, _, hrd⟩ := hrv.promotions
    obtain ⟨_, _, _, rfl⟩ := FundingOperation.reverse_eq_ok hrd
    rw [hrv.operations]
    refine .of_replace hrefl (found hop).1 rfl ⟨rfl, rfl, rfl, rfl, fun hopen => ?_⟩
    cases hopen
  | manual hcall | reconcile _ _ hcall => exact .of_eq hrefl hcall.operations
  | credit _ _ hcall | createRefund _ _ hcall | failRefund _ _ hcall | completeRefund _ _ hcall
  | chargeback _ _ hcall => exact .of_eq hrefl hcall.funding.operations

theorem Committed.rechargeOrders_kept (h : Committed s db call db') :
    Table.Kept RechargeOrder.Later db.payments.rechargeOrders db'.payments.rechargeOrders := by
  have hrefl := RechargeOrder.Later.refl
  cases h with
  | quiet hq => exact .of_view RechargeOrder.Later.of_terms hq.rechargeOrders
  | reserve _ _ _ _ hcall | settle _ _ _ hcall | adjust _ _ _ _ hcall | reverse _ _ _ hcall | manual hcall
  | reconcile _ _ hcall => exact .of_eq hrefl (by rw [hcall.payments])
  | credit ho _ hcrs =>
    rw [hcrs.payments]
    exact .of_replace hrefl (found ho).1 rfl ⟨rfl, rfl, rfl, rfl, fun _ => rfl⟩
  | createRefund ho _ hcr =>
    rw [hcr.rechargeOrders]
    exact .of_replace hrefl (found ho).1 rfl ⟨rfl, rfl, rfl, rfl, fun _ => rfl⟩
  | failRefund _ _ hfl =>
    rcases hfl.rechargeOrders with ⟨_, hrp⟩ | ⟨_, hsame⟩
    · rw [hrp]
      exact .of_replace hrefl (found hfl.found).1 rfl ⟨rfl, rfl, rfl, rfl, fun _ => rfl⟩
    · exact .of_eq hrefl hsame
  | completeRefund _ _ hcm =>
    rw [hcm.rechargeOrders]
    refine .of_replace hrefl (found hcm.found).1 rfl
      ⟨rfl, rfl, rfl, rfl, fun _ => ?_⟩
    split <;> rfl
  | chargeback ho _ hch =>
    rw [hch.rechargeOrders]
    exact .of_replace hrefl ho rfl ⟨rfl, rfl, rfl, rfl, fun _ => rfl⟩

theorem Committed.refundOrders_kept (h : Committed s db call db') :
    Table.Kept RefundOrder.Later db.payments.refundOrders db'.payments.refundOrders := by
  have hrefl := RefundOrder.Later.refl
  cases h with
  | quiet hq => exact .of_view RefundOrder.Later.of_terms hq.refundOrders
  | reserve _ _ _ _ hcall | settle _ _ _ hcall | adjust _ _ _ _ hcall | reverse _ _ _ hcall | manual hcall
  | credit _ _ hcall | reconcile _ _ hcall => exact .of_eq hrefl (by rw [hcall.payments])
  | createRefund _ _ hcr => exact .of_insert hrefl hcr.refundOrders
  | failRefund hr _ hcall | completeRefund hr _ hcall =>
    obtain ⟨_, hrp⟩ := hcall.refundOrders
    rw [hrp]
    refine .of_replace hrefl (found hr).1 rfl ⟨rfl, rfl, rfl, fun hopen => ?_⟩
    cases hopen
  | chargeback _ _ hch =>
    obtain ⟨_, _, _, _, _, hins⟩ := hch.refundOrders
    exact .of_insert hrefl hins

theorem Committed.transactions_kept (h : Committed s db call db') (row : WalletTransaction)
    (hrow : row ∈ db.transactions.rows) : row ∈ db'.transactions.rows := by
  have htr {walletId : Uuid} {delta : ℤ} {journalType : JournalType} {externalKey : ExternalKey}
      (ht : Transfer s walletId delta journalType externalKey db db') : row ∈ db'.transactions.rows := by
    obtain ⟨new, hins, _⟩ := ht.transactions
    exact (mem_insert hins).mpr (.inr hrow)
  cases h with
  | quiet hcall | reserve _ _ _ _ hcall | createRefund _ _ hcall | failRefund _ _ hcall => rwa [hcall.transactions]
  | settle _ _ _ hset =>
    obtain ⟨_, _, hcash, _⟩ := hset.wallets
    unfold settleCash at hcash
    split at hcash <;> simp only [eq_ok, insertTransactionOnce] at hcash
    · obtain ⟨_, ⟨_, _, hins⟩, _, _, hwr⟩ := hcash
      rw [← (Prod.mk.inj hwr).1]
      split at hins
      · cases hins
        exact hrow
      · exact (mem_insert hins).mpr (.inr hrow)
    · obtain ⟨_, _, hsame⟩ := hcash
      rwa [← (Prod.mk.inj hsame).1]
  | adjust _ _ _ _ hadj =>
    rcases hadj.moved with ⟨_, _, _, hsame, _⟩ | ⟨_, ht, _⟩
    · rwa [hsame]
    · exact htr ht
  | reverse _ _ _ hcall | manual hcall | credit _ _ hcall | completeRefund _ _ hcall
  | chargeback _ _ hcall => exact htr hcall.transfer
  | reconcile _ _ hrec =>
    rcases hrec.applied with ⟨_, _, hsame, _⟩ | ⟨_, _, hap⟩
    · rwa [hsame]
    · rcases hap.cash with ⟨_, hsame, _⟩ | ⟨_, ⟨new, hins, _⟩, _⟩
      · rwa [hsame]
      · exact (mem_insert hins).mpr (.inr hrow)

theorem suffix_of_posting {p : Prop} [Decidable p] {journalId walletId : Uuid} {journalType : JournalType}
    {externalKey : ExternalKey} {currency : Currency} {lines : List JournalLine} {ledger ledger' : Ledger}
    (h : (if p then postJournalTx journalId walletId journalType externalKey currency lines ledger else .ok ledger) =
      .ok ledger') : ledger.journals.rows <:+ ledger'.journals.rows := by
  split at h
  · obtain ⟨_, hpos, _⟩ := postJournalTx_eq_ok h
    rw [hpos.rows]
    exact List.suffix_cons _ _
  · cases h
    exact List.suffix_rfl

theorem Committed.journals_kept (h : Committed s db call db') :
    db.ledger.journals.rows <:+ db'.ledger.journals.rows := by
  have hpos {journal : Journal} (hpost : db.ledger.Posted journal db'.ledger) :
      db.ledger.journals.rows <:+ db'.ledger.journals.rows := by
    rw [hpost.rows]
    exact List.suffix_cons _ _
  cases h with
  | quiet hcall | createRefund _ _ hcall | failRefund _ _ hcall => rw [hcall.ledger]
  | reserve _ _ _ _ hrs => exact suffix_of_posting hrs.ledger
  | settle _ _ _ hset =>
    obtain ⟨_, hch, hrl⟩ := bind_eq_ok.mp hset.ledger
    exact (suffix_of_posting hch).trans (suffix_of_posting hrl)
  | adjust _ _ _ _ hadj =>
    rcases hadj.moved with ⟨_, _, hld, _⟩ | ⟨_, ht, _⟩
    · rw [hld]
    · exact hpos ht.posted.choose_spec.1
  | reverse _ _ _ hcall | manual hcall | credit _ _ hcall | completeRefund _ _ hcall | chargeback _ _ hcall =>
    exact hpos hcall.transfer.posted.choose_spec.1
  | reconcile _ _ hrec => exact hpos hrec.posted.choose_spec.1

/-- What a database still holds of an earlier one: every operation, order and refund in a later version, and every
transaction and journal as it was written, the journals in their order. -/
structure LivesOn (db db' : Db) : Prop where
  operations : Table.Kept FundingOperation.Later db.operations db'.operations
  rechargeOrders : Table.Kept RechargeOrder.Later db.payments.rechargeOrders db'.payments.rechargeOrders
  refundOrders : Table.Kept RefundOrder.Later db.payments.refundOrders db'.payments.refundOrders
  transactions : ∀ row ∈ db.transactions.rows, row ∈ db'.transactions.rows
  journals : db.ledger.journals.rows <:+ db'.ledger.journals.rows

theorem LivesOn.committed {first : Db} (h : LivesOn first db) (hc : Committed s db call db') :
    LivesOn first db' where
  operations := h.operations.trans (fun _ _ _ => .trans) hc.operations_kept
  rechargeOrders := h.rechargeOrders.trans (fun _ _ _ => .trans) hc.rechargeOrders_kept
  refundOrders := h.refundOrders.trans (fun _ _ _ => .trans) hc.refundOrders_kept
  transactions row hrow := hc.transactions_kept row (h.transactions row hrow)
  journals := h.journals.trans hc.journals_kept

/-- No history loses or rewrites what was booked, changes the terms of an operation, an order or a refund, opens
again what was closed, or takes back that an order was credited. -/
theorem run_lives_on (db : Db) (calls : List (Session × Call)) : LivesOn db (run exec db calls) := by
  refine run_keeps_all (fun _ _ _ _ hinv hc => hinv.committed hc) ?_ calls
  exact ⟨.of_eq FundingOperation.Later.refl rfl, .of_eq RechargeOrder.Later.refl rfl,
    .of_eq RefundOrder.Later.refl rfl, fun _ hrow => hrow, List.suffix_rfl⟩

end ModelDock.Store
