import ModelDock.Wallet.ReservedBalance

/-!
# What an operation has debited

The journals of an operation should debit its settled amount, or nothing once it is reversed. Late usage of a
reversed operation and the reversal of its journals for a reconciliation case break that.
-/

namespace ModelDock.Store

open Relational Accounting Table Ledger Option

variable {journalType : JournalType} {externalKey : ExternalKey} {op adjusted : FundingOperation}
  {corrected : Money} {available reserved : ℤ} {maximum : ℚ} {idempotencyKey : String}

/-- The operation an external key names. -/
def ExternalKey.operationId? : ExternalKey → Option Uuid
  | .reservation operationId => some operationId
  | .settlement operationId => some operationId
  | .release operationId => some operationId
  | .late operationId _ => some operationId
  | .reversal operationId _ => some operationId
  | _ => none

/-- The operation a stored journal belongs to: the one its key names, or the one of the older journal
it reverses. Journals are listed newest first. -/
def ownerIn : List Journal → Uuid → Option Uuid
  | [], _ => none
  | journal :: older, id =>
    if journal.id = id then
      journal.externalKey.operationId?.or (journal.reversalOfJournalId.bind (ownerIn older))
    else ownerIn older id

/-- The operation a journal belongs to when it is posted next. -/
def Ledger.ownerOf (ledger : Ledger) (journal : Journal) : Option Uuid :=
  journal.externalKey.operationId?.or (journal.reversalOfJournalId.bind (ownerIn ledger.journals.rows))

/-- What a journal takes from both accounts of a wallet. -/
def Ledger.debitOf (ledger : Ledger) (walletId : Uuid) (journal : Journal) : ℤ :=
  -(ledger.journalNet (walletAccountKey walletId .available) journal +
    ledger.journalNet (walletAccountKey walletId .reserved) journal)

/-- What the posted journals of an operation have taken from a wallet. -/
def Ledger.netDebit (ledger : Ledger) (operationId walletId : Uuid) : ℤ :=
  ledger.journals.sum fun journal =>
    if journal.status = .posted ∧ ownerIn ledger.journals.rows journal.id = some operationId then
      ledger.debitOf walletId journal
    else 0

/-- Some journal belongs to the operation. -/
def Ledger.Owns (ledger : Ledger) (operationId : Uuid) : Prop :=
  ∃ journal ∈ ledger.journals.rows, ownerIn ledger.journals.rows journal.id = some operationId

/-- The ledger took amounts on behalf of an operation, if it is one, and of no other. -/
structure Ledger.Charged (ledger : Ledger) (owner : Option Uuid) (amount : Uuid → ℤ) (ledger' : Ledger) : Prop where
  net : ∀ operationId walletId, ledger'.netDebit operationId walletId =
    ledger.netDebit operationId walletId + if owner = some operationId then amount walletId else 0
  owns : ∀ operationId, ledger'.Owns operationId → owner = some operationId ∨ ledger.Owns operationId

variable {s : Session} {call : Call} {db db' : Db} {ledger mid ledger' : Ledger} {journal : Journal}
  {wallet : Wallet} {walletId opId : Uuid} {owner : Option Uuid} {amount amount' : Uuid → ℤ}

theorem Ledger.Charged.refl (ledger : Ledger) (owner : Option Uuid) : ledger.Charged owner (fun _ => 0) ledger :=
  ⟨fun _ _ => by rw [ite_self, add_zero], fun _ h => .inr h⟩

theorem Ledger.Charged.trans (h : ledger.Charged owner amount mid) (h' : mid.Charged owner amount' ledger') :
    ledger.Charged owner (fun walletId => amount walletId + amount' walletId) ledger' := by
  refine ⟨fun opId walletId => ?_, fun opId howns => ?_⟩
  · rw [h'.net, h.net]
    split <;> omega
  · rcases h'.owns opId howns with hown | howns
    · exact .inl hown
    · exact h.owns opId howns

theorem Ledger.Posted.charged (h : ledger.Posted journal ledger') :
    ledger.Charged (ledger.ownerOf journal) (fun walletId => ledger.debitOf walletId journal) ledger' := by
  have hun := ledger'.journals.unique
  rw [h.rows, List.pairwise_cons] at hun
  have hid (old : Journal) (hold : old ∈ ledger.journals.rows) : journal.id ≠ old.id := by
    intro heq
    have hcl := hun.1 old hold
    rw [Key.clash_of_id _ _ heq] at hcl
    exact Bool.noConfusion hcl
  have hnew : ownerIn ledger'.journals.rows journal.id = ledger.ownerOf journal := by
    rw [h.rows, ownerIn, if_pos rfl]
    rfl
  have hold (old : Journal) (hmem : old ∈ ledger.journals.rows) :
      ownerIn ledger'.journals.rows old.id = ownerIn ledger.journals.rows old.id := by
    rw [h.rows, ownerIn, if_neg (hid old hmem)]
  have hdb (walletId : Uuid) (x : Journal) : ledger'.debitOf walletId x = ledger.debitOf walletId x := by
    rw [debitOf, journalNet_congr h.accounts, journalNet_congr h.accounts]
    rfl
  refine ⟨fun opId walletId => ?_, fun opId howns => ?_⟩
  · have hrest : (ledger.journals.rows.map fun x =>
        if x.status = .posted ∧ ownerIn ledger'.journals.rows x.id = some opId then
          ledger'.debitOf walletId x else 0).sum = ledger.netDebit opId walletId := by
      refine congrArg List.sum (List.map_congr_left fun x hx => ?_)
      rw [hold x hx, hdb]
    rw [netDebit, sum, h.rows, List.map_cons, List.sum_cons, ← h.rows, hrest, hnew, hdb]
    simp only [h.status, true_and]
    exact add_comm _ _
  · obtain ⟨x, hx, hown⟩ := howns
    rw [h.rows] at hx
    rcases List.mem_cons.mp hx with rfl | hx
    · exact .inl (hnew.symm.trans hown)
    · exact .inr ⟨x, hx, (hold x hx).symm.trans hown⟩

theorem Journal.Moves.debitOf (h : journal.Moves ledger walletId available reserved) (id : Uuid) :
    ledger.debitOf id journal = if id = walletId then -(available + reserved) else 0 := by
  rw [Ledger.debitOf, h.net, h.net]
  split <;> rfl

theorem ownerOf_of_key (hnone : journal.reversalOfJournalId = none) :
    ledger.ownerOf journal = journal.externalKey.operationId? := by
  rw [ownerOf, hnone, bind_none, or_none]

theorem Transfer.charged {delta : ℤ} (h : Transfer s walletId delta journalType externalKey db db') :
    db.ledger.Charged externalKey.operationId? (fun id => if id = walletId then -delta else 0)
      db'.ledger := by
  obtain ⟨_, hpos, hmov, _, _, hkey, hnone⟩ := h.posted
  have hch := hpos.charged
  rw [ownerOf_of_key hnone, hkey] at hch
  simpa only [hmov.debitOf, add_zero] using hch

theorem Journal.PostedAs.charged {journalId : Uuid} {lines : List JournalLine}
    (h : journal.PostedAs ledger journalId walletId journalType externalKey lines)
    (hpos : ledger.Posted journal ledger') (hln : LinesMove lines walletId available reserved) :
    ledger.Charged externalKey.operationId?
      (fun id => if id = walletId then -(available + reserved) else 0) ledger' := by
  have hch := hpos.charged
  rw [ownerOf_of_key h.reversalOf, h.externalKey] at hch
  simpa only [(h.moves hln).debitOf] using hch

theorem postReservation_charged (h : postReservation s opId wallet maximum ledger = .ok ledger') :
    ledger.Charged (some opId) (fun _ => 0) ledger' := by
  unfold postReservation at h
  split at h
  · obtain ⟨_, hpos, has⟩ := postJournalTx_eq_ok h
    have hch := has.charged hpos (linesNet_reservationLines wallet.id _)
    simpa only [neg_add_cancel, neg_zero, ite_self, ExternalKey.operationId?] using hch
  · cases h
    exact Charged.refl _ _

theorem postSettlement_charged {actual : ℤ} (hac : 0 ≤ actual)
    (h : postSettlement s op actual ledger = .ok ledger') :
    ledger.Charged (some op.id) (fun id => if id = op.walletId then actual else 0)
      ledger' := by
  have hmax := op.maximumAmount.nonneg
  simp only [postSettlement, bind_eq_ok] at h
  obtain ⟨mid, hch, hrl⟩ := h
  have hfs : ledger.Charged (some op.id)
      (fun id => if id = op.walletId then actual else 0) mid := by
    unfold postCharge at hch
    split at hch
    · obtain ⟨journal, hpost, has⟩ := postJournalTx_eq_ok hch
      have hchar := has.charged hpost
        (linesNet_settlementLines op.walletId op.currency actual (by omega) (by omega))
      simpa only [← neg_add, sub_add_cancel, neg_neg, ExternalKey.operationId?] using hchar
    · next hpos =>
      have hzero : actual = 0 := le_antisymm (not_lt.mp hpos) hac
      cases hch
      simpa only [hzero, ite_self] using Charged.refl ledger (some op.id)
  have hsc : mid.Charged (some op.id) (fun _ => 0) ledger' := by
    unfold postRelease at hrl
    split at hrl
    · obtain ⟨journal, hpost, has⟩ := postJournalTx_eq_ok hrl
      have hchar := has.charged hpost (linesNet_releaseLines op.walletId _)
      simpa only [add_neg_cancel, neg_zero, ite_self, ExternalKey.operationId?] using hchar
    · cases hrl
      exact Charged.refl _ _
  simpa only [add_zero] using hfs.trans hsc

/-- Every operation has debited its settled amount, or nothing once it is reversed; only operations
that charged have a settled amount, and only such operations were reversed. -/
structure Debited (db : Db) : Prop where
  net : ∀ operation ∈ db.operations.rows, db.ledger.netDebit operation.id operation.walletId =
    if operation.status = .reversed then 0 else operation.settledAmount.units
  unpaid : ∀ operation ∈ db.operations.rows, operation.status ≠ .settled →
    operation.status ≠ .partiallySettled → operation.status ≠ .reversed →
    operation.settledAmount.units = 0
  paid : ∀ operation ∈ db.operations.rows, operation.status = .reversed →
    0 < operation.settledAmount.units
  stored : ∀ id, db.ledger.Owns id → ∃ operation ∈ db.operations.rows, operation.id = id

section

variable (h : Debited db)
include h

section

variable (hops : db'.operations = db.operations)
include hops

theorem Debited.of_same (hch : db.ledger.Charged owner amount db'.ledger)
    (hnone : ∀ op ∈ db.operations.rows, owner = some op.id → amount op.walletId = 0)
    (howr : ∀ id, owner = some id → ∃ op ∈ db.operations.rows, op.id = id) :
    Debited db' := by
  refine ⟨fun op hmem => ?_, hops ▸ h.unpaid, hops ▸ h.paid, fun id howns => ?_⟩
  · rw [hops] at hmem
    have htk : (if owner = some op.id then amount op.walletId else 0) = 0 := by
      split
      · next hown => exact hnone op hmem hown
      · rfl
    rw [hch.net, h.net op hmem, htk, add_zero]
  · rw [hops]
    rcases hch.owns id howns with hown | howns
    · exact howr id hown
    · exact h.stored id howns

theorem Debited.of_ledger (hld : db'.ledger = db.ledger) : Debited db' := by
  refine ⟨?_, ?_, ?_, ?_⟩ <;> rw [hops]
  · rw [hld]
    exact h.net
  · exact h.unpaid
  · exact h.paid
  · rw [hld]
    exact h.stored

theorem Debited.of_transfer {delta : ℤ} (htr : Transfer s walletId delta journalType externalKey db db')
    (hkey : externalKey.operationId? = none) : Debited db' := by
  have hch := htr.charged
  rw [hkey] at hch
  exact h.of_same hops hch (fun _ _ hown => nomatch hown) fun _ hown => nomatch hown

end

theorem Debited.replace {op' : FundingOperation} (hmem : op ∈ db.operations.rows)
    (hops : db'.operations = db.operations.replace op') (hkey : Keyed.key op' = Keyed.key op)
    (hw : op'.walletId = op.walletId) (hch : db.ledger.Charged (some op.id) amount db'.ledger)
    (hnet : (if op.status = .reversed then 0 else op.settledAmount.units) +
      amount op.walletId =
        if op'.status = .reversed then 0 else op'.settledAmount.units)
    (hun : op'.status ≠ .settled → op'.status ≠ .partiallySettled →
      op'.status ≠ .reversed → op'.settledAmount.units = 0)
    (hpaid : op'.status = .reversed → 0 < op'.settledAmount.units) : Debited db' := by
  have hid : op'.id = op.id := congrArg FundingOperationKey.id hkey
  have hcs (x : FundingOperation) (hx : x ∈ db'.operations.rows) :
      x = op' ∨ x ∈ db.operations.rows ∧ x.id ≠ op.id :=
    hid ▸ (mem_replace hmem hkey).mp (hops ▸ hx)
  refine ⟨fun x hx => ?_, fun x hx => ?_, fun x hx => ?_, fun id howns => ?_⟩
  · rcases hcs x hx with rfl | ⟨hx, hne⟩
    · rw [hch.net, hid, hw, h.net op hmem, if_pos rfl, hnet]
    · have hoth : some op.id ≠ some x.id := fun heq => hne (some.inj heq).symm
      rw [hch.net, h.net x hx, if_neg hoth, add_zero]
  · rcases hcs x hx with rfl | ⟨hx, _⟩
    · exact hun
    · exact h.unpaid x hx
  · rcases hcs x hx with rfl | ⟨hx, _⟩
    · exact hpaid
    · exact h.paid x hx
  · rw [hops]
    have hstor : ∃ old ∈ db.operations.rows, old.id = id := by
      rcases hch.owns id howns with hown | howns
      · exact ⟨op, hmem, some.inj hown⟩
      · exact h.stored id howns
    obtain ⟨old, hold, rfl⟩ := hstor
    by_cases hsame : old.id = op.id
    · exact ⟨op', (mem_replace hmem hkey).mpr (.inl rfl), hid.trans hsame.symm⟩
    · exact ⟨old, (mem_replace hmem hkey).mpr (.inr ⟨hold, fun heq => hsame (heq.trans hid)⟩), rfl⟩

theorem Debited.quiet (hq : Quiet db db') : Debited db' := by
  have htm (x : FundingOperation) (hx : x ∈ db'.operations.rows) : ∃ old ∈ db.operations.rows,
      old.id = x.id ∧ old.walletId = x.walletId ∧ old.status = x.status ∧
        old.settledAmount = x.settledAmount := by
    obtain ⟨old, hold, hsame⟩ := mem_of_view hq.operations hx
    have hcl : (old.terms.id, old.terms.walletId, old.terms.status, old.terms.settledAmount) =
        (x.terms.id, x.terms.walletId, x.terms.status, x.terms.settledAmount) := by rw [hsame]
    simp only [Prod.mk.injEq] at hcl
    exact ⟨old, hold, hcl⟩
  refine ⟨fun x hx => ?_, fun x hx => ?_, fun x hx => ?_, fun id howns => ?_⟩
  · obtain ⟨old, hold, hid, hw, hst, hset⟩ := htm x hx
    rw [hq.ledger, ← hid, ← hw, ← hst, ← hset]
    exact h.net old hold
  · obtain ⟨old, hold, _, _, hst, hset⟩ := htm x hx
    rw [← hst, ← hset]
    exact h.unpaid old hold
  · obtain ⟨old, hold, _, _, hst, hset⟩ := htm x hx
    rw [← hst, ← hset]
    exact h.paid old hold
  · rw [hq.ledger] at howns
    obtain ⟨old, hold, hid⟩ := h.stored id howns
    obtain ⟨new, hnew, hsame⟩ := mem_of_view hq.operations.symm hold
    have hcn : new.terms.id = old.terms.id := by rw [hsame]
    exact ⟨new, hnew, hcn.trans hid⟩

theorem Debited.reserve {promotion : ℤ}
    (hrs : Reserves s wallet maximum promotion db op db') : Debited db' := by
  have hch := postReservation_charged hrs.ledger
  have hop := hrs.opened
  have hsame (id walletId : Uuid) : db'.ledger.netDebit id walletId = db.ledger.netDebit id walletId := by
    rw [hch.net, ite_self, add_zero]
  have hnone (walletId : Uuid) : db.ledger.netDebit op.id walletId = 0 := by
    refine sum_eq_zero fun journal hj => if_neg fun hcn => ?_
    obtain ⟨old, hold, hid⟩ := h.stored op.id ⟨journal, hj, hcn.2⟩
    exact rowId_ne_of_insert hrs.operations hold hid
  refine ⟨fun x hx => ?_, fun x hx => ?_, fun x hx => ?_, fun id howns => ?_⟩
  · rw [hsame]
    rcases (mem_insert hrs.operations).mp hx with rfl | hx
    · rw [hnone, hop.status, hop.settledAmount]
      rfl
    · exact h.net x hx
  · rcases (mem_insert hrs.operations).mp hx with rfl | hx
    · exact fun _ _ _ => hop.settledAmount
    · exact h.unpaid x hx
  · rcases (mem_insert hrs.operations).mp hx with rfl | hx
    · rw [hop.status]
      exact fun hrv => nomatch hrv
    · exact h.paid x hx
  · rcases hch.owns id howns with hown | howns
    · exact ⟨op, (mem_insert hrs.operations).mpr (.inl rfl), some.inj hown⟩
    · obtain ⟨old, hold, hid⟩ := h.stored id howns
      exact ⟨old, (mem_insert hrs.operations).mpr (.inr hold), hid⟩

theorem Debited.settle {req : FundingSettlementRequest} {settled : FundingOperation}
    {charge : SettlementCharge} {consumed : ℤ} (hop : db.operations.find? req.operationId = some op)
    (hopen : op.status.isOpen)
    (hset : Settles s req op wallet charge consumed db settled db') : Debited db' := by
  obtain ⟨hmem, _⟩ := found hop
  have hcl := hset.closed
  have hzero : op.settledAmount.units = 0 := by
    refine h.unpaid op hmem ?_ ?_ ?_ <;>
    · intro hst
      rw [hst] at hopen
      cases hopen
  have hst : settled.status ≠ .reversed ∧
      (settled.status ≠ .settled → settled.status ≠ .partiallySettled → charge.amount = 0) := by
    rw [hcl.status, settlementStatus]
    split
    · next hnot =>
      refine ⟨?_, fun _ _ => hnot⟩
      split <;> simp
    · split <;> simp
  have hbef : op.status ≠ .reversed := by
    intro hrv
    rw [hrv] at hopen
    cases hopen
  refine h.replace hmem hset.operations hcl.key hcl.walletId
    (postSettlement_charged hset.amount_nonneg hset.ledger) ?_ (fun hs hp _ => ?_)
    fun hrv => absurd hrv hst.1
  · rw [if_neg hbef, if_neg hst.1, if_pos rfl, hzero, zero_add, hcl.settledAmount]
  · rw [hcl.settledAmount]
    exact hst.2 hs hp

end

variable {req : LateUsageRequest}

theorem Adjusts.charged (h : Adjusts s req op corrected db adjusted db') :
    db.ledger.Charged (some op.id) (fun id => if id = op.walletId then
      corrected.units - op.settledAmount.units else 0) db'.ledger := by
  rcases h.moved with ⟨hsame, _, hld, _⟩ | ⟨_, htr, _⟩
  · rw [hld, hsame]
    simpa only [sub_self, ite_self] using Charged.refl db.ledger (some op.id)
  · simpa only [neg_sub, ExternalKey.operationId?] using htr.charged

theorem Debited.adjust (h : Debited db) (hop : db.operations.find? req.operationId = some op)
    (hst : op.status ≠ .reversed)
    (hadj : Adjusts s req op corrected db adjusted db') : Debited db' := by
  obtain ⟨hmem, _⟩ := found hop
  obtain rfl := hadj.written
  have haf : (op.correct s req corrected).status ≠ .reversed := by
    simp only [FundingOperation.correct]
    split <;> simp
  refine h.replace hmem hadj.operations rfl rfl hadj.charged ?_ (fun hset _ _ => ?_)
    fun hrv => absurd hrv haf
  · rw [if_neg hst, if_neg haf, if_pos rfl, add_sub_cancel]
    rfl
  · simp only [FundingOperation.correct] at hset ⊢
    split at hset
    · assumption
    · exact absurd rfl hset

theorem Debited.reverse {reversed : FundingOperation}
    (h : Debited db) (hmem : op ∈ db.operations.rows) (hst : op.status ≠ .reversed)
    (hpos : 0 < op.settledAmount.units)
    (hrv : Reverses s op idempotencyKey db reversed db') : Debited db' := by
  obtain ⟨_, _, hrd⟩ := hrv.promotions
  obtain ⟨_, _, _, rfl⟩ := FundingOperation.reverse_eq_ok hrd
  refine h.replace hmem hrv.operations rfl rfl hrv.transfer.charged ?_
    (fun _ _ hnot => absurd rfl hnot) fun _ => hpos
  rw [if_neg hst, if_pos rfl, if_pos rfl, add_neg_cancel]

theorem Reconciles.charged {caseId : Uuid} (h : Reconciles s caseId journal idempotencyKey db db') :
    db.ledger.Charged (ownerIn db.ledger.journals.rows journal.id)
      (fun id => -db.ledger.debitOf id journal) db'.ledger := by
  obtain ⟨reversal, hpos, hrv⟩ := h.posted
  have hch := hpos.charged
  have hown : db.ledger.ownerOf reversal = ownerIn db.ledger.journals.rows journal.id := by
    rw [ownerOf, hrv.externalKey, hrv.reversalOf]
    rfl
  have hdb (id : Uuid) : db.ledger.debitOf id reversal = -db.ledger.debitOf id journal := by
    rw [debitOf, hrv.net, hrv.net, ← neg_add, debitOf]
  rw [hown] at hch
  simpa only [hdb] using hch

/-- The call does not report new usage of a reversed operation, and a journal it newly reverses has
taken nothing from the wallet of the operation it belongs to. -/
def KeepsDebit (db : Db) : Session × Call → Prop
  | (_, .adjustLateFundingUsage request) => ∀ operation ∈ db.operations.find? request.operationId,
      operation.status = .reversed → request.replayed db
  | (_, .resolveReconciliationCase request) => request.replayed db = false →
      ∀ sourceJournalId ∈ request.sourceJournalId,
      ∀ journal ∈ db.ledger.journals.find? sourceJournalId, ∀ operation ∈ db.operations.rows,
      ownerIn db.ledger.journals.rows journal.id = some operation.id →
      db.ledger.debitOf operation.walletId journal = 0
  | _ => True

theorem Debited.step {st : Db} (h : Debited db) (hk : KeepsDebit db (s, call))
    (hexec : exec (s, call) db = .ok st) : Debited st := by
  cases exec_committed hexec with
  | quiet hq => exact h.quiet hq
  | reserve _ _ _ _ hrs => exact h.reserve hrs
  | settle hop hopen _ hset => exact h.settle hop hopen hset
  | @adjust req op _ _ _ hop _ _ hnew hadj =>
    refine h.adjust hop (fun hre => ?_) hadj
    obtain ⟨row, hrow, hboth⟩ := List.any_eq_true.mp (hk op hop hre)
    have hid : op.id = req.operationId := (found hop).2
    exact hnew row hrow (by simpa [hid] using hboth)
  | reverse hop hst hpos hrv =>
    exact h.reverse (found hop).1 hst hpos hrv
  | manual hmn => exact h.of_transfer hmn.operations hmn.transfer rfl
  | credit _ _ hcall | completeRefund _ _ hcall | chargeback _ _ hcall =>
    exact h.of_transfer hcall.funding.operations hcall.transfer rfl
  | createRefund _ _ hcall | failRefund _ _ hcall =>
    exact h.of_ledger hcall.funding.operations hcall.ledger
  | reconcile _ _ _ =>
    rcases resolveReconciliationCase_cases hexec with
      ⟨hq, _⟩ | ⟨sourceJournalId, caseId, journal, hnew, hsr, hj, hrec⟩
    · exact h.quiet hq
    · refine h.of_same hrec.operations hrec.charged (fun op hmem hown => ?_) fun id hown => ?_
      · rw [hk hnew sourceJournalId hsr journal hj op hmem hown, neg_zero]
      · exact h.stored id ⟨journal, hrec.source, hown⟩

/-- A settled operation has debited its settled amount, and an operation that was released, failed or
reversed, or is still in flight, has debited nothing. -/
def DebitMatches (db : Db) : Prop :=
  ∀ operation ∈ db.operations.rows, db.ledger.netDebit operation.id operation.walletId =
    if operation.status = .settled ∨ operation.status = .partiallySettled then
      operation.settledAmount.units
    else 0

theorem Debited.matches (h : Debited db) : DebitMatches db := by
  intro op hmem
  rw [h.net op hmem]
  have hun := h.unpaid op hmem
  cases hst : op.status <;> simp_all

theorem Debited.not_matches_of_adjust (h : Debited db) (hop : db.operations.find? req.operationId = some op)
    (hst : op.status = .reversed)
    (hadj : Adjusts s req op corrected db adjusted db') : ¬DebitMatches db' := by
  intro hmt
  obtain ⟨hmem, _⟩ := found hop
  obtain rfl := hadj.written
  have hkey : Keyed.key (op.correct s req corrected) = Keyed.key op := rfl
  have hstor : op.correct s req corrected ∈ db'.operations.rows := by
    rw [hadj.operations]
    exact (mem_replace hmem hkey).mpr (.inl rfl)
  have hpaid := h.paid op hmem hst
  have hnet : db'.ledger.netDebit op.id op.walletId =
      corrected.units - op.settledAmount.units := by
    rw [hadj.charged.net, h.net op hmem, if_pos hst, if_pos rfl, if_pos rfl, zero_add]
  have haf := hmt _ hstor
  simp only [FundingOperation.correct] at haf
  by_cases hzero : corrected.units = 0
  · omega
  · simp only [hzero, if_false, true_or, if_true] at haf
    omega

theorem Debited.keeps_of_matches {st : Db} (h : Debited db) (hexec : exec (s, call) db = .ok st)
    (hmt : DebitMatches st) : KeepsDebit db (s, call) := by
  cases call with
  | adjustLateFundingUsage req =>
    intro op hop hrv
    obtain ⟨_, hrs, rfl⟩ := map_eq_ok.mp hexec
    obtain ⟨_, found, hf, _, ⟨hrp, _⟩ | ⟨_, _, hadj⟩⟩ := adjustLateFundingUsage_cases hrs
    · exact hrp
    · obtain rfl := mem_unique hf hop
      exact absurd hmt (h.not_matches_of_adjust hop hrv hadj)
  | resolveReconciliationCase req =>
    intro hnew sourceJournalId hsr journal hj op hmem hown
    rcases resolveReconciliationCase_cases hexec with
      ⟨_, hrp | hnone⟩ | ⟨source, caseId, journal', _, hsr', hj', hrec⟩
    · rw [hnew] at hrp
      cases hrp
    · rw [hnone] at hsr
      cases hsr
    · obtain rfl := mem_unique hsr' hsr
      obtain rfl := mem_unique hj' hj
      -- The operation is unchanged, so what it should have debited is what it had debited.
      have hbef := h.matches op hmem
      have haf := hmt op (hrec.operations ▸ hmem)
      rw [hrec.charged.net, if_pos hown] at haf
      omega
  | _ => trivial

theorem Genesis.debited (h : Genesis db) : Debited db := by
  refine ⟨?_, ?_, ?_, ?_⟩
  · simp [h.operations]
  · simp [h.operations]
  · simp [h.operations]
  · simp [Owns, h.journals]

/-- In every history that reports no new usage of reversed operations and reverses no journal of an
operation that moved money out of or into its wallet, the journals of every operation have debited its
settled amount, or nothing when it is not settled; and the next committed call keeps it so exactly
when it does neither. -/
theorem netDebit_eq_settledAmount (h : Genesis db) (calls : List (Session × Call))
    (hcalls : Along exec KeepsDebit db calls) :
    DebitMatches (run exec db calls) ∧
      ∀ s call st, exec (s, call) (run exec db calls) = .ok st →
        (DebitMatches st ↔ KeepsDebit (run exec db calls) (s, call)) := by
  have hrun : Debited (run exec db calls) :=
    run_invariant (fun st inv st' hinv hk hexec => hinv.step hk hexec) h.debited hcalls
  refine ⟨hrun.matches, fun s call st hexec => ⟨hrun.keeps_of_matches hexec, fun hk => ?_⟩⟩
  exact (hrun.step hk hexec).matches

/-- A request that is settled, corrected and reversed. -/
def demoReversedUsage : List (Session × Call) :=
  demoUsage ++
    [(demoSession 4, .adjustLateFundingUsage (demoLate ((demoSession 2).uuid .operation) "late" 20)),
      (demoSession 5, .reverseFunding ((demoSession 2).uuid .operation) "undo" "wrong")]

/-- The hypothesis is met by a settlement, a correction and a reversal, which leave nothing debited. -/
theorem netDebit_eq_settledAmount_demo : (run exec demoDb demoReversedUsage).operations.rows.map (fun op =>
        (op.status, op.settledAmount.units)) = [(.reversed, 20)] ∧
      (run exec demoDb demoReversedUsage).wallets.rows.map (fun wallet =>
        wallet.availableBalance.units) = [100] ∧
      DebitMatches (run exec demoDb demoReversedUsage) := by
  refine ⟨by decide +kernel, by decide +kernel, (netDebit_eq_settledAmount demoDb_genesis demoReversedUsage ?_).1⟩
  refine ⟨trivial, trivial, trivial, ?_, trivial, trivial⟩
  simp only [KeepsDebit]
  decide +kernel

/-- The charge of an operation is compensated twice: by the reversal of the operation, and by the
reversal of its settlement for a reconciliation case. -/
def demoTwiceCompensated : List (Session × Call) :=
  demoUsage ++
    [(demoSession 4, .reverseFunding ((demoSession 2).uuid .operation) "undo" "wrong"),
      (demoSession 5, .resolveReconciliationCase (demoReversal 1 ((demoSession 3).uuid .journal)))]

/-- Usage of 50 units is reported after the operation that settled 30 was reversed. -/
def demoLateAfterReversal : List (Session × Call) :=
  demoUsage ++
    [(demoSession 4, .reverseFunding ((demoSession 2).uuid .operation) "undo" "wrong"),
      (demoSession 5, .adjustLateFundingUsage (demoLate ((demoSession 2).uuid .operation) "late" 50))]

/-- A recharge of 100 units and one request that settled 30 end with 130 units in the wallet and a
reversed operation, or with a settled amount of 50 of which 20 were debited. -/
theorem netDebit_of_two_compensations : (run exec demoDb demoTwiceCompensated).wallets.rows.map (fun wallet =>
        wallet.availableBalance.units + wallet.reservedBalance.units) = [130] ∧
      (run exec demoDb demoTwiceCompensated).operations.rows.map (fun op =>
        (op.status, (run exec demoDb demoTwiceCompensated).ledger.netDebit op.id
          op.walletId)) = [(.reversed, -30)] ∧
      (run exec demoDb demoLateAfterReversal).operations.rows.map (fun op =>
        (op.status, op.settledAmount.units,
          (run exec demoDb demoLateAfterReversal).ledger.netDebit op.id op.walletId)) =
        [(.settled, 50, 20)] ∧
      ¬DebitMatches (run exec demoDb demoTwiceCompensated) ∧
      ¬DebitMatches (run exec demoDb demoLateAfterReversal) := by
  refine ⟨by decide +kernel, by decide +kernel, by decide +kernel, ?_, ?_⟩ <;>
  · unfold DebitMatches
    decide +kernel

end ModelDock.Store
