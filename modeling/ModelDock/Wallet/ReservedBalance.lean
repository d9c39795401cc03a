import ModelDock.Store.Lifecycle
import ModelDock.Wallet.LedgerProjection

/-!
# What the reserved balance is for

The reserved balance is what open operations hold plus what reversals of journals moved into it, since a
reversal never looks at operations.
-/

namespace ModelDock.Store

open Relational Accounting Table

variable {op op' : FundingOperation} {caseId : Uuid} {idempotencyKey : String} {maximum : ℚ}
  {operations : Table FundingOperation}

/-- The maxima of the open operations of a wallet. -/
def heldBy (walletId : Uuid) (operations : Table FundingOperation) : ℤ :=
  operations.sum fun operation =>
    if operation.walletId = walletId ∧ operation.status.isOpen then operation.maximumAmount.units
    else 0

/-- What reversals of journals moved into the reserved account of a wallet. -/
def Ledger.reversedInto (ledger : Ledger) (walletId : Uuid) : ℤ :=
  ledger.journals.sum fun journal =>
    if journal.reversalOfJournalId.isSome then
      ledger.journalNet (walletAccountKey walletId .reserved) journal
    else 0

/-- The reserved balance is what open operations hold and what reversals moved in; an open
operation has not charged anything. -/
structure ReservedCovered (db : Db) : Prop where
  reserved : ∀ wallet ∈ db.wallets.rows, wallet.reservedBalance.units =
    heldBy wallet.id db.operations + db.ledger.reversedInto wallet.id
  uncharged : ∀ operation ∈ db.operations.rows, operation.status.isOpen →
    operation.settledAmount.units = 0

variable {s : Session} {call : Call} {db db' : Db} {ledger ledger' : Ledger} {journal : Journal}
  {wallet wallet' : Wallet} {walletId : Uuid} {available reserved : ℤ}

theorem Ledger.Posted.reversedInto (h : ledger.Posted journal ledger') (walletId : Uuid) :
    ledger'.reversedInto walletId = ledger.reversedInto walletId +
      if journal.reversalOfJournalId.isSome then
        ledger.journalNet (walletAccountKey walletId .reserved) journal else 0 := by
  have hnet (x : Journal) : ledger'.journalNet (walletAccountKey walletId .reserved) x =
      ledger.journalNet (walletAccountKey walletId .reserved) x := Ledger.journalNet_congr h.accounts _ x
  simp only [Ledger.reversedInto, sum, hnet, h.rows, List.map_cons, List.sum_cons]
  rw [add_comm]

theorem Ledger.Posted.reversedInto_same (h : ledger.Posted journal ledger')
    (hnone : journal.reversalOfJournalId = none) (walletId : Uuid) :
    ledger'.reversedInto walletId = ledger.reversedInto walletId := by
  rw [h.reversedInto, hnone]
  exact add_zero _

theorem postSettlement_reversedInto {actual : ℤ}
    (h : postSettlement s op actual ledger = .ok ledger') (walletId : Uuid) :
    ledger'.reversedInto walletId = ledger.reversedInto walletId := by
  simp only [postSettlement, bind_eq_ok] at h
  obtain ⟨mid, hch, hrl⟩ := h
  have hmid : mid.reversedInto walletId = ledger.reversedInto walletId := by
    unfold postCharge at hch
    split at hch
    · obtain ⟨journal, hpos, has⟩ := postJournalTx_eq_ok hch
      exact hpos.reversedInto_same has.reversalOf walletId
    · rw [← Except.ok.inj hch]
  unfold postRelease at hrl
  split at hrl
  · obtain ⟨journal, hpos, has⟩ := postJournalTx_eq_ok hrl
    rw [hpos.reversedInto_same has.reversalOf, hmid]
  · rw [← Except.ok.inj hrl, hmid]

theorem postReservation_reversedInto {opId : Uuid}
    (h : postReservation s opId wallet maximum ledger = .ok ledger') (walletId : Uuid) :
    ledger'.reversedInto walletId = ledger.reversedInto walletId := by
  unfold postReservation at h
  split at h
  · obtain ⟨_, hpos, has⟩ := postJournalTx_eq_ok h
    exact hpos.reversedInto_same has.reversalOf walletId
  · rw [← Except.ok.inj h]

theorem heldBy_replace (hmem : op ∈ operations.rows) (hkey : Keyed.key op' = Keyed.key op)
    (hw : op'.walletId = op.walletId) (hcl : op'.status.isOpen = false) (walletId : Uuid) :
    heldBy walletId (operations.replace op') = heldBy walletId operations -
      if op.walletId = walletId ∧ op.status.isOpen then
        op.maximumAmount.units else 0 := by
  rw [heldBy, sum_replace hmem hkey, hw, hcl, heldBy]
  simp only [Bool.false_eq_true, and_false, if_false, add_zero]

theorem heldBy_rewrite (hmem : op ∈ db.operations.rows) (hop : db'.operations = db.operations.replace op')
    (hkey : Keyed.key op' = Keyed.key op) (hw : op'.walletId = op.walletId)
    (hcl' : op'.status.isOpen = false) (hcl : op.status.isOpen = false) (walletId : Uuid) :
    heldBy walletId db'.operations = heldBy walletId db.operations := by
  rw [hop, heldBy_replace hmem hkey hw hcl', hcl]
  simp only [Bool.false_eq_true, and_false, if_false, sub_zero]

theorem heldBy_of_view {operations' : Table FundingOperation}
    (h : operations'.view FundingOperation.terms = operations.view FundingOperation.terms)
    (walletId : Uuid) : heldBy walletId operations' = heldBy walletId operations :=
  sum_of_view h fun op =>
    if op.walletId = walletId ∧ op.status.isOpen then op.maximumAmount.units
    else 0

theorem reserved_of_moved (h : ReservedCovered db) (hw : db.wallets.find? walletId = some wallet)
    (hmv : wallet.Moved available reserved wallet') (hws : db'.wallets = db.wallets.replace wallet')
    (hcv : ∀ id, heldBy id db'.operations + db'.ledger.reversedInto id =
      heldBy id db.operations + db.ledger.reversedInto id + if id = walletId then reserved else 0) :
    ∀ x ∈ db'.wallets.rows, x.reservedBalance.units =
      heldBy x.id db'.operations + db'.ledger.reversedInto x.id := by
  intro x hx
  rw [hws] at hx
  obtain ⟨old, hold, hid, _, hrs⟩ := hmv.balances hw hx
  rw [hrs, h.reserved old hold, hcv, hid]

theorem reserved_of_transfer {delta : ℤ} {journalType : JournalType} {externalKey : ExternalKey}
    (h : ReservedCovered db) (htr : Transfer s walletId delta journalType externalKey db db')
    (hheld : ∀ id, heldBy id db'.operations = heldBy id db.operations) :
    ∀ x ∈ db'.wallets.rows, x.reservedBalance.units =
      heldBy x.id db'.operations + db'.ledger.reversedInto x.id := by
  obtain ⟨_, hpos, _, _, _, _, hnone⟩ := htr.posted
  obtain ⟨_, _, hw, hmv, hws⟩ := htr.wallets
  refine reserved_of_moved h hw hmv hws fun id => ?_
  rw [hheld, hpos.reversedInto_same hnone, ite_self, add_zero]

section

variable (h : ReservedCovered db)
include h

theorem uncharged_replace (hmem : op ∈ db.operations.rows) (hop : db'.operations = db.operations.replace op')
    (hkey : Keyed.key op' = Keyed.key op) (hcl : op'.status.isOpen = false) :
    ∀ x ∈ db'.operations.rows, x.status.isOpen → x.settledAmount.units = 0 := by
  intro x hx hopen
  rw [hop, mem_replace hmem hkey] at hx
  rcases hx with rfl | ⟨hx, _⟩
  · rw [hcl] at hopen
    cases hopen
  · exact h.uncharged x hx hopen

theorem ReservedCovered.closed_of_charged
    (hmem : op ∈ db.operations.rows) (hpos : 0 < op.settledAmount.units) :
    op.status.isOpen = false := by
  rw [← Bool.not_eq_true]
  intro hopen
  rw [h.uncharged op hmem hopen] at hpos
  exact lt_irrefl 0 hpos

theorem uncharged_same (hop : db'.operations = db.operations) :
    ∀ x ∈ db'.operations.rows, x.status.isOpen → x.settledAmount.units = 0 := by
  rw [hop]
  exact h.uncharged

theorem ReservedCovered.quiet (hq : Quiet db db') : ReservedCovered db' := by
  refine ⟨fun wallet hw => ?_, fun op hop hopen => ?_⟩
  · obtain ⟨old, hold, hbk⟩ := mem_of_view hq.wallets hw
    simp only [Wallet.books, Prod.mk.injEq] at hbk
    obtain ⟨hid, _, _, _, hrs⟩ := hbk
    rw [← hrs, ← hid, heldBy_of_view hq.operations, hq.ledger]
    exact h.reserved old hold
  · obtain ⟨old, hold, htm⟩ := mem_of_view hq.operations hop
    have hcl : (old.terms.status, old.terms.settledAmount) =
        (op.terms.status, op.terms.settledAmount) := by rw [htm]
    simp only [FundingOperation.terms, Prod.mk.injEq] at hcl
    rw [← hcl.2]
    exact h.uncharged old hold (hcl.1 ▸ hopen)

theorem ReservedCovered.reserve {promotion : ℤ} (hw : wallet ∈ db.wallets.rows)
    (hrs : Reserves s wallet maximum promotion db op db') : ReservedCovered db' := by
  obtain ⟨_, hwr, hws⟩ := hrs.wallets
  have hmv := Wallet.moved_of_setBalances hwr (sub_eq_add_neg _ _) rfl
  have hop := hrs.opened
  refine ⟨reserved_of_moved h (find?_of_mem hw) hmv hws fun id => ?_, fun x hx hopen => ?_⟩
  · rw [postReservation_reversedInto hrs.ledger, heldBy, sum_insert hrs.operations,
      ← heldBy, hop.walletId, hop.status, hop.maximumAmount]
    have hown : (wallet.id = id ∧ FundingStatus.reserved.isOpen) ↔ id = rowId wallet :=
      ⟨fun hboth => hboth.1.symm, fun heq => ⟨heq.symm, rfl⟩⟩
    simp only [hown]
    omega
  · rcases (mem_insert hrs.operations).mp hx with rfl | hx
    · exact hop.settledAmount
    · exact h.uncharged x hx hopen

theorem ReservedCovered.settle {req : FundingSettlementRequest}
    {settled : FundingOperation} {charge : SettlementCharge} {consumed : ℤ}
    (hop : db.operations.find? req.operationId = some op) (hopen : op.status.isOpen)
    (hset : Settles s req op wallet charge consumed db settled db') :
    ReservedCovered db' := by
  obtain ⟨hmem, _⟩ := found hop
  obtain ⟨_, hwr, _, hws⟩ := hset.wallets
  have hcl : settled.status.isOpen = false := by
    rw [hset.closed.status, settlementStatus_closed]
  have hmv := Wallet.moved_of_settle hwr
  refine ⟨reserved_of_moved h hset.found hmv hws fun id => ?_,
    uncharged_replace h hmem hset.operations hset.closed.key hcl⟩
  rw [postSettlement_reversedInto hset.ledger, hset.operations,
    heldBy_replace hmem hset.closed.key hset.closed.walletId hcl]
  have hown : (op.walletId = id ∧ op.status.isOpen) ↔ id = op.walletId :=
    ⟨fun hboth => hboth.1.symm, fun heq => ⟨heq.symm, hopen⟩⟩
  simp only [hown]
  split <;> omega

theorem ReservedCovered.reconcile (hpr : Projected db.wallets db.ledger)
    (hrec : Reconciles s caseId journal idempotencyKey db db') : ReservedCovered db' := by
  obtain ⟨_, hpos, hrv⟩ := hrec.posted
  have hinto (id : Uuid) : db'.ledger.reversedInto id = db.ledger.reversedInto id -
      db.ledger.journalNet (walletAccountKey id .reserved) journal := by
    rw [hpos.reversedInto, hrv.reversalOf, hrv.net]
    exact (sub_eq_add_neg _ _).symm
  have hown := hpr.owned journal hrec.source
  refine ⟨?_, uncharged_same h hrec.operations⟩
  rcases hrec.applied with ⟨hnone, hws, _⟩ | ⟨_, hsome, hap⟩
  · intro wallet hw
    rw [hws] at hw
    rw [hrec.operations, hinto, hown wallet.id (by simp [hnone]), sub_zero]
    exact h.reserved wallet hw
  · obtain ⟨wallet, _, hw, hmv, hws⟩ := hap.wallets
    refine reserved_of_moved h hw hmv hws fun id => ?_
    rw [hrec.operations, hinto]
    split
    · next hid =>
      subst hid
      omega
    · next hid =>
      have hne : journal.walletId ≠ some id := by
        rw [hsome]
        exact fun heq => hid (Option.some.inj heq).symm
      rw [hown id hne]
      omega

theorem ReservedCovered.committed (hpr : Projected db.wallets db.ledger)
    (hc : Committed s db call db') : ReservedCovered db' := by
  cases hc with
  | quiet hq => exact h.quiet hq
  | reserve hw _ _ _ hrs => exact h.reserve hw hrs
  | settle hop hopen _ hset => exact h.settle hop hopen hset
  | adjust hop hcl _ _ hadj =>
    obtain ⟨hmem, _⟩ := found hop
    obtain rfl := hadj.written
    have hcr := FundingOperation.correct_closed
    have hheld := heldBy_rewrite hmem hadj.operations rfl rfl (hcr _ _ _ _) hcl
    refine ⟨?_, uncharged_replace h hmem hadj.operations rfl (hcr _ _ _ _)⟩
    rcases hadj.moved with ⟨_, hws, hld, _⟩ | ⟨_, htr, _⟩
    · intro wallet hw
      rw [hws] at hw
      rw [hheld, hld]
      exact h.reserved wallet hw
    · exact reserved_of_transfer h htr hheld
  | @reverse _ _ _ _ _ _ hop _ hpos hrv =>
    obtain ⟨hmem, _⟩ := found hop
    obtain ⟨_, _, hrd⟩ := hrv.promotions
    obtain ⟨_, _, _, rfl⟩ := FundingOperation.reverse_eq_ok hrd
    have hcl := h.closed_of_charged hmem hpos
    have hheld := heldBy_rewrite hmem hrv.operations rfl rfl rfl hcl
    exact ⟨reserved_of_transfer h hrv.transfer hheld, uncharged_replace h hmem hrv.operations rfl rfl⟩
  | manual hmn =>
    refine ⟨reserved_of_transfer h hmn.transfer fun id => ?_, uncharged_same h hmn.operations⟩
    rw [hmn.operations]
  | credit _ _ hcall | completeRefund _ _ hcall | chargeback _ _ hcall =>
    refine ⟨reserved_of_transfer h hcall.transfer fun id => ?_, uncharged_same h hcall.funding.operations⟩
    rw [hcall.funding.operations]
  | createRefund _ _ hcall | failRefund _ _ hcall =>
    refine ⟨?_, uncharged_same h hcall.funding.operations⟩
    rw [hcall.wallets, hcall.funding.operations, hcall.ledger]
    exact h.reserved
  | reconcile _ _ hrec => exact h.reconcile hpr hrec

end

theorem Genesis.reservedCovered (h : Genesis db) : ReservedCovered db := by
  refine ⟨fun wallet hw => ?_, ?_⟩
  · have hzero : wallet.reservedBalance.units = 0 := h.balances wallet hw .reserved
    simp [hzero, heldBy, Ledger.reversedInto, sum, h.operations, h.journals]
  · simp [h.operations]

theorem Committed.reversedInto (h : Committed s db call db') :
    (∀ id, db'.ledger.reversedInto id = db.ledger.reversedInto id) ∨
      ∃ req sourceJournalId caseId journal, call = .resolveReconciliationCase req ∧
        req.sourceJournalId = some sourceJournalId ∧
        db.ledger.journals.find? sourceJournalId = some journal ∧
        Reconciles s caseId journal req.idempotencyKey db db' := by
  have htr {walletId : Uuid} {delta : ℤ} {journalType : JournalType} {externalKey : ExternalKey}
      (ht : Transfer s walletId delta journalType externalKey db db') (id : Uuid) :
      db'.ledger.reversedInto id = db.ledger.reversedInto id := by
    obtain ⟨journal, hpos, _, _, _, _, hnone⟩ := ht.posted
    exact hpos.reversedInto_same hnone id
  cases h with
  | quiet hcall | createRefund _ _ hcall | failRefund _ _ hcall => exact .inl fun id => by rw [hcall.ledger]
  | reserve _ _ _ _ hrs => exact .inl (postReservation_reversedInto hrs.ledger)
  | settle _ _ _ hset => exact .inl (postSettlement_reversedInto hset.ledger)
  | adjust _ _ _ _ hadj =>
    rcases hadj.moved with ⟨_, _, hld, _⟩ | ⟨_, ht, _⟩
    · exact .inl fun id => by rw [hld]
    · exact .inl (htr ht)
  | reverse _ _ _ hrv | manual hrv | credit _ _ hrv | completeRefund _ _ hrv
  | chargeback _ _ hrv => exact .inl (htr hrv.transfer)
  | reconcile hsr hj hrec => exact .inr ⟨_, _, _, _, rfl, hsr, hj, hrec⟩

theorem Reconciles.reversedInto (h : Reconciles s caseId journal idempotencyKey db db') (id : Uuid) :
    db'.ledger.reversedInto id = db.ledger.reversedInto id -
      db.ledger.journalNet (walletAccountKey id .reserved) journal := by
  obtain ⟨_, hpos, hrv⟩ := h.posted
  rw [hpos.reversedInto, hrv.reversalOf, hrv.net]
  exact (sub_eq_add_neg _ _).symm

/-- The reserved balance of every wallet is the sum of the maxima of its open operations. -/
def ReservedIsHeld (db : Db) : Prop :=
  ∀ wallet ∈ db.wallets.rows, wallet.reservedBalance.units = heldBy wallet.id db.operations

/-- A journal the call newly reverses leaves the reserved account of its wallet alone. -/
def KeepsReserved (db : Db) (invocation : Session × Call) : Prop :=
  ∀ request sourceJournalId journal walletId, invocation.2 = .resolveReconciliationCase request →
    request.replayed db = false → request.sourceJournalId = some sourceJournalId →
    db.ledger.journals.find? sourceJournalId = some journal → journal.walletId = some walletId →
    db.ledger.journalNet (walletAccountKey walletId .reserved) journal = 0

/-- Nothing was moved into a reserved account by reversals. -/
structure Unreversed (db : Db) : Prop where
  projected : Projected db.wallets db.ledger
  covered : ReservedCovered db
  none : ∀ id, db.ledger.reversedInto id = 0

theorem Unreversed.isHeld (h : Unreversed db) : ReservedIsHeld db := by
  intro wallet hw
  rw [h.covered.reserved wallet hw, h.none, add_zero]

theorem Unreversed.step {st : Db} (h : Unreversed db) (hk : KeepsReserved db (s, call))
    (hexec : exec (s, call) db = .ok st) : Unreversed st := by
  have hc := exec_committed hexec
  refine ⟨h.projected.committed hc, h.covered.committed h.projected hc, fun id => ?_⟩
  rcases hc.reversedInto with hsame | ⟨req, _, _, _, rfl, _⟩
  · rw [hsame, h.none]
  · rcases resolveReconciliationCase_cases hexec with
      ⟨hq, _⟩ | ⟨sourceJournalId, caseId, journal, hnew, hsr, hj, hrec⟩
    · rw [hq.ledger, h.none]
    · have hnet : db.ledger.journalNet (walletAccountKey id .reserved) journal = 0 := by
        by_cases hown : journal.walletId = some id
        · exact hk req sourceJournalId journal id rfl hnew hsr hj hown
        · exact h.projected.owned journal hrec.source id hown .reserved
      rw [hrec.reversedInto, hnet, sub_zero, h.none]

theorem Unreversed.keeps_of_isHeld {st : Db} (h : Unreversed db) (hexec : exec (s, call) db = .ok st)
    (hheld : ReservedIsHeld st) : KeepsReserved db (s, call) := by
  rintro _ sourceJournalId journal walletId rfl hnew hsr hj hown
  rcases resolveReconciliationCase_cases hexec with
    ⟨_, hrp | hnone⟩ | ⟨source, caseId, journal', _, hsr', hj', hrec⟩
  · rw [hnew] at hrp
    cases hrp
  · rw [hsr] at hnone
    cases hnone
  · obtain rfl := Option.mem_unique hsr' hsr
    obtain rfl := Option.mem_unique hj' hj
    rcases hrec.applied with ⟨hnow, _⟩ | ⟨walletId', hown', hap⟩
    · rw [hnow] at hown
      cases hown
    · obtain rfl := Option.mem_unique hown' hown
      obtain ⟨_, wallet', hw, hmv, hws⟩ := hap.wallets
      obtain ⟨hmem, hid⟩ := found hw
      have hid' : wallet'.id = walletId' := (congrArg WalletKey.id hmv.key).trans hid
      have hstor : wallet' ∈ st.wallets.rows := by
        rw [hws]
        exact (mem_replace hmem hmv.key).mpr (.inl rfl)
      -- The cover of the new state says what the reversal moved into the reserved account.
      have hcv := (h.covered.reconcile h.projected hrec).reserved wallet' hstor
      rw [hheld wallet' hstor, hrec.reversedInto, h.none, hid'] at hcv
      omega

/-- In every history whose reversals leave the reserved accounts alone, the reserved balance of
every wallet is the sum of the maxima of its open operations; and the next committed call keeps it
so exactly when it does not reverse a journal that moved reserved money. -/
theorem reserved_eq_open_maxima (h : Genesis db) (calls : List (Session × Call))
    (hcalls : Along exec KeepsReserved db calls) :
    ReservedIsHeld (run exec db calls) ∧
      ∀ s call st, exec (s, call) (run exec db calls) = .ok st →
        (ReservedIsHeld st ↔ KeepsReserved (run exec db calls) (s, call)) := by
  have hgn : Unreversed db := by
    refine ⟨h.projected, h.reservedCovered, fun id => ?_⟩
    simp [Ledger.reversedInto, sum, h.journals]
  have hrun : Unreversed (run exec db calls) :=
    run_invariant (fun st inv st' hinv hk hexec => hinv.step hk hexec) hgn hcalls
  refine ⟨hrun.isHeld, fun s call st hexec => ⟨hrun.keeps_of_isHeld hexec, fun hk => ?_⟩⟩
  exact (hrun.step hk hexec).isHeld

/-- The hypothesis is met by a recharge, a reservation and a settlement, which leave nothing reserved. -/
theorem reserved_eq_open_maxima_demoUsage :
    (run exec demoDb demoUsage).wallets.rows.map (fun wallet => wallet.reservedBalance.units) = [0] ∧
      ReservedIsHeld (run exec demoDb demoUsage) := by
  refine ⟨by decide +kernel, (reserved_eq_open_maxima demoDb_genesis demoUsage ?_).1⟩
  refine ⟨?_, ?_, ?_, trivial⟩
  all_goals
    rintro _ _ _ _ hcall
    cases hcall

/-- The settlement of a request of 30 units is reversed by a reconciliation case. -/
def demoReversedSettlement : List (Session × Call) :=
  demoUsage ++ [(demoSession 4, .resolveReconciliationCase (demoReversal 1 ((demoSession 3).uuid .journal)))]

/-- After the reversal of its settlement the operation is settled and nothing is in flight, but 30
units stand in the reserved balance. -/
theorem reserved_of_reversed_settlement : (run exec demoDb demoReversedSettlement).wallets.rows.map (fun wallet =>
        (wallet.availableBalance.units, wallet.reservedBalance.units)) = [(70, 30)] ∧
      (run exec demoDb demoReversedSettlement).operations.rows.map (fun op =>
        op.status) = [.settled] ∧
      ¬ReservedIsHeld (run exec demoDb demoReversedSettlement) := by
  refine ⟨by decide +kernel, by decide +kernel, ?_⟩
  unfold ReservedIsHeld
  decide +kernel

end ModelDock.Store
