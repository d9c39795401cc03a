import ModelDock.Store.System

/-!
# Wallet balances are projections of the ledger

The money paths compute the balance columns and the journal lines independently; both move by the same amounts
in every path. Reversals need that a journal touches the accounts of its own wallet only.
-/

namespace ModelDock.Store

open Relational Accounting ModelDock.Numeric Table

variable {req : FundingSettlementRequest} {charge : SettlementCharge} {consumed : ℤ}

/-- The ledger changes the accounts of one wallet by the given amounts, and those of no other. -/
def Ledger.Moved (ledger : Ledger) (walletId : Uuid) (available reserved : ℤ) (ledger' : Ledger) : Prop :=
  ∀ id kind, ledger'.balance (walletAccountKey id kind) = ledger.balance (walletAccountKey id kind) +
    if id = walletId then perAccount available reserved kind else 0

variable {ledger ledger' ledger'' : Ledger} {journal : Journal} {walletId : Uuid}
  {available reserved : ℤ}

theorem Ledger.Posted.moved (h : ledger.Posted journal ledger')
    (hmov : journal.Moves ledger walletId available reserved) :
    ledger.Moved walletId available reserved ledger' := by
  intro _ _
  rw [h.balance, hmov.net]

theorem Ledger.moved_refl (ledger : Ledger) (walletId : Uuid) : ledger.Moved walletId 0 0 ledger := by
  intro _ kind
  cases kind <;> simp [perAccount]

theorem Ledger.Moved.trans {a r : ℤ} (h : ledger.Moved walletId available reserved ledger')
    (h' : ledger'.Moved walletId a r ledger'') :
    ledger.Moved walletId (available + a) (reserved + r) ledger'' := by
  intro id kind
  rw [h' id kind, h id kind, add_assoc]
  cases kind <;> (simp only [perAccount]; split <;> simp)

/-- Every journal keeps to its own wallet. -/
def Ledger.Owned (ledger : Ledger) : Prop :=
  ∀ journal ∈ ledger.journals.rows, ∀ id, journal.walletId ≠ some id →
    ∀ kind, ledger.journalNet (walletAccountKey id kind) journal = 0

/-- Every balance is the balance of its account, and journals keep to their own wallet. -/
structure Projected (wallets : Table Wallet) (ledger : Ledger) : Prop where
  balance : ∀ wallet ∈ wallets.rows, ∀ kind,
    wallet.balance kind = ledger.balance (walletAccountKey wallet.id kind)
  owned : ledger.Owned

variable {wallets wallets' : Table Wallet} {wallet wallet' : Wallet}

theorem balance_of_moved (h : ∀ wallet ∈ wallets.rows, ∀ kind,
      wallet.balance kind = ledger.balance (walletAccountKey wallet.id kind))
    (hw : wallets.find? walletId = some wallet) (hmv : wallet.Moved available reserved wallet')
    (hld : ledger.Moved walletId available reserved ledger') :
    ∀ x ∈ (wallets.replace wallet').rows, ∀ kind,
      x.balance kind = ledger'.balance (walletAccountKey x.id kind) := by
  obtain ⟨hmem, hid⟩ := found hw
  have hid : wallet.id = walletId := hid
  have hid' : wallet'.id = walletId := (congrArg WalletKey.id hmv.key).trans hid
  intro x hx kind
  rcases (mem_replace hmem hmv.key).mp hx with rfl | ⟨hxmem, hne⟩
  · rw [hmv.balance, h wallet hmem, hld, hid, hid', if_pos rfl]
  · have hxid : x.id ≠ walletId := fun heq => hne (heq.trans hid'.symm)
    rw [h x hxmem, hld, if_neg hxid, add_zero]

theorem owned_of_posted (h : ledger.Owned) (hpos : ledger.Posted journal ledger')
    (hnew : ∀ id, journal.walletId ≠ some id → ∀ kind,
      ledger.journalNet (walletAccountKey id kind) journal = 0) :
    ledger'.Owned := by
  intro x hx id hid kind
  rw [Ledger.journalNet_congr hpos.accounts]
  rw [hpos.rows, List.mem_cons] at hx
  rcases hx with rfl | hx
  · exact hnew id hid kind
  · exact h x hx id hid kind

theorem Journal.Moves.owned (h : journal.Moves ledger walletId available reserved) (id : Uuid)
    (hid : journal.walletId ≠ some id) (kind : WalletAccount) :
    ledger.journalNet (walletAccountKey id kind) journal = 0 := by
  have hne : id ≠ walletId := fun heq => hid (heq ▸ h.owner)
  rw [h.net, if_neg hne]

theorem Projected.of_view (h : Projected wallets ledger)
    (hview : wallets'.view Wallet.books = wallets.view Wallet.books) : Projected wallets' ledger := by
  refine ⟨fun wallet hw kind => ?_, h.owned⟩
  obtain ⟨old, hold, hbk⟩ := mem_of_view hview hw
  simp only [Wallet.books, Prod.mk.injEq] at hbk
  obtain ⟨hid, _, _, hav, hrs⟩ := hbk
  have hbl := h.balance old hold kind
  rw [hid] at hbl
  cases kind
  · exact (congrArg Numeric.units hav).symm.trans hbl
  · exact (congrArg Money.units hrs).symm.trans hbl

theorem Projected.posted (h : Projected wallets ledger) (hpos : ledger.Posted journal ledger')
    (hmov : journal.Moves ledger walletId available reserved)
    (hw : wallets.find? walletId = some wallet) (hmv : wallet.Moved available reserved wallet') :
    Projected (wallets.replace wallet') ledger' :=
  ⟨balance_of_moved h.balance hw hmv (hpos.moved hmov),
    owned_of_posted h.owned hpos hmov.owned⟩

theorem Projected.transfer {s : Session} {delta : ℤ} {journalType : JournalType}
    {externalKey : ExternalKey} {db db' : Db} (h : Projected db.wallets db.ledger)
    (htr : Transfer s walletId delta journalType externalKey db db') :
    Projected db'.wallets db'.ledger := by
  obtain ⟨_, hpos, hmov, _⟩ := htr.posted
  obtain ⟨_, _, hw, hmv, hws⟩ := htr.wallets
  rw [hws]
  exact h.posted hpos hmov hw hmv

variable (walletId : Uuid)

theorem linesNet_reservationLines (maximum : ℤ) :
    LinesMove (reservationLines walletId maximum) walletId (-maximum) maximum := by
  rintro id (_ | _) <;> simp [reservationLines, walletAccountKey, JournalLine.posting, Posting.signed,
    perAccount, eq_comm]

theorem linesNet_releaseLines (release : ℤ) :
    LinesMove (releaseLines walletId release) walletId release (-release) := by
  rintro id (_ | _) <;> simp [releaseLines, walletAccountKey, JournalLine.posting, Posting.signed, perAccount,
    eq_comm]

theorem linesNet_debit (account : WalletAccount) (text : String) {amount : ℤ} (ham : 0 ≤ amount)
    (id : Uuid) (kind : WalletAccount) : linesNet (walletAccountKey id kind)
      (if 0 < amount then [⟨walletAccountKey walletId account, .debit, amount, text⟩] else []) =
      if id = walletId ∧ kind = account then -amount else 0 := by
  rcases ham.lt_or_eq with hpos | rfl
  · simp [hpos, walletAccountKey, JournalLine.posting, Posting.signed, eq_comm]
  · simp

theorem linesNet_settlementLines (currency : Currency) {used overage : ℤ} (actual : ℤ)
    (hused : 0 ≤ used) (hover : 0 ≤ overage) :
    LinesMove (settlementLines walletId currency used overage actual) walletId (-overage) (-used) := by
  intro id kind
  rw [settlementLines, linesNet_append, linesNet_append, linesNet_debit _ _ _ hused, linesNet_debit _ _ _ hover]
  cases kind <;> by_cases hid : id = walletId <;> simp [walletAccountKey, systemAccountKey, perAccount]

variable {s : Session} {op settled : FundingOperation} {db db' : Db}

theorem Projected.reserve {maximum : ℚ} {promotion : ℤ} (h : Projected db.wallets db.ledger)
    (hw : wallet ∈ db.wallets.rows) (hmax : 0 ≤ maximum)
    (hrs : Reserves s wallet maximum promotion db op db') :
    Projected db'.wallets db'.ledger := by
  obtain ⟨_, hwr, hws⟩ := hrs.wallets
  have hf : db.wallets.find? wallet.id = some wallet := find?_of_mem hw
  have hmv := Wallet.moved_of_setBalances hwr (sub_eq_add_neg _ _) rfl
  rw [hws]
  have hld := hrs.ledger
  unfold postReservation at hld
  split at hld
  · obtain ⟨_, hpost, has⟩ := postJournalTx_eq_ok hld
    exact h.posted hpost (has.moves (linesNet_reservationLines _ _)) hf hmv
  · next hpos =>
    have hzero : formatRat maximum = 0 := by
      rw [le_antisymm (not_lt.mp hpos) hmax, formatRat_zero]
    rw [hzero] at hmv
    rw [← Except.ok.inj hld]
    exact ⟨balance_of_moved h.balance hf hmv (Ledger.moved_refl _ _), h.owned⟩

theorem postCharge_moved {actual : ℤ} (hac : 0 ≤ actual) (hown : ledger.Owned)
    (h : postCharge s op actual ledger = .ok ledger') :
    ledger.Moved op.walletId
        (-(actual - min actual op.maximumAmount.units))
        (-min actual op.maximumAmount.units) ledger' ∧ ledger'.Owned := by
  have hmax := op.maximumAmount.nonneg
  unfold postCharge at h
  split at h
  · obtain ⟨journal, hpost, has⟩ := postJournalTx_eq_ok h
    have hmov := has.moves
      (linesNet_settlementLines op.walletId op.currency actual (by omega) (by omega))
    exact ⟨hpost.moved hmov, owned_of_posted hown hpost hmov.owned⟩
  · next hpos =>
    cases h
    have hzero : actual = 0 := le_antisymm (not_lt.mp hpos) hac
    have hused : min actual op.maximumAmount.units = 0 := by omega
    rw [hused, hzero]
    exact ⟨Ledger.moved_refl _ _, hown⟩

theorem postRelease_moved {release : ℤ} (hrl : 0 ≤ release) (hown : ledger.Owned)
    (h : postRelease s op release ledger = .ok ledger') :
    ledger.Moved op.walletId release (-release) ledger' ∧ ledger'.Owned := by
  unfold postRelease at h
  split at h
  · obtain ⟨journal, hpost, has⟩ := postJournalTx_eq_ok h
    have hmov := has.moves (linesNet_releaseLines op.walletId release)
    exact ⟨hpost.moved hmov, owned_of_posted hown hpost hmov.owned⟩
  · next hpos =>
    cases h
    rw [le_antisymm (not_lt.mp hpos) hrl]
    exact ⟨Ledger.moved_refl _ _, hown⟩

theorem Projected.settle (h : Projected db.wallets db.ledger)
    (hset : Settles s req op wallet charge consumed db settled db') :
    Projected db'.wallets db'.ledger := by
  obtain ⟨_, hwr, _, hws⟩ := hset.wallets
  have hld := hset.ledger
  simp only [postSettlement, bind_eq_ok] at hld
  obtain ⟨_, hch, hre⟩ := hld
  obtain ⟨hchar, hmid⟩ := postCharge_moved hset.amount_nonneg h.owned hch
  obtain ⟨hrl, hown⟩ := postRelease_moved (by omega) hmid hre
  have hmv := Wallet.moved_of_setBalances hwr
    (show _ = wallet.availableBalance.units +
      (-(charge.amount - min charge.amount op.maximumAmount.units) +
        (op.maximumAmount.units - min charge.amount op.maximumAmount.units)) by omega)
    (show _ = wallet.reservedBalance.units + (-min charge.amount op.maximumAmount.units +
      -(op.maximumAmount.units - min charge.amount op.maximumAmount.units)) by omega)
  rw [hws]
  exact ⟨balance_of_moved h.balance hset.found hmv (hchar.trans hrl), hown⟩

theorem Projected.reconcile {caseId : Uuid} {idempotencyKey : String}
    (h : Projected db.wallets db.ledger) (hrec : Reconciles s caseId journal idempotencyKey db db') :
    Projected db'.wallets db'.ledger := by
  obtain ⟨reversal, hpos, hrv⟩ := hrec.posted
  have hsr := h.owned journal hrec.source
  have hnew : ∀ id, reversal.walletId ≠ some id → ∀ kind,
      db.ledger.journalNet (walletAccountKey id kind) reversal = 0 := by
    intro id hid kind
    rw [hrv.net, hsr id (hrv.walletId ▸ hid), neg_zero]
  refine ⟨?_, owned_of_posted h.owned hpos hnew⟩
  rcases hrec.applied with ⟨hnone, hws, _⟩ | ⟨_, hsome, hap⟩
  · -- A journal of no wallet has no effect on any wallet's account.
    rw [hws]
    intro wallet hw kind
    rw [h.balance wallet hw, hpos.balance, hrv.net, hsr wallet.id (by simp [hnone]),
      neg_zero, add_zero]
  · obtain ⟨wallet, _, hw, hmv, hws⟩ := hap.wallets
    rw [hws]
    refine balance_of_moved h.balance hw hmv (hpos.moved ⟨?_, fun id kind => ?_⟩)
    · exact hrv.walletId.trans hsome
    · rw [hrv.net]
      split
      · next hid =>
        subst hid
        cases kind <;> rfl
      · next hid =>
        have hne : journal.walletId ≠ some id := by
          rw [hsome]
          exact fun heq => hid (Option.some.inj heq).symm
        rw [hsr id hne, neg_zero]

theorem Projected.committed {call : Call} (h : Projected db.wallets db.ledger)
    (hc : Committed s db call db') : Projected db'.wallets db'.ledger := by
  cases hc with
  | quiet hq =>
    rw [hq.ledger]
    exact h.of_view hq.wallets
  | reserve hw _ hmax _ hrs => exact h.reserve hw hmax hrs
  | settle _ _ _ hset => exact h.settle hset
  | adjust _ _ _ _ hadj =>
    rcases hadj.moved with ⟨_, hws, hld, _⟩ | ⟨_, htr, _⟩
    · rw [hws, hld]
      exact h
    · exact h.transfer htr
  | reverse _ _ _ hcall | manual hcall | credit _ _ hcall | completeRefund _ _ hcall | chargeback _ _ hcall =>
    exact h.transfer hcall.transfer
  | createRefund _ _ hcall | failRefund _ _ hcall =>
    rw [hcall.wallets, hcall.ledger]
    exact h
  | reconcile _ _ hrec => exact h.reconcile hrec

theorem Genesis.projected (h : Genesis db) : Projected db.wallets db.ledger := by
  refine ⟨fun wallet hw kind => ?_, fun journal hj => ?_⟩
  · rw [h.balances wallet hw kind, Ledger.balance, sum, h.journals]
    rfl
  · rw [h.journals] at hj
    exact absurd hj List.not_mem_nil

theorem Genesis.projected_run (h : Genesis db) (calls : List (Session × Call)) :
    Projected (run exec db calls).wallets (run exec db calls).ledger := by
  have hstep : ∀ s call (st st' : Db), Projected st.wallets st.ledger → Committed s st call st' →
      Projected st'.wallets st'.ledger := fun _ _ _ _ hinv hc => hinv.committed hc
  exact run_keeps_all hstep h.projected calls

/-- In every reachable state, the stored balances of every wallet are the credits minus debits of
the posted journals on its two accounts, and every posted journal balances. -/
theorem balances_eq_ledger (h : Genesis db) (calls : List (Session × Call)) :
    (∀ wallet ∈ (run exec db calls).wallets.rows,
      wallet.availableBalance.units =
          (run exec db calls).ledger.balance (walletAccountKey wallet.id .available) ∧
        wallet.reservedBalance.units =
          (run exec db calls).ledger.balance (walletAccountKey wallet.id .reserved)) ∧
    ∀ journal ∈ (run exec db calls).ledger.journals.rows, journal.status = .posted →
      Balanced (journal.entries.map JournalEntry.posting) := by
  have hpr := h.projected_run calls
  refine ⟨fun wallet hw => ?_, fun journal _ hpos => (journal.balanced hpos).2.2⟩
  exact ⟨hpr.balance wallet hw .available, hpr.balance wallet hw .reserved⟩

/-- A recharge of 100 units, a reservation of 40 and its settlement with 30. -/
def demoUsage : List (Session × Call) :=
  [(demoSession 1, .creditPaidRecharge 1),
    (demoSession 2, .reserveFunding (demoReservation "a" 40 0)),
    (demoSession 3, .settleFunding (demoSettlement ((demoSession 2).uuid .operation) 30 false))]

/-- After a recharge of 100 units, 40 are reserved. -/
def demoReserved : Db := run exec demoDb (demoUsage.take 2)

/-- After a recharge, a reservation and a settlement, the wallet has 70 units, as its ledger says. -/
theorem balances_eq_ledger_demoUsage : (run exec demoDb demoUsage).wallets.rows.map (fun wallet =>
        (wallet.availableBalance.units, wallet.reservedBalance.units)) = [(70, 0)] ∧
      ∀ wallet ∈ (run exec demoDb demoUsage).wallets.rows, wallet.availableBalance.units =
        (run exec demoDb demoUsage).ledger.balance (walletAccountKey wallet.id .available) := by
  refine ⟨by decide +kernel, fun wallet hw => ?_⟩
  exact ((balances_eq_ledger demoDb_genesis demoUsage).1 wallet hw).1

end ModelDock.Store
