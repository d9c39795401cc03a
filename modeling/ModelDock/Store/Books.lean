import ModelDock.Store.Journal
import ModelDock.Store.Wallets

/-!
# One movement in the books of a wallet

A money path shows in the books as a movement of one wallet's accounts and of its row. `Transfer` is a change of
the available balance with one journal and one wallet transaction.
-/

namespace ModelDock.Store

open Relational Accounting

variable {wallet wallet' : Wallet} {available reserved : ℤ} {walletId : Uuid} {journalType : JournalType}
  {externalKey : ExternalKey} {lines : List JournalLine}

/-- A movement of both accounts of a wallet. -/
def perAccount (available reserved : ℤ) : WalletAccount → ℤ
  | .available => available
  | .reserved => reserved

/-- A journal of a wallet changes that wallet's accounts by the given amounts, and those of no
other wallet. -/
structure Journal.Moves (journal : Journal) (ledger : Ledger) (walletId : Uuid) (available reserved : ℤ) : Prop where
  owner : journal.walletId = some walletId
  net : ∀ id kind, ledger.journalNet (walletAccountKey id kind) journal =
    if id = walletId then perAccount available reserved kind else 0

/-- A wallet's row changes its balances by the given amounts and keeps its identity. -/
structure Wallet.Moved (wallet : Wallet) (available reserved : ℤ) (wallet' : Wallet) : Prop where
  key : Keyed.key wallet' = Keyed.key wallet
  currency : wallet'.currency = wallet.currency
  balance : ∀ kind, wallet'.balance kind = wallet.balance kind + perAccount available reserved kind

theorem Wallet.moved_of_setBalances {newAvailable newReserved riskExposure : ℤ} {status : WalletStatus}
    (h : wallet.setBalances newAvailable newReserved riskExposure status = .ok wallet')
    (hav : newAvailable = wallet.availableBalance.units + available)
    (hrs : newReserved = wallet.reservedBalance.units + reserved) :
    wallet.Moved available reserved wallet' := by
  obtain ⟨_, _, _, ha, hr, _, rfl⟩ := Wallet.setBalances_eq_ok.mp h
  refine ⟨rfl, rfl, fun kind => ?_⟩
  cases kind
  · exact ha.trans hav
  · exact hr.trans hrs

theorem Wallet.moved_of_addAvailable {units : ℤ}
    (h : wallet.addAvailable units = .ok wallet') : wallet.Moved units 0 wallet' :=
  Wallet.moved_of_setBalances h rfl (add_zero _).symm

theorem Wallet.Moved.balances {wallets : Table Wallet} {x : Wallet} (hmv : wallet.Moved available reserved wallet')
    (hw : wallets.find? walletId = some wallet) (hx : x ∈ (wallets.replace wallet').rows) :
    ∃ old ∈ wallets.rows, old.id = x.id ∧
      x.availableBalance.units = old.availableBalance.units + (if x.id = walletId then available else 0) ∧
      x.reservedBalance.units = old.reservedBalance.units + if x.id = walletId then reserved else 0 := by
  obtain ⟨hmem, hid⟩ := Table.found hw
  have hid' : wallet'.id = walletId := (congrArg WalletKey.id hmv.key).trans hid
  rcases (Table.mem_replace hmem hmv.key).mp hx with rfl | ⟨hx, hne⟩
  · refine ⟨wallet, hmem, hid.trans hid'.symm, ?_, ?_⟩
    · rw [if_pos hid']
      exact hmv.balance .available
    · rw [if_pos hid']
      exact hmv.balance .reserved
  · have hoth : x.id ≠ walletId := fun heq => hne (heq.trans hid'.symm)
    exact ⟨x, hx, rfl, by rw [if_neg hoth, add_zero], by rw [if_neg hoth, add_zero]⟩

/-- Lines that change the accounts of one wallet by the given amounts. -/
def LinesMove (lines : List JournalLine) (walletId : Uuid) (available reserved : ℤ) : Prop :=
  ∀ id kind, linesNet (walletAccountKey id kind) lines =
    if id = walletId then perAccount available reserved kind else 0

theorem Journal.PostedAs.moves {journal : Journal} {ledger : Ledger} {journalId : Uuid}
    (h : journal.PostedAs ledger journalId walletId journalType externalKey lines)
    (hln : LinesMove lines walletId available reserved) :
    journal.Moves ledger walletId available reserved := by
  refine ⟨h.walletId, fun id kind => ?_⟩
  rw [Ledger.journalNet, h.postings]
  exact hln id kind

/-- A change of a wallet's available balance with its journal and its wallet transaction. -/
structure Transfer (s : Session) (walletId : Uuid) (delta : ℤ) (journalType : JournalType)
    (externalKey : ExternalKey) (db db' : Db) : Prop where
  posted : ∃ journal, db.ledger.Posted journal db'.ledger ∧ journal.Moves db.ledger walletId delta 0 ∧
    journal.id = s.uuid .journal ∧ journal.journalType = journalType ∧
    journal.externalKey = externalKey ∧ journal.reversalOfJournalId = none
  wallets : ∃ wallet wallet', db.wallets.find? walletId = some wallet ∧ wallet.Moved delta 0 wallet' ∧
    db'.wallets = db.wallets.replace wallet'
  transactions : ∃ row, db.transactions.insert row StoreError.uniqueViolation = .ok db'.transactions ∧
    row.id = s.uuid .transaction ∧ row.walletId = walletId ∧ row.journalId = some (s.uuid .journal) ∧
    row.fundingOperationId = none ∧ row.amount.units = delta

/-- The columns every transfer writes into its transaction row. -/
structure TransactionInput.OfTransfer (input : TransactionInput) (s : Session) (walletId : Uuid)
    (delta : ℤ) : Prop where
  id : input.id = s.uuid .transaction
  owner : input.walletId = walletId
  journalId : input.journalId = some (s.uuid .journal)
  fundingOperationId : input.fundingOperationId = none
  amount : input.amount = delta

/-- A posted journal, its wallet and its transaction move the same amount. -/
theorem Transfer.of_writes {s : Session} {delta : ℤ} {currency : Currency}
    {rechargeOrderId refundOrderId : Option Uuid} {input : TransactionInput} {db db' : Db}
    (hld : postLinkedJournalTx (s.uuid .journal) walletId journalType externalKey currency
      rechargeOrderId refundOrderId lines db.ledger = .ok db'.ledger)
    (hln : LinesMove lines walletId delta 0) (hw : db.wallets.find? walletId = some wallet)
    (hmv : wallet.Moved delta 0 wallet') (hws : db'.wallets = db.wallets.replace wallet')
    (htx : insertTransaction s input db.transactions = .ok db'.transactions)
    (hinp : input.OfTransfer s walletId delta) :
    Transfer s walletId delta journalType externalKey db db' := by
  obtain ⟨journal, hpos, has⟩ := postLinkedJournalTx_eq_ok hld
  simp only [insertTransaction, bind_eq_ok] at htx
  obtain ⟨row, hrow, hins⟩ := htx
  obtain ⟨hid, hown, _, ham, _, hj, hop, _⟩ := TransactionInput.row_eq_ok hrow
  exact ⟨⟨journal, hpos, has.moves hln, has.id, has.journalType, has.externalKey, has.reversalOf⟩,
    ⟨wallet, wallet', hw, hmv, hws⟩,
    ⟨row, hins, hid.trans hinp.id, hown.trans hinp.owner, hj.trans hinp.journalId,
      hop.trans hinp.fundingOperationId, ham.trans hinp.amount⟩⟩

end ModelDock.Store
