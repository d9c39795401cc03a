import ModelDock.Store.Books
import ModelDock.Store.CashLots

/-!
# Resolving reconciliation cases

A case is closed by accepting the exception or by reversing one posted journal, which copies its entries with
their sides exchanged. The checks do not look at the funding operation the journal belongs to.
-/

namespace ModelDock.Store

open Relational Accounting

variable (s : Session) (caseValue : ReconciliationCase) (journal : Journal)

/-- The journal belongs to the organization of the case. -/
def linkedOrganization (wallets : Table Wallet) : Bool :=
  match caseValue.organizationId, journal.walletId with
  | none, _ => true
  | some organizationId, some walletId =>
    (wallets.find? walletId).any fun wallet => wallet.organizationId = organizationId
  | some _, none => caseValue.subscriptionInvoiceId.isSome

/-- The journal is the one of the recharge order, funding operation and invoice the case names. -/
def linkedRecords (transactions : Table WalletTransaction) : Bool :=
  caseValue.rechargeOrderId.all (fun id => journal.rechargeOrderId = some id) &&
    caseValue.fundingOperationId.all (fun id => transactions.rows.any fun row =>
      row.journalId = some journal.id && row.fundingOperationId = some id) &&
    caseValue.subscriptionInvoiceId.all fun id => journal.subscriptionInvoiceId = some id

/-- An entry with its side exchanged. -/
def JournalEntry.reverse (entry : JournalEntry) : JournalEntry :=
  { entry with side := entry.side.flip, description := "Reversal: " ++ entry.description }

variable (idempotencyKey : String) (ledger : Ledger) (key : AccountKey)

/-- The draft of a reversal. -/
def reversalDraft : Journal where
  id := s.uuid .journal
  walletId := journal.walletId
  journalType := .reconciliationReversal
  externalKey := .reconciliation caseValue.id idempotencyKey
  currency := journal.currency
  status := .draft
  rechargeOrderId := none
  refundOrderId := none
  subscriptionInvoiceId := none
  reversalOfJournalId := some journal.id
  reconciliationCaseId := some caseValue.id
  entries := []
  balanced := draft_postingAllowed

/-- Post the reversal of a journal. -/
def postReversal : Except StoreError Ledger := do
  ensure (2 ≤ journal.entries.length) .financeState
  postEntries (reversalDraft s caseValue journal idempotencyKey)
    (.ok (journal.entries.map JournalEntry.reverse)) ledger

/-- Credits minus debits of a journal's reversal on one account. -/
def Ledger.reversalNet (journal : Journal) : ℤ :=
  net (some key) ((journal.entries.map JournalEntry.reverse).map ledger.entryPosting)

/-- The oldest transaction that carries a journal. -/
def journalTransaction? (journalId : Uuid) (transactions : Table WalletTransaction) : Option WalletTransaction :=
  (Table.oldestFirst WalletTransaction.createdAt (transactions.rows.filter fun row =>
    row.journalId = some journalId)).head?

/-- Mirror the available part of a reversal onto the wallet's cash. -/
def moveReversalCash (walletId journalId : Uuid) (availableDelta : ℤ)
    (transactions : Table WalletTransaction) (cash : Cash) : Except StoreError Cash :=
  if availableDelta < 0 then
    allocateCashDebitTx s transactions walletId (s.uuid .transaction) |availableDelta| cash
  else do
    let source ← required (journalTransaction? journalId transactions) .financeState
    restoreCashAllocationTx s transactions walletId source.id (s.uuid .transaction) availableDelta cash

/-- The transaction row of a reversal that moves the available balance. -/
def reconciliationTransaction (caseId walletId : Uuid) (idempotencyKey reason : String)
    (availableDelta balanceAfter : ℤ) : TransactionInput where
  id := s.uuid .transaction
  walletId := walletId
  transactionType := .adjustment
  amount := availableDelta
  balanceAfter := balanceAfter
  idempotencyKey := some (.reconciliation caseId idempotencyKey)
  reference := reason
  journalId := some (s.uuid .journal)

/-- Apply the net effect of a reversal to the wallet of the journal. -/
def applyReversal (journalId walletId : Uuid)
    (idempotencyKey reason : String) (availableDelta reservedDelta : ℤ) (db : Db) :
    Except StoreError Db := do
  let wallet ← required (db.wallets.find? walletId) .financeState
  ensure (0 ≤ wallet.reservedBalance.units + reservedDelta) .financeState
  let wallet ← wallet.setBalances (wallet.availableBalance.units + availableDelta)
    (wallet.reservedBalance.units + reservedDelta) wallet.riskExposure.units wallet.status
  if availableDelta ≠ 0 then
    let transactions ← insertTransaction s
      (reconciliationTransaction s caseValue.id walletId idempotencyKey reason availableDelta
        wallet.availableBalance.units) db.transactions
    let cash ← moveReversalCash s walletId journalId availableDelta transactions db.cash
    return { db with wallets := db.wallets.replace wallet, transactions := transactions, cash := cash }
  else return { db with wallets := db.wallets.replace wallet }

/-- Reverse a posted journal on behalf of a case. -/
def reverseJournalForCase (sourceJournalId : Uuid)
    (idempotencyKey reason : String) (db : Db) : Except StoreError Db := do
  let journal ← required (db.ledger.journals.find? sourceJournalId) .notFound
  ensure (journal.status = .posted) .financeState
  ensure ((db.ledger.journals.rows.all fun row =>
    row.reversalOfJournalId ≠ some sourceJournalId)) .financeState
  ensure (linkedOrganization caseValue journal db.wallets) .financeState
  ensure (linkedRecords caseValue journal db.transactions) .financeState
  let ledger ← postReversal s caseValue journal idempotencyKey db.ledger
  match journal.walletId with
  | none => return { db with ledger := ledger }
  | some walletId =>
    applyReversal s caseValue sourceJournalId walletId idempotencyKey reason
      (ledger.reversalNet (walletAccountKey walletId .available) journal)
      (ledger.reversalNet (walletAccountKey walletId .reserved) journal)
      { db with ledger := ledger }

/-- The arguments of a resolution. -/
structure ResolutionRequest where
  caseId : Uuid
  action : String
  sourceJournalId : Option Uuid
  (reason idempotencyKey actor : String)

variable (request : ResolutionRequest)

/-- The action a text names. -/
def resolutionAction? (text : String) : Option ResolutionAction :=
  let name := Text.toUpper (Text.trimSpace text)
  if name = "ACCEPT_EXCEPTION" then some .acceptException
  else if name = "REVERSE_JOURNAL" then some .reverseJournal
  else none

/-- Reverse the journal a resolution names, if it names one. -/
def reverseSource (idempotencyKey reason : String) (db : Db) : Option Uuid → Except StoreError Db
  | some sourceJournalId => reverseJournalForCase s caseValue sourceJournalId idempotencyKey reason db
  | none => .ok db

/-- Close a case with an action whose idempotency key is new. -/
def resolveNew (action : ResolutionAction) (caseValue : ReconciliationCase) (db : Db) : Except StoreError Db := do
  let reason := Text.trimSpace request.reason
  ensure (caseValue.status = .opened ∨ caseValue.status = .inReview) .financeState
  let resolved ← reverseSource s caseValue request.idempotencyKey reason db request.sourceJournalId
  let resolutions ← resolved.reconciliation.resolutions.insert
    { id := s.uuid .resolution, reconciliationCaseId := caseValue.id, action := action
      sourceJournalId := request.sourceJournalId
      reversalJournalId := request.sourceJournalId.map fun _ => s.uuid .journal
      reason := reason, idempotencyKey := request.idempotencyKey, resolvedBy := request.actor }
    .uniqueViolation
  return { resolved with reconciliation :=
    { cases := resolved.reconciliation.cases.replace { caseValue with
        status := if action = .acceptException then .accepted else .resolved
        handledBy := request.actor, handlingReason := reason }
      resolutions := resolutions } }

/-- Close a reconciliation case, once for each idempotency key. -/
def resolveReconciliationCase (db : Db) : Except StoreError Db := do
  let action ← required (resolutionAction? request.action) .financeState
  ensure (Text.isBlank request.reason = false ∧ request.idempotencyKey ≠ "" ∧ request.actor ≠ "")
    .financeState
  let caseValue ← required (db.reconciliation.cases.find? request.caseId) .notFound
  ensure (request.sourceJournalId.isSome = decide (action = .reverseJournal)) .financeState
  match db.reconciliation.resolutions.rows.find? fun row =>
      row.reconciliationCaseId = caseValue.id ∧ row.idempotencyKey = request.idempotencyKey with
  | some existing =>
    ensure (existing.action = action ∧ existing.sourceJournalId = request.sourceJournalId ∧
      existing.reason = Text.trimSpace request.reason) .idempotencyConflict
    return db
  | none => resolveNew s request action caseValue db

/-- The case was resolved under this key before, so the call changes nothing. -/
def ResolutionRequest.replayed (db : Db) : Bool :=
  db.reconciliation.resolutions.rows.any fun row =>
    row.reconciliationCaseId = request.caseId ∧ row.idempotencyKey = request.idempotencyKey

variable {s : Session} {caseValue : ReconciliationCase} {journal : Journal}
  {sourceJournalId walletId : Uuid} {idempotencyKey reason : String} {db db' : Db}

/-- A reversal takes back what its journal posted. -/
theorem Ledger.reversalNet_eq (journal : Journal) :
    ledger.reversalNet key journal = -ledger.journalNet key journal := by
  have hflip : (journal.entries.map JournalEntry.reverse).map ledger.entryPosting =
      (ledger.postings journal).map Posting.flip := by
    simp only [Ledger.postings, List.map_map]
    rfl
  rw [Ledger.reversalNet, hflip, net_flip]
  rfl

/-- What the reversal of a journal posts. -/
structure Journal.Reversed (journal : Journal) (s : Session) (caseId : Uuid) (idempotencyKey : String)
    (ledger : Ledger) (reversal : Journal) : Prop where
  id : reversal.id = s.uuid .journal
  walletId : reversal.walletId = journal.walletId
  journalType : reversal.journalType = .reconciliationReversal
  externalKey : reversal.externalKey = .reconciliation caseId idempotencyKey
  reversalOf : reversal.reversalOfJournalId = some journal.id
  net : ∀ key, ledger.journalNet key reversal = -ledger.journalNet key journal

/-- What the reversal of a wallet's journal writes on the wallet's side. -/
structure AppliesReversal (s : Session) (journalId walletId : Uuid) (available reserved : ℤ)
    (db db' : Db) : Prop where
  wallets : ∃ wallet wallet', db.wallets.find? walletId = some wallet ∧
    wallet.Moved available reserved wallet' ∧ db'.wallets = db.wallets.replace wallet'
  cash : available = 0 ∧ db'.transactions = db.transactions ∧ db'.cash = db.cash ∨
    available ≠ 0 ∧ (∃ row, db.transactions.insert row StoreError.uniqueViolation = .ok db'.transactions ∧
      row.id = s.uuid .transaction ∧ row.walletId = walletId ∧ row.journalId = some (s.uuid .journal) ∧
      row.fundingOperationId = none ∧ row.amount.units = available) ∧
    moveReversalCash s walletId journalId available db'.transactions db.cash = .ok db'.cash

theorem applyReversal_eq_ok {available reserved : ℤ}
    (h : applyReversal s caseValue sourceJournalId walletId idempotencyKey reason available reserved db =
      .ok db') :
    AppliesReversal s sourceJournalId walletId available reserved db db' ∧ db'.ledger = db.ledger ∧
      db'.operations = db.operations ∧ db'.promotions = db.promotions ∧
      db'.adjustments = db.adjustments ∧ db'.payments = db.payments ∧ db'.catalog = db.catalog := by
  simp only [applyReversal, eq_ok] at h
  obtain ⟨wallet, hw, _, _, wallet', hw', h⟩ := h
  have hmv := Wallet.moved_of_setBalances hw' rfl rfl
  split at h
  · next hne =>
    simp only [eq_ok, insertTransaction] at h
    obtain ⟨_, ⟨row, hrow, hins⟩, _, hcash, rfl⟩ := h
    obtain ⟨hid, hown, _, ham, _, hj, hop, _⟩ := TransactionInput.row_eq_ok hrow
    exact ⟨⟨⟨wallet, wallet', hw, hmv, rfl⟩, .inr ⟨hne,
      ⟨row, hins, hid, hown, hj, hop, ham⟩, hcash⟩⟩, rfl, rfl, rfl, rfl, rfl, rfl⟩
  · next hzero =>
    cases h
    exact ⟨⟨⟨wallet, wallet', hw, hmv, rfl⟩, .inl ⟨not_not.mp hzero, rfl, rfl⟩⟩, rfl, rfl, rfl, rfl, rfl, rfl⟩

/-- What the reversal of a journal writes, table by table. -/
structure Reconciles (s : Session) (caseId : Uuid) (journal : Journal) (idempotencyKey : String)
    (db db' : Db) : Prop where
  source : journal ∈ db.ledger.journals.rows
  unreversed : ∀ row ∈ db.ledger.journals.rows, row.reversalOfJournalId ≠ some journal.id
  posted : ∃ reversal, db.ledger.Posted reversal db'.ledger ∧
    journal.Reversed s caseId idempotencyKey db.ledger reversal
  applied : journal.walletId = none ∧ db'.wallets = db.wallets ∧
      db'.transactions = db.transactions ∧ db'.cash = db.cash ∨
    ∃ walletId, journal.walletId = some walletId ∧ AppliesReversal s journal.id walletId
      (-db.ledger.journalNet (walletAccountKey walletId .available) journal)
      (-db.ledger.journalNet (walletAccountKey walletId .reserved) journal) db db'
  operations : db'.operations = db.operations
  promotions : db'.promotions = db.promotions
  adjustments : db'.adjustments = db.adjustments
  payments : db'.payments = db.payments
  catalog : db'.catalog = db.catalog

/-- What the reversal of a case writes. -/
theorem reverseJournalForCase_eq_ok
    (h : reverseJournalForCase s caseValue sourceJournalId idempotencyKey reason db = .ok db') :
    ∃ journal, db.ledger.journals.find? sourceJournalId = some journal ∧
      Reconciles s caseValue.id journal idempotencyKey db db' := by
  simp only [reverseJournalForCase, postReversal, eq_ok] at h
  obtain ⟨journal, hj, _, _, _, hun, _, _, _, _, ledger, ⟨_, _, hpost⟩, h⟩ := h
  obtain ⟨hmem, hid⟩ := Table.found hj
  have hid : journal.id = sourceJournalId := hid
  obtain ⟨reversal, hpos, hrv⟩ : ∃ reversal, db.ledger.Posted reversal ledger ∧
      journal.Reversed s caseValue.id idempotencyKey db.ledger reversal := by
    obtain ⟨_, _, hent, hpos⟩ := postEntries_eq_ok hpost
    cases hent
    exact ⟨_, hpos, rfl, rfl, rfl, rfl, rfl, fun key => db.ledger.reversalNet_eq key journal⟩
  have hfree : ∀ row ∈ db.ledger.journals.rows, row.reversalOfJournalId ≠ some journal.id := by
    intro row hrow
    rw [hid]
    simpa using List.all_eq_true.mp hun row hrow
  have hnet (kind : WalletAccount) (w : Uuid) :
      ledger.reversalNet (walletAccountKey w kind) journal =
        -db.ledger.journalNet (walletAccountKey w kind) journal := by
    rw [Ledger.reversalNet_eq, Ledger.journalNet_congr hpos.accounts]
  refine ⟨journal, hj, ?_⟩
  split at h
  · next hnone =>
    cases h
    exact ⟨hmem, hfree, ⟨reversal, hpos, hrv⟩, .inl ⟨hnone, rfl, rfl, rfl⟩, rfl, rfl, rfl, rfl, rfl⟩
  · next walletId hsome =>
    obtain ⟨hap, hld', hop, hpr, hadj, hpy, hct⟩ := applyReversal_eq_ok h
    rw [hnet, hnet, ← hid] at hap
    exact ⟨hmem, hfree, ⟨reversal, hld' ▸ hpos, hrv⟩,
      .inr ⟨walletId, hsome, hap.wallets, hap.cash⟩, hop, hpr, hadj,
      hpy, hct⟩

end ModelDock.Store
