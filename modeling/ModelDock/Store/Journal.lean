import ModelDock.Store.Schema.Payments

/-!
# Posting journals

`postLinkedJournalTx` inserts a draft, resolves every line to an active account, and posts the journal, which
the database allows only when it balances. Posting adds the net effect of the lines to every account.
-/

namespace ModelDock.Store

open Relational Accounting Table Ledger

variable {journalId walletId : Uuid} {journalType : JournalType} {externalKey : ExternalKey}
  {rechargeOrderId refundOrderId : Option Uuid} {journal : Journal}

/-- One line of a journal before its account is resolved; the amount is in units. -/
structure JournalLine where
  accountKey : AccountKey
  side : Side
  amount : ℤ
  description : String

/-- A line as a posting on its account key. -/
def JournalLine.posting (line : JournalLine) : Posting (Option AccountKey) :=
  ⟨some line.accountKey, line.side, line.amount⟩

/-- Insert an entry; the table refuses amounts that are not positive. -/
def makeEntry (accountId : Uuid) (side : Side) (units : ℤ) (description : String) :
    Except StoreError JournalEntry := do
  let amount ← money units
  if h : 0 < amount.units then return ⟨accountId, side, amount, description, h⟩
  else throw .checkViolation

/-- Resolve the account of a line and insert its entry. -/
def resolveEntry (accounts : Table LedgerAccount) (currency : Currency) (line : JournalLine) :
    Except StoreError JournalEntry := do
  ensure (0 < line.amount) .journalAmountNotPositive
  let account ← required (accounts.rows.find? fun account =>
    account.accountKey = line.accountKey ∧ account.currency = currency ∧ account.active)
    .unresolvedJournalAccount
  makeEntry account.id line.side line.amount line.description

/-- Resolve and insert the lines in order. -/
def resolveEntries (accounts : Table LedgerAccount) (currency : Currency) :
    List JournalLine → Except StoreError (List JournalEntry)
  | [] => .ok []
  | line :: rest => do
    let entry ← resolveEntry accounts currency line
    let entries ← resolveEntries accounts currency rest
    return entry :: entries

/-- Set a draft to posted; a trigger refuses unbalanced journals. -/
def Journal.post (journal : Journal) (entries : List JournalEntry) : Except StoreError Journal :=
  if h : PostingAllowed entries then
    .ok { journal with status := .posted, entries := entries, balanced := fun _ => h }
  else .error .journalNotBalanced

theorem draft_postingAllowed (h : JournalStatus.draft = .posted) : PostingAllowed [] := nomatch h

/-- A journal as it is first inserted. -/
def draftJournal (id : Uuid) (walletId : Option Uuid) (journalType : JournalType)
    (externalKey : ExternalKey) (currency : Currency) (rechargeOrderId refundOrderId : Option Uuid) :
    Journal where
  id := id
  walletId := walletId
  journalType := journalType
  externalKey := externalKey
  currency := currency
  status := .draft
  rechargeOrderId := rechargeOrderId
  refundOrderId := refundOrderId
  subscriptionInvoiceId := none
  reversalOfJournalId := none
  reconciliationCaseId := none
  entries := []
  balanced := draft_postingAllowed

/-- Insert a draft, its entries, and post it. -/
def postEntries (draft : Journal) (entries : Except StoreError (List JournalEntry)) (ledger : Ledger) :
    Except StoreError Ledger := do
  let journals ← ledger.journals.insert draft .uniqueViolation
  let entries ← entries
  let posted ← draft.post entries
  return { ledger with journals := journals.replace posted }

/-- Post a journal of a wallet, linked to the order it belongs to. -/
def postLinkedJournalTx (journalId walletId : Uuid) (journalType : JournalType)
    (externalKey : ExternalKey) (currency : Currency) (rechargeOrderId refundOrderId : Option Uuid)
    (lines : List JournalLine) (ledger : Ledger) : Except StoreError Ledger := do
  ensure (2 ≤ lines.length) .journalTooShort
  postEntries (draftJournal journalId (some walletId) journalType externalKey currency
    rechargeOrderId refundOrderId) (resolveEntries ledger.accounts currency lines) ledger

/-- Post a journal of a wallet. -/
def postJournalTx (journalId walletId : Uuid) (journalType : JournalType) (externalKey : ExternalKey)
    (currency : Currency) (lines : List JournalLine) (ledger : Ledger) : Except StoreError Ledger :=
  postLinkedJournalTx journalId walletId journalType externalKey currency none none lines ledger

variable (ledger : Ledger) (key : AccountKey)

/-- The account key an identifier stands for. -/
def Ledger.keyOf? (accountId : Uuid) : Option AccountKey :=
  (ledger.accounts.find? accountId).map LedgerAccount.accountKey

/-- An entry as a posting on the key of its account. -/
def Ledger.entryPosting (entry : JournalEntry) : Posting (Option AccountKey) :=
  ⟨ledger.keyOf? entry.accountId, entry.side, entry.amount.units⟩

/-- The postings of a journal. -/
def Ledger.postings (journal : Journal) : List (Posting (Option AccountKey)) :=
  journal.entries.map ledger.entryPosting

/-- Credits minus debits of one journal on one account. -/
def Ledger.journalNet (journal : Journal) : ℤ :=
  net (some key) (ledger.postings journal)

/-- Credits minus debits of all posted journals on one account. -/
def Ledger.balance : ℤ :=
  ledger.journals.sum fun journal =>
    if journal.status = .posted then ledger.journalNet key journal else 0

variable {ledger ledger' : Ledger} {draft : Journal} {currency : Currency} {lines : List JournalLine}

theorem makeEntry_eq_ok {accountId : Uuid} {side : Side} {units : ℤ} {description : String}
    {entry : JournalEntry} (h : makeEntry accountId side units description = .ok entry) :
    entry.accountId = accountId ∧ entry.side = side ∧ entry.amount.units = units ∧
      entry.description = description := by
  simp only [makeEntry, eq_ok, money_eq_ok] at h
  obtain ⟨_, ham, _, rfl⟩ := h
  exact ⟨rfl, rfl, ham, rfl⟩

theorem makeEntry_succeeds (accountId : Uuid) (side : Side) (description : String) {units : ℤ}
    (hpos : 0 < units) (hfits : units < numericBound) :
    ∃ entry, makeEntry accountId side units description = .ok entry := by
  refine ⟨⟨accountId, side, ⟨units, hpos.le, hfits⟩, description, hpos⟩, ?_⟩
  rw [makeEntry, money_of_range hpos.le hfits, ok_bind, dif_pos hpos]
  rfl

theorem resolveEntries_postings {entries : List JournalEntry}
    (h : resolveEntries ledger.accounts currency lines = .ok entries) :
    entries.map ledger.entryPosting = lines.map JournalLine.posting := by
  induction lines generalizing entries with
  | nil =>
    cases h
    rfl
  | cons line _ ih =>
    simp only [resolveEntries, resolveEntry, eq_ok] at h
    obtain ⟨_, ⟨_, _, account, hac, hent⟩, entries, hrest, rfl⟩ := h
    obtain ⟨hacc, hside, ham, _⟩ := makeEntry_eq_ok hent
    obtain ⟨hmem, hf⟩ := queried hac
    have hkey : ledger.keyOf? account.id = some line.accountKey := by
      rw [keyOf?, show account.id = rowId account from rfl, find?_of_mem hmem, Option.map_some, hf.1]
    rw [List.map_cons, ih hrest, entryPosting, hacc, hkey, hside, ham]
    rfl

/-- One more journal is posted, and nothing else in the ledger has changed. -/
structure Ledger.Posted (ledger : Ledger) (journal : Journal) (ledger' : Ledger) : Prop where
  accounts : ledger'.accounts = ledger.accounts
  rows : ledger'.journals.rows = journal :: ledger.journals.rows
  status : journal.status = .posted

theorem postEntries_eq_ok {entries : Except StoreError (List JournalEntry)}
    (h : postEntries draft entries ledger = .ok ledger') :
    ∃ (list : List JournalEntry) (hlist : PostingAllowed list), entries = .ok list ∧
      ledger.Posted { draft with status := .posted, entries := list, balanced := fun _ => hlist }
        ledger' := by
  simp only [postEntries, eq_ok] at h
  obtain ⟨_, hins, list, hlist, _, hpos, rfl⟩ := h
  unfold Journal.post at hpos
  split at hpos
  · next hok =>
    cases hpos
    exact ⟨list, hok, hlist, rfl, replace_insert hins rfl, rfl⟩
  · cases hpos

/-- The columns and lines a wallet's journal is posted with. -/
structure Journal.PostedAs (journal : Journal) (ledger : Ledger) (journalId walletId : Uuid)
    (journalType : JournalType) (externalKey : ExternalKey) (lines : List JournalLine) : Prop where
  id : journal.id = journalId
  walletId : journal.walletId = some walletId
  journalType : journal.journalType = journalType
  externalKey : journal.externalKey = externalKey
  reversalOf : journal.reversalOfJournalId = none
  postings : ledger.postings journal = lines.map JournalLine.posting

/-- What posting a journal writes. -/
theorem postLinkedJournalTx_eq_ok
    (h : postLinkedJournalTx journalId walletId journalType externalKey currency rechargeOrderId
      refundOrderId lines ledger = .ok ledger') :
    ∃ journal, ledger.Posted journal ledger' ∧
      journal.PostedAs ledger journalId walletId journalType externalKey lines := by
  simp only [postLinkedJournalTx, eq_ok] at h
  obtain ⟨_, _, hpost⟩ := h
  obtain ⟨_, _, hent, hpos⟩ := postEntries_eq_ok hpost
  exact ⟨_, hpos, rfl, rfl, rfl, rfl, rfl, resolveEntries_postings hent⟩

theorem postJournalTx_eq_ok
    (h : postJournalTx journalId walletId journalType externalKey currency lines ledger = .ok ledger') :
    ∃ journal, ledger.Posted journal ledger' ∧
      journal.PostedAs ledger journalId walletId journalType externalKey lines :=
  postLinkedJournalTx_eq_ok h

/-- A line can be entered: its amount is positive and fits, and its account is open in the currency. -/
def JournalLine.Enterable (accounts : Table LedgerAccount) (currency : Currency) (line : JournalLine) : Prop :=
  0 < line.amount ∧ line.amount < numericBound ∧ ∃ account ∈ accounts.rows,
    account.accountKey = line.accountKey ∧ account.currency = currency ∧ account.active

theorem resolveEntries_succeeds {accounts : Table LedgerAccount}
    (h : ∀ line ∈ lines, line.Enterable accounts currency) :
    ∃ entries, resolveEntries accounts currency lines = .ok entries ∧
      (entries.map JournalEntry.posting).map (fun p => (p.side, p.amount)) =
        (lines.map JournalLine.posting).map fun p => (p.side, p.amount) := by
  induction lines with
  | nil => exact ⟨[], rfl, rfl⟩
  | cons line _ ih =>
    obtain ⟨⟨hpos, hfits, account, hac, hmt⟩, hrest⟩ := List.forall_mem_cons.mp h
    obtain ⟨entries, hen, hsame⟩ := ih hrest
    obtain ⟨found, hf⟩ : ∃ found, accounts.rows.find? (fun account =>
        account.accountKey = line.accountKey ∧ account.currency = currency ∧ account.active) =
          some found := by
      rw [← Option.isSome_iff_exists, List.find?_isSome]
      exact ⟨account, hac, by simpa using hmt⟩
    obtain ⟨entry, hent⟩ := makeEntry_succeeds found.id line.side line.description hpos hfits
    obtain ⟨_, hside, ham, _⟩ := makeEntry_eq_ok hent
    refine ⟨entry :: entries, ?_, ?_⟩
    · simp only [resolveEntries, resolveEntry, eq_ok]
      exact ⟨entry, ⟨(), hpos, found, hf, hent⟩, entries, hen, rfl⟩
    · simp only [List.map_cons, hsame]
      simp only [JournalEntry.posting, JournalLine.posting, hside, ham]

section

variable (hnew : ∀ journal ∈ ledger.journals.rows, Key.clash (Keyed.key (draftJournal journalId (some walletId)
    journalType externalKey currency rechargeOrderId refundOrderId)) (Keyed.key journal) = false)
include hnew

theorem postLinkedJournalTx_succeeds
    (hln : ∀ line ∈ lines, line.Enterable ledger.accounts currency) (hlen : 2 ≤ lines.length)
    (hdb : total .debit (lines.map JournalLine.posting) ≠ 0 ∧
      total .debit (lines.map JournalLine.posting) < numericBound)
    (hbl : Balanced (lines.map JournalLine.posting)) :
    ∃ ledger', postLinkedJournalTx journalId walletId journalType externalKey currency rechargeOrderId
      refundOrderId lines ledger = .ok ledger' := by
  obtain ⟨journals, hins⟩ := insert_succeeds hnew StoreError.uniqueViolation
  obtain ⟨entries, hent, hsame⟩ := resolveEntries_succeeds hln
  have hok : PostingAllowed entries := by
    unfold PostingAllowed Accounting.Balanced
    rw [total_congr hsame, total_congr hsame]
    exact ⟨hdb.1, hdb.2, hbl⟩
  simp only [postLinkedJournalTx, postEntries, eq_ok]
  exact ⟨_, (), hlen, journals, hins, entries, hent, _, dif_pos hok, rfl⟩

theorem postLinkedJournalTx_pair_succeeds {debit credit : JournalLine}
    (hdb : debit.side = .debit ∧ debit.Enterable ledger.accounts currency)
    (hcr : credit.side = .credit ∧ credit.Enterable ledger.accounts currency)
    (ham : credit.amount = debit.amount) :
    ∃ ledger', postLinkedJournalTx journalId walletId journalType externalKey currency rechargeOrderId
      refundOrderId [debit, credit] ledger = .ok ledger' := by
  have htt (side : Side) : total side ([debit, credit].map JournalLine.posting) = debit.amount := by
    cases side <;> simp [total, JournalLine.posting, hdb.1, hcr.1, ham]
  have hln : ∀ line ∈ [debit, credit], line.Enterable ledger.accounts currency := by
    simp only [List.forall_mem_cons, List.not_mem_nil, false_implies, implies_true, and_true]
    exact ⟨hdb.2, hcr.2⟩
  refine postLinkedJournalTx_succeeds hnew hln (le_refl 2) ?_ ?_
  · rw [htt]
    exact ⟨hdb.2.1.ne', hdb.2.2.1⟩
  · rw [Accounting.Balanced, htt, htt]

end

/-- The effect of lines on an account. -/
def linesNet (lines : List JournalLine) : ℤ :=
  net (some key) (lines.map JournalLine.posting)

@[simp] theorem linesNet_nil : linesNet key [] = 0 := rfl

@[simp] theorem linesNet_cons (line : JournalLine) (rest : List JournalLine) : linesNet key (line :: rest) =
      (if line.accountKey = key then line.posting.signed else 0) + linesNet key rest := by
  simp [linesNet, JournalLine.posting]

@[simp] theorem linesNet_append (first rest : List JournalLine) :
    linesNet key (first ++ rest) = linesNet key first + linesNet key rest := by
  induction first with
  | nil => simp
  | cons _ first ih => simp [ih, add_assoc]

theorem Ledger.journalNet_congr (h : ledger'.accounts = ledger.accounts) (key : AccountKey)
    (journal : Journal) : ledger'.journalNet key journal = ledger.journalNet key journal := by
  have hpos : ledger'.entryPosting = ledger.entryPosting := by
    funext entry
    rw [entryPosting, keyOf?, h]
    rfl
  rw [journalNet, postings, hpos]
  rfl

/-- A posted journal changes each account by its own lines. -/
theorem Ledger.Posted.balance (h : ledger.Posted journal ledger') (key : AccountKey) :
    ledger'.balance key = ledger.balance key + ledger.journalNet key journal := by
  simp only [Ledger.balance, sum, h.rows, List.map_cons, h.status, Ledger.journalNet_congr h.accounts]
  exact add_comm _ _

end ModelDock.Store
