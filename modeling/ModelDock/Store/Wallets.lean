import ModelDock.Store.Schema.Payments

/-!
# Wallet balances and wallet transactions

Every money path ends in one `UPDATE wallets`, and most insert one wallet transaction.
-/

namespace ModelDock.Store

open Relational

variable (s : Session) (wallet : Wallet) {txs : Table WalletTransaction}

/-- Write the balances, the risk exposure and the status of a wallet. -/
def Wallet.setBalances (available reserved riskExposure : ℤ) (status : WalletStatus) :
    Except StoreError Wallet := do
  let available ← numeric available
  let reserved ← money reserved
  let riskExposure ← money riskExposure
  return { wallet with
    availableBalance := available, reservedBalance := reserved, riskExposure := riskExposure, status := status }

/-- Add to the available balance of a wallet. -/
def Wallet.addAvailable (units : ℤ) : Except StoreError Wallet :=
  wallet.setBalances (wallet.availableBalance.units + units) wallet.reservedBalance.units
    wallet.riskExposure.units wallet.status

/-- The balance behind one of a wallet's accounts. -/
def Wallet.balance : WalletAccount → ℤ
  | .available => wallet.availableBalance.units
  | .reserved => wallet.reservedBalance.units

/-- The columns of a new wallet transaction that differ from path to path. -/
structure TransactionInput where
  (id walletId : Uuid)
  transactionType : TransactionType
  (amount balanceAfter : ℤ)
  idempotencyKey : Option TransactionKey
  reference : String
  journalId : Option Uuid
  fundingOperationId : Option Uuid := none
  rechargeOrderId : Option Uuid := none
  refundOrderId : Option Uuid := none

variable {input : TransactionInput}

/-- The row of a new wallet transaction. -/
def TransactionInput.row (input : TransactionInput) (now : Timestamp) : Except StoreError WalletTransaction := do
  let amount ← numeric input.amount
  let balanceAfter ← numeric input.balanceAfter
  if h : amount.units ≠ 0 then
    return { id := input.id, walletId := input.walletId, transactionType := input.transactionType
             amount := amount, balanceAfter := balanceAfter, idempotencyKey := input.idempotencyKey
             reference := input.reference, journalId := input.journalId
             fundingOperationId := input.fundingOperationId, rechargeOrderId := input.rechargeOrderId
             refundOrderId := input.refundOrderId, createdAt := now, amount_ne_zero := h }
  else throw .checkViolation

/-- Insert a wallet transaction. -/
def insertTransaction (input : TransactionInput) (transactions : Table WalletTransaction) :
    Except StoreError (Table WalletTransaction) := do
  let row ← input.row s.now
  transactions.insert row .uniqueViolation

/-- Insert a wallet transaction unless its idempotency key is taken in the wallet. -/
def insertTransactionOnce (input : TransactionInput)
    (transactions : Table WalletTransaction) : Except StoreError (Table WalletTransaction) := do
  let row ← input.row s.now
  if transactions.rows.any fun x =>
      x.walletId = row.walletId && sameValue x.idempotencyKey row.idempotencyKey then
    return transactions
  else transactions.insert row .uniqueViolation

variable {wallet wallet' : Wallet} {available reserved riskExposure : ℤ} {status : WalletStatus}

theorem Wallet.setBalances_eq_ok : wallet.setBalances available reserved riskExposure status = .ok wallet' ↔
      ∃ (a : Numeric) (r x : Money), a.units = available ∧ r.units = reserved ∧
        x.units = riskExposure ∧
        wallet' = { wallet with
          availableBalance := a, reservedBalance := r, riskExposure := x, status := status } := by
  simp only [setBalances, eq_ok, numeric_eq_ok, money_eq_ok]
  constructor
  · rintro ⟨a, ha, r, hr, x, hx, rfl⟩
    exact ⟨a, r, x, ha, hr, hx, rfl⟩
  · rintro ⟨a, r, x, ha, hr, hx, rfl⟩
    exact ⟨a, ha, r, hr, x, hx, rfl⟩

theorem Wallet.addAvailable_succeeds (wallet : Wallet) {units : ℤ}
    (h : -numericBound < wallet.availableBalance.units + units ∧
      wallet.availableBalance.units + units < numericBound) :
    ∃ wallet', wallet.addAvailable units = .ok wallet' ∧
      wallet'.availableBalance.units = wallet.availableBalance.units + units :=
  ⟨_, Wallet.setBalances_eq_ok.mpr ⟨⟨_, h⟩, wallet.reservedBalance, wallet.riskExposure, rfl, rfl, rfl, rfl⟩,
    rfl⟩

theorem TransactionInput.row_eq_ok {now : Timestamp} {row : WalletTransaction} (h : input.row now = .ok row) :
    row.id = input.id ∧ row.walletId = input.walletId ∧
      row.transactionType = input.transactionType ∧ row.amount.units = input.amount ∧
      row.idempotencyKey = input.idempotencyKey ∧ row.journalId = input.journalId ∧
      row.fundingOperationId = input.fundingOperationId ∧
      row.rechargeOrderId = input.rechargeOrderId ∧ row.refundOrderId = input.refundOrderId := by
  simp only [TransactionInput.row, eq_ok, numeric_eq_ok] at h
  obtain ⟨_, ham, _, _, _, rfl⟩ := h
  exact ⟨rfl, rfl, rfl, ham, rfl, rfl, rfl, rfl, rfl⟩

theorem insertTransaction_succeeds {s : Session} (hnn : input.amount ≠ 0)
    (ham : -numericBound < input.amount ∧ input.amount < numericBound)
    (hbl : -numericBound < input.balanceAfter ∧ input.balanceAfter < numericBound)
    (hnew : ∀ row ∈ txs.rows, row.id ≠ input.id ∧
      ¬(row.walletId = input.walletId ∧ sameValue input.idempotencyKey row.idempotencyKey) ∧
      sameValue input.rechargeOrderId row.rechargeOrderId = false ∧
      sameValue input.refundOrderId row.refundOrderId = false) :
    ∃ txs', insertTransaction s input txs = .ok txs' := by
  let row : WalletTransaction :=
    { id := input.id, walletId := input.walletId, transactionType := input.transactionType
      amount := ⟨input.amount, ham⟩, balanceAfter := ⟨input.balanceAfter, hbl⟩
      idempotencyKey := input.idempotencyKey, reference := input.reference
      journalId := input.journalId, fundingOperationId := input.fundingOperationId
      rechargeOrderId := input.rechargeOrderId, refundOrderId := input.refundOrderId
      createdAt := s.now, amount_ne_zero := hnn }
  have hrow : input.row s.now = .ok row := by
    rw [TransactionInput.row, numeric_of_range ham, ok_bind, numeric_of_range hbl, ok_bind, dif_pos hnn]
    rfl
  have hfree : ∀ old ∈ txs.rows, Key.clash (Keyed.key row) (Keyed.key old) = false := by
    intro old hold
    obtain ⟨hid, hkey, hrec, hr⟩ := hnew old hold
    simp only [Key.clash, Bool.or_eq_false_iff, Bool.and_eq_false_iff, decide_eq_false_iff_not]
    refine ⟨⟨⟨fun h => hid h.symm, ?_⟩, hrec⟩, hr⟩
    by_cases hown : input.walletId = old.walletId
    · exact .inr (Bool.not_eq_true _ ▸ fun hsame => hkey ⟨hown.symm, hsame⟩)
    · exact .inl hown
  obtain ⟨txs', hins⟩ := Table.insert_succeeds hfree StoreError.uniqueViolation
  exact ⟨txs', by rw [insertTransaction, hrow, ok_bind, hins]⟩

/-- A transaction whose key is taken is not inserted again. -/
theorem insertTransactionOnce_eq_ok {s : Session} {key : TransactionKey}
    {txs' : Table WalletTransaction} (hkey : input.idempotencyKey = some key)
    (h : insertTransactionOnce s input txs = .ok txs') :
    (∃ row ∈ txs.rows, row.walletId = input.walletId ∧ row.idempotencyKey = some key) ∧
        txs' = txs ∨
      (∀ row ∈ txs.rows, ¬(row.walletId = input.walletId ∧ row.idempotencyKey = some key)) ∧
        ∃ row, Inserts txs row txs' ∧
          row.id = input.id ∧ row.amount.units = input.amount := by
  simp only [insertTransactionOnce, bind_eq_ok] at h
  obtain ⟨row, hrow, h⟩ := h
  obtain ⟨hid, hown, _, ham, hry, _⟩ := TransactionInput.row_eq_ok hrow
  simp only [hown, hry, hkey, List.any_eq_true, cond_iff, sameValue_some] at h
  split at h
  · next htk => exact .inl ⟨htk, (pure_eq_ok.mp h).symm⟩
  · next hfree =>
    refine .inr ⟨fun x hx hsame => hfree ⟨x, hx, hsame⟩, row, h, hid, ham⟩

end ModelDock.Store
