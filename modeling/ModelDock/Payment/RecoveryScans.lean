import ModelDock.Payment.Recovery

/-!
# What the scans of the recovery see

A call of the worker finishes its own row, if it can, and changes nothing that the other scans see.
-/

namespace ModelDock.Store

open Relational Table RechargeOrder RefundOrder Option

variable {env : Surroundings} {n : ℕ} {r : Recovery} {s : Session} {order : RechargeOrder} {refund : RefundOrder}
  {db db' : Db} {id : Uuid} {able : Bool} {region : Uuid → String} {number : String}

/-- The wallet of an order is open in the order's currency. -/
def RechargeOrder.walletOpen (order : RechargeOrder) (wallets : Table Wallet) : Bool :=
  (wallets.find? order.walletId).any fun wallet => wallet.status ≠ .closed && wallet.currency = order.currency

/-- The refund has a number at its provider, which reports it as paid, and its order waits for the refund. -/
def RefundOrder.payable (refund : RefundOrder) (env : Surroundings) (region : Uuid → String)
    (orders : Table RechargeOrder) : Bool :=
  refund.providerRefundNo.any (· ≠ "") && (orders.find? refund.rechargeOrderId).any fun order =>
    env.reports region refund order && order.status = .refundPending

/-- A paid order, and whether it can be credited. -/
def creditView (db : Db) (id : Uuid) : Option Bool :=
  ((db.payments.rechargeOrders.find? id).filter RechargeOrder.awaitsCredit).map fun order => order.walletOpen db.wallets

/-- An expired order that is not closed, and whether it can be closed. -/
def closeView (env : Surroundings) (r : Recovery) (id : Uuid) : Option Bool :=
  ((r.db.payments.rechargeOrders.find? id).filter r.awaitsClose).map (env.closes r.region)

/-- An open refund, and whether it can be completed. -/
def refundView (env : Surroundings) (region : Uuid → String) (db : Db) (id : Uuid) : Option Bool :=
  ((db.payments.refundOrders.find? id).filter RefundOrder.awaitsProvider).map fun refund =>
    refund.payable env region db.payments.rechargeOrders

/-- An order has at most one open refund. -/
def OneOpenRefund (db : Db) : Prop :=
  ∀ a b, ∀ first, db.payments.refundOrders.find? a = some first → first.status.isOpen →
    ∀ second, db.payments.refundOrders.find? b = some second → second.status.isOpen →
      first.rechargeOrderId = second.rechargeOrderId → a = b

theorem walletOpen_replace {wallets : Table Wallet} {walletId : Uuid} {wallet wallet' : Wallet} {units : ℤ}
    (hw : wallets.find? walletId = some wallet) (hadd : wallet.addAvailable units = .ok wallet')
    (order : RechargeOrder) : order.walletOpen (wallets.replace wallet') = order.walletOpen wallets := by
  obtain ⟨_, _, _, _, _, _, hrow⟩ := Wallet.setBalances_eq_ok.mp hadd
  have hkey : Keyed.key wallet' = Keyed.key wallet := by
    rw [hrow]
    rfl
  obtain ⟨hmem, hid⟩ := found hw
  unfold walletOpen
  by_cases hsame : order.walletId = walletId
  · rw [hsame, hw, find?_replace_of_find? hw hkey, hrow]
    rfl
  · have hne : rowId wallet' ≠ order.walletId := fun h =>
      hsame ((h.symm.trans (congrArg Key.id hkey)).trans hid)
    rw [find?_replace hmem hkey, if_neg hne]

theorem find?_rewritten {R K : Type} [Key K] [Keyed R K] [DecidableEq K] {t : Table R} {old new : R}
    (hold : t.find? id = some old) (hkey : Keyed.key new = Keyed.key old) (other : Uuid) :
    (t.replace new).find? other = if other = id then some new else t.find? other := by
  obtain ⟨hmem, hid⟩ := found hold
  have hnew : rowId new = id := (congrArg Key.id hkey).trans hid
  rw [find?_replace hmem hkey, hnew]
  simp only [eq_comm]

/-- What crediting a paid order shows to the recovery. -/
structure CreditShows (s : Session) (order : RechargeOrder) (db db' : Db) : Prop where
  paid : order.status = .paid
  walletOpen : order.walletOpen db.wallets
  orders : ∀ id, db'.payments.rechargeOrders.find? id =
    if id = order.id then some (order.credit s) else db.payments.rechargeOrders.find? id
  refunds : db'.payments.refundOrders = db.payments.refundOrders
  wallets : ∀ other : RechargeOrder, other.walletOpen db'.wallets = other.walletOpen db.wallets

theorem creditPaidRecharge_shows (h : creditPaidRecharge s id db = .ok db') :
    ∃ order, db.payments.rechargeOrders.find? id = some order ∧
      (order.status.isCredited ∧ db' = db ∨ CreditShows s order db db') := by
  simp only [creditPaidRecharge, eq_ok] at h
  obtain ⟨order, ho, h⟩ := h
  refine ⟨order, ho, ?_⟩
  split at h
  · next hcr =>
    cases h
    exact .inl ⟨hcr, rfl⟩
  · simp only [creditPaid, eq_ok] at h
    obtain ⟨_, hpaid, _, hw, _, hopen, _, hadd, _, _, _, _, _, _, rfl⟩ := h
    obtain rfl : order.id = id := (found ho).2
    have hkey : Keyed.key (order.credit s) = Keyed.key order := rfl
    refine .inr ⟨hpaid, ?_, find?_rewritten ho hkey, rfl, walletOpen_replace hw hadd⟩
    simpa [walletOpen, hw] using hopen

/-- What completing an open refund shows to the recovery. -/
structure RefundShows (s : Session) (providerRefundNo : String) (refund : RefundOrder) (order : RechargeOrder)
    (db db' : Db) : Prop where
  isOpen : refund.status.isOpen
  found : db.payments.rechargeOrders.find? refund.rechargeOrderId = some order
  pending : order.status = .refundPending
  orders : ∃ status : RechargeStatus, (status = .credited ∨ status = .refunded) ∧
    ∀ id, db'.payments.rechargeOrders.find? id =
      if id = order.id then some (order.setStatus status) else db.payments.rechargeOrders.find? id
  refunds : ∀ id, db'.payments.refundOrders.find? id =
    if id = refund.id then some (refund.succeed s providerRefundNo) else db.payments.refundOrders.find? id
  wallets : ∀ other : RechargeOrder, other.walletOpen db'.wallets = other.walletOpen db.wallets

theorem completeRefund_shows {refundNo : String} (h : completeRefund s id refundNo db = .ok db') :
    ∃ refund, db.payments.refundOrders.find? id = some refund ∧
      (refund.status = .succeeded ∧ db' = db ∨ ∃ order, RefundShows s refundNo refund order db db') := by
  simp only [completeRefund, eq_ok] at h
  obtain ⟨refund, hr, h⟩ := h
  refine ⟨refund, hr, ?_⟩
  split at h
  · next hsuc =>
    cases h
    exact .inl ⟨hsuc, rfl⟩
  · simp only [completeOpenRefund, eq_ok] at h
    obtain ⟨_, hopen, order, ho, _, hpn, _, hw, _, hadd, _, _, _, _, _, _, _, _, rfl⟩ := h
    obtain rfl : refund.id = id := (found hr).2
    have hid : order.id = refund.rechargeOrderId := (found ho).2
    refine .inr ⟨order, hopen, ho, hpn,
      ⟨if refund.amount.units < order.amount.units then .credited else .refunded, ?_, ?_⟩,
      find?_rewritten hr (refund.succeed_key s refundNo), walletOpen_replace hw hadd⟩
    · split
      · exact .inl rfl
      · exact .inr rfl
    · rw [hid]
      exact find?_rewritten ho (order.setStatus_key _)

theorem creditView_eq_some : creditView db id = some able ↔ ∃ order,
    db.payments.rechargeOrders.find? id = some order ∧ order.status = .paid ∧ order.walletOpen db.wallets = able := by
  simp [creditView, awaitsCredit, and_assoc]

/-- Each credit of a round serves its own order. -/
theorem credits_serve (calls : List (Session × Uuid)) :
    Serves execCredit Prod.snd creditView (fun _ => True) calls := by
  refine ⟨fun _ _ _ _ _ _ => trivial, fun call _ db db' _ hexec id hid => ?_, fun call _ db db' _ hexec hstuc => ?_,
    fun call _ db db' _ hexec hable => ?_⟩
  · obtain ⟨order, ho, ⟨_, rfl⟩ | hsh⟩ := creditPaidRecharge_shows hexec
    · rfl
    · have hne : id ≠ order.id := fun h => hid (h.trans (found ho).2)
      simp only [creditView, hsh.orders, hsh.wallets, if_neg hne]
  · obtain ⟨order, ho, ⟨_, rfl⟩ | hsh⟩ := creditPaidRecharge_shows hexec
    · rfl
    · exact absurd (creditView_eq_some.mpr ⟨order, ho, hsh.paid, hsh.walletOpen⟩) hstuc
  · obtain ⟨order, ho, ⟨hcr, rfl⟩ | hsh⟩ := creditPaidRecharge_shows hexec
    · obtain ⟨_, hstor, hpaid, _⟩ := creditView_eq_some.mp hable
      obtain rfl := mem_unique hstor ho
      rw [hpaid] at hcr
      cases hcr
    · have hid : call.2 = order.id := (found ho).2.symm
      simp [creditView, hsh.orders, hid, awaitsCredit, credit]

theorem closeView_eq_some : closeView env r id = some able ↔ ∃ order,
    r.db.payments.rechargeOrders.find? id = some order ∧ r.awaitsClose order ∧
      env.closes r.region order = able := by
  simp [closeView, and_assoc]

theorem execClose_eq_ok {r' : Recovery} (h : execClose env n order r = .ok r') :
    env.closes r.region order = false ∧ r' = r ∨ env.closes r.region order ∧
      (∃ stored, r.db.payments.rechargeOrders.find? order.id = some stored ∧ r.awaitsClose stored) ∧
      r' = { r with
        providerClosed := Function.update r.providerClosed order.id true
        updatedAt := Function.update r.updatedAt order.id (env.now n) } := by
  unfold execClose at h
  split at h
  · next hcl =>
    simp only [markRechargeProviderClosed, eq_ok, any_eq_true] at h
    obtain ⟨_, haw, rfl⟩ := h
    exact .inr ⟨hcl, haw, rfl⟩
  · next hcl =>
    cases h
    exact .inl ⟨eq_false_of_ne_true hcl, rfl⟩

theorem closes_serve {orders : Table RechargeOrder} {calls : List RechargeOrder}
    (hcs : ∀ call ∈ calls, orders.find? call.id = some call) :
    Serves (execClose env n) RechargeOrder.id (closeView env) (fun r => r.db.payments.rechargeOrders = orders)
      calls := by
  refine ⟨fun call _ r r' hinv hexec => ?_, fun call _ r r' hinv hexec id hid => ?_,
    fun call hcall r r' hinv hexec hstuc => ?_, fun call hcall r r' hinv hexec hable => ?_⟩
  · rcases execClose_eq_ok hexec with ⟨_, rfl⟩ | ⟨_, _, rfl⟩ <;> exact hinv
  · rcases execClose_eq_ok hexec with ⟨_, rfl⟩ | ⟨_, _, rfl⟩
    · rfl
    · have hsame (row : RechargeOrder) (hrow : r.db.payments.rechargeOrders.find? id = some row) :
          Function.update r.providerClosed call.id true row.id = r.providerClosed row.id :=
        Function.update_of_ne (fun h => hid ((found hrow).2.symm.trans h)) ..
      unfold closeView
      cases hrow : r.db.payments.rechargeOrders.find? id with
      | none => rfl
      | some row =>
        simp only [Option.filter, Recovery.awaitsClose, hsame row hrow]
        rfl
  · rcases execClose_eq_ok hexec with ⟨_, rfl⟩ | ⟨hcl, ⟨stored, hstor, haw⟩, rfl⟩
    · rfl
    · have hrow := hinv ▸ hcs call hcall
      obtain rfl := Option.mem_unique hrow hstor
      exact absurd (closeView_eq_some.mpr ⟨call, hstor, haw, hcl⟩) hstuc
  · obtain ⟨stored, hstor, haw, hcl⟩ := closeView_eq_some.mp hable
    have hrow := hinv ▸ hcs call hcall
    obtain rfl := Option.mem_unique hrow hstor
    rcases execClose_eq_ok hexec with ⟨hnot, rfl⟩ | ⟨_, _, rfl⟩
    · rw [hcl] at hnot
      cases hnot
    · simp [closeView, hstor, Recovery.awaitsClose]

theorem refundView_eq_some : refundView env region db id = some able ↔ ∃ refund,
    db.payments.refundOrders.find? id = some refund ∧ refund.status.isOpen ∧
      refund.payable env region db.payments.rechargeOrders = able := by
  simp [refundView, awaitsProvider, and_assoc]

/-- A listed refund is the stored one as long as that is open. -/
def Listed (db : Db) (refund : RefundOrder) : Prop :=
  ∃ stored, db.payments.refundOrders.find? refund.id = some stored ∧ (stored.status.isOpen → stored = refund)

theorem execRefund_eq_ok (hls : Listed db refund)
    (h : execRefund env region (s, refund) db = .ok db') : db' = db ∧
        (refund.payable env region db.payments.rechargeOrders →
          ∃ stored, db.payments.refundOrders.find? refund.id = some stored ∧ stored.status.isOpen = false) ∨
      refund.payable env region db.payments.rechargeOrders ∧
        db.payments.refundOrders.find? refund.id = some refund ∧
        ∃ number order, RefundShows s number refund order db db' := by
  obtain ⟨stored, hstor, hsame⟩ := hls
  unfold execRefund at h
  split at h
  · next number order hnum ho =>
    dsimp only at hnum ho h
    split at h
    · next hask =>
      obtain ⟨found, hf, ⟨hsuc, rfl⟩ | ⟨_, hsh⟩⟩ := completeRefund_shows h
      · exact .inl ⟨rfl, fun _ => ⟨found, hf, by rw [hsuc]; rfl⟩⟩
      · obtain rfl := mem_unique hstor hf
        obtain rfl := hsame hsh.isOpen
        obtain rfl := mem_unique ho hsh.found
        refine .inr ⟨?_, hstor, number, order, hsh⟩
        simp [payable, hnum, ho, hask.1, hask.2, hsh.pending]
    · next hask =>
      cases h
      refine .inl ⟨rfl, fun hpy => absurd ?_ hask⟩
      simp only [payable, hnum, ho, any_some, cond_iff] at hpy
      exact ⟨hpy.1, hpy.2.1⟩
  · next hnone =>
    cases h
    refine .inl ⟨rfl, fun hpy => ?_⟩
    simp only [payable, Bool.and_eq_true, any_eq_true] at hpy
    obtain ⟨⟨number, hnum, _⟩, order, ho, _⟩ := hpy
    exact absurd ho (hnone number order hnum)

section

variable (h : RefundShows s number refund order db db')
include h

theorem RefundShows.other
    (hr : db.payments.refundOrders.find? refund.id = some refund) (hone : OneOpenRefund db) (hid : id ≠ refund.id) :
    refundView env region db' id = refundView env region db id := by
  obtain ⟨_, _, hor⟩ := h.orders
  unfold refundView
  rw [h.refunds, if_neg hid]
  cases hrow : db.payments.refundOrders.find? id with
  | none => rfl
  | some row =>
    by_cases hopen : row.status.isOpen
    · -- Another open refund belongs to another order.
      have hne : row.rechargeOrderId ≠ order.id := fun hsame => by
        have ho : order.id = refund.rechargeOrderId := (Table.found h.found).2
        exact hid (hone id refund.id row hrow hopen refund hr h.isOpen (hsame.trans ho))
      simp only [Option.filter, awaitsProvider, hopen, if_true, Option.map_some, payable, hor, if_neg hne]
    · simp [Option.filter, awaitsProvider, hopen]

theorem RefundShows.one (hone : OneOpenRefund db) : OneOpenRefund db' := by
  have hopen (id : Uuid) (row : RefundOrder) (hrow : db'.payments.refundOrders.find? id = some row)
      (hopen : row.status.isOpen) : db.payments.refundOrders.find? id = some row := by
    rw [h.refunds] at hrow
    split at hrow
    · cases hrow
      cases hopen
    · exact hrow
  intro a b first hfs hfr second hsd hsc
  exact hone a b first (hopen a first hfs hfr) hfr second (hopen b second hsd hsc)
    hsc

theorem RefundShows.listed {listed : RefundOrder} (hls : Listed db listed) : Listed db' listed := by
  obtain ⟨stored, _, hsame⟩ := hls
  by_cases hid : listed.id = refund.id
  · exact ⟨_, by rw [h.refunds, if_pos hid], fun hopen => by cases hopen⟩
  · exact ⟨stored, by rwa [h.refunds, if_neg hid], hsame⟩

end

/-- Each refund query of a round serves its own refund. -/
theorem refunds_serve {calls : List (Session × RefundOrder)} :
    Serves (execRefund env region) (fun call => call.2.id) (refundView env region)
      (fun db => OneOpenRefund db ∧ ∀ call ∈ calls, Listed db call.2) calls := by
  refine ⟨fun call hcall db db' hinv hexec => ?_, fun call hcall db db' hinv hexec id hid => ?_,
    fun call hcall db db' hinv hexec hstuc => ?_, fun call hcall db db' hinv hexec hable => ?_⟩
  · rcases execRefund_eq_ok (hinv.2 call hcall) hexec with ⟨rfl, _⟩ | ⟨_, _, number, order, hsh⟩
    · exact hinv
    · exact ⟨hsh.one hinv.1, fun other hne => hsh.listed (hinv.2 other hne)⟩
  · rcases execRefund_eq_ok (hinv.2 call hcall) hexec with ⟨rfl, _⟩ | ⟨_, hstor, number, order, hsh⟩
    · rfl
    · exact hsh.other hstor hinv.1 hid
  · rcases execRefund_eq_ok (hinv.2 call hcall) hexec with ⟨rfl, _⟩ | ⟨hpy, hstor, number, order, hsh⟩
    · rfl
    · exact absurd (refundView_eq_some.mpr ⟨call.2, hstor, hsh.isOpen, hpy⟩) hstuc
  · obtain ⟨_, hr, hopen, hpy⟩ := refundView_eq_some.mp hable
    obtain ⟨_, hstor, hsame⟩ := hinv.2 call hcall
    obtain rfl := mem_unique hstor hr
    obtain rfl := hsame hopen
    rcases execRefund_eq_ok (hinv.2 call hcall) hexec with ⟨rfl, hcl⟩ | ⟨_, _, number, order, hsh⟩
    · obtain ⟨_, hf, hnot⟩ := hcl hpy
      obtain rfl := mem_unique hf hstor
      rw [hopen] at hnot
      cases hnot
    · simp [refundView, hsh.refunds, awaitsProvider, succeed, RefundStatus.isOpen]

/-- One order was rewritten. -/
structure OrderMoved (old new : RechargeOrder) (t t' : Table RechargeOrder) : Prop where
  found : t.find? old.id = some old
  orders : ∀ id, t'.find? id = if id = old.id then some new else t.find? id

section

variable {old new : RechargeOrder} {t t' : Table RechargeOrder} {p : RechargeOrder → Bool}

theorem OrderMoved.filter (h : OrderMoved old new t t') (hold : p old = false) (hnew : p new = false) (id : Uuid) :
    (t'.find? id).filter p = (t.find? id).filter p := by
  rw [h.orders]
  split
  · next hid => simp [hid, h.found, Option.filter, hold, hnew]
  · rfl

theorem OrderMoved.any (h : OrderMoved old new t t') (hold : p old = false) (hnew : p new = false) (id : Uuid) :
    (t'.find? id).any p = (t.find? id).any p := by
  rw [← isSome_filter, h.filter hold hnew, isSome_filter]

end

theorem CreditShows.moved (h : CreditShows s order db db')
    (hf : db.payments.rechargeOrders.find? order.id = some order) :
    OrderMoved order (order.credit s) db.payments.rechargeOrders db'.payments.rechargeOrders := ⟨hf, h.orders⟩

theorem RefundShows.moved (h : RefundShows s number refund order db db') :
    ∃ status : RechargeStatus, (status = .credited ∨ status = .refunded) ∧
      OrderMoved order (order.setStatus status) db.payments.rechargeOrders db'.payments.rechargeOrders := by
  obtain ⟨status, hst, hor⟩ := h.orders
  have hid : order.id = refund.rechargeOrderId := (Table.found h.found).2
  exact ⟨status, hst, hid ▸ h.found, hor⟩

theorem execCredit_keeps {call : Session × Uuid} (h : execCredit call db = .ok db') (r : Recovery)
    (region : Uuid → String) (id : Uuid) :
    closeView env { r with db := db' } id = closeView env { r with db := db } id ∧
      refundView env region db' id = refundView env region db id := by
  obtain ⟨order, ho, ⟨_, rfl⟩ | hsh⟩ := creditPaidRecharge_shows h
  · exact ⟨rfl, rfl⟩
  · have hid : order.id = call.2 := (found ho).2
    have hmv := hsh.moved (hid ▸ ho)
    constructor
    · unfold closeView
      congr 1
      refine hmv.filter ?_ ?_ id
      · simp [Recovery.awaitsClose, hsh.paid]
      · simp [Recovery.awaitsClose, credit]
    · unfold refundView
      rw [hsh.refunds]
      congr 1
      funext refund
      unfold payable
      rw [hmv.any]
      · simp [hsh.paid]
      · simp [credit]

theorem RefundShows.keeps (h : RefundShows s number refund order db db') (env : Surroundings)
    (r : Recovery) (id : Uuid) :
    closeView env { r with db := db' } id = closeView env { r with db := db } id ∧
      creditView db' id = creditView db id := by
  obtain ⟨_, hst, hmv⟩ := h.moved
  constructor
  · unfold closeView
    congr 1
    refine hmv.filter ?_ ?_ id
    · simp [Recovery.awaitsClose, h.pending]
    · rcases hst with rfl | rfl <;> simp [Recovery.awaitsClose, setStatus]
  · unfold creditView
    simp only [h.wallets]
    congr 1
    refine hmv.filter ?_ ?_ id
    · simp [awaitsCredit, h.pending]
    · rcases hst with rfl | rfl <;> simp [awaitsCredit, setStatus]

theorem execRefund_shows {call : Session × RefundOrder} (h : execRefund env region call db = .ok db') :
    db' = db ∨ ∃ number refund order, db.payments.refundOrders.find? refund.id = some refund ∧
      RefundShows call.1 number refund order db db' := by
  unfold execRefund at h
  split at h
  · split at h
    · obtain ⟨refund, hr, ⟨_, rfl⟩ | ⟨order, hsh⟩⟩ := completeRefund_shows h
      · exact .inl rfl
      · have hid : refund.id = call.2.id := (found hr).2
        exact .inr ⟨_, refund, order, hid ▸ hr, hsh⟩
    · cases h
      exact .inl rfl
  · cases h
    exact .inl rfl

variable (env n r)

theorem credit_keeps (region : Uuid → String) (id : Uuid) :
    closeView env (r.credit env n) id = closeView env r id ∧
      refundView env region (r.credit env n).db id = refundView env region r.db id :=
  ⟨run_unchanged (fun db => closeView env { r with db := db } id) fun _ _ _ hexec =>
      (execCredit_keeps hexec r region id).1,
    run_unchanged (fun db => refundView env region db id) fun _ _ _ hexec => (execCredit_keeps hexec r region id).2⟩

variable (id : Uuid)

theorem refund_keeps : closeView env (r.refund env n) id = closeView env r id ∧
      creditView (r.refund env n).db id = creditView r.db id := by
  constructor
  · refine run_unchanged (fun db => closeView env { r with db := db } id) fun call db db' hexec => ?_
    rcases execRefund_shows hexec with rfl | ⟨_, _, _, _, hsh⟩
    · rfl
    · exact (hsh.keeps env r id).1
  · refine run_unchanged (fun db => creditView db id) fun call db db' hexec => ?_
    rcases execRefund_shows hexec with rfl | ⟨_, _, _, _, hsh⟩
    · rfl
    · exact (hsh.keeps env r id).2

theorem find?_expire : (r.expire env n).db.payments.rechargeOrders.find? id =
      (r.db.payments.rechargeOrders.find? id).map (RechargeOrder.expire (env.due n)) :=
  find?_rewrite (expire_key _) id

theorem expire_cases (due : Uuid → Bool) (order : RechargeOrder) : order.expire due = order ∨
    due order.id ∧ (order.status = .created ∨ order.status = .pending) ∧
      order.expire due = order.setStatus .expired := by
  unfold expire
  split
  · next h => exact .inr ⟨h.1, h.2, rfl⟩
  · exact .inl rfl

theorem expire_keeps (region : Uuid → String) (id : Uuid) :
    creditView (r.expire env n).db id = creditView r.db id ∧
      refundView env region (r.expire env n).db id = refundView env region r.db id := by
  constructor
  · unfold creditView
    rw [find?_expire]
    cases r.db.payments.rechargeOrders.find? id with
    | none => rfl
    | some order =>
      rcases expire_cases (env.due n) order with hsame | ⟨_, hst, hexp⟩
      · rw [Option.map_some, hsame]
        rfl
      · have hnot : order.status ≠ .paid := by rcases hst with h | h <;> simp [h]
        simp [hexp, Option.filter, awaitsCredit, setStatus, hnot]
  · unfold refundView payable
    simp only [find?_expire]
    congr 1
    funext refund
    cases r.db.payments.rechargeOrders.find? refund.rechargeOrderId with
    | none => rfl
    | some order =>
      rcases expire_cases (env.due n) order with hsame | ⟨_, hst, hexp⟩
      · rw [Option.map_some, hsame]
      · have hnot : order.status ≠ .refundPending := by rcases hst with h | h <;> simp [h]
        simp [hexp, setStatus, hnot]

theorem expire_closeView :
    closeView env (r.expire env n) id = closeView env r id ∧ (r.expire env n).updatedAt id = r.updatedAt id ∨
      closeView env r id = none ∧ (r.expire env n).updatedAt id = env.now n := by
  by_cases hexp : r.expires env n id
  · refine .inr ⟨?_, if_pos hexp⟩
    simp only [Recovery.expires, any_eq_true, cond_iff] at hexp
    obtain ⟨order, ho, hexp⟩ := hexp
    have hnot : order.status ≠ .expired := by rcases hexp.2 with h | h <;> simp [h]
    simp [closeView, ho, Recovery.awaitsClose, hnot]
  · refine .inl ⟨?_, if_neg hexp⟩
    unfold closeView
    rw [find?_expire]
    cases hf : r.db.payments.rechargeOrders.find? id with
    | none => rfl
    | some order =>
      have hid : order.id = id := (found hf).2
      rcases expire_cases (env.due n) order with hsame | ⟨hdue, hst, _⟩
      · rw [map_some, hsame]
        rfl
      · refine absurd ?_ hexp
        rw [hid] at hdue
        simpa [Recovery.expires, hf, hdue] using hst

theorem close_keeps :
    (r.close env n).db = r.db ∧ (r.close env n).region = r.region ∧ (r.close env n).paidAt = r.paidAt ∧
      (r.close env n).refundCreatedAt = r.refundCreatedAt := by
  have hstep (r₁ : Recovery) (order : RechargeOrder) (r₂ : Recovery) (hexec : execClose env n order r₁ = .ok r₂) :
      (r₂.db, r₂.region, r₂.paidAt, r₂.refundCreatedAt) = (r₁.db, r₁.region, r₁.paidAt, r₁.refundCreatedAt) := by
    rcases execClose_eq_ok hexec with ⟨_, rfl⟩ | ⟨_, _, rfl⟩ <;> rfl
  have hkept : (fun r : Recovery => (r.db, r.region, r.paidAt, r.refundCreatedAt)) (r.close env n) = _ :=
    run_unchanged _ hstep
  simpa only [Prod.mk.injEq] using hkept

theorem close_updatedAt :
    (r.close env n).updatedAt id = r.updatedAt id ∨ (r.close env n).providerClosed id := by
  have hstep (r₁ : Recovery) (order : RechargeOrder) (r₂ : Recovery)
      (hkept : r₁.updatedAt id = r.updatedAt id ∨ r₁.providerClosed id) (_ : True)
      (hexec : execClose env n order r₁ = .ok r₂) :
      r₂.updatedAt id = r.updatedAt id ∨ r₂.providerClosed id := by
    rcases execClose_eq_ok hexec with ⟨_, rfl⟩ | ⟨_, _, rfl⟩
    · exact hkept
    · by_cases hid : id = order.id
      · exact .inr (by rw [hid]; exact Function.update_self ..)
      · simpa only [Function.update_of_ne hid] using hkept
  exact run_invariant hstep (.inl rfl) (Along.of_forall fun _ _ => trivial)

end ModelDock.Store
