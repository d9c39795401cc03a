import ModelDock.Payment.Invoiced
import ModelDock.Payment.RecoveryRounds

/-!
# Orders that the recovery never reaches

Orders that cannot make progress stay at the head of their scan, so one that can is finished at some time if and
only if fewer than a hundred of them are before it.
-/

namespace ModelDock.Store

open Relational Table Option Bool

variable {env : Surroundings} {n : ℕ} {r : Recovery} {id : Uuid} {db db' : Db} {s : Session}
  {order : RechargeOrder} {refund : RefundOrder} {status : RechargeStatus}

/-- An account has one waiting refund while its order waits for one, and none otherwise. -/
def OrderAccount.Single (account : OrderAccount) : Prop :=
  account.waiting = if account.status = .refundPending then 1 else 0

theorem OrderStep.single {call : PaymentCall} {account account' : OrderAccount}
    (h : OrderStep db order call account account') (hsn : account.Single) (hnn : 0 ≤ account'.waiting) :
    account'.Single := by
  unfold OrderAccount.Single at *
  cases h with
  | stay hst =>
    rcases hst with rfl | ⟨hbef, haf⟩
    · exact hsn
    · refine hsn.trans ?_
      rw [if_neg (by rintro rfl; cases hbef), if_neg (by rintro rfl; cases haf)]
  | credit | chargeback => exact hsn
  | createRefund => exact congrArg (· + 1) hsn
  | @failRefund _ _ _ status =>
    by_cases hpn : status = .refundPending
    · simp only [hpn] at hsn ⊢
      simp [hsn]
    · simp only [if_neg hpn] at hsn
      simp only [hsn] at hnn
      omega
  | completeRefund =>
    simp only [if_true] at hsn
    split <;> simp [hsn]

/-- Every refund belongs to an order, and every order has one waiting refund at most. -/
structure SingleRefunds (db : Db) : Prop where
  orders : ∀ refund ∈ db.payments.refundOrders.rows,
    ∃ order ∈ db.payments.rechargeOrders.rows, order.id = refund.rechargeOrderId
  single : ∀ order ∈ db.payments.rechargeOrders.rows, (order.account db.payments).Single

theorem SingleRefunds.exec {call : PaymentCall} (h : SingleRefunds db) (hexec : execPayment (s, call) db = .ok db') :
    SingleRefunds db' := by
  have hkept {orderId : Uuid} (ho : ∃ order ∈ db.payments.rechargeOrders.rows, order.id = orderId) :
      ∃ order' ∈ db'.payments.rechargeOrders.rows, order'.id = orderId := by
    obtain ⟨order, hmem, hid⟩ := ho
    obtain ⟨order', hmem', hlat⟩ := execPayment_rechargeOrders_kept hexec order hmem
    exact ⟨order', hmem', hlat.id.trans hid⟩
  refine ⟨fun refund' hr' => hkept ?_, fun order' ho' => ?_⟩
  · rcases execPayment_cases hexec with ⟨_, rfl, hc⟩ | hq
    · rcases hc.refund_cases hr' with ⟨refund, hr, hlat, _⟩ | ⟨order, ho, hcr⟩ |
        ⟨order, ho, hid, _⟩
      · exact hlat.rechargeOrderId ▸ h.orders refund hr
      · exact ⟨order, ho, hcr.rechargeOrderId.symm⟩
      · exact ⟨order, ho, hid.symm⟩
    · obtain ⟨refund, hr, htm⟩ := mem_of_view hq.refundOrders hr'
      have hlat := RefundOrder.Later.of_terms refund refund' htm.symm
      exact hlat.rechargeOrderId ▸ h.orders refund hr
  · obtain ⟨order, ho, _, hstep⟩ := execPayment_walked hexec ho'
    exact hstep.single (h.single order ho) (openRefunds_nonneg ..)

theorem Genesis.singleRefunds (h : Genesis db) : SingleRefunds db := by
  refine ⟨fun refund hr => absurd hr (by simp [h.refundOrders]), fun order ho => ?_⟩
  have hnone : openRefunds order.id db.payments = 0 :=
    sum_eq_zero fun refund hr => absurd hr (by simp [h.refundOrders])
  have hst : order.status ≠ .refundPending := fun hpn => by
    have hcr := h.rechargeOrders order ho
    rw [hpn] at hcr
    cases hcr
  exact hnone.trans (if_neg hst).symm

theorem one_le_openRefunds {payments : Payments} (hr : refund ∈ payments.refundOrders.rows)
    (hopen : refund.status.isOpen) : 1 ≤ openRefunds refund.rechargeOrderId payments := by
  have hterm : (if refund.rechargeOrderId = refund.rechargeOrderId then refund.waiting else 0) = 1 := by
    rw [if_pos rfl, refund.waiting_of_open hopen]
  rw [← hterm]
  refine le_sum_of_mem (fun row _ => ?_) hr
  unfold RefundOrder.waiting
  split <;> [split; skip] <;> omega

theorem SingleRefunds.oneOpenRefund (h : SingleRefunds db) : OneOpenRefund db := by
  intro _ _ first hfs hfr second hsd hsc hsame
  by_contra hne
  obtain ⟨hmem, rfl⟩ := found hfs
  obtain ⟨hmem', rfl⟩ := found hsd
  obtain ⟨order, ho, hid⟩ := h.orders first hmem
  -- Without the first refund the second one still waits.
  let without : Payments := { db.payments with refundOrders := db.payments.refundOrders.replace (first.fail "") }
  have hsum : openRefunds order.id without = openRefunds order.id db.payments +
      if first.rechargeOrderId = order.id then (first.fail "").waiting - first.waiting else 0 :=
    refundSum_replace RefundOrder.waiting rfl hmem (first.fail_key "") order.id
  have hsty : second ∈ without.refundOrders.rows :=
    (mem_replace hmem (first.fail_key "")).mpr (.inr ⟨hmem', fun hid => hne hid.symm⟩)
  have hwt := one_le_openRefunds hsty hsc
  have hsn := h.single order ho
  unfold OrderAccount.Single RechargeOrder.account at hsn
  dsimp only at hsn
  rw [if_pos hid.symm, first.waiting_of_open hfr] at hsum
  rw [← hsame, ← hid, hsum, hsn] at hwt
  have hnone : (first.fail "").waiting = 0 := rfl
  split at hwt <;> omega

theorem oneOpenRefund_of_payments (h : Genesis db) (calls : List (Session × PaymentCall)) :
    OneOpenRefund (run execPayment db calls) := by
  have hsn : SingleRefunds (run execPayment db calls) :=
    run_invariant (fun _ _ _ hinv (_ : True) hexec => hinv.exec hexec) h.singleRefunds
      (Along.of_forall fun _ _ => trivial)
  exact hsn.oneOpenRefund

/-- An order is credited and asked back. -/
theorem oneOpenRefund_of_demoRefund : OneOpenRefund (run execPayment demoDb
    [(demoSession 1, .store (.creditPaidRecharge 1)),
      (demoSession 2, .store (.createRefundOrder (demoRefund 1 100)))]) :=
  oneOpenRefund_of_payments demoDb_genesis _

/-- The credits of a round are answered: none fails that could credit its order. -/
def CreditsAnswered (env : Surroundings) (n : ℕ) (r : Recovery) : Prop :=
  Along execCredit (Answered execCredit Prod.snd creditView) r.db (env.credits n r)

/-- The refunds of a round are answered: none fails that could complete its refund. -/
def RefundsAnswered (env : Surroundings) (n : ℕ) (r : Recovery) : Prop :=
  Along (execRefund env r.region) (Answered (execRefund env r.region) (fun call => call.2.id) (refundView env r.region))
    (r.beforeRefunds env n).db (env.refunds n (r.beforeRefunds env n))

/-- The store answers in every round. -/
structure Answers (env : Surroundings) (r : Recovery) : Prop where
  credits : ∀ n, CreditsAnswered env n (rounds env r n)
  refunds : ∀ n, RefundsAnswered env n (rounds env r n)

theorem CreditsAnswered.done (h : CreditsAnswered env n r) (hable : creditView r.db id = some true)
    (hpl : place (byTime r.paidAt) (paidOrders r) id < 100) : creditView (recover env n r).db id = none := by
  have hwt : id ∈ paidOrders r := mem_paidOrders.mpr (by simp [hable])
  rw [recover_creditView]
  exact (credits_serve _).served trivial h (mem_credits.mpr ⟨hwt, hpl⟩) hable

theorem RefundsAnswered.done (h : RefundsAnswered env n r) (hone : OneOpenRefund r.db)
    (hable : refundView env r.region r.db id = some true)
    (hpl : place (byTime r.refundCreatedAt) (waitingRefunds r) id < 100) :
    refundView env r.region (recover env n r).db id = none := by
  have hwt : id ∈ waitingRefunds r := (mem_waitingRefunds env r.region).mpr (by simp [hable])
  have hcl : id ∈ (env.refunds n (r.beforeRefunds env n)).map fun call => call.2.id := by
    obtain ⟨hkey, hqu⟩ := beforeRefunds_queue env n r
    rw [mem_refunds, hkey, hqu]
    exact ⟨hwt, hpl⟩
  have hdone := refunds_serve.served ⟨beforeRefunds_one env n hone, refunds_listed env n (r.beforeRefunds env n)⟩
    h hcl ((beforeRefunds_refundView env n r r.region id).trans hable)
  have hrg : (r.beforeRefunds env n).region = r.region := (recover_columns env n r).1
  rw [← hrg] at hdone ⊢
  exact hdone

theorem Answers.credits_served (h : Answers env r) : Served 100
    (fun n id => creditView (rounds env r n).db id = some true) (fun n => byTime (rounds env r n).paidAt)
    (fun n => paidOrders (rounds env r n)) := fun n _ _ hable hpl hsty =>
  mem_paidOrders.mp hsty ((h.credits n).done (of_decide_eq_true hable) hpl)

theorem Clock.closes_served (h : Clock env r) : Served 100
    (fun n id => closeView env (rounds env r n) id = some true) (fun n => byTime (rounds env r n).updatedAt)
    (fun n => unclosedOrders (rounds env r n)) := by
  intro n id hid hable _
  have hable := of_decide_eq_true hable
  have hbef : closeView env ((rounds env r n).beforeCloses env n) id = some true := by
    rcases beforeCloses_closeView env n (rounds env r n) id with ⟨hsame, _⟩ | ⟨hnone, _⟩
    · exact hsame.trans hable
    · exact absurd hnone (by simp [hable])
  have hdone := close_done (n := n) hbef (by rwa [beforeCloses_place (h.rounds_older n) hid])
  refine fun hsty => (mem_unclosedOrders env).mp hsty ?_
  exact (recover_closeView env n (rounds env r n) id).trans hdone

theorem Answers.refunds_served (h : Answers env r) (hone : OneOpenRefund r.db) : Served 100
    (fun n id => refundView env r.region (rounds env r n).db id = some true)
    (fun n => byTime (rounds env r n).refundCreatedAt) (fun n => waitingRefunds (rounds env r n)) := by
  intro n id _ hable hpl hsty
  have hrg := (rounds_columns env r n).1
  have hable : refundView env (rounds env r n).region (rounds env r n).db id = some true := by
    rw [hrg]
    exact of_decide_eq_true hable
  have hdone := (h.refunds n).done (rounds_one env hone n) hable hpl
  rw [hrg] at hdone
  exact (mem_waitingRefunds env r.region).mp hsty hdone

theorem creditable_earlier {m : ℕ} (hmn : m ≤ n) (h : creditView (rounds env r n).db id = some true) :
    creditView (rounds env r m).db id = some true := by
  induction hmn with
  | refl => exact h
  | @step k _ ih =>
    rcases recover_credits env k (rounds env r k) id with hsame | ⟨hable, _⟩
    · exact ih (hsame.symm.trans h)
    · exact ih hable

theorem refundable_earlier {m : ℕ} (hone : OneOpenRefund r.db) (hmn : m ≤ n)
    (h : refundView env r.region (rounds env r n).db id = some true) :
    refundView env r.region (rounds env r m).db id = some true := by
  induction hmn with
  | refl => exact h
  | @step k _ ih =>
    have hrn := recover_refunds env k (rounds_one env hone k) id
    rw [(rounds_columns env r k).1] at hrn
    rcases hrn with hsame | ⟨hable, _⟩
    · exact ih (hsame.symm.trans h)
    · exact ih hable

theorem CreditsAnswered.of_stuck (hstuc : ∀ call ∈ env.credits n r, creditView r.db call.2 ≠ some true) :
    CreditsAnswered env n r :=
  (credits_serve _).answered_of_stuck trivial hstuc

theorem RefundsAnswered.of_stuck (hone : OneOpenRefund r.db)
    (hstuc : ∀ id, refundView env r.region r.db id ≠ some true) : RefundsAnswered env n r := by
  refine refunds_serve.answered_of_stuck ⟨beforeRefunds_one env n hone, refunds_listed env n (r.beforeRefunds env n)⟩
    fun call _ => ?_
  rw [beforeRefunds_refundView]
  exact hstuc call.2.id

theorem Answers.of_first_round (hone : OneOpenRefund r.db) (hcr : CreditsAnswered env 0 r)
    (href : RefundsAnswered env 0 r) (hfw : (paidOrders r).card ≤ 100)
    (hfn : (waitingRefunds r).card ≤ 100) : Answers env r := by
  constructor
  · rintro (_ | n)
    · exact hcr
    refine .of_stuck fun call _ hable => ?_
    have hfs : creditView r.db call.2 = some true := creditable_earlier (n + 1).zero_le hable
    have hwt : call.2 ∈ paidOrders r := mem_paidOrders.mpr (by simp [hfs])
    have hnone := hcr.done hfs ((place_lt_card hwt).trans_le hfw)
    exact absurd (hnone.symm.trans (creditable_earlier (Nat.le_add_left 1 n) hable)) (by simp)
  · rintro (_ | n)
    · exact href
    refine .of_stuck (rounds_one env hone (n + 1)) fun id hable => ?_
    rw [(rounds_columns env r (n + 1)).1] at hable
    have hfs : refundView env r.region r.db id = some true := refundable_earlier hone (n + 1).zero_le hable
    have hwt : id ∈ waitingRefunds r := (mem_waitingRefunds env r.region).mpr (by simp [hfs])
    have hnone := href.done hone hfs ((place_lt_card hwt).trans_le hfn)
    exact absurd (hnone.symm.trans (refundable_earlier hone (Nat.le_add_left 1 n) hable)) (by simp)

/-- What the worker makes of the status of an order. -/
inductive RechargeStatus.Becomes : RechargeStatus → RechargeStatus → Prop
  | refl (status : RechargeStatus) : Becomes status status
  | credited : Becomes .paid .credited
  | expired {status : RechargeStatus} (h : status = .created ∨ status = .pending) : Becomes status .expired
  | refunded {status : RechargeStatus} (h : status = .credited ∨ status = .refunded) : Becomes .refundPending status

theorem RechargeStatus.Becomes.trans {a b c : RechargeStatus} (hab : a.Becomes b) (hbc : b.Becomes c) :
    a.Becomes c := by
  cases hab with
  | refl => exact hbc
  | credited =>
    cases hbc with
    | refl => exact .credited
    | expired h => rcases h with h | h <;> cases h
  | expired h =>
    cases hbc with
    | refl | expired => exact .expired h
  | refunded h =>
    cases hbc with
    | refl => exact .refunded h
    | credited | refunded => rcases h with h | h <;> cases h
    | expired h' =>
      rcases h' with rfl | rfl <;> rcases h with h | h <;> cases h

theorem RechargeStatus.Becomes.of_paid (h : Becomes .paid status) : status = .paid ∨ status = .credited := by
  cases h with
  | refl => exact .inl rfl
  | credited => exact .inr rfl
  | expired h => rcases h with h | h <;> cases h

theorem RechargeStatus.Becomes.of_expired (h : Becomes .expired status) : status = .expired := by
  cases h with
  | refl => rfl
  | expired h => rcases h with h | h <;> cases h

/-- What the worker makes of orders and refunds. -/
structure Progress (db db' : Db) : Prop where
  orders : ∀ id order, db.payments.rechargeOrders.find? id = some order →
    ∃ order', db'.payments.rechargeOrders.find? id = some order' ∧ order.status.Becomes order'.status
  refunds : ∀ id refund, db.payments.refundOrders.find? id = some refund →
    ∃ refund', db'.payments.refundOrders.find? id = some refund' ∧
      (refund'.status = refund.status ∨ refund.status.isOpen ∧ refund'.status = .succeeded)

theorem Progress.refl (db : Db) : Progress db db :=
  ⟨fun _ order ho => ⟨order, ho, .refl _⟩, fun _ refund hr => ⟨refund, hr, .inl rfl⟩⟩

theorem Progress.trans {db₁ db₂ db₃ : Db} (h : Progress db₁ db₂) (h' : Progress db₂ db₃) : Progress db₁ db₃ := by
  refine ⟨fun id order ho => ?_, fun id refund hr => ?_⟩
  · obtain ⟨order', ho', hbc⟩ := h.orders id order ho
    obtain ⟨order'', ho'', hbc'⟩ := h'.orders id order' ho'
    exact ⟨order'', ho'', hbc.trans hbc'⟩
  · obtain ⟨refund', hr', hst⟩ := h.refunds id refund hr
    obtain ⟨refund'', hr'', hst'⟩ := h'.refunds id refund' hr'
    refine ⟨refund'', hr'', ?_⟩
    rcases hst with hsame | ⟨hopen, hsuc⟩
    · rwa [hsame] at hst'
    · right
      rw [hsuc] at hst'
      rcases hst' with hsame | ⟨hnot, _⟩
      · exact ⟨hopen, hsame⟩
      · cases hnot

theorem Progress.of_moved {old new : RechargeOrder}
    (hmv : OrderMoved old new db.payments.rechargeOrders db'.payments.rechargeOrders)
    (hbc : old.status.Becomes new.status)
    (href : ∀ id refund, db.payments.refundOrders.find? id = some refund →
      ∃ refund', db'.payments.refundOrders.find? id = some refund' ∧
        (refund'.status = refund.status ∨ refund.status.isOpen ∧ refund'.status = .succeeded)) :
    Progress db db' := by
  refine ⟨fun id order ho => ?_, href⟩
  rw [hmv.orders]
  split
  · next hid =>
    obtain rfl := some_inj.mp (ho.symm.trans (hid ▸ hmv.found))
    exact ⟨new, rfl, hbc⟩
  · exact ⟨order, ho, .refl _⟩

theorem execCredit_progress {call : Session × Uuid} (h : execCredit call db = .ok db') : Progress db db' := by
  obtain ⟨order, ho, ⟨_, rfl⟩ | hsh⟩ := creditPaidRecharge_shows h
  · exact .refl _
  · have hid : order.id = call.2 := (found ho).2
    refine .of_moved (hsh.moved (hid ▸ ho)) ?_ fun id refund hr => ?_
    · rw [hsh.paid]
      exact .credited
    · exact ⟨refund, hsh.refunds ▸ hr, .inl rfl⟩

theorem RefundShows.progress {number : String} (h : RefundShows s number refund order db db')
    (hf : db.payments.refundOrders.find? refund.id = some refund) : Progress db db' := by
  obtain ⟨_, hst, hmv⟩ := h.moved
  refine .of_moved hmv ?_ fun id row hrow => ?_
  · rw [h.pending]
    exact .refunded hst
  · rw [h.refunds]
    split
    · next hid =>
      obtain rfl := some_inj.mp (hrow.symm.trans (hid ▸ hf))
      exact ⟨_, rfl, .inr ⟨h.isOpen, rfl⟩⟩
    · exact ⟨row, hrow, .inl rfl⟩

theorem expire_progress (env : Surroundings) (n : ℕ) (r : Recovery) : Progress r.db (r.expire env n).db := by
  refine ⟨fun id order ho => ?_, fun id refund hr => ⟨refund, hr, .inl rfl⟩⟩
  rw [find?_expire, ho]
  refine ⟨_, rfl, ?_⟩
  rcases expire_cases (env.due n) order with hsame | ⟨_, hst, hexp⟩
  · rw [hsame]
    exact .refl _
  · rw [hexp]
    exact .expired hst

theorem recover_progress (env : Surroundings) (n : ℕ) (r : Recovery) : Progress r.db (recover env n r).db := by
  have hcr (db : Db) (call : Session × Uuid) (db' : Db) (hdone : Progress r.db db) (_ : True)
      (hexec : execCredit call db = .ok db') : Progress r.db db' := hdone.trans (execCredit_progress hexec)
  have hr (db : Db) (call : Session × RefundOrder) (db' : Db) (hdone : Progress r.db db) (_ : True)
      (hexec : execRefund env (r.beforeRefunds env n).region call db = .ok db') : Progress r.db db' := by
    rcases execRefund_shows hexec with rfl | ⟨_, _, _, hf, hsh⟩
    · exact hdone
    · exact hdone.trans (hsh.progress hf)
  have hcred : Progress r.db (r.credit env n).db :=
    run_invariant hcr (.refl r.db) (Along.of_forall fun _ _ => trivial)
  have hbef : Progress r.db (r.beforeRefunds env n).db := by
    have hcl : (r.beforeRefunds env n).db = (r.beforeCloses env n).db := (close_keeps env n (r.beforeCloses env n)).1
    rw [hcl]
    exact hcred.trans (expire_progress env n (r.credit env n))
  exact run_invariant hr hbef (Along.of_forall fun _ _ => trivial)

theorem rounds_progress (env : Surroundings) (r : Recovery) (n : ℕ) : Progress r.db (rounds env r n).db := by
  induction n with
  | zero => exact .refl r.db
  | succ n ih => exact ih.trans (recover_progress env n (rounds env r n))

/-- The status of an order. -/
def Recovery.orderStatus (r : Recovery) (id : Uuid) : Option RechargeStatus :=
  (r.db.payments.rechargeOrders.find? id).map RechargeOrder.status

/-- The status of a refund. -/
def Recovery.refundStatus (r : Recovery) (id : Uuid) : Option RefundStatus :=
  (r.db.payments.refundOrders.find? id).map RefundOrder.status

theorem credited_iff (ho : r.db.payments.rechargeOrders.find? id = some order) (hpaid : order.status = .paid)
    (n : ℕ) : (rounds env r n).orderStatus id = some .credited ↔ id ∉ paidOrders (rounds env r n) := by
  obtain ⟨_, ho', hbc⟩ := (rounds_progress env r n).orders id order ho
  have hst := (hpaid ▸ hbc).of_paid
  simp only [Recovery.orderStatus, paidOrders, mem_waiting, ho', RechargeOrder.awaitsCredit,
    some.injEq]
  rcases hst with h | h <;> simp [h]

theorem closed_iff (ho : r.db.payments.rechargeOrders.find? id = some order) (hexp : order.status = .expired)
    (n : ℕ) : (rounds env r n).providerClosed id ↔ id ∉ unclosedOrders (rounds env r n) := by
  obtain ⟨order', ho', hbc⟩ := (rounds_progress env r n).orders id order ho
  have hst := (hexp ▸ hbc).of_expired
  have hid : order'.id = id := (found ho').2
  simp [unclosedOrders, mem_waiting, ho', Recovery.awaitsClose, hst, hid]

theorem succeeded_iff (hr : r.db.payments.refundOrders.find? id = some refund)
    (hopen : refund.status.isOpen) (n : ℕ) :
    (rounds env r n).refundStatus id = some .succeeded ↔ id ∉ waitingRefunds (rounds env r n) := by
  obtain ⟨_, hr', hst⟩ := (rounds_progress env r n).refunds id refund hr
  simp only [Recovery.refundStatus, waitingRefunds, mem_waiting, hr', RefundOrder.awaitsProvider,
    map_some, some.injEq, exists_eq_left']
  rcases hst with hsame | ⟨_, hsuc⟩
  · rw [hsame, hopen]
    refine ⟨fun h => ?_, fun h => absurd rfl h⟩
    rw [h] at hopen
    cases hopen
  · rw [hsuc]
    decide

/-- The worker keeps running while the store and the adapters answer. Then a paid order whose wallet is open in the
order's currency is credited at some time if and only if fewer than a hundred paid orders before it cannot be
credited; an expired order that its adapter closes is closed at some time if and only if fewer than a hundred expired
orders before it cannot be closed; and an open refund that its provider reports as paid is completed at some time if
and only if it has a number at the provider, its order waits for it and fewer than a hundred open refunds before it
cannot be completed. -/
theorem recovery_finishes_iff (hclock : Clock env r) (hone : OneOpenRefund r.db) (hanswers : Answers env r) :
    (∀ id order, r.db.payments.rechargeOrders.find? id = some order → order.status = .paid →
      order.walletOpen r.db.wallets →
      ((∃ n, (rounds env r n).orderStatus id = some .credited) ↔ (creditBlockers r id).card < 100)) ∧
    (∀ id order, r.db.payments.rechargeOrders.find? id = some order → order.status = .expired →
      r.providerClosed id = false → env.closes r.region order →
      ((∃ n, (rounds env r n).providerClosed id) ↔ (closeBlockers env r id).card < 100)) ∧
    ∀ id refund order, r.db.payments.refundOrders.find? id = some refund → refund.status.isOpen →
      r.db.payments.rechargeOrders.find? refund.rechargeOrderId = some order →
      env.reports r.region refund order →
      ((∃ n, (rounds env r n).refundStatus id = some .succeeded) ↔
        refund.providerRefundNo.any (· ≠ "") ∧ order.status = .refundPending ∧
          (refundBlockers env r id).card < 100) := by
  refine ⟨fun id order ho hpaid hw => ?_, fun id order ho hexp hun hcl => ?_,
    fun id refund order hr hopen ho hrp => ?_⟩
  · have hable : creditView (rounds env r 0).db id = some true := creditView_eq_some.mpr ⟨order, ho, hpaid, hw⟩
    simp only [credited_iff ho hpaid]
    exact (credits_scan env r).leaves_iff hanswers.credits_served (mem_paidOrders.mpr (by simp [hable]))
      (decide_eq_true hable)
  · have hid : order.id = id := (found ho).2
    have hable : closeView env (rounds env r 0) id = some true :=
      closeView_eq_some.mpr ⟨order, ho, by simp [Recovery.awaitsClose, hexp, hid, rounds, hun], hcl⟩
    simp only [closed_iff ho hexp]
    exact (closes_scan hclock).leaves_iff hclock.closes_served ((mem_unclosedOrders env).mpr (by simp [hable]))
      (decide_eq_true hable)
  · have hwt : id ∈ waitingRefunds (rounds env r 0) := mem_waiting.mpr ⟨refund, hr, hopen⟩
    simp only [succeeded_iff hr hopen]
    by_cases hpy : refund.payable env r.region r.db.payments.rechargeOrders
    · have hable : refundView env r.region (rounds env r 0).db id = some true :=
        refundView_eq_some.mpr ⟨refund, hr, hopen, hpy⟩
      simp only [RefundOrder.payable, ho, any_some, hrp, Bool.true_and, cond_iff] at hpy
      rw [(refunds_scan hone).leaves_iff (hanswers.refunds_served hone) hwt (decide_eq_true hable)]
      exact ⟨fun h => ⟨hpy.1, hpy.2, h⟩, fun h => h.2.2⟩
    · have hstuc : decide (refundView env r.region (rounds env r 0).db id = some true) = false := by
        refine decide_eq_false fun hable => hpy ?_
        obtain ⟨_, hstor, _, h⟩ := refundView_eq_some.mp hable
        obtain rfl := mem_unique hr hstor
        exact h
      constructor
      · rintro ⟨n, hgone⟩
        exact absurd ((refunds_scan hone).stuck_waits hwt hstuc n).1 hgone
      · rintro ⟨hnum, hpn, _⟩
        refine absurd ?_ hpy
        simp only [RefundOrder.payable, ho, any_some, hrp, hpn, hnum]
        decide

/-- Adapters that close every order and report every refund as paid. -/
def demoSurroundings : Surroundings where
  resolve _ _ := some ⟨true, fun _ _ => true, fun _ _ => some "SUCCEEDED"⟩
  due _ _ := false
  now n := n + 10
  session n id := demoSession (10 * n + id + 20)

/-- The small store with a paid order, an expired one, and one that waits for its refund. -/
def demoBacklog : Recovery where
  db := run exec
    { demoDb with payments := { demoDb.payments with
      rechargeOrders := tableOf [demoOrder 1 "RO1" 100 hundred_pos, demoOrder 2 "RO2" 50 fifty_pos,
        (demoOrder 3 "RO3" 70 (by decide)).setStatus .expired] (by decide) } }
    [(demoSession 1, .creditPaidRecharge 1), (demoSession 2, .createRefundOrder (demoRefund 1 100)),
      (demoSession 3, .markRefundPending ((demoSession 2).uuid .refund) "P1")]
  paidAt order := order
  updatedAt order := order
  providerClosed _ := false
  region _ := "global"
  refundCreatedAt refund := refund

theorem OneOpenRefund.of_rows (h : ∀ first ∈ db.payments.refundOrders.rows, ∀ second ∈ db.payments.refundOrders.rows,
    first.status.isOpen → second.status.isOpen → first.rechargeOrderId = second.rechargeOrderId →
      first.id = second.id) : OneOpenRefund db := by
  intro _ _ first hfs hfr second hsd hsc hsame
  obtain ⟨hmem, rfl⟩ := found hfs
  obtain ⟨hmem', rfl⟩ := found hsd
  exact h first hmem second hmem' hfr hsc hsame

/-- The paid order is credited, the expired one closed, and the refund completed. -/
theorem recovery_finishes_demo : (∃ n, (rounds demoSurroundings demoBacklog n).orderStatus 2 = some .credited) ∧
    (∃ n, (rounds demoSurroundings demoBacklog n).providerClosed 3) ∧
    ∃ n, (rounds demoSurroundings demoBacklog n).refundStatus 8002 = some .succeeded := by
  have hcl : Clock demoSurroundings demoBacklog :=
    ⟨fun _ _ h => Nat.add_lt_add_right h 10, by unfold Older; decide +kernel⟩
  have hone : OneOpenRefund demoBacklog.db := .of_rows (by decide +kernel)
  have han : Answers demoSurroundings demoBacklog := by
    refine .of_first_round hone ?_ ?_ (by decide +kernel) (by decide +kernel)
    · exact Along.of_length_le_one (by decide +kernel) fun call hcall _ =>
        (by decide +kernel : ∀ call ∈ demoSurroundings.credits 0 demoBacklog,
          (execCredit call demoBacklog.db).isOk) call hcall
    · exact Along.of_length_le_one (by decide +kernel) fun call hcall _ =>
        (by decide +kernel : ∀ call ∈ demoSurroundings.refunds 0 (demoBacklog.beforeRefunds demoSurroundings 0),
          (execRefund demoSurroundings demoBacklog.region call
            (demoBacklog.beforeRefunds demoSurroundings 0).db).isOk) call hcall
  obtain ⟨hcr, hcle, hr⟩ := recovery_finishes_iff hcl hone han
  refine ⟨?_, ?_, ?_⟩
  · obtain ⟨order, ho, hpaid, hw⟩ := creditView_eq_some.mp
      (by decide +kernel : creditView demoBacklog.db 2 = some true)
    exact (hcr 2 order ho hpaid hw).mpr (by decide +kernel)
  · obtain ⟨order, ho, haw, hclos⟩ := closeView_eq_some.mp
      (by decide +kernel : closeView demoSurroundings demoBacklog 3 = some true)
    simp only [Recovery.awaitsClose, cond_iff] at haw
    exact (hcle 3 order ho haw.1 rfl hclos).mpr (by decide +kernel)
  · obtain ⟨refund, hf, hopen, hpy⟩ := refundView_eq_some.mp
      (by decide +kernel : refundView demoSurroundings demoBacklog.region demoBacklog.db 8002 = some true)
    obtain ⟨hnum, hpy⟩ := and_eq_true_iff.mp hpy
    simp only [any_eq_true, cond_iff] at hpy
    obtain ⟨order, ho, hrp, hpn⟩ := hpy
    exact (hr 8002 refund order hf hopen ho hrp).mpr ⟨hnum, hpn, by decide +kernel⟩

/-- The order with a number, and its tally as the order number. -/
def demoTallied (n : Uuid) : RechargeOrder :=
  { demoOrder n (String.ofList (List.replicate n '1')) 50 fifty_pos with walletId := if n = 100 then 1 else 2 }

theorem demoTallied_clash {a b : Uuid} (h : a ≠ b) :
    Key.clash (Keyed.key (demoTallied a)) (Keyed.key (demoTallied b)) = false := by
  have htl : String.ofList (List.replicate a '1') ≠ String.ofList (List.replicate b '1') := fun hsame =>
    h (by simpa using congrArg String.length hsame)
  simp [Key.clash, Keyed.key, demoTallied, demoOrder, h, htl]

/-- A wallet is open and another one closed. A hundred orders of the closed wallet were paid before an order of the
open one. -/
def demoStarving : Recovery where
  db := { demoDb with
    wallets := tableOf [⟨1, 1, usd, .prepaid, .active, .zero, .zero, .zero, unitsOf 500, .zero, true⟩,
      ⟨2, 2, usd, .prepaid, .closed, .zero, .zero, .zero, unitsOf 500, .zero, true⟩] (by decide)
    payments := { demoDb.payments with
      rechargeOrders := tableOf ((List.range 101).map demoTallied)
        (List.pairwise_map.mpr (List.nodup_range.imp demoTallied_clash)) } }
  paidAt order := order
  updatedAt order := order
  providerClosed _ := false
  region _ := "global"
  refundCreatedAt refund := refund

/-- The paid order of the open wallet is never credited, though the store and the adapters answer. -/
theorem paid_order_starves :
    Clock demoSurroundings demoStarving ∧ OneOpenRefund demoStarving.db ∧ Answers demoSurroundings demoStarving ∧
      (∃ order, demoStarving.db.payments.rechargeOrders.find? 100 = some order ∧ order.status = .paid ∧
        order.walletOpen demoStarving.db.wallets) ∧
      ∀ n, (rounds demoSurroundings demoStarving n).orderStatus 100 = some .paid := by
  have hone : OneOpenRefund demoStarving.db := .of_rows fun _ hrow => absurd hrow List.not_mem_nil
  have hable : creditView demoStarving.db 100 = some true := by decide +kernel
  obtain ⟨order, ho, hpaid, hw⟩ := creditView_eq_some.mp hable
  have hbl : 100 ≤ (creditBlockers demoStarving 100).card := by decide +kernel
  have hwt := (credits_scan demoSurroundings demoStarving).waits (mem_paidOrders.mpr (by simp [rounds, hable])) hbl
  have honly (id : Uuid) (h : creditView demoStarving.db id = some true) : id = 100 := by
    obtain ⟨order, ho, _, hw⟩ := creditView_eq_some.mp h
    obtain ⟨hmem, rfl⟩ := found ho
    exact (by decide +kernel : ∀ order ∈ demoStarving.db.payments.rechargeOrders.rows,
      order.walletOpen demoStarving.db.wallets → order.id = 100) order hmem hw
  refine ⟨⟨fun _ _ h => Nat.add_lt_add_right h 10, by unfold Older; decide +kernel⟩, hone, ⟨fun n => ?_, fun n => ?_⟩,
    ⟨order, ho, hpaid, hw⟩, fun n => ?_⟩
  · -- The only order that can be credited is not called.
    refine .of_stuck fun call hcall hcl => ?_
    have hpl := (mem_credits.mp (List.mem_map_of_mem hcall)).2
    rw [honly call.2 (creditable_earlier n.zero_le hcl)] at hpl
    exact absurd ((hbl.trans_eq (congrArg Finset.card (hwt n).2.symm)).trans card_blockers_le_place)
      (not_le.mpr hpl)
  · refine .of_stuck (rounds_one demoSurroundings hone n) fun id hpy => ?_
    have hfs : refundView demoSurroundings demoStarving.region demoStarving.db id = some true :=
      refundable_earlier hone n.zero_le hpy
    obtain ⟨_, hr, _⟩ := refundView_eq_some.mp hfs
    cases hr
  · obtain ⟨order, ho, hst⟩ := mem_waiting.mp (hwt n).1
    rw [Recovery.orderStatus, ho]
    exact congrArg some (of_decide_eq_true hst)

end ModelDock.Store
