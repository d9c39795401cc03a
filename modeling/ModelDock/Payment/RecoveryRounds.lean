import ModelDock.Payment.RecoveryScans

/-!
# The rounds of the recovery

Over the rounds each of the three queues is a bounded scan: only rows that can be finished leave, from among the
first hundred, and what arrives comes last.
-/

namespace ModelDock.Store

open Relational Table

variable {env : Surroundings} {n : ℕ} {r : Recovery} {id : Uuid}

theorem byTime_injective (time : Uuid → Timestamp) : Function.Injective (byTime time) := fun _ _ h =>
  (Prod.ext_iff.mp (toLex.injective h)).2

/-- The paid orders. -/
def paidOrders (r : Recovery) : Finset Uuid := r.db.payments.rechargeOrders.waiting RechargeOrder.awaitsCredit

/-- The expired orders that are not closed. -/
def unclosedOrders (r : Recovery) : Finset Uuid := r.db.payments.rechargeOrders.waiting r.awaitsClose

/-- The open refunds. -/
def waitingRefunds (r : Recovery) : Finset Uuid := r.db.payments.refundOrders.waiting RefundOrder.awaitsProvider

theorem mem_paidOrders : id ∈ paidOrders r ↔ creditView r.db id ≠ none := mem_waiting_iff_view

theorem mem_unclosedOrders (env : Surroundings) : id ∈ unclosedOrders r ↔ closeView env r id ≠ none :=
  mem_waiting_iff_view

theorem mem_waitingRefunds (env : Surroundings) (region : Uuid → String) :
    id ∈ waitingRefunds r ↔ refundView env region r.db id ≠ none := mem_waiting_iff_view

/-- The paid orders before an order that cannot be credited. -/
def creditBlockers (r : Recovery) (id : Uuid) : Finset Uuid :=
  blockers (fun other => creditView r.db other = some true) (byTime r.paidAt) (paidOrders r) id

/-- The expired orders before an order that cannot be closed. -/
def closeBlockers (env : Surroundings) (r : Recovery) (id : Uuid) : Finset Uuid :=
  blockers (fun other => closeView env r other = some true) (byTime r.updatedAt) (unclosedOrders r) id

/-- The open refunds before a refund that cannot be completed. -/
def refundBlockers (env : Surroundings) (r : Recovery) (id : Uuid) : Finset Uuid :=
  blockers (fun other => refundView env r.region r.db other = some true) (byTime r.refundCreatedAt)
    (waitingRefunds r) id

theorem mem_credits : id ∈ (env.credits n r).map Prod.snd ↔
    id ∈ paidOrders r ∧ place (byTime r.paidAt) (paidOrders r) id < 100 := by
  rw [Surroundings.credits, List.map_map]
  exact mem_scan (t := r.db.payments.rechargeOrders) (byTime_injective r.paidAt)

theorem mem_closes : id ∈ (listUnclosedExpiredRechargeOrders 100 r).map RechargeOrder.id ↔
    id ∈ unclosedOrders r ∧ place (byTime r.updatedAt) (unclosedOrders r) id < 100 :=
  mem_scan (t := r.db.payments.rechargeOrders) (byTime_injective r.updatedAt)

theorem mem_refunds : id ∈ (env.refunds n r).map (fun call => call.2.id) ↔
    id ∈ waitingRefunds r ∧ place (byTime r.refundCreatedAt) (waitingRefunds r) id < 100 := by
  rw [Surroundings.refunds, List.map_map]
  exact mem_scan (t := r.db.payments.refundOrders) (byTime_injective r.refundCreatedAt)

/-- The store when a round comes to the refunds. -/
def Recovery.beforeRefunds (env : Surroundings) (n : ℕ) (r : Recovery) : Recovery :=
  ((r.credit env n).expire env n).close env n

variable (env n r)

theorem recover_creditView (id : Uuid) : creditView (recover env n r).db id = creditView (r.credit env n).db id :=
  calc creditView (recover env n r).db id = creditView (r.beforeRefunds env n).db id := (refund_keeps env n _ id).2
    _ = creditView ((r.credit env n).expire env n).db id :=
      congrArg (creditView · id) (close_keeps env n ((r.credit env n).expire env n)).1
    _ = creditView (r.credit env n).db id := (expire_keeps env n _ r.region id).1

theorem recover_credits (id : Uuid) : creditView (recover env n r).db id = creditView r.db id ∨
      creditView r.db id = some true ∧ place (byTime r.paidAt) (paidOrders r) id < 100 ∧
        creditView (recover env n r).db id = none := by
  rw [recover_creditView]
  rcases (credits_serve (env.credits n r)).run trivial id with hsame | ⟨hcl, hable, hdone⟩
  · exact .inl hsame
  · exact .inr ⟨hable, (mem_credits.mp hcl).2, hdone⟩

theorem recover_columns : (recover env n r).region = r.region ∧ (recover env n r).paidAt = r.paidAt ∧
      (recover env n r).refundCreatedAt = r.refundCreatedAt :=
  (close_keeps env n ((r.credit env n).expire env n)).2

variable {env n r}

theorem rounds_columns (env : Surroundings) (r : Recovery) (n : ℕ) :
    (rounds env r n).region = r.region ∧ (rounds env r n).paidAt = r.paidAt ∧
      (rounds env r n).refundCreatedAt = r.refundCreatedAt := by
  induction n with
  | zero => exact ⟨rfl, rfl, rfl⟩
  | succ n ih =>
    obtain ⟨hrg, hpaid, hcr⟩ := recover_columns env n (rounds env r n)
    exact ⟨hrg.trans ih.1, hpaid.trans ih.2.1, hcr.trans ih.2.2⟩

/-- Crediting is a bounded scan of the paid orders, oldest payment first. -/
theorem credits_scan (env : Surroundings) (r : Recovery) : BoundedScan 100
    (fun n id => creditView (rounds env r n).db id = some true) (fun n => byTime (rounds env r n).paidAt)
    (fun n => paidOrders (rounds env r n)) := by
  refine BoundedScan.of_views (fun n id => mem_paidOrders) (fun n id => ?_) (fun n id _ _ => ?_)
  · exact (recover_credits env n (rounds env r n) id).imp_right .inl
  · rw [rounds, (recover_columns env n (rounds env r n)).2.1]

theorem byTime_lt {time time' : Uuid → Timestamp} {a b : Uuid} (h : time a < time' b) :
    byTime time a < byTime time' b := Prod.Lex.toLex_lt_toLex.mpr (.inl h)

/-- The orders that wait to be closed are older than the round. -/
def Older (env : Surroundings) (n : ℕ) (r : Recovery) : Prop := ∀ id ∈ unclosedOrders r, r.updatedAt id < env.now n

/-- The store when a round comes to the expired orders. -/
def Recovery.beforeCloses (env : Surroundings) (n : ℕ) (r : Recovery) : Recovery := (r.credit env n).expire env n

theorem beforeCloses_closeView (env : Surroundings) (n : ℕ) (r : Recovery) (id : Uuid) :
    closeView env (r.beforeCloses env n) id = closeView env r id ∧
        (r.beforeCloses env n).updatedAt id = r.updatedAt id ∨
      closeView env r id = none ∧ (r.beforeCloses env n).updatedAt id = env.now n := by
  have hcr := (credit_keeps env n r r.region id).1
  rcases expire_closeView env n (r.credit env n) id with ⟨hsame, htime⟩ | ⟨hnone, htime⟩
  · exact .inl ⟨hsame.trans hcr, htime⟩
  · exact .inr ⟨hcr.symm.trans hnone, htime⟩

theorem beforeCloses_place (holder : Older env n r) (hid : id ∈ unclosedOrders r) :
    place (byTime (r.beforeCloses env n).updatedAt) (unclosedOrders (r.beforeCloses env n)) id =
      place (byTime r.updatedAt) (unclosedOrders r) id := by
  have hwt := (mem_unclosedOrders env).mp hid
  have htime : (r.beforeCloses env n).updatedAt id = r.updatedAt id := by
    rcases beforeCloses_closeView env n r id with ⟨_, htime⟩ | ⟨hnone, _⟩
    · exact htime
    · exact absurd hnone hwt
  unfold place
  congr 1
  ext other
  simp only [Finset.mem_filter, mem_unclosedOrders env]
  rcases beforeCloses_closeView env n r other with ⟨hsame, hne⟩ | ⟨hnone, hne⟩
  · simp only [hsame, byTime, hne, htime]
  · have haf : byTime (r.beforeCloses env n).updatedAt id < byTime (r.beforeCloses env n).updatedAt other :=
      byTime_lt (by rw [htime, hne]; exact holder id hid)
    simp [hnone, haf.le]

theorem closes_run (env : Surroundings) (n : ℕ) (r : Recovery) (id : Uuid) :
    closeView env (r.close env n) id = closeView env r id ∨
      id ∈ (listUnclosedExpiredRechargeOrders 100 r).map RechargeOrder.id ∧ closeView env r id = some true ∧
        closeView env (r.close env n) id = none :=
  (closes_serve fun _ hcall => (find?_of_mem_scan (byTime_injective r.updatedAt) hcall).1).run rfl id

theorem execClose_answered (env : Surroundings) (n : ℕ) (r : Recovery) (order : RechargeOrder) :
    Answered (execClose env n) RechargeOrder.id (closeView env) r order := by
  intro hable
  obtain ⟨_, hstor, haw, _⟩ := closeView_eq_some.mp hable
  unfold execClose markRechargeProviderClosed
  split
  · rw [hstor, Option.any_some, ensure_of haw]
    rfl
  · rfl

theorem close_done (hable : closeView env r id = some true)
    (hpl : place (byTime r.updatedAt) (unclosedOrders r) id < 100) : closeView env (r.close env n) id = none := by
  have hwt : id ∈ unclosedOrders r := (mem_unclosedOrders env).mpr (by simp [hable])
  exact (closes_serve fun _ hcall => (find?_of_mem_scan (byTime_injective r.updatedAt) hcall).1).served rfl
    (Along.of_forall (execClose_answered env n)) (mem_closes.mpr ⟨hwt, hpl⟩) hable

theorem recover_closeView (env : Surroundings) (n : ℕ) (r : Recovery) (id : Uuid) :
    closeView env (recover env n r) id = closeView env ((r.beforeCloses env n).close env n) id :=
  (refund_keeps env n _ id).1

theorem recover_updatedAt (hid : id ∈ unclosedOrders (recover env n r)) :
    id ∈ unclosedOrders r ∧ (recover env n r).updatedAt id = r.updatedAt id ∨
      id ∉ unclosedOrders r ∧ (recover env n r).updatedAt id = env.now n := by
  rw [mem_unclosedOrders env, recover_closeView] at hid
  -- It was not closed in this round, so that its time is the one it had when it came to the closing.
  have hkept : (recover env n r).updatedAt id = (r.beforeCloses env n).updatedAt id := by
    refine (close_updatedAt env n (r.beforeCloses env n) id).resolve_right fun hcl => hid ?_
    refine Option.map_eq_none_iff.mpr (Option.filter_eq_none_iff.mpr fun order ho => ?_)
    have hor : order.id = id := (found ho).2
    simp [Recovery.awaitsClose, hor, hcl]
  have hwt : closeView env (r.beforeCloses env n) id ≠ none := by
    rcases closes_run env n (r.beforeCloses env n) id with hsame | ⟨_, hable, _⟩
    · rwa [← hsame]
    · simp [hable]
  rw [hkept, mem_unclosedOrders env]
  rcases beforeCloses_closeView env n r id with ⟨hsame, htime⟩ | ⟨hnone, htime⟩
  · exact .inl ⟨hsame ▸ hwt, htime⟩
  · exact .inr ⟨fun h => h hnone, htime⟩

theorem recover_closes (holder : Older env n r) (id : Uuid) :
    closeView env (recover env n r) id = closeView env r id ∨
      (closeView env r id = some true ∧ place (byTime r.updatedAt) (unclosedOrders r) id < 100 ∧
        closeView env (recover env n r) id = none) ∨
      closeView env r id = none ∧ ∀ other ∈ unclosedOrders r,
        byTime r.updatedAt other < byTime (recover env n r).updatedAt id := by
  by_cases hwas : id ∈ unclosedOrders r
  · have hwt := (mem_unclosedOrders env).mp hwas
    have hbef : closeView env (r.beforeCloses env n) id = closeView env r id := by
      rcases beforeCloses_closeView env n r id with ⟨hsame, _⟩ | ⟨hnone, _⟩
      · exact hsame
      · exact absurd hnone hwt
    rw [recover_closeView]
    rcases closes_run env n (r.beforeCloses env n) id with hsame | ⟨hcl, hable, hdone⟩
    · exact .inl (hsame.trans hbef)
    · refine .inr (.inl ⟨hbef ▸ hable, ?_, hdone⟩)
      rw [← beforeCloses_place holder hwas]
      exact (mem_closes.mp hcl).2
  · have hnone : closeView env r id = none := by simpa [mem_unclosedOrders env] using hwas
    by_cases hnow : id ∈ unclosedOrders (recover env n r)
    · refine .inr (.inr ⟨hnone, fun other hne => byTime_lt ?_⟩)
      rcases recover_updatedAt hnow with ⟨hin, _⟩ | ⟨_, htime⟩
      · exact absurd hin hwas
      · rw [htime]
        exact holder other hne
    · left
      rw [hnone]
      simpa [mem_unclosedOrders env] using hnow

/-- Every round has a later time than the one before, and all that waits to be closed is older. -/
structure Clock (env : Surroundings) (r : Recovery) : Prop where
  mono : StrictMono env.now
  older : Older env 0 r

theorem Clock.rounds_older (h : Clock env r) (n : ℕ) : Older env n (rounds env r n) := by
  induction n with
  | zero => exact h.older
  | succ n ih =>
    intro id hid
    have hlat : env.now n < env.now (n + 1) := h.mono n.lt_succ_self
    rcases recover_updatedAt hid with ⟨hwas, htime⟩ | ⟨_, htime⟩
    · exact (htime.trans_lt (ih id hwas)).trans hlat
    · exact htime.trans_lt hlat

/-- Closing is a bounded scan of the unclosed orders, oldest update first. -/
theorem closes_scan (h : Clock env r) : BoundedScan 100
    (fun n id => closeView env (rounds env r n) id = some true) (fun n => byTime (rounds env r n).updatedAt)
    (fun n => unclosedOrders (rounds env r n)) := by
  refine BoundedScan.of_views (fun n id => mem_unclosedOrders env) (fun n id => recover_closes (h.rounds_older n) id)
    (fun n id hwas hnow => ?_)
  rcases recover_updatedAt hnow with ⟨_, htime⟩ | ⟨hnew, _⟩
  · exact congrArg (fun time => toLex (time, id)) htime
  · exact absurd hwas hnew

variable (env n r)

theorem beforeRefunds_refundOrders :
    (r.beforeRefunds env n).db.payments.refundOrders = r.db.payments.refundOrders := by
  have hcr (db : Db) (call : Session × Uuid) (db' : Db) (hexec : execCredit call db = .ok db') :
      db'.payments.refundOrders = db.payments.refundOrders := by
    obtain ⟨_, _, ⟨_, rfl⟩ | hsh⟩ := creditPaidRecharge_shows hexec
    · rfl
    · exact hsh.refunds
  have hcl := (close_keeps env n (r.beforeCloses env n)).1
  calc (r.beforeRefunds env n).db.payments.refundOrders
      = (r.beforeCloses env n).db.payments.refundOrders := congrArg (·.payments.refundOrders) hcl
    _ = r.db.payments.refundOrders := run_unchanged (fun db : Db => db.payments.refundOrders) hcr

theorem beforeRefunds_refundView (region : Uuid → String) (id : Uuid) :
    refundView env region (r.beforeRefunds env n).db id = refundView env region r.db id :=
  calc refundView env region (r.beforeRefunds env n).db id
      = refundView env region (r.beforeCloses env n).db id :=
        congrArg (refundView env region · id) (close_keeps env n (r.beforeCloses env n)).1
    _ = refundView env region (r.credit env n).db id := (expire_keeps env n _ region id).2
    _ = refundView env region r.db id := (credit_keeps env n r region id).2

theorem beforeRefunds_queue : byTime (r.beforeRefunds env n).refundCreatedAt = byTime r.refundCreatedAt ∧
      waitingRefunds (r.beforeRefunds env n) = waitingRefunds r := by
  have hcr : (r.beforeRefunds env n).refundCreatedAt = r.refundCreatedAt := (recover_columns env n r).2.2
  rw [hcr, waitingRefunds, beforeRefunds_refundOrders]
  exact ⟨rfl, rfl⟩

variable {env n r}

theorem beforeRefunds_one (env : Surroundings) (n : ℕ) (hone : OneOpenRefund r.db) : OneOpenRefund
    (r.beforeRefunds env n).db := by
  unfold OneOpenRefund
  rwa [beforeRefunds_refundOrders]

theorem refunds_listed (env : Surroundings) (n : ℕ) (r : Recovery) : ∀ call ∈ env.refunds n r, Listed r.db call.2 := by
  intro call hcall
  obtain ⟨refund, hr, rfl⟩ := List.mem_map.mp hcall
  exact ⟨refund, (find?_of_mem_scan (byTime_injective r.refundCreatedAt) hr).1, fun _ => rfl⟩

theorem recover_one (hone : OneOpenRefund r.db) : OneOpenRefund (recover env n r).db := by
  have hstep (db : Db) (call : Session × RefundOrder) (db' : Db) (hone : OneOpenRefund db) (_ : True)
      (hexec : execRefund env (r.beforeRefunds env n).region call db = .ok db') : OneOpenRefund db' := by
    rcases execRefund_shows hexec with rfl | ⟨_, _, _, _, hsh⟩
    · exact hone
    · exact hsh.one hone
  exact run_invariant hstep (beforeRefunds_one env n hone) (Along.of_forall fun _ _ => trivial)

theorem rounds_one (env : Surroundings) (hone : OneOpenRefund r.db) (n : ℕ) : OneOpenRefund (rounds env r n).db := by
  induction n with
  | zero => exact hone
  | succ n ih => exact recover_one ih

theorem refunds_run (env : Surroundings) (n : ℕ) (hone : OneOpenRefund r.db) (id : Uuid) :
    refundView env r.region (r.refund env n).db id = refundView env r.region r.db id ∨
      id ∈ (env.refunds n r).map (fun call => call.2.id) ∧ refundView env r.region r.db id = some true ∧
        refundView env r.region (r.refund env n).db id = none :=
  refunds_serve.run ⟨hone, refunds_listed env n r⟩ id

theorem recover_refunds (env : Surroundings) (n : ℕ) (hone : OneOpenRefund r.db) (id : Uuid) :
    refundView env r.region (recover env n r).db id = refundView env r.region r.db id ∨
      refundView env r.region r.db id = some true ∧ place (byTime r.refundCreatedAt) (waitingRefunds r) id < 100 ∧
        refundView env r.region (recover env n r).db id = none := by
  obtain ⟨hkey, hqu⟩ := beforeRefunds_queue env n r
  have hrg : (r.beforeRefunds env n).region = r.region := (recover_columns env n r).1
  have hrun := refunds_run env n (beforeRefunds_one env n hone) id
  rw [hrg, beforeRefunds_refundView] at hrun
  rcases hrun with hsame | ⟨hcl, hable, hdone⟩
  · exact .inl hsame
  · exact .inr ⟨hable, hqu ▸ hkey ▸ (mem_refunds.mp hcl).2, hdone⟩

/-- Querying refunds is a bounded scan of the waiting ones, oldest first. -/
theorem refunds_scan (hone : OneOpenRefund r.db) : BoundedScan 100
    (fun n id => refundView env r.region (rounds env r n).db id = some true)
    (fun n => byTime (rounds env r n).refundCreatedAt) (fun n => waitingRefunds (rounds env r n)) := by
  refine BoundedScan.of_views (fun n id => mem_waitingRefunds env r.region) (fun n id => ?_) (fun n id _ _ => ?_)
  · have hrn := recover_refunds env n (rounds_one env hone n) id
    rw [(rounds_columns env r n).1] at hrn
    exact hrn.imp_right .inl
  · rw [rounds, (recover_columns env n (rounds env r n)).2.2]

end ModelDock.Store
