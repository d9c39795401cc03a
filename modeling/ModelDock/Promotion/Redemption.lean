import ModelDock.Promotion.Conservation
import ModelDock.Store.Usage

/-!
# Every promotion credit adds up

The grant of a credit is what remains of it, what open holds keep, what settled holds consumed and did not give
back, and what logged requests without a reservation redeemed.
-/

namespace ModelDock.Store

open Relational Table Promotions

variable (creditId : Uuid) (holds : Table PromotionAllocation) {requestId : String} {credit : PromotionCredit}

/-- What the open holds keep of a credit. -/
def promotionHeldOn : ℤ :=
  holds.sum fun hold =>
    if hold.promotionCreditId = creditId ∧ hold.settledAt = none then hold.reservedAmount.units else 0

/-- What allocations consumed of a credit and no reversal gave back. -/
def promotionConsumedOn : ℤ :=
  holds.sum fun hold =>
    if hold.promotionCreditId = creditId then hold.consumedAmount.units - hold.reversedAmount.units else 0

/-- What requests redeemed of a credit without a reservation. -/
def redeemedOf (redemptions : Table PromotionRedemption) : ℤ :=
  redemptions.sum fun row => if row.promotionCreditId = creditId then row.amount.units else 0

variable {s : Session} {call : Call} {log : RequestLog} {db db' : Db} {st st' : LoggedDb}
  {promotions promotions' : Promotions} {redemptions redemptions' : Table PromotionRedemption}

theorem Promotions.Sound.outstandingOn_eq (h : promotions.Sound) (creditId : Uuid) :
    outstandingOn (fun hold => hold.promotionCreditId = creditId) promotions.allocations =
      promotionHeldOn creditId promotions.allocations + promotionConsumedOn creditId promotions.allocations := by
  rw [promotionHeldOn, promotionConsumedOn, ← sum_add]
  refine sum_congr fun hold hhold => ?_
  by_cases hcr : hold.promotionCreditId = creditId
  · by_cases hopen : hold.settledAt = none
    · obtain ⟨hcn, _, hrv⟩ := h.unused hold hhold hopen
      simp [PromotionAllocation.outstanding, hopen, hcn, hrv]
    · simp [PromotionAllocation.outstanding, PromotionAllocation.unreversed, hopen]
  · simp [hcr]

/-- What redeeming keeps: the origins of the credits, all holds, and what is left of each credit and
redeemed of it together. -/
structure Redeemed (promotions promotions' : Promotions)
    (redemptions redemptions' : Table PromotionRedemption) : Prop where
  view : promotions'.credits.view PromotionCredit.origin = promotions.credits.view PromotionCredit.origin
  allocations : promotions'.allocations = promotions.allocations
  left : ∀ id, creditLeft id promotions'.credits + redeemedOf id redemptions' =
    creditLeft id promotions.credits + redeemedOf id redemptions
  lowered : ∀ id, creditLeft id promotions'.credits ≤ creditLeft id promotions.credits
  exhausted : (∀ credit ∈ promotions.credits.rows, credit.ExhaustedEmpty) →
    ∀ credit ∈ promotions'.credits.rows, credit.ExhaustedEmpty
  stored : (∀ row ∈ redemptions.rows, ∃ credit ∈ promotions.credits.rows, credit.id = row.promotionCreditId) →
    ∀ row ∈ redemptions'.rows, ∃ credit ∈ promotions'.credits.rows, credit.id = row.promotionCreditId

theorem Redeemed.refl (promotions : Promotions) (redemptions : Table PromotionRedemption) :
    Redeemed promotions promotions redemptions redemptions :=
  ⟨rfl, rfl, fun _ => rfl, fun _ => le_refl _, id, id⟩

theorem Redeemed.trans {promotions'' : Promotions} {redemptions'' : Table PromotionRedemption}
    (h : Redeemed promotions promotions' redemptions redemptions')
    (h' : Redeemed promotions' promotions'' redemptions' redemptions'') :
    Redeemed promotions promotions'' redemptions redemptions'' :=
  ⟨h'.view.trans h.view, h'.allocations.trans h.allocations, fun id => (h'.left id).trans (h.left id),
    fun id => (h'.lowered id).trans (h.lowered id), fun hem => h'.exhausted (h.exhausted hem),
    fun hstor => h'.stored (h.stored hstor)⟩

theorem redeemCredit_redeemed {item : PromotionCredit} {units : ℤ}
    {state state' : Promotions × Table PromotionRedemption}
    (hstor : ∃ credit, state.1.credits.find? item.id = some credit)
    (h : redeemCredit s requestId state item units = .ok state') :
    Redeemed state.1 state'.1 state.2 state'.2 := by
  obtain ⟨credit, hf⟩ := hstor
  simp only [redeemCredit, eq_ok, money_eq_ok] at h
  obtain ⟨_, hcr, _, _, _, _, hins, rfl⟩ := h
  have hmv := CreditMoved.of_debit hf (by omega) hcr
  refine ⟨hmv.view, rfl, fun id => ?_, fun id => ?_, hmv.exhausted, fun hall row hrow => ?_⟩
  · rw [hmv.left, redeemedOf, sum_insert hins, ← redeemedOf]
    dsimp only
    split <;> omega
  · rw [hmv.left]
    split <;> omega
  · have hth : ∃ credit ∈ state.1.credits.rows, credit.id = row.promotionCreditId := by
      rcases (mem_insert hins).mp hrow with rfl | hrow
      · exact ⟨credit, found hf⟩
      · exact hall row hrow
    obtain ⟨_, hold, hid⟩ := hth
    obtain ⟨new, hnew, hor⟩ := mem_of_view hmv.view.symm hold
    exact ⟨new, hnew, (PromotionCredit.columns_of_origin hor).1.trans hid⟩

theorem redeemPromotionCredits_redeemed {orgId : Uuid} {currency : Currency} {requested used : ℤ}
    (h : redeemPromotionCredits s orgId currency requested requestId promotions redemptions =
      .ok (used, promotions', redemptions')) : Redeemed promotions promotions' redemptions redemptions' := by
  simp only [redeemPromotionCredits, eq_ok] at h
  obtain ⟨_, _, ⟨_, _⟩, hloop, _, rfl, rfl⟩ := h
  obtain ⟨hrun, _⟩ := takeEach_eq_ok.mp hloop
  refine foldlM_invariant (P := fun state : Promotions × Table PromotionRedemption =>
    Redeemed promotions state.1 redemptions state.2) (fun part hpart state state' hstat hstep => ?_)
    (Redeemed.refl _ _) hrun
  have hitem := takes_sublist.subset (List.mem_map_of_mem (f := Prod.fst) hpart)
  have hmem := (List.perm_insertionSort _ _).mem_iff.mp hitem
  exact hstat.trans (redeemCredit_redeemed
    (find_credit hstat.view (List.mem_filter.mp hmem).1) hstep)

/-- Every credit accounts, with what was redeemed of it, for its grant. -/
structure CreditsExact (st : LoggedDb) : Prop where
  granted : ∀ credit ∈ st.db.promotions.credits.rows,
    st.db.promotions.accounted credit.id + redeemedOf credit.id st.redemptions = credit.amountGranted.units
  exhausted : ∀ credit ∈ st.db.promotions.credits.rows, credit.ExhaustedEmpty
  stored : ∀ row ∈ st.redemptions.rows,
    ∃ credit ∈ st.db.promotions.credits.rows, credit.id = row.promotionCreditId

theorem CreditsExact.granted_of_view (h : CreditsExact st)
    (hview : st'.db.promotions.credits.view PromotionCredit.origin =
      st.db.promotions.credits.view PromotionCredit.origin)
    (hac : ∀ id, st'.db.promotions.accounted id + redeemedOf id st'.redemptions =
      st.db.promotions.accounted id + redeemedOf id st.redemptions) :
    ∀ credit ∈ st'.db.promotions.credits.rows,
      st'.db.promotions.accounted credit.id + redeemedOf credit.id st'.redemptions =
        credit.amountGranted.units := by
  intro credit hmem
  obtain ⟨old, hold, hor⟩ := mem_of_view hview hmem
  obtain ⟨hid, hgr⟩ := PromotionCredit.columns_of_origin hor
  rw [hac, ← hid, ← hgr]
  exact h.granted old hold

theorem Committed.promotions_touched (h : PromotionsLinked db) (hcv : ReservedCovered db)
    (hc : Committed s db call db') :
    ∃ opId, db.promotions.Touched opId db'.promotions := by
  have hsame (heq : db'.promotions = db.promotions) :
      ∃ opId, db.promotions.Touched opId db'.promotions :=
    ⟨0, heq ▸ Touched.refl _ _⟩
  cases hc with
  | quiet hcall | adjust _ _ _ _ hcall | manual hcall | reconcile _ _ hcall => exact hsame hcall.promotions
  | reserve _ _ _ _ hrs =>
    exact ⟨_, (reservePromotionTx_sound h.sound hrs.promotions).2.1⟩
  | @settle _ op _ _ _ _ _ hop hopen _ hset =>
    obtain ⟨promotions, hse, _, htc, _⟩ := h.settle_spec (found hop).1 hopen hset.charged
    obtain ⟨_, hpr⟩ := Prod.mk.inj (Except.ok.inj (hset.promotions.symm.trans hse))
    exact ⟨op.id, hpr ▸ htc⟩
  | @reverse _ _ _ op _ _ hop _ hpos hrv =>
    obtain ⟨hmem, _⟩ := found hop
    have hcl := hcv.closed_of_charged hmem hpos
    obtain ⟨_, hrt, _⟩ := hrv.promotions
    obtain ⟨promotions, hspec, _, htc, _⟩ := reversePromotionTx_spec (s := s) h.sound
      op.consumedPromotionAmount.nonneg (h.used op hmem).ge (h.settledHolds hmem hcl)
    obtain ⟨_, hpr⟩ := Prod.mk.inj (Except.ok.inj (hrt.symm.trans hspec))
    exact ⟨op.id, hpr ▸ htc⟩
  | credit _ _ hcall | createRefund _ _ hcall | failRefund _ _ hcall | completeRefund _ _ hcall
  | chargeback _ _ hcall => exact hsame hcall.funding.promotions

theorem CreditsExact.committed (h : CreditsExact st) (hln : PromotionsLinked st.db)
    (hcv : ReservedCovered st.db) (hc : Committed s st.db call db') :
    CreditsExact { st with db := db' } := by
  obtain ⟨_, htc⟩ := hc.promotions_touched hln hcv
  refine ⟨h.granted_of_view htc.credits fun id => ?_, htc.exhausted h.exhausted,
    fun row hrow => credit_stored htc.credits (h.stored row hrow)⟩
  exact congrArg (· + _) (htc.accounted id)

theorem CreditsExact.redeem (h : CreditsExact st)
    (hrd : Redeemed st.db.promotions st'.db.promotions st.redemptions st'.redemptions) :
    CreditsExact st' := by
  refine ⟨h.granted_of_view hrd.view fun id => ?_, hrd.exhausted h.exhausted, hrd.stored h.stored⟩
  have hleft := hrd.left id
  rw [accounted, accounted, hrd.allocations]
  omega

theorem PromotionsLinked.redeem (h : PromotionsLinked st.db) (hop : st'.db.operations = st.db.operations)
    (hrd : Redeemed st.db.promotions st'.db.promotions st.redemptions st'.redemptions) :
    PromotionsLinked st'.db := by
  have hlow (id : Uuid) : st'.db.promotions.accounted id ≤ st.db.promotions.accounted id := by
    rw [accounted, hrd.allocations]
    exact Int.add_le_add_right (hrd.lowered id) _
  refine ⟨⟨?_, ?_, granted_of_view h.sound hrd.view hlow⟩, ?_, ?_, ?_, ?_⟩
  all_goals rw [hrd.allocations]
  · exact fun hold hhold => credit_stored hrd.view (h.sound.credit hold hhold)
  · exact h.sound.unused
  all_goals rw [hop]
  · exact h.stored
  · exact h.settled
  · exact h.held
  · exact h.used

theorem Promotions.Sound.accounted_insert (h : promotions.Sound)
    (hrem : credit.amountRemaining = credit.amountGranted)
    (hins : Inserts promotions.credits credit promotions'.credits)
    (hall : promotions'.allocations = promotions.allocations) :
    promotions'.accounted credit.id = credit.amountGranted.units ∧
      ∀ old ∈ promotions.credits.rows, promotions'.accounted old.id = promotions.accounted old.id := by
  have hleft (id : Uuid) : creditLeft id promotions'.credits =
      (if credit.id = id then credit.amountGranted.units else 0) + creditLeft id promotions.credits := by
    rw [creditLeft, sum_insert hins, hrem, creditLeft]
  have hnew (old : PromotionCredit) (hold : old ∈ promotions.credits.rows) : old.id ≠ credit.id :=
    rowId_ne_of_insert hins hold
  refine ⟨?_, fun old hold => ?_⟩
  · have hnone : creditLeft credit.id promotions.credits = 0 := sum_eq_zero fun old hold => if_neg (hnew old hold)
    have hfree : outstandingOn (fun hold => hold.promotionCreditId = credit.id) promotions.allocations = 0 := by
      refine sum_eq_zero fun hold hhold => if_neg ?_
      obtain ⟨old, hold, hid⟩ := h.credit hold hhold
      simpa only [decide_eq_true_eq, ← hid] using hnew old hold
    rw [accounted, hleft, if_pos rfl, hnone, hall, hfree, add_zero, add_zero]
  · rw [accounted, hleft, if_neg (hnew old hold).symm, zero_add, hall, accounted]

/-- What a history of the store and its log keeps: balances are projections of the ledger, reserved
money is covered, promotion is linked to operations, and credits are exact. -/
structure UsageBooks (st : LoggedDb) : Prop where
  projected : Projected st.db.wallets st.db.ledger
  covered : ReservedCovered st.db
  linked : PromotionsLinked st.db
  exact : CreditsExact st

theorem Projected.billed (h : Projected db.wallets db.ledger) (hbl : Billed s log db db') :
    Projected db'.wallets db'.ledger := by
  rcases hbl.charge with ⟨hws, hld, _⟩ | ⟨_, _, hch⟩
  · rw [hws, hld]
    exact h
  · obtain ⟨_, hpos, hmov, _⟩ := hch.posted
    obtain ⟨_, hmv, hws⟩ := hch.wallets
    rw [hws]
    exact h.posted hpos hmov (find?_of_mem (List.mem_of_find?_eq_some hch.found)) hmv

theorem ReservedCovered.billed (h : ReservedCovered db) (hbl : Billed s log db db') :
    ReservedCovered db' := by
  refine ⟨?_, uncharged_same h hbl.frame.operations⟩
  rcases hbl.charge with ⟨hws, hld, _⟩ | ⟨_, _, hch⟩
  · rw [hws, hld, hbl.frame.operations]
    exact h.reserved
  · obtain ⟨_, hpos, _, hnone⟩ := hch.posted
    obtain ⟨_, hmv, hws⟩ := hch.wallets
    refine reserved_of_moved h (find?_of_mem (List.mem_of_find?_eq_some hch.found)) hmv
      hws fun id => ?_
    rw [hbl.frame.operations, hpos.reversedInto_same hnone, ite_self, add_zero]

theorem Redeems.redeemed (h : Redeems s log st st') :
    Redeemed st.db.promotions st'.db.promotions st.redemptions st'.redemptions := by
  rcases h with ⟨hpr, hrd⟩ | ⟨_, _, _, hrem⟩
  · rw [hpr, hrd]
    exact Redeemed.refl _ _
  · exact redeemPromotionCredits_redeemed hrem

theorem UsageBooks.grant (h : UsageBooks st)
    (hrem : credit.amountRemaining = credit.amountGranted) (hac : credit.status = .active)
    (hins : Inserts st.db.promotions.credits credit promotions'.credits)
    (hall : promotions'.allocations = st.db.promotions.allocations) :
    UsageBooks { st with db := { st.db with promotions := promotions' } } := by
  obtain ⟨hnew, hoth⟩ := h.linked.sound.accounted_insert hrem hins hall
  have hcs (x : PromotionCredit) : x ∈ promotions'.credits.rows ↔
      x = credit ∨ x ∈ st.db.promotions.credits.rows := mem_insert hins
  have hkept {id : Uuid} (hold : ∃ x ∈ st.db.promotions.credits.rows, x.id = id) :
      ∃ x ∈ promotions'.credits.rows, x.id = id := by
    obtain ⟨x, hx, hid⟩ := hold
    exact ⟨x, (hcs x).mpr (.inr hx), hid⟩
  have hsn : promotions'.Sound := by
    refine ⟨?_, ?_, fun x hx => ?_⟩
    · rw [hall]
      exact fun hold hhold => hkept (h.linked.sound.credit hold hhold)
    · rw [hall]
      exact h.linked.sound.unused
    · rcases (hcs x).mp hx with rfl | hx
      · exact hnew.le
      · rw [hoth x hx]
        exact h.linked.sound.granted x hx
  refine ⟨h.projected, ⟨h.covered.reserved, h.covered.uncharged⟩, ⟨hsn, ?_, ?_, ?_, ?_⟩,
    fun x hx => ?_, fun x hx => ?_, fun row hrow => hkept (h.exact.stored row hrow)⟩
  · rw [hall]
    exact h.linked.stored
  · rw [hall]
    exact h.linked.settled
  · rw [hall]
    exact h.linked.held
  · rw [hall]
    exact h.linked.used
  · rcases (hcs x).mp hx with rfl | hx
    · have hnone : redeemedOf x.id st.redemptions = 0 := by
        refine sum_eq_zero fun row hrow => if_neg fun hid => ?_
        obtain ⟨_, hold, hold_id⟩ := h.exact.stored row hrow
        exact rowId_ne_of_insert hins hold (hold_id.trans hid)
      rw [hnew, hnone, add_zero]
    · rw [hoth x hx]
      exact h.exact.granted x hx
  · rcases (hcs x).mp hx with rfl | hx
    · exact fun hexh => nomatch hac.symm.trans hexh
    · exact h.exact.exhausted x hx

theorem UsageBooks.step {inv : Session × LoggedCall} (h : UsageBooks st)
    (hexec : execLogged inv st = .ok st') : UsageBooks st' := by
  obtain ⟨_, call⟩ := inv
  cases call with
  | store call =>
    obtain ⟨_, hcall, rfl⟩ := map_eq_ok.mp hexec
    have hc := exec_committed hcall
    exact ⟨h.projected.committed hc, h.covered.committed h.projected hc,
      h.linked.committed h.covered hc, h.exact.committed h.linked h.covered hc⟩
  | createPromotionCredit _ =>
    obtain ⟨_, hcreat, rfl⟩ := map_eq_ok.mp hexec
    simp only [createPromotionCredit, eq_ok] at hcreat
    obtain ⟨_, _, _, _, _, _, hcreat⟩ := hcreat
    split at hcreat <;> simp only [eq_ok] at hcreat
    · obtain ⟨_, _, rfl⟩ := hcreat
      exact h
    · obtain ⟨_, hcr, _, hins, rfl⟩ := hcreat
      simp only [newCredit, eq_ok] at hcr
      obtain ⟨_, _, _, _, _, rfl⟩ := hcr
      exact h.grant rfl rfl hins rfl
  | insertScopedRequestLog _ =>
    obtain ⟨hrd, hbl⟩ := insertScopedRequestLog_billed hexec
    exact ⟨h.projected.billed hbl, h.covered.billed hbl,
      h.linked.redeem hbl.frame.operations hrd.redeemed, h.exact.redeem hrd.redeemed⟩

theorem LoggedGenesis.usageBooks (h : LoggedGenesis st) : UsageBooks st := by
  refine ⟨h.db.projected, h.db.reservedCovered, h.db.promotionsLinked, fun credit hcr => ?_,
    fun credit hcr hexh => ?_, ?_⟩
  · have hout : outstandingOn (fun hold => hold.promotionCreditId = credit.id)
        st.db.promotions.allocations = 0 := by
      simp [outstandingOn, sum, h.db.promotionHolds]
    have hrd : redeemedOf credit.id st.redemptions = 0 := by
      simp [redeemedOf, sum, h.redemptions]
    rw [accounted, creditLeft_of_mem hcr, hout, hrd, (h.credits credit hcr).1, add_zero, add_zero]
  · rw [(h.credits credit hcr).2] at hexh
    cases hexh
  · simp [h.redemptions]

theorem LoggedGenesis.usageBooks_run (h : LoggedGenesis st) (calls : List (Session × LoggedCall)) :
    UsageBooks (run execLogged st calls) := by
  have hall : Along execLogged (fun _ _ => True) st calls := Along.of_forall fun _ _ => trivial
  exact run_invariant (fun _ _ _ hinv _ hexec => UsageBooks.step hinv hexec) h.usageBooks hall

/-- In every history of grants, reservations, settlements, reversals and direct redemptions, the grant
of every credit is what remains of it, what open holds keep of it, what allocations consumed of it and
did not give back, and what was redeemed of it. What remains is within the grant, and nothing remains
of a credit that is marked exhausted. -/
theorem promotion_credits_conserved (h : LoggedGenesis st) (calls : List (Session × LoggedCall)) :
    ∀ credit ∈ (run execLogged st calls).db.promotions.credits.rows,
      credit.amountGranted.units = credit.amountRemaining.units +
          promotionHeldOn credit.id (run execLogged st calls).db.promotions.allocations +
          promotionConsumedOn credit.id (run execLogged st calls).db.promotions.allocations +
          redeemedOf credit.id (run execLogged st calls).redemptions ∧
        (0 ≤ credit.amountRemaining.units ∧ credit.amountRemaining.units ≤ credit.amountGranted.units) ∧
        (credit.status = .exhausted → credit.amountRemaining.units = 0) := by
  have hbk := h.usageBooks_run calls
  intro credit hcr
  have hgr := hbk.exact.granted credit hcr
  rw [accounted, creditLeft_of_mem hcr, hbk.linked.sound.outstandingOn_eq] at hgr
  exact ⟨by omega, ⟨credit.amountRemaining.nonneg, credit.remaining_le⟩, hbk.exact.exhausted credit hcr⟩

/-- A recharge, a reservation of 40 units with a promotion of 20, its settlement with 30, a second grant
of 10, and a request without an operation that redeems 85. -/
def demoPromotionUsage : List (Session × LoggedCall) :=
  [(demoSession 1, .store (.creditPaidRecharge 1)),
    (demoSession 2, .store (.reserveFunding (demoReservation "a" 40 20))),
    (demoSession 3, .store (.settleFunding (demoSettlement demoOperationId 30 false))),
    (demoSession 4, .store (.reserveFunding (demoReservation "b" 40 5))),
    (demoSession 5, .createPromotionCredit (demoGrant "second" 10)),
    (demoSession 6, .insertScopedRequestLog { demoLog "c" 90 none with promotionAmount := some (85 / 10 ^ 12) })]

/-- The history consumes 20 units of the first credit, holds 5 of it and redeems the other 75, which
exhausts it; the second credit keeps nothing either. -/
theorem promotion_credits_conserved_demo :
    (run execLogged demoLogged demoPromotionUsage).db.promotions.credits.rows.map (fun credit =>
        (credit.amountGranted.units, credit.amountRemaining.units, credit.status,
          promotionHeldOn credit.id (run execLogged demoLogged demoPromotionUsage).db.promotions.allocations,
          promotionConsumedOn credit.id (run execLogged demoLogged demoPromotionUsage).db.promotions.allocations,
          redeemedOf credit.id (run execLogged demoLogged demoPromotionUsage).redemptions)) =
        [(10, 0, .exhausted, 0, 0, 10), (100, 0, .exhausted, 5, 20, 75)] ∧
      ∀ credit ∈ (run execLogged demoLogged demoPromotionUsage).db.promotions.credits.rows,
        credit.status = .exhausted → credit.amountRemaining.units = 0 := by
  refine ⟨by decide +kernel, fun credit hcr => ?_⟩
  exact (promotion_credits_conserved demoLogged_genesis demoPromotionUsage credit hcr).2.2

end ModelDock.Store
