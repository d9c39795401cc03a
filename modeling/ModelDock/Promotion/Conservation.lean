import ModelDock.Promotion.Holds
import ModelDock.Wallet.ReservedBalance

/-!
# Promotion over whole histories

An operation in flight holds exactly its promotion, and a closed one has exactly its consumed promotion out of
credits. Late usage changes neither.
-/

namespace ModelDock.Store

open Relational Table

variable {op : FundingOperation} {req : FundingSettlementRequest} {charge : SettlementCharge}

/-- The promotion tables are sound and linked to the operations they serve. -/
structure PromotionsLinked (db : Db) : Prop where
  sound : db.promotions.Sound
  stored : ∀ hold ∈ db.promotions.allocations.rows,
    ∃ operation ∈ db.operations.rows, operation.id = hold.operationId
  settled : ∀ hold ∈ db.promotions.allocations.rows, ∀ operation ∈ db.operations.rows,
    operation.id = hold.operationId → (operation.status.isOpen ↔ hold.settledAt = none)
  held : ∀ operation ∈ db.operations.rows, operation.status.isOpen →
    promotionHeld operation.id db.promotions.allocations = operation.promotionAmount.units
  used : ∀ operation ∈ db.operations.rows,
    promotionUsed operation.id db.promotions.allocations = operation.consumedPromotionAmount.units

variable {s : Session} {call : Call} {db db' : Db} {wallet : Wallet}

/-- The columns of an operation that its promotion depends on. -/
def FundingOperation.promotionTerms (operation : FundingOperation) : Uuid × Bool × Money × Money :=
  (operation.id, operation.status.isOpen, operation.promotionAmount, operation.consumedPromotionAmount)

section

variable (h : PromotionsLinked db)
include h

theorem PromotionsLinked.of_terms (hpr : db'.promotions = db.promotions)
    (hfor : ∀ op ∈ db'.operations.rows, ∃ old ∈ db.operations.rows,
      old.promotionTerms = op.promotionTerms)
    (hbc : ∀ old ∈ db.operations.rows, ∃ op ∈ db'.operations.rows, op.id = old.id) :
    PromotionsLinked db' := by
  simp only [FundingOperation.promotionTerms, Prod.mk.injEq] at hfor
  refine ⟨hpr ▸ h.sound, ?_, ?_, ?_, ?_⟩ <;> rw [hpr]
  · intro hold hhold
    obtain ⟨old, hold, hid⟩ := h.stored hold hhold
    obtain ⟨op, hop, hsame⟩ := hbc old hold
    exact ⟨op, hop, hsame.trans hid⟩
  · intro hold hhold op hop hid
    obtain ⟨old, hmem, hsame, hopen, _⟩ := hfor op hop
    rw [← hopen]
    exact h.settled hold hhold old hmem (hsame.trans hid)
  · intro op hop hopn
    obtain ⟨old, hmem, hsame, hopen, hprn, _⟩ := hfor op hop
    rw [← hsame, ← hprn]
    exact h.held old hmem (hopen.trans hopn)
  · intro op hop
    obtain ⟨old, hmem, hsame, _, _, hcn⟩ := hfor op hop
    rw [← hsame, ← hcn]
    exact h.used old hmem

theorem PromotionsLinked.of_same (hpr : db'.promotions = db.promotions)
    (hop : db'.operations = db.operations) : PromotionsLinked db' := by
  refine h.of_terms hpr ?_ ?_ <;> rw [hop]
  · exact fun op hmem => ⟨op, hmem, rfl⟩
  · exact fun op hmem => ⟨op, hmem, rfl⟩

section

variable (hmem : op ∈ db.operations.rows)
include hmem

theorem PromotionsLinked.replace {op' : FundingOperation} (hop : db'.operations = db.operations.replace op')
    (hkey : Keyed.key op' = Keyed.key op) (hcl : op'.status.isOpen = false)
    (hsn : db'.promotions.Sound) (htc : db.promotions.Touched op.id db'.promotions)
    (hset : ∀ hold ∈ db'.promotions.allocations.rows, hold.operationId = op.id →
      hold.settledAt ≠ none)
    (hused : promotionUsed op.id db'.promotions.allocations =
      op'.consumedPromotionAmount.units) : PromotionsLinked db' := by
  have hid : op'.id = op.id := congrArg FundingOperationKey.id hkey
  have hcs (x : FundingOperation) (hx : x ∈ db'.operations.rows) :
      x = op' ∨ x ∈ db.operations.rows ∧ x.id ≠ op.id :=
    hid ▸ (mem_replace hmem hkey).mp (hop ▸ hx)
  refine ⟨hsn, fun hold hhold => ?_, fun hold hhold x hx hxid => ?_, fun x hx hopen => ?_, fun x hx => ?_⟩
  · rw [hop]
    have hnew : op' ∈ (db.operations.replace op').rows := (mem_replace hmem hkey).mpr (.inl rfl)
    by_cases hown : hold.operationId = op.id
    · exact ⟨op', hnew, hid.trans hown.symm⟩
    · obtain ⟨old, hold, hsame⟩ := h.stored hold ((htc.holds hold hhold).resolve_right hown)
      refine ⟨old, (mem_replace hmem hkey).mpr (.inr ⟨hold, fun heq => hown ?_⟩), hsame⟩
      exact hsame.symm.trans (heq.trans hid)
  · rcases hcs x hx with rfl | ⟨hx, hne⟩
    · have hdone := hset hold hhold (hxid.symm.trans hid)
      rw [hcl]
      exact iff_of_false Bool.false_ne_true hdone
    · have hold' := (htc.holds hold hhold).resolve_right fun hown => hne (hxid.trans hown)
      exact h.settled hold hold' x hx hxid
  · rcases hcs x hx with rfl | ⟨hx, hne⟩
    · rw [hcl] at hopen
      cases hopen
    · rw [(htc.others hne).1]
      exact h.held x hx hopen
  · rcases hcs x hx with rfl | ⟨hx, hne⟩
    · rw [hid, hused]
    · rw [(htc.others hne).2]
      exact h.used x hx

theorem PromotionsLinked.settledHolds (hcl : op.status.isOpen = false) :
    ∀ hold ∈ db.promotions.allocations.rows, hold.operationId = op.id → hold.settledAt ≠ none := by
  intro hold hhold hown hnone
  have hopen := (h.settled hold hhold op hmem hown.symm).mpr hnone
  rw [hcl] at hopen
  cases hopen

end

theorem PromotionsLinked.reserve {maximum : ℚ} {promotion : ℤ}
    (hrs : Reserves s wallet maximum promotion db op db') :
    PromotionsLinked db' := by
  obtain ⟨hsn, htc, hheld, hop⟩ := reservePromotionTx_sound h.sound hrs.promotions
  have hfr (old : FundingOperation) (hold : old ∈ db.operations.rows) : old.id ≠ op.id :=
    rowId_ne_of_insert hrs.operations hold
  have hnone (hold : PromotionAllocation) (hhold : hold ∈ db.promotions.allocations.rows) :
      hold.operationId ≠ op.id := by
    obtain ⟨old, hold, hid⟩ := h.stored hold hhold
    exact fun heq => hfr old hold (hid.trans heq)
  have hins (x : FundingOperation) : x ∈ db'.operations.rows ↔ x = op ∨ x ∈ db.operations.rows :=
    mem_insert hrs.operations
  have hst : op.status.isOpen := by
    rw [hrs.opened.status]
    rfl
  refine ⟨hsn, fun hold hhold => ?_, fun hold hhold x hx hid => ?_, fun x hx hopen => ?_, fun x hx => ?_⟩
  · rcases htc.holds hold hhold with hold | hown
    · obtain ⟨old, hold, hid⟩ := h.stored _ hold
      exact ⟨old, (hins old).mpr (.inr hold), hid⟩
    · exact ⟨op, (hins op).mpr (.inl rfl), hown.symm⟩
  · rcases (hins x).mp hx with rfl | hx
    · rw [hst]
      exact iff_of_true rfl ((hop hold hhold).resolve_left fun hold => hnone _ hold hid.symm)
    · have hold' := (htc.holds hold hhold).resolve_right fun hown => hfr x hx (hid.trans hown)
      exact h.settled hold hold' x hx hid
  · rcases (hins x).mp hx with rfl | hx
    · have hbef : promotionHeld x.id db.promotions.allocations = 0 :=
        sum_eq_zero fun hold hhold => if_neg (hnone hold hhold)
      rw [hheld, hbef, zero_add, hrs.opened.promotionAmount]
    · rw [(htc.others (hfr x hx)).1]
      exact h.held x hx hopen
  · rcases (hins x).mp hx with rfl | hx
    · rw [hrs.opened.consumedPromotionAmount]
      refine sum_eq_zero fun hold hhold => ?_
      split
      · next hown =>
        have hopen := (hop hold hhold).resolve_left fun hold => hnone _ hold hown
        obtain ⟨hcn, _, hrv⟩ := hsn.unused hold hhold hopen
        rw [PromotionAllocation.unreversed, hcn, hrv, sub_zero]
      · rfl
    · rw [(htc.others (hfr x hx)).2]
      exact h.used x hx

section

variable (hmem : op ∈ db.operations.rows)
include hmem

theorem PromotionsLinked.settle_spec {shadow : Table ShadowSpend} (hopen : op.status.isOpen)
    (hch : settlementCharge s req op db = .ok (charge, shadow)) :
    ∃ promotions, settlePromotionTx s op.id charge.promotion db.promotions =
        .ok (charge.promotion, promotions) ∧ promotions.Sound ∧
      db.promotions.Touched op.id promotions ∧
      promotionUsed op.id promotions.allocations = charge.promotion ∧
      ∀ hold ∈ promotions.allocations.rows, hold.operationId = op.id →
        hold.settledAt ≠ none ∧ hold.reversedAmount.units = 0 := by
  obtain ⟨hnn, hle⟩ := settlementCharge_promotion hch
  have hcv : min charge.promotion (promotionHeld op.id db.promotions.allocations) =
      charge.promotion := by
    rw [h.held op hmem hopen, min_eq_left hle]
  have hspec := settlePromotionTx_spec (s := s) h.sound hnn fun hold hhold hown =>
    (h.settled hold hhold op hmem hown.symm).mp hopen
  rwa [hcv] at hspec

theorem PromotionsLinked.settle {settled : FundingOperation} {consumed : ℤ} (hopen : op.status.isOpen)
    (hset : Settles s req op wallet charge consumed db settled db') :
    consumed = charge.promotion ∧ PromotionsLinked db' := by
  obtain ⟨_, hse, hsn, htc, hused, hsd⟩ := h.settle_spec hmem hopen hset.charged
  have hsame := Except.ok.inj (hset.promotions.symm.trans hse)
  obtain ⟨hcn, hpr⟩ := Prod.mk.inj hsame
  subst hpr
  have hcl : settled.status.isOpen = false := by
    rw [hset.closed.status, settlementStatus_closed]
  refine ⟨hcn, h.replace hmem hset.operations hset.closed.key hcl hsn htc
    (fun hold hhold hown => (hsd hold hhold hown).1) ?_⟩
  rw [hused, hset.closed.consumedPromotionAmount, hcn]

theorem PromotionsLinked.reverse {idempotencyKey : String} {reversed : FundingOperation}
    (hcl : op.status.isOpen = false)
    (hrv : Reverses s op idempotencyKey db reversed db') : PromotionsLinked db' := by
  obtain ⟨_, hrn, hwr⟩ := hrv.promotions
  have hused := h.used op hmem
  obtain ⟨_, hspec, hsn, htc, hleft, hset⟩ := reversePromotionTx_spec (s := s) h.sound
    op.consumedPromotionAmount.nonneg hused.ge (h.settledHolds hmem hcl)
  obtain ⟨hrt, hpr⟩ := Prod.mk.inj (Except.ok.inj (hrn.symm.trans hspec))
  subst hpr
  obtain ⟨consumed, _, hcn, rfl⟩ := FundingOperation.reverse_eq_ok hwr
  refine h.replace hmem hrv.operations rfl rfl hsn htc hset ?_
  rw [hleft, hused, hcn, hrt, sub_self, max_self]

end

theorem PromotionsLinked.committed (hcv : ReservedCovered db)
    (hc : Committed s db call db') : PromotionsLinked db' := by
  cases hc with
  | quiet hq =>
    have hco {a b : FundingOperation} (htm : a.terms = b.terms) :
        a.promotionTerms = b.promotionTerms := by
      have hsame : a.terms.promotionTerms = b.terms.promotionTerms := by rw [htm]
      exact hsame
    refine h.of_terms hq.promotions (fun op hmem => ?_) fun old hmem => ?_
    · obtain ⟨old, hold, htm⟩ := mem_of_view hq.operations hmem
      exact ⟨old, hold, hco htm⟩
    · obtain ⟨new, hnew, htm⟩ := mem_of_view hq.operations.symm hmem
      exact ⟨new, hnew, congrArg Prod.fst (hco htm)⟩
  | reserve _ _ _ _ hrs => exact h.reserve hrs
  | settle hop hopen _ hset =>
    exact (h.settle (found hop).1 hopen hset).2
  | @adjust _ op _ _ _ hop hcl _ _ hadj =>
    obtain ⟨hmem, _⟩ := found hop
    obtain rfl := hadj.written
    have htc : db.promotions.Touched op.id db'.promotions := by
      rw [hadj.promotions]
      exact Promotions.Touched.refl _ _
    refine h.replace hmem hadj.operations rfl (FundingOperation.correct_closed _ _ _ _)
      (hadj.promotions ▸ h.sound) htc ?_ ?_ <;> rw [hadj.promotions]
    · exact h.settledHolds hmem hcl
    · exact h.used op hmem
  | @reverse _ _ _ op _ _ hop _ hpos hrv =>
    obtain ⟨hmem, _⟩ := found hop
    exact h.reverse hmem (hcv.closed_of_charged hmem hpos) hrv
  | manual hcall | reconcile _ _ hcall => exact h.of_same hcall.promotions hcall.operations
  | credit _ _ hcall | createRefund _ _ hcall | failRefund _ _ hcall | completeRefund _ _ hcall
  | chargeback _ _ hcall => exact h.of_same hcall.funding.promotions hcall.funding.operations

end

theorem Genesis.promotionsLinked (h : Genesis db) : PromotionsLinked db := by
  refine ⟨⟨?_, ?_, fun credit hcr => ?_⟩, ?_, ?_, ?_, ?_⟩
  · simp [h.promotionHolds]
  · simp [h.promotionHolds]
  · have hnone : outstandingOn (fun hold => hold.promotionCreditId = credit.id) db.promotions.allocations = 0 := by
      simp [outstandingOn, sum, h.promotionHolds]
    rw [Promotions.accounted, creditLeft_of_mem hcr, hnone, add_zero]
    exact credit.remaining_le
  · simp [h.promotionHolds]
  · simp [h.promotionHolds]
  · simp [h.operations]
  · simp [h.operations]

theorem Genesis.promotionsLinked_run (h : Genesis db) (calls : List (Session × Call)) :
    PromotionsLinked (run exec db calls) := by
  have hstep (s : Session) (call : Call) (st st' : Db)
      (hinv : (Projected st.wallets st.ledger ∧ ReservedCovered st) ∧ PromotionsLinked st)
      (hc : Committed s st call st') :
      (Projected st'.wallets st'.ledger ∧ ReservedCovered st') ∧ PromotionsLinked st' :=
    ⟨⟨hinv.1.1.committed hc, hinv.1.2.committed hinv.1.1 hc⟩, hinv.2.committed hinv.1.2 hc⟩
  exact (run_keeps_all hstep ⟨⟨h.projected, h.reservedCovered⟩, h.promotionsLinked⟩ calls).2

/-- In every reachable state the holds of an operation are open exactly as long as it is in flight, cover the
promotion it was promised until then, and have consumed what the operation says, less what was reversed. -/
theorem promotion_holds_follow_operation (h : Genesis db) (calls : List (Session × Call)) :
    ∀ op ∈ (run exec db calls).operations.rows,
      (∀ hold ∈ (run exec db calls).promotions.allocations.rows, hold.operationId = op.id →
        (hold.settledAt = none ↔ op.status.isOpen)) ∧
      (op.status.isOpen → promotionHeld op.id (run exec db calls).promotions.allocations =
        op.promotionAmount.units) ∧
      promotionUsed op.id (run exec db calls).promotions.allocations =
        op.consumedPromotionAmount.units := by
  intro op hop
  have hln := h.promotionsLinked_run calls
  refine ⟨fun hold hhold hown => ?_, hln.held op hop, hln.used op hop⟩
  exact (hln.settled hold hhold op hop hown.symm).symm

/-- An operation that was promised 20 units is in flight. -/
theorem promotion_holds_follow_operation_demo :
    let st := run exec demoDb
      [(demoSession 1, .creditPaidRecharge 1), (demoSession 2, .reserveFunding (demoReservation "a" 40 20))]
    st.operations.rows.map (·.status) = [.reserved] ∧ ∀ op ∈ st.operations.rows, op.status.isOpen →
      promotionHeld op.id st.promotions.allocations = op.promotionAmount.units :=
  ⟨by decide +kernel, fun op hop =>
    (promotion_holds_follow_operation demoDb_genesis _ op hop).2.1⟩

end ModelDock.Store
