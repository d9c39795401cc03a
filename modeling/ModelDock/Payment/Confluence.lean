import ModelDock.Payment.EventBooks

/-!
# Provider events against the store

Each call does to an order, its wallet and its transactions what one delivery does in the machine of events.
The events of an order can be delivered in any order exactly when the machine says so.
-/

namespace ModelDock.Store

open Relational Table ProviderEvent RechargeOrder OrderStands List Prod

variable {s : Session} {order row : RechargeOrder} {events : List ProviderEvent} {base : ℤ}
  {status : RechargeStatus} {db db' : Db} {desk : Desk ProviderEvent} {verified : VerifiedWebhook} {sha : String}

theorem Banked.of_facts (h : Banked order events base status db) (hfc : row.facts = order.facts) :
    Banked row events base status db := by
  obtain ⟨hid, hnum, hw, _, _, ham, hcr⟩ := columns_of_facts hfc
  refine ⟨?_, ?_, ?_, ?_, fun hopen => ?_, fun hopen => ?_⟩
  · rw [hw, hcr, ham]
    exact h.wallet
  · rw [AccountsOpen, hw, hcr]
    exact h.accounts
  · rw [hid]
    exact h.credits
  · rw [hid]
    exact h.chargebacks
  · rw [Uncredited, hid]
    exact h.uncredited hopen
  · rw [Uncharged, hid, hnum]
    exact h.uncharged hopen

section

variable (h : Represents order events base db desk)
include h

theorem Represents.credit (hs : s.Unused db) (hrn : InRange order base) :
    Represents order events base (commit db (creditPaidRecharge s order.id db))
      { desk with status := desk.status.creditIfPaid } := by
  obtain ⟨row, hrow, hfc, hst⟩ := h.stands
  have hf := find hrow hfc
  by_cases hpaid : row.status = .paid
  · have hdesk : desk.status = .paid := hst.symm.trans hpaid
    have hbk : Banked row events base .paid db := (hdesk ▸ h.books).of_facts hfc
    have hin : InRange row base := by
      rw [InRange, (columns_of_facts hfc).2.2.2.2.2.1]
      exact hrn
    obtain ⟨db', hcr⟩ := hbk.creditPaid_succeeds hs hin
    obtain ⟨hbo, hpy⟩ := creditPaid_booked hcr
    have hexec : creditPaidRecharge s order.id db = .ok db' := by
      simp only [creditPaidRecharge, eq_ok]
      refine ⟨row, hf, ?_⟩
      rw [if_neg (by rw [hpaid]; decide)]
      simp only [eq_ok]
      exact ⟨(), hpaid, hcr⟩
    rw [hexec, hdesk]
    refine ⟨?_, (hbk.credit hbo (by rw [hpy])).of_facts hfc.symm, ?_⟩
    · change OrderStands order .credited db'.payments.rechargeOrders
      rw [hpy]
      exact replace hrow hfc rfl rfl
    · change Recorded order events desk.seen db'.payments.webhookEvents
      rw [hpy]
      exact h.log
  · have hsame : desk.status.creditIfPaid = desk.status := if_neg fun hdesk => hpaid (hst.trans hdesk)
    have hkept : commit db (creditPaidRecharge s order.id db) = db := by
      cases hexec : creditPaidRecharge s order.id db with
      | error _ => rfl
      | ok db' =>
        simp only [creditPaidRecharge, eq_ok] at hexec
        obtain ⟨found, hrq, hcase⟩ := hexec
        obtain rfl := Option.mem_unique hf hrq
        split at hcase
        · cases hcase
          rfl
        · simp only [eq_ok] at hcase
          obtain ⟨_, hno, _⟩ := hcase
          exact absurd hno hpaid
    rw [hkept, hsame]
    exact h

theorem Represents.receive (hrow : row ∈ db.payments.rechargeOrders.rows) (hfc : row.facts = order.facts)
    (hst : row.status = desk.status) (said : Signal) (hq : ¬(said = .chargeback ∧ desk.status = .credited)) :
    Represents order events base
      { db with payments := db.payments.setOrderStatus row (row.status.receive said) }
      { desk with status := desk.status.receive said } := by
  obtain ⟨hcr, hch⟩ := receive_keeps desk.status said hq
  refine ⟨replace hrow hfc rfl ?_, h.books.of_status hcr hch rfl rfl rfl rfl, h.log⟩
  change row.status.receive said = desk.status.receive said
  rw [hst]

theorem Represents.query {result : PaymentResult} (hvr : result.matchesOrder order) :
    Represents order events base (commit db (applyPaymentQueryResult order.id result db))
      { desk with status := desk.status.receive result.signal } := by
  obtain ⟨row, hrow, hfc, hst⟩ := h.stands
  obtain ⟨_, _, _, _, hnum, ham, hcr⟩ := columns_of_facts hfc
  have hmt : result.matchesOrder row := by
    rw [PaymentResult.matchesOrder, hnum, ham, hcr]
    exact hvr
  have hexec : applyPaymentQueryResult order.id result db =
      .ok (applyQueryStatus row (Text.toUpper result.status) db) := by
    simp only [applyPaymentQueryResult, eq_ok]
    exact ⟨row, find hrow hfc, (), hmt, rfl⟩
  have hq : ¬(result.signal = .chargeback ∧ desk.status = .credited) := fun hback =>
    result.signal_ne_chargeback hback.1
  rw [hexec, applyQueryStatus_receives result hrow]
  exact h.receive hrow hfc hst result.signal hq

end

theorem Represents.finds (h : Represents order events base db desk)
    (hvr : ProviderEvent.Verified order (.webhook verified sha)) :
    ∃ row ∈ db.payments.rechargeOrders.rows, row.facts = order.facts ∧ row.status = desk.status ∧
      db.payments.rechargeOrders.rows.find? (fun order => order.platformOrderNo = verified.platformOrderNo) =
        some row ∧
      matchesOrder order.paymentProvider row verified := by
  obtain ⟨row, hrow, hfc, hst⟩ := h.stands
  obtain ⟨_, hnum, _, hprr, hpr, ham, hcr⟩ := columns_of_facts hfc
  have hnm := hnum.trans hvr.1.symm
  refine ⟨row, hrow, hfc, hst, query_eq_some hrow hnm fun found hf hfor =>
    eq_of_clash hf hrow (by simp [Key.clash, Keyed.key, hfor, hnm]), ?_⟩
  rw [matchesOrder, hprr, hpr, ham, hcr]
  exact hvr.2

theorem webhookEvent_records (s : Session) (hfc : row.facts = order.facts) (verified : VerifiedWebhook)
    (sha : String) :
    (webhookEvent s order.paymentProvider row verified sha).Records order verified sha := by
  obtain ⟨hid, _, _, _, _, ham, _⟩ := columns_of_facts hfc
  exact ⟨rfl, rfl, rfl, rfl, hid, rfl, ham, rfl, rfl, rfl⟩

theorem Represents.replay (h : Represents order events base db desk)
    (hvr : ProviderEvent.Verified order (.webhook verified sha)) (hseen : .webhook verified sha ∈ desk.seen) :
    commit db (recordVerifiedPaymentWebhook s order.paymentProvider verified sha db) = db := by
  obtain ⟨row, _, _, _, hf, _⟩ := h.finds hvr
  obtain ⟨_, _, hsame, stored, hstor, hrec⟩ := h.log.known _ hseen
  obtain ⟨rfl, rfl⟩ := webhook.inj hsame
  have htk : Key.clash (Keyed.key (webhookEvent s order.paymentProvider row verified sha))
      (Keyed.key stored) := by
    simp [Key.clash, Keyed.key, webhookEvent, hrec.paymentProvider, hrec.providerEventId]
  cases hexec : recordVerifiedPaymentWebhook s order.paymentProvider verified sha db with
  | error _ => rfl
  | ok _ =>
    simp only [recordVerifiedPaymentWebhook, eq_ok] at hexec
    obtain ⟨found, hrq, _, _, hcase⟩ := hexec
    obtain rfl := Option.mem_unique hf hrq
    split at hcase
    · simp only [eq_ok] at hcase
      obtain ⟨_, _, rfl⟩ := hcase
      rfl
    · next _ hins =>
      have hfree := (insert_eq_ok.mp hins).1 stored hstor
      rw [htk] at hfree
      cases hfree

theorem Recorded.insert {seen : List ProviderEvent} {rows rows' : Table WebhookEvent} {event : WebhookEvent}
    (h : Recorded order events seen rows) (hds : Distinguished events) (hev : .webhook verified sha ∈ events)
    (hrec : event.Records order verified sha) (hins : Inserts rows event rows') :
    Recorded order events (.webhook verified sha :: seen) rows' := by
  refine ⟨forall_mem_cons.mpr ⟨⟨verified, sha, rfl, event, ?_, hrec⟩, fun other hne => ?_⟩,
    fun verified' sha' hne hun stored hstor hpr => ?_⟩
  · exact (mem_insert hins).mpr (.inl rfl)
  · obtain ⟨verified', sha', hsame, stored, hstor, hold⟩ := h.known other hne
    exact ⟨verified', sha', hsame, stored, (mem_insert hins).mpr (.inr hstor), hold⟩
  · rw [mem_cons, not_or] at hun
    obtain ⟨hnew, hun⟩ := hun
    rcases (mem_insert hins).mp hstor with rfl | hold
    · rw [hrec.providerEventId, hrec.replayKey]
      have hap (hshar : verified.providerEventId = verified'.providerEventId ∨
          verified.replayKey = verified'.replayKey) : False :=
        hnew (hds _ hev _ hne verified verified' sha sha' rfl rfl hshar).symm
      exact ⟨fun hid => hap (.inl hid), fun hkey => hap (.inr hkey)⟩
    · exact h.unknown verified' sha' hne hun stored hold hpr

theorem Represents.webhook (h : Represents order events base db desk)
    (hvr : ProviderEvent.Verified order (.webhook verified sha)) (hds : Distinguished events)
    (hs : s.Unused db) (hrn : InRange order base) (hev : .webhook verified sha ∈ events)
    (hun : .webhook verified sha ∉ desk.seen) :
    Represents order events base
      (commit db (recordVerifiedPaymentWebhook s order.paymentProvider verified sha db))
      ⟨desk.status.receive verified.status.signal, .webhook verified sha :: desk.seen⟩ := by
  obtain ⟨row, hrow, hfc, hst, hf, hmt⟩ := h.finds hvr
  have hrs := webhookEvent_records s hfc verified sha
  have hfree : ∀ stored ∈ db.payments.webhookEvents.rows,
      Key.clash (Keyed.key (webhookEvent s order.paymentProvider row verified sha)) (Keyed.key stored) =
        false := by
    intro stored hstor
    have hnew := h.log.unknown verified sha hev hun stored hstor
    simp only [Key.clash, Bool.or_eq_false_iff, Bool.and_eq_false_iff]
    refine ⟨decide_eq_false (hs.events stored hstor).symm, ?_⟩
    by_cases hpr : order.paymentProvider = stored.paymentProvider
    · obtain ⟨hid, hkey⟩ := hnew hpr.symm
      exact .inr ⟨decide_eq_false hid.symm, decide_eq_false hkey.symm⟩
    · exact .inl (decide_eq_false hpr)
  obtain ⟨webhookEvents, hins⟩ := insert_succeeds hfree StoreError.uniqueViolation
  have hlog := h.log.insert hds hev hrs hins
  have hrec {applied : Db} (hap : applyPaymentStatus s row verified db = .ok applied) :
      recordVerifiedPaymentWebhook s order.paymentProvider verified sha db =
        .ok { applied with payments := { applied.payments with webhookEvents := webhookEvents } } := by
    simp only [recordVerifiedPaymentWebhook, eq_ok]
    refine ⟨row, hf, (), hmt, ?_⟩
    rw [hins]
    simp only [eq_ok]
    exact ⟨applied, hap, rfl⟩
  by_cases hback : verified.status.signal = .chargeback ∧ row.status = .credited
  · have hsaid : verified.status = .chargeback := by
      have hsg := hback.1
      revert hsg
      cases verified.status <;> simp [PaymentStatus.signal]
    have hdesk : desk.status = .credited := hst.symm.trans hback.2
    have hbk : Banked row events base .credited db := (hdesk ▸ h.books).of_facts hfc
    have hin : InRange row base := by
      rw [InRange, (columns_of_facts hfc).2.2.2.2.2.1]
      exact hrn
    obtain ⟨db', hch⟩ := hbk.applyChargebackTx_succeeds hs hin hev
    have hap : applyPaymentStatus s row verified db = .ok db' := by
      rw [applyPaymentStatus, hsaid]
      exact (if_pos hback.2).trans hch
    rw [hrec hap, hsaid, hdesk]
    simp only [applyChargebackTx, eq_ok] at hch
    obtain ⟨wallet, hw, _, _, wallet', hmv, _, _, _, _, _, hld, _, htx, _, _, hwr⟩ := hch
    obtain ⟨journal, hpos, hj⟩ := postLinkedJournalTx_eq_ok hld
    have hbo : Booked row (-row.amount.units) (.chargeback row.id) (.chargeback row.id) none db db' := by
      rw [← hwr]
      exact ⟨⟨journal, hpos, hj.externalKey⟩,
        ⟨wallet, wallet', hw, Wallet.stored_addAvailable hw hmv⟩, insertTransaction_carries htx⟩
    have hchar := (hbk.chargeback hbo).of_facts hfc.symm
    refine ⟨?_, hchar.of_status rfl Iff.rfl rfl rfl rfl rfl, hlog⟩
    rw [← hwr]
    exact replace hrow hfc rfl rfl
  · have hmv := h.receive hrow hfc hst verified.status.signal (by rwa [← hst])
    rw [hrec (applyPaymentStatus_receives hrow hback)]
    exact ⟨hmv.stands, hmv.books.of_status rfl Iff.rfl rfl rfl rfl rfl, hlog⟩

theorem Represents.step (h : Represents order events base db desk)
    (hvr : ∀ event ∈ events, event.Verified order) (hds : Distinguished events)
    (hrn : InRange order base) (hs : s.Unused db) (delivery : Delivery ProviderEvent)
    (hall : ∀ event, delivery.event? = some event → event ∈ events) :
    Represents order events base (commit db (execPayment (s, delivery.call order) db))
      (desk.step ProviderEvent.signal ProviderEvent.isWebhook delivery) := by
  cases delivery with
  | credit => exact h.credit hs hrn
  | arrival event =>
    have hev := hall event rfl
    cases event with
    | query result =>
      have hun : .query result ∉ desk.seen := by
        intro hseen
        obtain ⟨_, _, hsame, _⟩ := h.log.known _ hseen
        cases hsame
      have hstep : desk.step signal isWebhook (.arrival (.query result)) =
          { desk with status := desk.status.receive result.signal } := if_neg hun
      rw [hstep]
      exact h.query (hvr _ hev)
    | webhook verified sha =>
      by_cases hseen : .webhook verified sha ∈ desk.seen
      · have hstep : desk.step signal isWebhook
            (.arrival (.webhook verified sha)) = desk := if_pos hseen
        have hkept : commit db (execPayment (s, Delivery.call order (.arrival (.webhook verified sha))) db) =
            db := h.replay (hvr _ hev) hseen
        rw [hstep, hkept]
        exact h
      · have hstep : desk.step signal isWebhook
            (.arrival (.webhook verified sha)) =
              ⟨desk.status.receive verified.status.signal, .webhook verified sha :: desk.seen⟩ := if_neg hseen
        rw [hstep]
        exact h.webhook (hvr _ hev) hds hs hrn hev hseen

/-- A schedule of the events of an order: each call draws new identifiers. -/
def OrderSchedule (order : RechargeOrder) (events : List ProviderEvent) (db : Db)
    (schedule : List (Session × Delivery ProviderEvent)) : Prop :=
  Schedules events (schedule.map Prod.snd) ∧
    Along execPayment (fun db invocation => invocation.1.Unused db) db (scheduledCalls order schedule)

/-- The webhook is recorded as processed. -/
def Processed (order : RechargeOrder) (verified : VerifiedWebhook) (db : Db) : Prop :=
  ∃ row ∈ db.payments.webhookEvents.rows, row.paymentProvider = order.paymentProvider ∧
    row.providerEventId = verified.providerEventId ∧ row.paymentStatus = verified.status ∧ row.processed

/-- Every processed webhook has had its effect: a payment led to one credit, a chargeback to one debit. -/
def EventsEffective (order : RechargeOrder) (events : List ProviderEvent) (db : Db) : Prop :=
  ∀ verified sha, .webhook verified sha ∈ events → Processed order verified db →
    (verified.status = .paid → creditsOf order.id db = 1) ∧
      (verified.status = .chargeback → chargebacksOf order.id db = 1)

section

variable (h : Represents order events base db desk)
include h

theorem Represents.run {schedule : List (Session × Delivery ProviderEvent)}
    (hvr : ∀ event ∈ events, event.Verified order) (hds : Distinguished events) (hrn : InRange order base)
    (hun : Along execPayment (fun db inv => inv.1.Unused db) db
      (scheduledCalls order schedule))
    (hall : ∀ event ∈ (schedule.map Prod.snd).filterMap Delivery.event?, event ∈ events) :
    Represents order events base (Relational.run execPayment db (scheduledCalls order schedule))
      (desk.run ProviderEvent.signal ProviderEvent.isWebhook (schedule.map Prod.snd)) := by
  induction schedule generalizing db desk with
  | nil => exact h
  | cons item rest ih =>
    obtain ⟨_, delivery⟩ := item
    obtain ⟨hs, hrest⟩ := hun
    refine ih (h.step hvr hds hrn hs delivery fun event hev => ?_) hrest
      fun event hev => ?_
    · exact hall event (mem_filterMap.mpr ⟨delivery, mem_cons_self, hev⟩)
    · exact hall event ((sublist_cons_self delivery (rest.map snd)).filterMap _ |>.subset hev)

theorem Represents.availableOf :
    availableOf order.walletId db = some (base + order.amount.units * desk.status.worth) := by
  obtain ⟨_, hw, _, _, hu⟩ := h.books.wallet
  rw [Store.availableOf, hw, Option.map_some, hu]

theorem Represents.effective_iff (hseen : ∀ event ∈ events, event.isWebhook → event ∈ desk.seen) :
    EventsEffective order events db ↔
      Effective ProviderEvent.signal ProviderEvent.isWebhook events desk.status := by
  have hcr : creditsOf order.id db = 1 ↔ desk.status.isCredited := by
    rw [h.books.credits]
    split <;> simp_all
  have hch : chargebacksOf order.id db = 1 ↔ desk.status = .chargeback := by
    rw [h.books.chargebacks]
    split <;> simp_all
  constructor
  · intro hef
    have hwb : ∀ event ∈ events, event.isWebhook → ∃ verified sha,
        event = .webhook verified sha ∧ Processed order verified db := by
      intro event hev hkind
      obtain ⟨verified, sha, hsame, row, hrow, hrec⟩ := h.log.known event (hseen event hev hkind)
      exact ⟨verified, sha, hsame, row, hrow, hrec.paymentProvider, hrec.providerEventId,
        hrec.paymentStatus, hrec.processed⟩
    refine ⟨fun event hev hkind hpaid => ?_, fun event hev hkind hback => ?_⟩
    · obtain ⟨verified, sha, rfl, hpr⟩ := hwb event hev hkind
      refine hcr.mp ((hef verified sha hev hpr).1 ?_)
      revert hpaid
      cases hst : verified.status <;> simp [signal, PaymentStatus.signal, hst]
    · obtain ⟨verified, sha, rfl, hpr⟩ := hwb event hev hkind
      refine hch.mp ((hef verified sha hev hpr).2 ?_)
      revert hback
      cases hst : verified.status <;> simp [signal, PaymentStatus.signal, hst]
  · intro hef verified sha hev _
    refine ⟨fun hpaid => hcr.mpr (hef.1 _ hev rfl ?_),
      fun hback => hch.mpr (hef.2 _ hev rfl ?_)⟩
    · simp [signal, PaymentStatus.signal, hpaid]
    · simp [signal, PaymentStatus.signal, hback]

end

theorem exists_above (used : List ℕ) : ∃ bound, ∀ id ∈ used, id < bound := by
  induction used with
  | nil => exact ⟨0, fun _ h => absurd h not_mem_nil⟩
  | cons first _ ih =>
    obtain ⟨bound, hbd⟩ := ih
    refine ⟨max (first + 1) bound, forall_mem_cons.mpr ⟨?_, fun id hid => ?_⟩⟩
    · exact lt_of_lt_of_le (Nat.lt_succ_self first) (le_max_left _ _)
    · exact lt_of_lt_of_le (hbd id hid) (le_max_right _ _)

theorem exists_unused (db : Db) : ∃ s : Session, s.Unused db := by
  obtain ⟨bound, hbd⟩ := exists_above (db.payments.webhookEvents.rows.map (·.id) ++
    db.ledger.journals.rows.map (·.id) ++ db.ledger.journals.rows.filterMap (·.refundOrderId) ++
    db.transactions.rows.map (·.id) ++ db.transactions.rows.filterMap (·.refundOrderId) ++
    db.payments.refundOrders.rows.map (·.id) ++ db.cash.allocations.rows.map (·.walletTransactionId) ++
    db.cash.allocations.rows.map (·.id))
  simp only [mem_append, or_imp, forall_and, mem_map, mem_filterMap, forall_exists_index,
    and_imp] at hbd
  obtain ⟨⟨⟨⟨⟨⟨⟨hev, hjs⟩, hjr⟩, htx⟩, htr⟩, href⟩, hown⟩,
    hall⟩ := hbd
  have hnew {id : ℕ} (hid : id < bound) (draw : Draw) : id ≠ bound + draw.code := by omega
  have hlink {link : Option Uuid} (hln : ∀ id, link = some id → id < bound) (draw : Draw) :
      link ≠ some (bound + draw.code) := fun hsame => hnew (hln _ hsame) draw rfl
  refine ⟨⟨0, 0, fun draw => bound + draw.code⟩, fun a b hsame => Draw.code_injective ?_, ?_, ?_, ?_, ?_, ?_⟩
  · exact Nat.add_left_cancel hsame
  · exact fun row hrow => hnew (hev _ row hrow rfl) .event
  · exact fun row hrow => ⟨hnew (hjs _ row hrow rfl) .journal,
      hlink (fun id hid => hjr id row hrow hid) .refund⟩
  · exact fun row hrow => ⟨hnew (htx _ row hrow rfl) .transaction,
      hlink (fun id hid => htr id row hrow hid) .refund⟩
  · exact fun row hrow => hnew (href _ row hrow rfl) .refund
  · exact fun row hrow => ⟨hnew (hown _ row hrow rfl) .transaction,
      fun draw => hnew (hall _ row hrow rfl) draw⟩

theorem exists_sessions (order : RechargeOrder) (deliveries : List (Delivery ProviderEvent)) (db : Db) :
    ∃ schedule : List (Session × Delivery ProviderEvent), schedule.map Prod.snd = deliveries ∧
      Along execPayment (fun db inv => inv.1.Unused db) db (scheduledCalls order schedule) := by
  induction deliveries generalizing db with
  | nil => exact ⟨[], rfl, trivial⟩
  | cons delivery _ ih =>
    obtain ⟨s, hs⟩ := exists_unused db
    obtain ⟨schedule, hsc, hun⟩ := ih (commit db (execPayment (s, delivery.call order) db))
    exact ⟨(s, delivery) :: schedule, by rw [map_cons, hsc], hs, hun⟩

/-- The events of an order give the same balance in every order of delivery, and every processed webhook
has its effect, exactly when no chargeback is reported of an order that is not credited, no payment is
recorded for a failed order, and no order in its first statuses is reported both paid and failed. -/
theorem deliveries_agree_iff (horder : order ∈ db.payments.rechargeOrders.rows)
    (hbooks : Banked order events base order.status db)
    (hlog : Recorded order events [] db.payments.webhookEvents)
    (hverified : ∀ event ∈ events, event.Verified order) (hdistinguished : Distinguished events)
    (hrange : InRange order base) :
    ((∀ schedule, OrderSchedule order events db schedule →
        EventsEffective order events (run execPayment db (scheduledCalls order schedule))) ∧
      ∀ schedule schedule', OrderSchedule order events db schedule → OrderSchedule order events db schedule' →
        availableOf order.walletId (run execPayment db (scheduledCalls order schedule)) =
          availableOf order.walletId (run execPayment db (scheduledCalls order schedule'))) ↔
      Orderless ProviderEvent.signal ProviderEvent.isWebhook events order.status := by
  have hstar : Represents order events base db ⟨order.status, []⟩ := ⟨⟨order, horder, rfl, rfl⟩, hbooks, hlog⟩
  have hrun {schedule : List (Session × Delivery ProviderEvent)}
      (hsc : OrderSchedule order events db schedule) :
      Represents order events base (run execPayment db (scheduledCalls order schedule))
        ((⟨order.status, []⟩ : Desk ProviderEvent).run signal isWebhook
          (schedule.map snd)) := by
    obtain ⟨⟨init, hinit, hperm⟩, hun⟩ := hsc
    refine hstar.run hverified hdistinguished hrange hun fun event hev => hperm.subset ?_
    simpa [hinit, Delivery.event?] using hev
  have hef {schedule : List (Session × Delivery ProviderEvent)}
      (hsc : OrderSchedule order events db schedule) :
      EventsEffective order events (run execPayment db (scheduledCalls order schedule)) ↔
        Effective signal isWebhook events
          ((⟨order.status, []⟩ : Desk ProviderEvent).run signal isWebhook
            (schedule.map snd)).status := by
    refine (hrun hsc).effective_iff fun event hev hkind => Desk.mem_seen_run hkind (.inr ?_)
    obtain ⟨⟨init, hinit, hperm⟩, _⟩ := hsc
    rw [hinit]
    simpa [Delivery.event?] using hperm.symm.subset hev
  have hbl {schedule : List (Session × Delivery ProviderEvent)}
      (hsc : OrderSchedule order events db schedule) := (hrun hsc).availableOf
  have hch : ∀ event ∈ events, event.signal = .chargeback → event.isWebhook := by
    intro event _ hback
    cases event with
    | webhook _ _ => rfl
    | query result => exact absurd hback result.signal_ne_chargeback
  rw [← orderless_iff hch]
  constructor
  · rintro ⟨hall, hsame⟩
    refine ⟨fun deliveries hdl => ?_, fun deliveries deliveries' hdl hdl' => ?_⟩
    · obtain ⟨schedule, rfl, hun⟩ := exists_sessions order deliveries db
      exact (hef ⟨hdl, hun⟩).mp (hall schedule ⟨hdl, hun⟩)
    · obtain ⟨schedule, rfl, hun⟩ := exists_sessions order deliveries db
      obtain ⟨schedule', rfl, hun'⟩ := exists_sessions order deliveries' db
      have heq := hsame schedule schedule' ⟨hdl, hun⟩ ⟨hdl', hun'⟩
      rw [hbl ⟨hdl, hun⟩, hbl ⟨hdl', hun'⟩] at heq
      exact mul_left_cancel₀ order.positive.ne' (add_left_cancel (Option.some.inj heq))
  · rintro ⟨hall, hsame⟩
    refine ⟨fun schedule hsc => (hef hsc).mpr (hall _ hsc.1),
      fun schedule schedule' hsc hsc' => ?_⟩
    rw [hbl hsc, hbl hsc', hsame _ _ hsc.1 hsc'.1]

/-- A webhook of the first order of the small store. -/
def demoWebhook (eventId : String) (status : PaymentStatus) : VerifiedWebhook where
  providerEventId := eventId
  providerOrderNo := "RO1"
  platformOrderNo := "RO1"
  status := status
  amount := 100
  currency := "USD"
  replayKey := eventId

/-- The small store with its first order waiting for the payment. -/
def demoPendingDb : Db :=
  { demoDb with payments := demoDb.payments.setOrderStatus (demoOrder 1 "RO1" 100 hundred_pos) .pending }

/-- The webhooks of the first order arrive in the given order, and the order is asked to be credited. -/
def demoDeliveries (statuses : List (String × PaymentStatus)) : Db :=
  run execPayment demoPendingDb (scheduledCalls (demoOrder 1 "RO1" 100 hundred_pos)
    ((statuses.zipIdx.map fun item =>
      (demoSession (item.2 + 1), .arrival (.webhook (demoWebhook item.1.1 item.1.2) "body"))) ++
      [(demoSession 9, .credit)]))

/-- The first order of the small store, waiting for the payment. -/
def demoPendingOrder : RechargeOrder := (demoOrder 1 "RO1" 100 hundred_pos).setStatus .pending

/-- Two notices that the first order was paid. -/
def demoPaidTwice : List ProviderEvent :=
  [.webhook (demoWebhook "paid" .paid) "body", .webhook (demoWebhook "again" .paid) "other"]

/-- The payment of a waiting order is credited once however its webhooks and the requests to credit are delivered,
and the balance is the same. -/
theorem deliveries_agree_iff_demo : demoPendingOrder.status = .pending ∧
    (∀ schedule, OrderSchedule demoPendingOrder demoPaidTwice demoPendingDb schedule → EventsEffective
      demoPendingOrder demoPaidTwice (run execPayment demoPendingDb (scheduledCalls demoPendingOrder schedule))) ∧
    ∀ schedule schedule', OrderSchedule demoPendingOrder demoPaidTwice demoPendingDb schedule →
      OrderSchedule demoPendingOrder demoPaidTwice demoPendingDb schedule' →
        availableOf 1 (run execPayment demoPendingDb (scheduledCalls demoPendingOrder schedule)) =
          availableOf 1 (run execPayment demoPendingDb (scheduledCalls demoPendingOrder schedule')) := by
  have hmem : demoPendingOrder ∈ demoPendingDb.payments.rechargeOrders.rows :=
    (mem_replace mem_cons_self (setStatus_key _ _)).mpr (.inl rfl)
  have hbk : Banked demoPendingOrder demoPaidTwice 0 .pending demoPendingDb := by
    refine ⟨⟨_, rfl, by decide, rfl, rfl⟩, ?_, rfl, rfl, fun _ => ⟨?_, ?_⟩, fun _ => ⟨?_, ?_⟩⟩
    · rintro _ (rfl | rfl) <;> decide +kernel
    all_goals exact fun _ hrow => absurd hrow not_mem_nil
  refine ⟨rfl, (deliveries_agree_iff hmem hbk ?_ ?_ ?_ ?_).mpr ?_⟩
  · exact ⟨fun _ hseen => absurd hseen not_mem_nil, fun _ _ _ _ _ hrow => absurd hrow not_mem_nil⟩
  · simp only [demoPaidTwice, forall_mem_cons]
    exact ⟨⟨rfl, by decide +kernel⟩, ⟨rfl, by decide +kernel⟩, fun _ hno => absurd hno not_mem_nil⟩
  · rintro _ hfs _ hsc _ _ _ _ rfl rfl hsame
    simp only [demoPaidTwice, mem_cons, not_mem_nil, or_false, ProviderEvent.webhook.injEq] at hfs hsc
    obtain ⟨rfl, rfl⟩ | ⟨rfl, rfl⟩ := hfs <;> obtain ⟨rfl, rfl⟩ | ⟨rfl, rfl⟩ := hsc
    all_goals first | rfl | exact absurd hsame (by decide)
  · exact ⟨by decide, by decide⟩
  · exact ⟨by decide +kernel, (fun _ _ _ _ hno => nomatch hno), by decide +kernel⟩

/-- Webhooks of one order that arrive in another order leave another balance, and a processed chargeback
can be without a debit. -/
theorem deliveries_disagree : availableOf 1 (demoDeliveries [("paid", .paid), ("failed", .failed)]) = some 100 ∧
    availableOf 1 (demoDeliveries [("failed", .failed), ("paid", .paid)]) = some 0 ∧
    availableOf 1 (demoDeliveries [("back", .chargeback), ("paid", .paid)]) = some 100 ∧
    (∃ row ∈ (demoDeliveries [("back", .chargeback), ("paid", .paid)]).payments.webhookEvents.rows,
      row.paymentStatus = .chargeback ∧ row.processed) ∧
    chargebacksOf 1 (demoDeliveries [("back", .chargeback), ("paid", .paid)]) = 0 := by decide +kernel

end ModelDock.Store
