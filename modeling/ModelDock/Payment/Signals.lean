import ModelDock.Store.Schema.Payments

/-!
# Events of an order, in any order

The machine the events of an order drive, apart from the store, and exactly when every delivery of the same
events comes to the same result and every recorded event has had its effect.
-/

namespace ModelDock.Store

open List

/-- What an event says about its order. -/
inductive Signal
  | paid
  | failed
  | expired
  | chargeback
  | other
deriving DecidableEq

variable (status : RechargeStatus)

/-- The status after an event. -/
def RechargeStatus.receive : Signal → RechargeStatus
  | .paid => if status = .created ∨ status = .pending ∨ status = .expired then .paid else status
  | .failed => if status = .created ∨ status = .pending then .failed else status
  | .expired => if status = .created ∨ status = .pending then .expired else status
  | .chargeback => if status = .credited then .chargeback else status
  | .other => status

/-- The status after the order was asked to be credited. -/
def RechargeStatus.creditIfPaid : RechargeStatus :=
  if status = .paid then .credited else status

/-- How often the amount of the order is in its wallet. -/
def RechargeStatus.worth : ℤ :=
  if status.isCredited ∧ status ≠ .chargeback then 1 else 0

/-- The order is paid, and credited or about to be. -/
def RechargeStatus.isFunded : Bool := status = .paid || status = .credited

section Machine

variable {E : Type} [DecidableEq E] (signal : E → Signal) (recorded : E → Bool)

/-- One order as its events see it: its status and the events that were recorded. -/
structure Desk (E : Type) where
  status : RechargeStatus
  seen : List E

/-- An event arrives, or the order is asked to be credited. -/
inductive Delivery (E : Type)
  | arrival (event : E)
  | credit

/-- The event of a delivery. -/
def Delivery.event? : Delivery E → Option E
  | .arrival event => some event
  | .credit => none

/-- What one delivery does. Events that are not recorded are applied each time. -/
def Desk.step (desk : Desk E) : Delivery E → Desk E
  | .arrival event =>
    if event ∈ desk.seen then desk
    else ⟨desk.status.receive (signal event), if recorded event then event :: desk.seen else desk.seen⟩
  | .credit => { desk with status := desk.status.creditIfPaid }

/-- What a list of deliveries does. -/
def Desk.run (desk : Desk E) (deliveries : List (Delivery E)) : Desk E :=
  deliveries.foldl (Desk.step signal recorded) desk

/-- The deliveries are the events in some order with requests to credit among them, the last one at
the end. -/
def Schedules (events : List E) (deliveries : List (Delivery E)) : Prop :=
  ∃ init, deliveries = init ++ [.credit] ∧ (init.filterMap Delivery.event?).Perm events

/-- Some event says this. -/
def reports (said : Signal) (events : List E) : Bool := events.any fun event => signal event = said

/-- Every recorded event has had its effect: a payment is credited, a chargeback is taken back. -/
def Effective (events : List E) (status : RechargeStatus) : Prop :=
  (∀ event ∈ events, recorded event → signal event = .paid → status.isCredited) ∧
    ∀ event ∈ events, recorded event → signal event = .chargeback → status = .chargeback

/-- Events that can be delivered in any order: a chargeback is reported of a credited or charged back
order only, a payment is not recorded for a failed order, and an order in its first statuses is not
reported both paid and failed. -/
def Orderless (events : List E) (start : RechargeStatus) : Prop :=
  (reports signal .chargeback events → start = .credited ∨ start = .chargeback) ∧
    (∀ event ∈ events, recorded event → signal event = .paid → start ≠ .failed) ∧
    (reports signal .paid events → reports signal .failed events →
      start ≠ .created ∧ start ≠ .pending)

end Machine

variable (start status : RechargeStatus) (paid failed charged : Bool)

/-- The status an order can have that started from a status, when some events said that it was paid,
that it failed, or that it was charged back. -/
def standing : Bool :=
  match start with
  | .created | .pending =>
    if paid then status.isFunded
    else status = start || status = .expired || (failed && status = .failed)
  | .expired => if paid then status.isFunded else status = .expired
  | .paid => status.isFunded
  | .credited => if charged then status = .chargeback else status = .credited
  | .failed => status = .failed
  | .refundPending => status = .refundPending
  | .refunded => status = .refunded
  | .chargeback => status = .chargeback

theorem standing_receive (said : Signal)
    (hpaid : paid || said = .paid → failed || said = .failed → start ≠ .created ∧ start ≠ .pending)
    (hch : charged || said = .chargeback → start = .credited ∨ start = .chargeback)
    (h : standing start status paid failed charged) :
    standing start (status.receive said) (paid || said = .paid) (failed || said = .failed)
      (charged || said = .chargeback) := by
  cases start <;> cases status <;> cases said <;> revert paid failed charged <;> decide

theorem standing_credit (h : standing start status paid failed charged) :
    standing start status.creditIfPaid paid failed charged := by
  cases start <;> cases status <;> revert paid failed charged <;> decide

theorem standing_start (start : RechargeStatus) : standing start start false false false := by
  cases start <;> decide

/-- What an order is worth once all was said and it was asked to be credited. -/
def finalWorth (start : RechargeStatus) (paid charged : Bool) : ℤ :=
  match start with
  | .created | .pending | .expired => if paid then 1 else 0
  | .paid | .refundPending | .refunded => 1
  | .credited => if charged then 0 else 1
  | .failed | .chargeback => 0

theorem worth_of_standing (h : standing start status paid failed charged) :
    status.creditIfPaid.worth = finalWorth start paid charged := by
  cases start <;> cases status <;> revert paid failed charged <;> decide

theorem isCredited_of_standing {start status : RechargeStatus} {failed charged : Bool}
    (hstar : start ≠ .failed) (h : standing start status true failed charged) :
    status.creditIfPaid.isCredited := by
  cases start with
  | failed => exact absurd rfl hstar
  | _ => cases status <;> revert failed charged <;> decide

theorem chargeback_of_standing {start status : RechargeStatus} {paid failed : Bool}
    (hstar : start = .credited ∨ start = .chargeback)
    (h : standing start status paid failed true) : status.creditIfPaid = .chargeback := by
  rcases hstar with rfl | rfl <;> (have hst : status = .chargeback := by simpa [standing] using h) <;>
    rw [hst] <;> rfl

section Machine

variable {E : Type} {signal : E → Signal} {events : List E}

theorem reports_cons (said : Signal) (event : E) (events : List E) :
    reports signal said (event :: events) = (signal event = said || reports signal said events) := rfl

variable {event : E}

theorem reports_of_mem (signal : E → Signal) (h : event ∈ events) :
    reports signal (signal event) events :=
  any_eq_true.mpr ⟨event, h, decide_eq_true rfl⟩

theorem reports_mono {events' : List E} (h : ∀ event ∈ events', event ∈ events) {said : Signal}
    (hsaid : reports signal said events') : reports signal said events := by
  obtain ⟨event, hev, hsame⟩ := any_eq_true.mp hsaid
  exact any_eq_true.mpr ⟨event, h event hev, hsame⟩

theorem reports_of_repeated (h : event ∈ events) (said : Signal) :
    reports signal said (event :: events) = reports signal said events := by
  rw [reports_cons]
  by_cases hsame : signal event = said
  · rw [← hsame, reports_of_mem signal h, Bool.or_true]
  · simp [hsame]

variable [DecidableEq E] {recorded : E → Bool} {start : RechargeStatus} {desk : Desk E}
  {deliveries : List (Delivery E)}

/-- The order stands where the events delivered so far can have brought it. -/
structure Stands (signal : E → Signal) (start : RechargeStatus) (delivered : List E) (desk : Desk E) : Prop where
  seen : ∀ event ∈ desk.seen, event ∈ delivered
  status : standing start desk.status (reports signal .paid delivered) (reports signal .failed delivered)
    (reports signal .chargeback delivered)

theorem Stands.step {delivered : List E} (h : Stands signal start delivered desk) (delivery : Delivery E)
    (hall : ∀ event, delivery.event? = some event → event ∈ events)
    (hdl : ∀ event ∈ delivered, event ∈ events) (hord : Orderless signal recorded events start) :
    Stands signal start (delivery.event?.toList ++ delivered) (desk.step signal recorded delivery) := by
  cases delivery with
  | credit => exact ⟨h.seen, standing_credit _ _ _ _ _ h.status⟩
  | arrival event =>
    by_cases hseen : event ∈ desk.seen
    · have hrp := h.seen event hseen
      simp only [Desk.step, if_pos hseen, Delivery.event?, Option.toList_some, singleton_append]
      refine ⟨fun other hne => mem_cons_of_mem _ (h.seen other hne), ?_⟩
      simp only [reports_of_repeated hrp, h.status]
    · have hmem : ∀ other ∈ event :: delivered, other ∈ events :=
        forall_mem_cons.mpr ⟨hall event rfl, hdl⟩
      simp only [Desk.step, if_neg hseen, Delivery.event?, Option.toList_some, singleton_append]
      refine ⟨fun other hne => ?_, ?_⟩
      · split at hne
        · rcases mem_cons.mp hne with rfl | hold
          · exact mem_cons_self
          · exact mem_cons_of_mem _ (h.seen other hold)
        · exact mem_cons_of_mem _ (h.seen other hne)
      · have hstan := standing_receive start desk.status (reports signal .paid delivered)
          (reports signal .failed delivered) (reports signal .chargeback delivered) (signal event) ?_ ?_ h.status
        · simpa only [reports_cons, Bool.or_comm] using hstan
        · intro hpaid hfl
          rw [Bool.or_comm] at hpaid hfl
          exact hord.2.2 (reports_mono hmem hpaid) (reports_mono hmem hfl)
        · intro hch
          rw [Bool.or_comm] at hch
          exact hord.1 (reports_mono hmem hch)

theorem Stands.run {delivered : List E} (h : Stands signal start delivered desk)
    (hall : ∀ event ∈ deliveries.filterMap Delivery.event?, event ∈ events)
    (hdl : ∀ event ∈ delivered, event ∈ events) (hord : Orderless signal recorded events start) :
    Stands signal start ((deliveries.filterMap Delivery.event?).reverse ++ delivered)
      (desk.run signal recorded deliveries) := by
  induction deliveries generalizing desk delivered with
  | nil => exact h
  | cons delivery rest ih =>
    have hfs : ∀ event, delivery.event? = some event → event ∈ events := fun event hev =>
      hall event (mem_filterMap.mpr ⟨delivery, mem_cons_self, hev⟩)
    have hrest : ∀ event ∈ rest.filterMap Delivery.event?, event ∈ events := fun event hev =>
      hall event ((sublist_cons_self delivery rest).filterMap _ |>.subset hev)
    have hstep := h.step delivery hfs hdl hord
    have hrun := ih hstep hrest ?_
    · cases delivery with
      | credit => exact hrun
      | arrival event =>
        simpa [Delivery.event?, Desk.run] using hrun
    · intro event hev
      rcases mem_append.mp hev with hnew | hold
      · exact hfs event (Option.mem_toList.mp hnew)
      · exact hdl event hold

section

variable (h : Schedules events deliveries) (hord : Orderless signal recorded events start)
include h hord

theorem Schedules.standing :
    ∃ status, ((⟨start, []⟩ : Desk E).run signal recorded deliveries).status = status.creditIfPaid ∧
      standing start status (reports signal .paid events) (reports signal .failed events)
        (reports signal .chargeback events) := by
  obtain ⟨init, rfl, hperm⟩ := h
  have hstar : Stands signal start [] (⟨start, []⟩ : Desk E) := ⟨fun _ h => h, standing_start start⟩
  have hstan := hstar.run (fun event hev => hperm.subset hev)
    (fun _ h => absurd h not_mem_nil) hord
  refine ⟨((⟨start, []⟩ : Desk E).run signal recorded init).status, ?_, ?_⟩
  · rw [Desk.run, foldl_append]
    rfl
  · have hrp (said : Signal) : reports signal said ((init.filterMap Delivery.event?).reverse ++ []) =
        reports signal said events := by
      rw [append_nil]
      exact (init.filterMap Delivery.event?).reverse_perm.trans hperm |>.any_eq
    have hst := hstan.status
    rwa [hrp, hrp, hrp] at hst

theorem Schedules.effective :
    Effective signal recorded events ((⟨start, []⟩ : Desk E).run signal recorded deliveries).status := by
  obtain ⟨_, hst, hstan⟩ := h.standing hord
  rw [hst]
  refine ⟨fun event hev hrec hpaid => ?_, fun event hev _ hch => ?_⟩
  · have hrp := reports_of_mem signal hev
    rw [hpaid] at hrp
    rw [hrp] at hstan
    exact isCredited_of_standing (hord.2.1 event hev hrec hpaid) hstan
  · have hrp := reports_of_mem signal hev
    rw [hch] at hrp
    rw [hrp] at hstan
    exact chargeback_of_standing (hord.1 hrp) hstan

theorem Schedules.worth : ((⟨start, []⟩ : Desk E).run signal recorded deliveries).status.worth =
      finalWorth start (reports signal .paid events) (reports signal .chargeback events) := by
  obtain ⟨_, hst, hstan⟩ := h.standing hord
  rw [hst]
  exact worth_of_standing _ _ _ _ _ hstan

end

/-- The events delivered one after the other, without a request to credit in between. -/
def deliverAll (events : List E) : List (Delivery E) := events.map .arrival ++ [.credit]

omit [DecidableEq E] in
/-- Deliveries of events alone are the events. -/
theorem filterMap_arrival (events : List E) :
    (events.map Delivery.arrival).filterMap Delivery.event? = events := by
  rw [filterMap_map]
  exact filterMap_some

omit [DecidableEq E] in
/-- Events in any order make a schedule. -/
theorem schedules_deliverAll {events' : List E} (h : events'.Perm events) :
    Schedules events (deliverAll events') := by
  refine ⟨events'.map .arrival, rfl, ?_⟩
  rwa [filterMap_arrival]

theorem Desk.run_invariant {P : RechargeStatus → Prop} (hst : P desk.status)
    (hcr : .credit ∈ deliveries → ∀ status, P status → P status.creditIfPaid)
    (hrec : ∀ event ∈ deliveries.filterMap Delivery.event?, ∀ status, P status →
      P (status.receive (signal event))) :
    P (desk.run signal recorded deliveries).status := by
  induction deliveries generalizing desk with
  | nil => exact hst
  | cons delivery rest ih =>
    refine ih ?_ (fun hmem => hcr (mem_cons_of_mem _ hmem)) fun event hev => hrec event
      ((sublist_cons_self delivery rest).filterMap _ |>.subset hev)
    cases delivery with
    | credit => exact hcr mem_cons_self _ hst
    | arrival event =>
      unfold Desk.step
      dsimp only
      split
      · exact hst
      · exact hrec event (mem_filterMap.mpr ⟨_, mem_cons_self, rfl⟩) _ hst

theorem Desk.mem_seen_run (hrec : recorded event)
    (h : event ∈ desk.seen ∨ event ∈ deliveries.filterMap Delivery.event?) :
    event ∈ (desk.run signal recorded deliveries).seen := by
  induction deliveries generalizing desk with
  | nil => simpa [Desk.run] using h
  | cons delivery rest ih =>
    refine ih ?_
    cases delivery with
    | credit => simpa [Desk.step, Delivery.event?] using h
    | arrival first =>
      have hcs : event ∈ desk.seen ∨ event = first ∨ event ∈ rest.filterMap Delivery.event? := by
        simpa [Delivery.event?] using h
      by_cases hseen : first ∈ desk.seen
      · simp only [Desk.step, if_pos hseen]
        rcases hcs with hold | rfl | hlat
        · exact .inl hold
        · exact .inl hseen
        · exact .inr hlat
      · simp only [Desk.step, if_neg hseen]
        rcases hcs with hold | rfl | hlat
        · refine .inl ?_
          split
          · exact mem_cons_of_mem _ hold
          · exact hold
        · rw [if_pos hrec]
          exact .inl mem_cons_self
        · exact .inr hlat

theorem run_deliverAll (desk : Desk E) (events : List E) : (desk.run signal recorded (deliverAll events)).status =
      (desk.run signal recorded (events.map .arrival)).status.creditIfPaid := by
  rw [deliverAll, Desk.run, foldl_append]
  rfl

theorem chargebacks_first_lost (hstar : start ≠ .credited) (hback : start ≠ .chargeback)
    {charged rest : List E} (hch : ∀ event ∈ charged, signal event = .chargeback)
    (hrest : ∀ event ∈ rest, signal event ≠ .chargeback) :
    ((⟨start, []⟩ : Desk E).run signal recorded (deliverAll (charged ++ rest))).status ≠ .chargeback := by
  have hfs : ((⟨start, []⟩ : Desk E).run signal recorded (charged.map .arrival)).status = start := by
    refine Desk.run_invariant (P := fun status => status = start) rfl ?_ fun event hev status hst => ?_
    · simp
    · rw [filterMap_arrival] at hev
      rw [hch event hev, hst]
      exact if_neg hstar
  have hsp : (⟨start, []⟩ : Desk E).run signal recorded (deliverAll (charged ++ rest)) =
      (((⟨start, []⟩ : Desk E).run signal recorded (charged.map .arrival))).run signal recorded
        (deliverAll rest) := by
    simp only [deliverAll, Desk.run, map_append, foldl_append]
  rw [hsp]
  refine Desk.run_invariant (P := fun status => status ≠ .chargeback) ?_ (fun _ status hst => ?_)
    fun event hev status hst => ?_
  · rwa [hfs]
  · revert hst
    cases status <;> decide
  · have hmem : event ∈ rest := by
      simpa [deliverAll, Delivery.event?] using hev
    have hsaid := hrest event hmem
    revert hsaid hst
    cases signal event <;> cases status <;> decide

theorem run_failed (seen : List E) (deliveries : List (Delivery E)) :
    ((⟨.failed, seen⟩ : Desk E).run signal recorded deliveries).status = .failed := by
  refine Desk.run_invariant (P := fun status => status = .failed) rfl ?_ fun event _ status hst => ?_
  · rintro _ status rfl
    rfl
  · rw [hst]
    cases signal event <;> rfl

theorem run_paid (seen : List E) {rest : List E} (hrest : ∀ event ∈ rest, signal event ≠ .chargeback) :
    ((⟨.paid, seen⟩ : Desk E).run signal recorded (deliverAll rest)).status = .credited := by
  have hfn : ((⟨.paid, seen⟩ : Desk E).run signal recorded (rest.map .arrival)).status.isFunded := by
    refine Desk.run_invariant (P := fun status => status.isFunded) rfl ?_
      fun event hev status hst => ?_
    · simp
    · rw [filterMap_arrival] at hev
      have hsaid := hrest event hev
      revert hsaid hst
      cases signal event <;> cases status <;> decide
  rw [run_deliverAll]
  revert hfn
  cases ((⟨.paid, seen⟩ : Desk E).run signal recorded (rest.map .arrival)).status <;> decide

theorem run_first (signal : E → Signal) (recorded : E → Bool) (event : E) (rest : List E)
    (start : RechargeStatus) : ∃ seen,
    (⟨start, []⟩ : Desk E).run signal recorded (deliverAll (event :: rest)) =
      (⟨start.receive (signal event), seen⟩ : Desk E).run signal recorded (deliverAll rest) := by
  refine ⟨if recorded event then [event] else [], ?_⟩
  simp [deliverAll, Desk.run, Desk.step]

theorem orderless_iff (hrd : ∀ event ∈ events, signal event = .chargeback → recorded event) :
    ((∀ deliveries, Schedules events deliveries →
        Effective signal recorded events ((⟨start, []⟩ : Desk E).run signal recorded deliveries).status) ∧
      ∀ deliveries deliveries', Schedules events deliveries → Schedules events deliveries' →
        ((⟨start, []⟩ : Desk E).run signal recorded deliveries).status.worth =
          ((⟨start, []⟩ : Desk E).run signal recorded deliveries').status.worth) ↔
      Orderless signal recorded events start := by
  refine ⟨fun ⟨hef, hwr⟩ => ?_, fun hord => ⟨fun _ h => h.effective hord,
    fun _ _ h h' => (h.worth hord).trans (h'.worth hord).symm⟩⟩
  have hch : reports signal .chargeback events → start = .credited ∨ start = .chargeback := by
    intro hrp
    obtain ⟨event, hev, hsaid⟩ := any_eq_true.mp hrp
    by_contra hstar
    obtain ⟨hcr, hback⟩ := not_or.mp hstar
    have hperm := filter_append_perm (fun event => signal event = .chargeback) events
    refine chargebacks_first_lost hcr hback ?_ ?_ ((hef _ (schedules_deliverAll hperm)).2 event
      hev (hrd event hev (of_decide_eq_true hsaid)) (of_decide_eq_true hsaid))
    · exact fun other hne => of_decide_eq_true (mem_filter.mp hne).2
    · intro other hne
      simpa using (mem_filter.mp hne).2
  refine ⟨hch, ?_, fun hpaid hfd => ?_⟩
  · rintro event hev hrec hpaid rfl
    have hcr := (hef _ (schedules_deliverAll (Perm.refl events))).1 event hev hrec hpaid
    rw [run_failed] at hcr
    cases hcr
  · obtain ⟨paid, hpm, hsd⟩ := any_eq_true.mp hpaid
    obtain ⟨failed, hfm, hsa⟩ := any_eq_true.mp hfd
    by_contra hfs
    have hwt : start = .created ∨ start = .pending := by
      by_contra hne
      exact hfs (not_or.mp hne)
    have hnone : ∀ event ∈ events.erase paid, signal event ≠ .chargeback := by
      intro event hev hsaid
      have hrp := reports_of_mem signal (mem_of_mem_erase hev)
      rw [hsaid] at hrp
      rcases hwt with rfl | rfl <;> rcases hch hrp with h | h <;> cases h
    have hsame := hwr _ _ (schedules_deliverAll (perm_cons_erase hpm).symm)
      (schedules_deliverAll (perm_cons_erase hfm).symm)
    obtain ⟨_, hpn⟩ := run_first signal recorded paid (events.erase paid) start
    obtain ⟨_, hfn⟩ := run_first signal recorded failed (events.erase failed) start
    have hps : start.receive (signal paid) = .paid := by
      rw [of_decide_eq_true hsd]
      rcases hwt with rfl | rfl <;> rfl
    have hfl : start.receive (signal failed) = .failed := by
      rw [of_decide_eq_true hsa]
      rcases hwt with rfl | rfl <;> rfl
    rw [hpn, hfn, hps, hfl, run_paid _ hnone, run_failed] at hsame
    exact absurd hsame (by decide)

end Machine

end ModelDock.Store
