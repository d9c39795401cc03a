import ModelDock.Store.Lifecycle
import ModelDock.Wallet.LedgerProjection

/-!
# Settling exactly once

The first settlement of an operation that commits closes it, and every later one returns it as it is. A recovery
is a history of such calls itself (`recoverStaleFunding_eq_run`).
-/

namespace ModelDock.Store

open Relational Table List

variable {current : FundingOperation} {actual : ℤ} {ledger ledger' : Ledger} {inv : Session × Call}

/-- A call the gateway or the recovery worker makes for operations in flight. -/
def Call.isInFlight : Call → Bool
  | .settleFunding _ | .heartbeatFunding _ _ | .beginFundingAttempt _ | .claimStale _ _ _ => true
  | _ => false

/-- The charges and releases posted for an operation, as the keys of their journals. -/
def Ledger.closings (ledger : Ledger) (operationId : Uuid) : List ExternalKey :=
  (ledger.journals.rows.map Journal.externalKey).filter fun key =>
    key = .settlement operationId || key = .release operationId

variable {s : Session} {request : FundingSettlementRequest} {op settled : FundingOperation}
  {opId : Uuid} {call : Call} {db db' st : Db} {calls : List (Session × Call)}

theorem postSettlement_keys (h : postSettlement s op actual ledger = .ok ledger') :
    ledger'.journals.rows.map Journal.externalKey =
      (if 0 < op.maximumAmount.units - min actual op.maximumAmount.units
        then [.release op.id] else []) ++
      (if 0 < actual then [.settlement op.id] else []) ++
      ledger.journals.rows.map Journal.externalKey := by
  simp only [postSettlement, bind_eq_ok] at h
  obtain ⟨mid, hch, hrl⟩ := h
  have hmid : mid.journals.rows.map Journal.externalKey =
      (if 0 < actual then [.settlement op.id] else []) ++
        ledger.journals.rows.map Journal.externalKey := by
    simp only [postCharge] at hch
    split at hch
    · next hpos =>
      obtain ⟨journal, hpost, has⟩ := postJournalTx_eq_ok hch
      rw [hpost.rows, map_cons, has.externalKey, if_pos hpos]
      rfl
    · next hnone =>
      cases hch
      rw [if_neg hnone]
      rfl
  simp only [postRelease] at hrl
  split at hrl
  · next hpos =>
    obtain ⟨journal, hpost, has⟩ := postJournalTx_eq_ok hrl
    rw [hpost.rows, map_cons, has.externalKey, hmid, if_pos hpos]
    rfl
  · next hnone =>
    cases hrl
    rw [hmid, if_neg hnone]
    rfl

theorem postSettlement_closings (h : postSettlement s op actual ledger = .ok ledger') (opId : Uuid) :
    ledger'.closings opId =
      (if op.id = opId then
        (if 0 < op.maximumAmount.units - min actual op.maximumAmount.units
          then [.release opId] else []) ++
        (if 0 < actual then [.settlement opId] else []) else []) ++
      ledger.closings opId := by
  rw [Ledger.closings, postSettlement_keys h, filter_append, filter_append]
  by_cases hid : op.id = opId
  · subst hid
    rw [if_pos rfl]
    congr 2 <;> split <;> simp
  · rw [if_neg hid]
    have hnone : ∀ keys : List ExternalKey, keys = [.release op.id] ∨
        keys = [.settlement op.id] ∨ keys = [] → keys.filter (fun key =>
          key = .settlement opId || key = .release opId) = [] := by
      rintro keys (rfl | rfl | rfl) <;> simp [hid]
    rw [hnone _ (by split <;> simp), hnone _ (by split <;> simp)]
    rfl

theorem mem_renewed {now : Timestamp} {batch : List FundingOperation} {operations : Table FundingOperation}
    (hmem : op ∈ operations.rows) (hne : ∀ claimed ∈ batch, op.id ≠ claimed.id) :
    op ∈ (batch.foldl (fun table claimed => table.replace { claimed with heartbeatAt := now })
      operations).rows := by
  induction batch generalizing operations with
  | nil => exact hmem
  | cons claimed _ ih =>
    obtain ⟨hfs, hrest⟩ := forall_mem_cons.mp hne
    exact ih (mem_replace_of_ne hmem hfs) hrest

section

variable (hcall : call.isInFlight) (hset : ∀ request, call ≠ .settleFunding request)
  (hexec : exec (s, call) db = .ok db')
include hcall hset hexec

theorem closed_kept (hmem : op ∈ db.operations.rows)
    (hclosed : op.status.isOpen = false) : op ∈ db'.operations.rows := by
  -- A row that is written was open, so it is another one.
  have hoth {open' : FundingOperation} (hstor : open' ∈ db.operations.rows)
      (hopen : open'.status.isOpen) : op.id ≠ open'.id := by
    intro hid
    rw [eq_of_rowId hmem hstor hid, hopen] at hclosed
    cases hclosed
  cases call with
  | settleFunding request => exact absurd rfl (hset request)
  | heartbeatFunding _ _ =>
    simp only [exec, heartbeatFunding, bind_eq_ok] at hexec
    obtain ⟨_, _, hexec⟩ := hexec
    split at hexec
    · cases hexec
      exact hmem
    · next stored hstor =>
      split at hexec
      · next hopen =>
        cases hexec
        exact mem_replace_of_ne hmem (hoth (found hstor).1 hopen)
      · cases hexec
        exact hmem
  | beginFundingAttempt _ =>
    simp only [exec, beginFundingAttempt, eq_ok] at hexec
    obtain ⟨stored, hstor, _, hopen, _, _, _, _, hexec⟩ := hexec
    have hne := hoth (found hstor).1 hopen
    split at hexec
    · simp only [freezeFees, eq_ok] at hexec
      obtain ⟨_, ⟨_, _, _, _, rfl⟩, rfl⟩ := hexec
      exact mem_replace_of_ne hmem hne
    · simp only [eq_ok] at hexec
      obtain ⟨_, _, rfl⟩ := hexec
      exact mem_replace_of_ne hmem hne
  | claimStale _ _ _ =>
    cases hexec
    refine mem_renewed hmem fun claimed hclaim => ?_
    have hstal := (oldestFirst_perm _ _).mem_iff.mp (mem_of_mem_take hclaim)
    obtain ⟨hstor, hsl⟩ := mem_filter.mp hstal
    exact hoth hstor (of_decide_eq_true hsl).1
  | _ => cases hcall

theorem inFlight_quiet : Quiet db db' := by
  cases call with
  | settleFunding request => exact absurd rfl (hset request)
  | heartbeatFunding _ _ => exact heartbeatFunding_quiet hexec
  | beginFundingAttempt _ => exact beginFundingAttempt_quiet hexec
  | claimStale staleBefore limit locked =>
    cases hexec
    exact claimStale_quiet s staleBefore limit locked db
  | _ => cases hcall

end

/-- A later version of an operation in flight, and a closed one as it is. -/
structure FundingOperation.Renewed (operation operation' : FundingOperation) : Prop where
  terms : operation'.terms = operation.terms
  closed : operation.status.isOpen = false → operation' = operation

theorem FundingOperation.Renewed.refl (op : FundingOperation) : op.Renewed op :=
  ⟨rfl, fun _ => rfl⟩

theorem FundingOperation.isOpen_of_terms {op' : FundingOperation}
    (h : op'.terms = op.terms) : op'.status.isOpen = op.status.isOpen := by
  change op'.terms.status.isOpen = op.terms.status.isOpen
  rw [h]

theorem renewed_of_quiet (hq : Quiet db db') (hclosed : op.status.isOpen = false → op ∈ db'.operations.rows)
    (hfound : db.operations.find? opId = some op) :
    ∃ op', db'.operations.find? opId = some op' ∧ op.Renewed op' := by
  obtain ⟨hmem, hid⟩ := found hfound
  cases hopen : op.status.isOpen with
  | false =>
    exact ⟨op, find?_eq_some.mpr ⟨hclosed hopen, hid⟩, .refl op⟩
  | true =>
    obtain ⟨op', hmem', htm⟩ := mem_of_view hq.operations.symm hmem
    have hid' : op'.id = op.id := (FundingOperation.Later.of_terms _ _ htm).id
    refine ⟨op', find?_eq_some.mpr ⟨hmem', hid'.trans hid⟩, htm, fun hclosed => ?_⟩
    rw [hopen] at hclosed
    cases hclosed

theorem settleFunding_step (hse : settleFunding s request db = .ok (settled, db'))
    (hfound : db.operations.find? opId = some op) :
    request.operationId = opId ∧ op.status.isOpen ∨
      db'.operations.find? opId = some op ∧
        db'.ledger.closings opId = db.ledger.closings opId := by
  have hnm := hse
  simp only [settleFunding, eq_ok] at hnm
  obtain ⟨_, _, named, hnm, hcase⟩ := hnm
  cases hopen : named.status.isOpen with
  | false =>
    rw [isFundingTerminal_eq, hopen] at hcase
    cases hcase
    exact .inr ⟨hfound, rfl⟩
  | true =>
    by_cases hid : request.operationId = opId
    · subst hid
      cases hfound.symm.trans hnm
      exact .inl ⟨rfl, hopen⟩
    · obtain ⟨_, hop⟩ := (settleFunding_of_open hnm hopen).mp hse
      obtain ⟨_, _, _, hset⟩ := settleOpen_eq_ok hop
      obtain ⟨hmem, hnd⟩ := found hnm
      have hnd : named.id = request.operationId := hnd
      have hcl : rowId settled = request.operationId :=
        (congrArg FundingOperationKey.id hset.closed.key).trans hnd
      refine .inr ⟨?_, ?_⟩
      · rw [hset.operations, find?_replace hmem hset.closed.key, hcl, if_neg hid, hfound]
      · rw [postSettlement_closings hset.ledger, hnd, if_neg hid]
        rfl

theorem inFlight_step (hcall : call.isInFlight) (hexec : exec (s, call) db = .ok db')
    (hfound : db.operations.find? opId = some op) :
    (∃ request settled, call = .settleFunding request ∧ request.operationId = opId ∧
        op.status.isOpen ∧ settleFunding s request db = .ok (settled, db')) ∨
      (∃ op', db'.operations.find? opId = some op' ∧ op.Renewed op') ∧
        db'.ledger.closings opId = db.ledger.closings opId := by
  by_cases hset : ∃ request, call = .settleFunding request
  · obtain ⟨request, rfl⟩ := hset
    obtain ⟨⟨settled, st⟩, hse, hst⟩ := map_eq_ok.mp hexec
    obtain rfl : st = db' := hst
    rcases settleFunding_step hse hfound with ⟨hid, hopen⟩ | ⟨hsame, hcl⟩
    · exact .inl ⟨request, settled, rfl, hid, hopen, hse⟩
    · exact .inr ⟨⟨op, hsame, .refl op⟩, hcl⟩
  · push Not at hset
    have hq := inFlight_quiet hcall hset hexec
    refine .inr ⟨renewed_of_quiet hq (fun hclosed => ?_) hfound, by rw [hq.ledger]⟩
    exact closed_kept hcall hset hexec (found hfound).1 hclosed

/-- No settlement of the history has closed the operation: all of them failed, it is still in flight on
its terms, and nothing was charged or released for it. -/
structure Unsettled (operation : FundingOperation) (db : Db) (calls : List (Session × Call)) : Prop where
  stillOpen : ∃ operation', (run exec db calls).operations.find? operation.id = some operation' ∧
    operation'.terms = operation.terms
  refused : ∀ earlier s request later, calls = earlier ++ (s, .settleFunding request) :: later →
    request.operationId = operation.id → ∃ err, settleFunding s request (run exec db earlier) = .error err
  closings : (run exec db calls).ledger.closings operation.id = db.ledger.closings operation.id

/-- The settlement that closes an operation: it lowers the reserved balance of the wallet by the
maximum, and posts a charge if there is one and a release if there is a rest. -/
structure Closes (s : Session) (request : FundingSettlementRequest) (operation : FundingOperation) (db : Db)
    (settled : FundingOperation) (db' : Db) : Prop where
  returned : settleFunding s request db = .ok (settled, db')
  reserved : ∃ wallet wallet', db.wallets.find? operation.walletId = some wallet ∧
    db'.wallets.find? operation.walletId = some wallet' ∧
    wallet'.reservedBalance.units = wallet.reservedBalance.units - operation.maximumAmount.units
  closings : db'.ledger.closings operation.id =
    (if 0 < operation.maximumAmount.units - min settled.settledAmount.units operation.maximumAmount.units
      then [.release operation.id] else []) ++
    (if 0 < settled.settledAmount.units then [.settlement operation.id] else []) ++
    db.ledger.closings operation.id

/-- After the operation was closed every settlement of it returns it as it was closed and changes
nothing, and nothing is charged or released for it any more. -/
structure Replayed (settled : FundingOperation) (db : Db) (calls : List (Session × Call)) : Prop where
  returned : ∀ earlier s request later, calls = earlier ++ (s, .settleFunding request) :: later →
    request.operationId = settled.id → request.tokens.Valid ∧ 0 ≤ request.observedBytes →
    settleFunding s request (run exec db earlier) = .ok (settled, run exec db earlier)
  closings : (run exec db calls).ledger.closings settled.id = db.ledger.closings settled.id

section

variable (hcalls : ∀ inv ∈ calls, inv.2.isInFlight)
  (hfound : db.operations.find? op.id = some op) (hclosed : op.status.isOpen = false)
include hcalls hfound hclosed

theorem closed_run : (run exec db calls).operations.find? op.id = some op ∧
      (run exec db calls).ledger.closings op.id = db.ledger.closings op.id := by
  have hok : Along exec (fun _ inv => True ∧ inv.2.isInFlight) db calls :=
    (Along.of_forall fun _ _ => trivial).and_mem hcalls
  have hstep (st : Db) (inv : Session × Call) (st' : Db)
      (hinv : st.operations.find? op.id = some op ∧
        st.ledger.closings op.id = db.ledger.closings op.id)
      (hcall : True ∧ inv.2.isInFlight) (hexec : exec inv st = .ok st') :
      st'.operations.find? op.id = some op ∧
        st'.ledger.closings op.id = db.ledger.closings op.id := by
    rcases inFlight_step hcall.2 hexec hinv.1 with ⟨_, _, _, _, hopen, _⟩ | ⟨⟨_, hlat, hrn⟩, hnone⟩
    · rw [hclosed] at hopen
      cases hopen
    · rw [hlat, hrn.closed hclosed, hnone]
      exact ⟨rfl, hinv.2⟩
  exact run_invariant hstep ⟨hfound, rfl⟩ hok

theorem replayed_of_closed : Replayed op db calls := by
  refine ⟨fun earlier s request later hsp hid hvl => ?_, (closed_run hcalls hfound hclosed).2⟩
  have hea : ∀ inv ∈ earlier, inv.2.isInFlight := fun inv hmem =>
    hcalls inv (hsp ▸ mem_append_left _ hmem)
  have hstor := (closed_run hea hfound hclosed).1
  have htr : isFundingTerminal op.status := by
    rw [isFundingTerminal_eq, hclosed]
    rfl
  simp only [settleFunding, eq_ok]
  refine ⟨(), hvl, op, hid ▸ hstor, ?_⟩
  rw [if_pos htr]
  rfl

end

theorem closes_of_settle (hid : request.operationId = op.id)
    (hfound : db.operations.find? op.id = some current) (htm : current.terms = op.terms)
    (hopen : op.status.isOpen) (hse : settleFunding s request db = .ok (settled, db')) :
    Closes s request op db settled db' ∧ settled.id = op.id ∧
      settled.status.isOpen = false ∧ db'.operations.find? settled.id = some settled := by
  have hlat := FundingOperation.Later.of_terms _ _ htm
  have hnm : db.operations.find? request.operationId = some current := hid ▸ hfound
  have hcr := (FundingOperation.isOpen_of_terms htm).trans hopen
  obtain ⟨_, hop⟩ := (settleFunding_of_open hnm hcr).mp hse
  obtain ⟨wallet, _, _, hset⟩ := settleOpen_eq_ok hop
  obtain ⟨wallet', hw', _, hws⟩ := hset.wallets
  obtain ⟨_, _, _, _, hrs, _, hwr⟩ := Wallet.setBalances_eq_ok.mp hw'
  have hkey : Keyed.key wallet' = Keyed.key wallet := by rw [hwr]; rfl
  have hsd : settled.id = op.id := (congrArg FundingOperationKey.id hset.closed.key).trans hlat.id
  have hcl := postSettlement_closings hset.ledger op.id
  rw [if_pos hlat.id, hlat.maximumAmount] at hcl
  have hw := hset.found
  rw [hlat.walletId] at hw
  refine ⟨⟨hse, ⟨wallet, wallet', hw, ?_, ?_⟩, ?_⟩, hsd, ?_, ?_⟩
  · rw [hws]
    exact find?_replace_of_find? hw hkey
  · rw [hwr, ← hlat.maximumAmount]
    exact hrs
  · rw [hset.closed.settledAmount]
    exact hcl
  · rw [hset.closed.status, settlementStatus_closed]
  · rw [hset.operations, hsd]
    exact find?_replace_of_find? hfound hset.closed.key

theorem Unsettled.cons (h : Unsettled op (commit db (exec inv db)) calls)
    (href : ∀ request, inv.2 = .settleFunding request → request.operationId = op.id →
      ∃ err, settleFunding inv.1 request db = .error err)
    (hcl : (commit db (exec inv db)).ledger.closings op.id =
      db.ledger.closings op.id) : Unsettled op db (inv :: calls) := by
  refine ⟨h.stillOpen, fun earlier s request later hsp hid => ?_, h.closings.trans hcl⟩
  cases earlier with
  | nil =>
    obtain ⟨rfl, _⟩ := cons.inj hsp
    exact href request rfl hid
  | cons _ earlier =>
    obtain ⟨rfl, hrest⟩ := cons.inj hsp
    exact h.refused earlier s request later hrest hid

theorem inFlight_commit (hcall : inv.2.isInFlight) (hfound : db.operations.find? opId = some current)
    (hne : ∀ request settled db', inv.2 = .settleFunding request →
      request.operationId = opId → settleFunding inv.1 request db ≠ .ok (settled, db')) :
    (∃ current', (commit db (exec inv db)).operations.find? opId = some current' ∧
        current'.terms = current.terms) ∧
      (commit db (exec inv db)).ledger.closings opId = db.ledger.closings opId := by
  cases hexec : exec inv db with
  | error _ => exact ⟨⟨current, hfound, rfl⟩, rfl⟩
  | ok db' =>
    rcases inFlight_step hcall hexec hfound with ⟨request, settled, hset, hid, _, hse⟩ |
      ⟨⟨current', hfound', hrn⟩, hcl⟩
    · exact absurd hse (hne request settled db' hset hid)
    · exact ⟨⟨current', hfound', hrn.terms⟩, hcl⟩

theorem settled_once_from (hopen : op.status.isOpen) (hcalls : ∀ inv ∈ calls, inv.2.isInFlight)
    (hfound : db.operations.find? op.id = some current) (htm : current.terms = op.terms) :
    Unsettled op db calls ∨
      ∃ earlier s request later settled db', calls = earlier ++ (s, .settleFunding request) :: later ∧
        request.operationId = op.id ∧ Unsettled op db earlier ∧
        Closes s request op (run exec db earlier) settled db' ∧ settled.id = op.id ∧
        Replayed settled db' later := by
  have hnone (db : Db) {current : FundingOperation}
      (hfound : db.operations.find? op.id = some current) (htm : current.terms = op.terms) :
      Unsettled op db [] :=
    ⟨⟨current, hfound, htm⟩, fun earlier _ _ _ hsp => by simp at hsp, rfl⟩
  induction calls generalizing db current with
  | nil => exact .inl (hnone db hfound htm)
  | cons inv rest ih =>
    obtain ⟨hcall, hrest⟩ := forall_mem_cons.mp hcalls
    obtain ⟨s, call⟩ := inv
    by_cases hset : ∃ request settled db', call = .settleFunding request ∧
        request.operationId = op.id ∧ settleFunding s request db = .ok (settled, db')
    · -- This is the settlement that closes the operation.
      obtain ⟨request, settled, db', rfl, hid, hse⟩ := hset
      obtain ⟨hcls, hsd, hclosed, hstor⟩ := closes_of_settle hid hfound htm hopen hse
      exact .inr ⟨[], s, request, rest, settled, db', rfl, hid, hnone db hfound htm, hcls, hsd,
        replayed_of_closed hrest hstor hclosed⟩
    · have hne : ∀ request settled db', call = .settleFunding request →
          request.operationId = op.id → settleFunding s request db ≠ .ok (settled, db') :=
        fun request settled db' hcall hid hse => hset ⟨request, settled, db', hcall, hid, hse⟩
      obtain ⟨⟨_, hfound', htm'⟩, hcl⟩ := inFlight_commit hcall hfound hne
      have href : ∀ request, call = .settleFunding request → request.operationId = op.id →
          ∃ err, settleFunding s request db = .error err := by
        intro request hcall hid
        cases hse : settleFunding s request db with
        | error err => exact ⟨err, rfl⟩
        | ok result => exact absurd hse (hne request result.1 result.2 hcall hid)
      rcases ih hrest hfound' (htm'.trans htm) with hun |
        ⟨earlier, s', request, later, settled, db', rfl, hid, hun, hclosed⟩
      · exact .inl (hun.cons href hcl)
      · exact .inr ⟨(s, call) :: earlier, s', request, later, settled, db', rfl, hid,
          hun.cons href hcl, hclosed⟩

/-- Of all settlements of an operation in flight, in any interleaving with heartbeats, dispatches, claims
and calls about other operations, at most one changes anything. Either all of them failed, or the first
one that succeeded closed the operation, lowered the wallet's reserved balance by the maximum and posted
its charge and release; all before it failed, and all after it return its outcome and change nothing. -/
theorem settleFunding_exactly_once (hfound : db.operations.find? op.id = some op)
    (hopen : op.status.isOpen) (calls : List (Session × Call))
    (hcalls : ∀ inv ∈ calls, inv.2.isInFlight) :
    (Unsettled op db calls ∨
      ∃ earlier s request later settled db', calls = earlier ++ (s, .settleFunding request) :: later ∧
        request.operationId = op.id ∧ Unsettled op db earlier ∧
        Closes s request op (run exec db earlier) settled db' ∧ settled.id = op.id ∧
        Replayed settled db' later) ∧
      ∀ earlier s call later, calls = earlier ++ (s, call) :: later →
        (∀ request, call ≠ .settleFunding request) →
        ∀ db', exec (s, call) (run exec db earlier) = .ok db' → Quiet (run exec db earlier) db' := by
  refine ⟨settled_once_from hopen hcalls hfound rfl, fun earlier s call later hsp hne db' hexec => ?_⟩
  exact inFlight_quiet (hcalls (s, call) (hsp ▸ mem_append_right _ mem_cons_self)) hne hexec

/-- A request that is settled by its gateway with 30 units, and then by the recovery worker, which had
claimed it before, with nothing. -/
def demoTwiceSettled : List (Session × Call) :=
  [(demoSession 3, .claimStale 5 0 fun _ => false),
    (demoSession 4, .settleFunding (demoSettlement demoOperationId 30 false)),
    (demoSession 5, .heartbeatFunding demoOperationId 10),
    (demoSession 6, .settleFunding (demoSettlement demoOperationId 0 false))]

/-- The request is in flight before, and its outcome is the gateway's. -/
theorem settleFunding_exactly_once_demo :
    (run exec demoReserved demoTwiceSettled).operations.rows.map (fun op =>
        (op.status, op.settledAmount.units)) = [(.settled, 30)] ∧
      ∃ op, demoReserved.operations.find? demoOperationId = some op ∧
        ¬Unsettled op demoReserved demoTwiceSettled ∧
        ∃ earlier s request later settled db',
          demoTwiceSettled = earlier ++ (s, .settleFunding request) :: later ∧
          request.operationId = op.id ∧ Unsettled op demoReserved earlier ∧
          Closes s request op (run exec demoReserved earlier) settled db' ∧
          settled.id = op.id ∧ Replayed settled db' later := by
  obtain ⟨op, hfound, hopen⟩ := (Option.any_eq_true _ _).mp (show (demoReserved.operations.find?
    demoOperationId).any (fun op => op.status.isOpen) by decide +kernel)
  have hid : op.id = demoOperationId := (found hfound).2
  have hsd : ((run exec demoReserved demoTwiceSettled).operations.find? demoOperationId).all
      (fun op => !op.status.isOpen) := by decide +kernel
  have hclosed : ¬Unsettled op demoReserved demoTwiceSettled := by
    rintro ⟨⟨_, hfound', htm⟩, _⟩
    rw [hid] at hfound'
    rw [hfound', Option.all_some, FundingOperation.isOpen_of_terms htm, hopen] at hsd
    cases hsd
  have honce := settleFunding_exactly_once (hid.symm ▸ hfound) hopen demoTwiceSettled (by decide)
  exact ⟨by decide +kernel, op, hfound, hclosed, honce.1.resolve_left hclosed⟩

end ModelDock.Store
