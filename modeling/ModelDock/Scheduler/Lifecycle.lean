import ModelDock.Scheduler.Select

/-!
# The life of a credential

Every answer of a provider changes the status of its credential. An answer 429 and a secret that cannot be
decrypted do not look at the status they overwrite, so a disabled credential can come back.
-/

namespace ModelDock.Scheduler

open List Option

/-- What was seen of a credential's health. -/
inductive Health
  | unknown
  | healthy
  | degraded
deriving DecidableEq

/-- A row of `credential_group_members`, with whether the provider is enabled. -/
structure Membership where
  (groupId credentialId : String)
  providerEnabled : Bool := true
  weight : ℤ := 100
  priority : ℤ := 0

/-- The credentials with their health, and the groups they are in. -/
structure Fleet where
  credentials : String → Option Credential
  health : String → Health
  memberships : List Membership
  keyed : ∀ id credential, credentials id = some credential → credential.id = id
  nodup : (memberships.map fun membership => (membership.groupId, membership.credentialId)).Nodup

variable (id : String) (fleet : Fleet)

/-- A membership joined with its credential. -/
def Fleet.member (membership : Membership) : Option Member :=
  (fleet.credentials membership.credentialId).map fun credential =>
    ⟨membership.groupId, credential, membership.providerEnabled, membership.weight, membership.priority⟩

theorem Fleet.key_of_member {fleet : Fleet} {membership : Membership} {member : Member}
    (h : fleet.member membership = some member) :
    (member.groupId, member.credential.id) = (membership.groupId, membership.credentialId) := by
  obtain ⟨_, hf, rfl⟩ := map_eq_some_iff.mp h
  rw [fleet.keyed _ _ hf]

/-- What a selection reads of the fleet. -/
def Fleet.directory (now : ℕ) : Directory where
  now := now
  members := fleet.memberships.filterMap fleet.member
  nodup := by
    have hkeys := List.pairwise_map.mp fleet.nodup
    refine List.pairwise_map.mpr (List.pairwise_filterMap.mpr (hkeys.imp fun hne member hmember other hother => ?_))
    rwa [Fleet.key_of_member hmember, Fleet.key_of_member hother]

/-- The status of a credential. -/
def Fleet.status (fleet : Fleet) (id : String) : Option CredentialStatus := (fleet.credentials id).map Credential.status

/-- Write the status of a credential if the one it has allows it. -/
def Fleet.write (id : String) (allows : CredentialStatus → Bool) (status : CredentialStatus)
    (cooldownUntil : Option ℕ) : Fleet :=
  { fleet with
    credentials := Function.update fleet.credentials id ((fleet.credentials id).map fun credential =>
      if allows credential.status then { credential with status := status, cooldownUntil := cooldownUntil }
      else credential)
    keyed := by
      intro other credential hfound
      by_cases hother : other = id
      · subst hother
        rw [Function.update_self, Option.map_eq_some_iff] at hfound
        obtain ⟨stored, hstored, rfl⟩ := hfound
        split <;> exact fleet.keyed other stored hstored
      · rw [Function.update_of_ne hother] at hfound
        exact fleet.keyed other credential hfound }

/-- Record the health of a credential unless it is disabled or was refused. -/
def Fleet.observe (id : String) (allows : CredentialStatus → Bool) (health : Health) : Fleet :=
  { fleet with health := if (fleet.status id).any allows then Function.update fleet.health id health else fleet.health }

variable (status : CredentialStatus)

/-- Disabled by an administrator, or refused by the provider. -/
def CredentialStatus.isExcluded : Bool := status = .disabled || status = .authFailed

/-- Set the status of a credential. -/
def setCredentialStatus (cooldownUntil : Option ℕ) (fleet : Fleet) : Fleet :=
  fleet.write id (fun _ => true) status cooldownUntil

/-- Record a success. -/
def markCredentialSuccess : Fleet :=
  (fleet.observe id (!·.isExcluded) .healthy).write id (!·.isExcluded) .active none

/-- Record a failure that does not speak against the credential. -/
def markCredentialFailure : Fleet := fleet.observe id (!·.isExcluded) .degraded

/-- What an answer does to its credential. -/
structure CredentialTransition where
  status : Option CredentialStatus := none
  cooldownUntil : Option ℕ := none
  markSuccess : Bool := false

/-- The transition for the HTTP status of an answer. -/
def transitionForHTTP (status now cooldown : ℕ) : CredentialTransition :=
  if status = 401 then { status := some .authFailed }
  else if status = 429 then { status := some .cooldown, cooldownUntil := some (now + cooldown) }
  else if 200 ≤ status ∧ status < 400 then { status := some .active, markSuccess := true }
  else {}

/-- The longest time that the headers of an answer state, between a second and a day. -/
def upstreamCooldown (stated : List ℤ) (fallback : ℤ) : ℕ := (min (max (stated.foldl max fallback) 1) 86400).toNat

/-- Apply an answer to the credential it was asked with. The times that its headers state are given in seconds. -/
def handleCredentialResult (fallback : ℕ) (id : String) (status now : ℕ) (stated : List ℤ) (fleet : Fleet) : Fleet :=
  let cooldown := if status = 429 then upstreamCooldown stated fallback else fallback
  let transition := transitionForHTTP status now cooldown
  if transition.markSuccess then markCredentialSuccess id fleet
  else
    match transition.status with
    | some status => setCredentialStatus id status transition.cooldownUntil fleet
    | none => fleet

/-- What happens to a credential: the result of a request, the result of a test (with the HTTP status of a
refusal), or what an administrator makes of it. -/
inductive CredentialEvent
  | answered (id : String) (status now : ℕ) (stated : List ℤ)
  | unreachable (id : String)
  | undecryptable (id : String)
  | tested (id : String) (refusal : Option ℕ)
  | administered (id : String) (status : CredentialStatus)

/-- Apply an event. The cooldown is the configured one. -/
def execCredential (cooldown : ℕ) (fleet : Fleet) : CredentialEvent → Fleet
  | .answered id status now stated => handleCredentialResult cooldown id status now stated fleet
  | .unreachable id => markCredentialFailure id fleet
  | .undecryptable id => setCredentialStatus id .unhealthy none fleet
  | .tested id none => markCredentialSuccess id fleet
  | .tested id (some status) =>
    if status = 401 then setCredentialStatus id .authFailed none fleet else markCredentialFailure id fleet
  | .administered id status => setCredentialStatus id status none fleet

/-- The event is an administrator's, about this credential. -/
def CredentialEvent.administers : CredentialEvent → Bool
  | .administered other _ => other = id
  | _ => false

/-- The event overwrites the status of this credential without looking at it. -/
def CredentialEvent.reopens : CredentialEvent → Bool
  | .answered other status _ _ => other = id && status = 429
  | .undecryptable other => other = id
  | _ => false

variable {fleet : Fleet} {id : String} {cooldown : ℕ}

/-- The credential is active, or a selection can take it. -/
def Fleet.InService (fleet : Fleet) (id : String) : Prop :=
  fleet.status id = some .active ∨
    ∃ now groupId, ∃ credential ∈ (fleet.directory now).candidates groupId, credential.id = id

/-- The credential is disabled or was refused. -/
def Fleet.Excluded (fleet : Fleet) (id : String) : Prop := ∃ status, fleet.status id = some status ∧ status.isExcluded

theorem Fleet.status_of_candidate {now : ℕ} {groupId : String} {credential : Credential}
    (h : credential ∈ (fleet.directory now).candidates groupId) :
    ∃ status, fleet.status credential.id = some status ∧ status.isExcluded = false := by
  obtain ⟨_, hmem, rfl⟩ := mem_map.mp h
  obtain ⟨hmem, hsl⟩ := mem_filter.mp (mem_mergeSort.mp hmem)
  obtain ⟨membership, _, hjoin⟩ := mem_filterMap.mp hmem
  obtain ⟨stored, hstor, rfl⟩ := map_eq_some_iff.mp hjoin
  have hid : stored.id = membership.credentialId := fleet.keyed _ _ hstor
  refine ⟨stored.status, ?_, ?_⟩
  · simp only [Member.candidate, hid, Fleet.status, hstor, map_some]
  · simp only [Member.isSchedulable] at hsl
    revert hsl
    cases stored.status <;> simp [CredentialStatus.isExcluded]

theorem Fleet.Excluded.not_inService (h : fleet.Excluded id) : ¬fleet.InService id := by
  obtain ⟨_, hst, hexc⟩ := h
  rintro (hac | ⟨_, _, _, hcan, rfl⟩)
  · rw [mem_unique hst hac] at hexc
    cases hexc
  · obtain ⟨_, hst', hnot⟩ := Fleet.status_of_candidate hcan
    rw [mem_unique hst hst', hnot] at hexc
    cases hexc

theorem Fleet.status_write (other : String) (allows : CredentialStatus → Bool) (status : CredentialStatus)
    (cooldownUntil : Option ℕ) : (fleet.write other allows status cooldownUntil).status id =
      if id = other then (fleet.status id).map fun old => if allows old then status else old else fleet.status id := by
  unfold Fleet.status Fleet.write
  dsimp only
  by_cases hid : id = other
  · subst hid
    rw [if_pos rfl, Function.update_self, Option.map_map, Option.map_map]
    refine congrArg (Option.map · _) (funext fun credential => ?_)
    dsimp only [Function.comp]
    split <;> rfl
  · rw [if_neg hid, Function.update_of_ne hid]

theorem Fleet.Excluded.exec (h : fleet.Excluded id) (cooldown : ℕ) {event : CredentialEvent}
    (hadm : event.administers id = false) :
    (event.reopens id = false ∧ (execCredential cooldown fleet event).Excluded id) ∨
      event.reopens id ∧ ((execCredential cooldown fleet event).status id = some .cooldown ∨
        (execCredential cooldown fleet event).status id = some .unhealthy) := by
  obtain ⟨old, hold, hexc⟩ := h
  -- A guarded write leaves an excluded status, and so does a refusal.
  have hgr (other : String) : (markCredentialSuccess other fleet).Excluded id := by
    refine ⟨old, ?_, hexc⟩
    rw [markCredentialSuccess, Fleet.status_write]
    change (if id = other then (fleet.status id).map _ else fleet.status id) = some old
    simp [hold, hexc]
  have hset (other : String) (status : CredentialStatus) (cooldownUntil : Option ℕ)
      (hst : other ≠ id ∨ status.isExcluded) :
      (setCredentialStatus other status cooldownUntil fleet).Excluded id := by
    unfold setCredentialStatus
    by_cases hid : id = other
    · exact ⟨status, by rw [Fleet.status_write, if_pos hid, hold]; rfl, hst.resolve_left fun hne => hne hid.symm⟩
    · exact ⟨old, by rw [Fleet.status_write, if_neg hid, hold], hexc⟩
  have hkept : fleet.Excluded id := ⟨old, hold, hexc⟩
  cases event with
  | answered other status _ _ =>
    simp only [execCredential, handleCredentialResult, transitionForHTTP, CredentialEvent.reopens]
    by_cases href : status = 401
    · exact .inl ⟨by simp [href], by simpa [href] using hset other .authFailed none (.inr rfl)⟩
    by_cases hlm : status = 429
    · by_cases hid : other = id
      · refine .inr ⟨by simp [hid, hlm], .inl ?_⟩
        simp [hlm, setCredentialStatus, Fleet.status_write, hid, hold]
      · exact .inl ⟨by simp [hid], by simpa [hlm] using hset other .cooldown _ (.inl hid)⟩
    refine .inl ⟨by simp [hlm], ?_⟩
    by_cases hsuc : 200 ≤ status ∧ status < 400
    · simpa [href, hlm, hsuc] using hgr other
    · simpa [href, hlm, hsuc] using hkept
  | unreachable other => exact .inl ⟨rfl, hkept⟩
  | undecryptable other =>
    by_cases hid : other = id
    · exact .inr ⟨decide_eq_true hid, .inr (by
        simp [execCredential, setCredentialStatus, Fleet.status_write, hid, hold])⟩
    · exact .inl ⟨decide_eq_false hid, hset other .unhealthy none (.inl hid)⟩
  | tested other refusal =>
    refine .inl ⟨rfl, ?_⟩
    cases refusal with
    | none => exact hgr other
    | some status =>
      simp only [execCredential]
      split
      · exact hset other .authFailed none (.inr rfl)
      · exact hkept
  | administered other status => exact .inl ⟨rfl, hset other status none (.inl (of_decide_eq_false hadm))⟩

/-- The fleet after a list of events. -/
def execCredentials (cooldown : ℕ) (fleet : Fleet) (events : List CredentialEvent) : Fleet :=
  events.foldl (execCredential cooldown) fleet

theorem Fleet.Excluded.run (h : fleet.Excluded id) {events : List CredentialEvent}
    (hadm : ∀ event ∈ events, event.administers id = false) (hk : ∀ event ∈ events, event.reopens id = false) :
    (execCredentials cooldown fleet events).Excluded id := by
  induction events generalizing fleet with
  | nil => exact h
  | cons event _ ih =>
    rw [forall_mem_cons] at hadm hk
    rcases h.exec cooldown hadm.1 with ⟨_, haf⟩ | ⟨hrp, _⟩
    · exact ih haf hadm.2 hk.2
    · rw [hk.1] at hrp
      cases hrp

/-- The credential is not in service at any point of a history, and not after one more success either. -/
def Fleet.StaysOut (fleet : Fleet) (cooldown : ℕ) (id : String) (events : List CredentialEvent) : Prop :=
  ∀ earlier, earlier <+: events → ¬(execCredentials cooldown fleet earlier).InService id ∧
    ¬(markCredentialSuccess id (execCredentials cooldown fleet earlier)).InService id

/-- Whatever requests and tests report, and in whatever order, a credential that is disabled or was refused stays out
of service without an administrator if and only if none of the reports is an answer 429 to a request with it or a
failure to decrypt its secret. -/
theorem excluded_stays_out_iff (h : fleet.Excluded id) (events : List CredentialEvent)
    (hadmin : ∀ event ∈ events, event.administers id = false) :
    fleet.StaysOut cooldown id events ↔ ∀ event ∈ events, event.reopens id = false := by
  constructor
  · -- The first event that overwrites the status makes the next success count.
    intro hout
    induction events generalizing fleet with
    | nil => simp
    | cons event rest ih =>
      rw [forall_mem_cons] at hadmin ⊢
      rcases h.exec cooldown hadmin.1 with ⟨hk, haf⟩ | ⟨_, hst⟩
      · refine ⟨hk, ih haf hadmin.2 fun earlier hea => hout (event :: earlier) ?_⟩
        exact (prefix_cons_inj event).mpr hea
      · refine absurd (.inl ?_) (hout [event] (prefix_append [event] rest)).2
        rw [markCredentialSuccess, Fleet.status_write, if_pos rfl]
        change ((execCredential cooldown fleet event).status id).map _ = _
        rcases hst with hst | hst <;> rw [hst] <;> rfl
  · intro hk earlier hea
    have hexc : (execCredentials cooldown fleet earlier).Excluded id :=
      h.run (fun event hev => hadmin event (hea.subset hev))
        fun event hev => hk event (hea.subset hev)
    refine ⟨hexc.not_inService, ?_⟩
    have hadmin : (CredentialEvent.tested id none).administers id = false := rfl
    rcases hexc.exec cooldown hadmin with ⟨_, haf⟩ | ⟨hno, _⟩
    · exact haf.not_inService
    · cases hno

/-- A disabled credential in one group. -/
def demoFleet : Fleet where
  credentials := fun id => if id = "key" then some { id := "key", status := .disabled, maxConcurrency := 1 } else none
  health := fun _ => .unknown
  memberships := [{ groupId := "group", credentialId := "key" }]
  keyed := by
    intro id credential h
    split at h
    · next hid =>
      cases h
      exact hid.symm
    · cases h
  nodup := by decide

/-- A success, a server error and a failed connection leave the disabled credential disabled. -/
theorem excluded_stays_out_demo : demoFleet.StaysOut 60 "key"
    [.answered "key" 200 0 [], .answered "key" 500 1 [], .unreachable "key"] :=
  (excluded_stays_out_iff ⟨.disabled, rfl, rfl⟩ _ (by decide)).mpr (by decide)

/-- An answer 429 to a request from before makes a disabled credential selectable once its cooldown is over, and a
success makes it active. -/
theorem disabled_credential_returns : demoFleet.status "key" = some .disabled ∧
    ((execCredentials 60 demoFleet [.answered "key" 429 0 []]).directory 60).candidates "group" ≠ [] ∧
    (execCredentials 60 demoFleet [.answered "key" 429 0 [], .answered "key" 200 1 []]).status "key" =
      some .active := by
  decide +kernel

end ModelDock.Scheduler
