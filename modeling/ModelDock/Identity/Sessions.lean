import ModelDock.Identity.Console

/-!
# Sessions after a session version is raised

A token is accepted while it carries the session version of its user. Two handlers issue tokens with a version
they read after their check, and so obtain a newer one when another request raises it in between.
-/

namespace ModelDock.Identity

open Relational Text Table Console List Option
open Store (Uuid Timestamp)

variable (st : Console) (check : Check)

/-- A token is accepted: its user is active and has its session version. -/
def Console.accepts (token : SessionToken) : Bool :=
  (st.directory.users.find? token.check.userId).any fun user =>
    user.status = .active && user.sessionVersion = token.version

/-- The raises that were committed after a check. -/
def Console.raisedSince : List Raise :=
  st.raises.take (st.raises.length - check.since)

/-- Nobody else raised the session version of the user between the check of a request and the step in
which it takes up a newer version. -/
def Undisturbed (invocation : Session × ℕ × ConsoleAction) : Prop :=
  match invocation.2.2, st.requests invocation.2.1 with
  | .revokeOtherSessions, some (check, .authenticated) =>
    ∀ user ∈ st.directory.users.rows, user.id = check.userId → user.sessionVersion = check.version
  | .completeEnrollment, some (check, .confirming _ _) =>
    ∀ user ∈ st.directory.users.rows, user.id = check.userId → user.sessionVersion = check.version
  | .issueConfirmed, some (check, .confirmed) =>
    ∀ user ∈ st.directory.users.rows, user.id = check.userId → user.sessionVersion = check.version + 1
  | _, _ => True

instance (st : Console) (invocation : Session × ℕ × ConsoleAction) : Decidable (Undisturbed st invocation) := by
  unfold Undisturbed
  split <;> infer_instance

/-- The version that a request goes on with. -/
def carried : Phase → ℕ
  | .othersRevoked newVersion => newVersion
  | .confirmed => check.version + 1
  | _ => check.version

/-- A request carries no version above the stored one, and while it carries the stored one nobody else has
raised it since the check. -/
structure Fresh (st : Console) (request : ℕ) (check : Check) (version : ℕ) : Prop where
  since : check.since ≤ st.raises.length
  stored : ∀ user ∈ st.directory.users.rows, user.id = check.userId → version ≤ user.sessionVersion ∧
    (user.sessionVersion = version → ∀ raise ∈ st.raisedSince check, raise.userId = check.userId →
      raise.request = request)

/-- Every request and every token carries such a version. -/
structure AllFresh (st : Console) : Prop where
  requests : ∀ request check phase, st.requests request = some (check, phase) →
    Fresh st request check (carried check phase)
  tokens : ∀ token ∈ st.tokens, Fresh st token.request token.check token.version

variable {go : Runtime} {crypto : Crypto} {s : Session} {st : Console} {outcome : Outcome} {request other : ℕ}
  {check : Check} {version : ℕ} {d d' : Directory}

theorem not_mem_raisedBetween {user user' : User} (huser : user ∈ d.users.rows)
    (huser' : user' ∈ d'.users.rows) (hid : user.id = user'.id)
    (hvr : user'.sessionVersion ≤ user.sessionVersion) {raise : Raise}
    (hra : raise ∈ raisedBetween request d d') : raise.userId ≠ user'.id := by
  obtain ⟨raised, hrs, rfl⟩ := mem_map.mp hra
  obtain ⟨hmem, hbef⟩ := mem_filter.mp hrs
  intro hsame
  obtain rfl : raised = user' := eq_of_rowId hmem huser' hsame
  have hf : d.users.find? raised.id = some user := hid ▸ find?_of_mem huser
  simp only [hf, any_some, decide_eq_true_eq] at hbef
  exact absurd hbef (not_lt.mpr hvr)

theorem raisedBetween_self (request : ℕ) (d : Directory) : raisedBetween request d d = [] := by
  rw [raisedBetween, map_eq_nil_iff, filter_eq_nil_iff]
  intro user huser
  have hf : d.users.find? user.id = some user := find?_of_mem huser
  simp [hf]

theorem Console.raisedSince_apply (hsn : check.since ≤ st.raises.length) :
    (st.apply request outcome).raisedSince check =
      raisedBetween request st.directory outcome.directory ++ st.raisedSince check := by
  simp only [raisedSince, apply, length_append, take_append]
  rw [take_of_length_le (by omega)]
  congr 2
  omega

theorem Fresh.apply (h : Fresh st other check version)
    (hbef : ∀ user' ∈ outcome.directory.users.rows, ∃ user ∈ st.directory.users.rows, user.id = user'.id ∧
      user.sessionVersion ≤ user'.sessionVersion) :
    Fresh (st.apply request outcome) other check version := by
  refine ⟨h.since.trans (by simp [Console.apply]), fun user' huser' hid => ?_⟩
  obtain ⟨user, huser, hsame, hvr⟩ := hbef user' huser'
  obtain ⟨hcr, hras⟩ := h.stored user huser (hsame.trans hid)
  refine ⟨hcr.trans hvr, fun hstor raise hra hrs => ?_⟩
  rw [Console.raisedSince_apply h.since, mem_append] at hra
  rcases hra with hnew | hold
  · exact absurd (hrs.trans hid.symm)
      (not_mem_raisedBetween huser huser' hsame (hstor.le.trans hcr) hnew)
  · exact hras (le_antisymm (hvr.trans hstor.le) hcr) raise hold hrs

theorem Fresh.raised (h : Fresh st request check check.version)
    (hun : ∀ user ∈ st.directory.users.rows, user.id = check.userId →
      user.sessionVersion = check.version)
    (hrd : ∀ user' ∈ outcome.directory.users.rows, user'.id = check.userId →
      ∃ user ∈ st.directory.users.rows, user.id = user'.id ∧ user'.sessionVersion = user.sessionVersion + 1) :
    Fresh (st.apply request outcome) request check (check.version + 1) := by
  refine ⟨h.since.trans (by simp [Console.apply]), fun user' huser' hid => ?_⟩
  obtain ⟨user, huser, hsame, hvr⟩ := hrd user' huser' hid
  have hbef := hun user huser (hsame.trans hid)
  refine ⟨by rw [hvr, hbef], fun _ raise hrs hof => ?_⟩
  rw [Console.raisedSince_apply h.since, mem_append] at hrs
  rcases hrs with hnew | hold
  · obtain ⟨_, _, rfl⟩ := mem_map.mp hnew
    rfl
  · exact (h.stored user huser (hsame.trans hid)).2 hbef raise hold hof

theorem Directory.updateUser_raises {userId : Uuid} {err : AccountError} {condition : User → Bool}
    {set : User → User} (h : d.updateUser userId err condition set = .ok d')
    (hkey : ∀ user, Keyed.key (set user) = Keyed.key user)
    (hvr : ∀ user, (set user).sessionVersion = user.sessionVersion + 1) :
    ∀ user' ∈ d'.users.rows, user'.id = userId →
      ∃ user ∈ d.users.rows, user.id = user'.id ∧ user'.sessionVersion = user.sessionVersion + 1 := by
  obtain ⟨user, huser, hid, -, rfl⟩ := Directory.updateUser_eq_ok h
  intro user' huser' hid'
  have hset : (set user).id = user.id := congrArg UserKey.id (hkey user)
  rcases (mem_replace huser (hkey user)).mp huser' with rfl | ⟨-, hne⟩
  · exact ⟨user, huser, hset.symm, hvr user⟩
  · exact absurd (hid'.trans (hid.symm.trans hset.symm)) hne

/-- What a transaction leaves its request with, and the token it issues, is fresh. -/
structure LeavesFresh (st : Console) (request : ℕ) (outcome : Outcome) : Prop where
  standing : ∀ check phase, outcome.request = some (check, phase) →
    Fresh (st.apply request outcome) request check (carried check phase)
  issued : ∀ check phase version, st.requests request = some (check, phase) → outcome.issued = some version →
    Fresh (st.apply request outcome) request check version

theorem leavesFresh_standing {phase : Phase} (hrq : outcome.request = some (check, phase))
    (hiss : outcome.issued = none)
    (hfr : Fresh (st.apply request outcome) request check (carried check phase)) :
    LeavesFresh st request outcome := by
  refine ⟨fun check' phase' hnext => ?_, fun _ _ _ _ h => by simp [hiss] at h⟩
  obtain ⟨rfl, rfl⟩ := Prod.mk.inj (mem_unique hrq hnext)
  exact hfr

theorem leavesFresh_issued {phase : Phase} (hph : st.requests request = some (check, phase))
    (hrq : outcome.request = none) (hiss : outcome.issued = some version)
    (hfr : Fresh (st.apply request outcome) request check version) : LeavesFresh st request outcome := by
  refine ⟨fun _ _ h => by simp [hrq] at h, fun check' phase' version' hsame hvr => ?_⟩
  obtain ⟨rfl, rfl⟩ := Prod.mk.inj (mem_unique hph hsame)
  obtain rfl := mem_unique hiss hvr
  exact hfr

theorem fresh_checked {user : User} (huser : user ∈ st.directory.users.rows)
    (hsame : outcome.directory = st.directory) :
    Fresh (st.apply request outcome) request ⟨user.id, user.sessionVersion, st.raises.length⟩
      user.sessionVersion := by
  refine ⟨by simp [apply], fun user' huser' hid => ?_⟩
  have hrows : user' ∈ st.directory.users.rows := hsame ▸ huser'
  obtain rfl : user' = user := eq_of_rowId hrows huser hid
  refine ⟨le_rfl, fun _ raise hrs => ?_⟩
  rw [raisedSince_apply le_rfl, hsame, raisedBetween_self] at hrs
  simp [raisedSince] at hrs

theorem perform_fresh {action : ConsoleAction}
    (hcr : ∀ check phase, st.requests request = some (check, phase) →
      Fresh st request check (carried check phase))
    (hun : Undisturbed st (s, request, action))
    (h : ConsoleEffect crypto s st.directory st.raises.length action (st.requests request) outcome) :
    LeavesFresh st request outcome := by
  have hbef := h.before
  unfold Undisturbed at hun
  generalize hph : st.requests request = current at h hun
  cases h with
  | checked user huser phase hch =>
    rcases hch with rfl | rfl | rfl <;> exact leavesFresh_standing rfl rfl (fresh_checked huser rfl)
  | verified phase hvr =>
    rcases hvr with rfl | ⟨hash, rfl⟩ <;>
      exact leavesFresh_standing rfl rfl ((hcr _ _ hph).apply hbef)
  | validated secret step next _ hnext =>
    rcases hnext with ⟨rfl, rfl⟩ | ⟨rfl, rfl⟩ | ⟨rfl, rfl⟩ <;>
      exact leavesFresh_standing rfl rfl ((hcr _ _ hph).apply hbef)
  | consumed secret step next hnext =>
    rcases hnext with ⟨-, rfl, rfl⟩ | ⟨-, rfl, rfl⟩ <;>
      exact leavesFresh_standing rfl rfl ((hcr _ _ hph).apply hbef)
  | issued | issuedRevoked => exact leavesFresh_issued hph rfl rfl ((hcr _ _ hph).apply hbef)
  | @revoked check d' hrv user huser hid =>
    -- The raise is the request's own, on the version of its check.
    have hrs := Directory.updateUser_raises hrv (fun _ => rfl) (fun _ => rfl)
    obtain ⟨before, hmem, hsame, hvn⟩ := hrs user huser hid
    have hnew : carried check (.othersRevoked user.sessionVersion) = check.version + 1 := by
      rw [carried, hvn, hun before hmem (hsame.trans hid)]
    refine leavesFresh_standing rfl rfl ?_
    rw [hnew]
    exact (hcr _ _ hph).raised hun hrs
  | pending | rewritten => exact ⟨nofun, nofun⟩
  | @completed check secret step d' hcm =>
    have hrs := Directory.updateUser_raises hcm (fun _ => rfl) (fun _ => rfl)
    exact leavesFresh_standing rfl rfl ((hcr _ _ hph).raised hun hrs)
  | issuedConfirmed user huser hid =>
    -- What is read back is the version of the request's own raise.
    refine leavesFresh_issued hph rfl rfl ?_
    rw [hun user huser hid]
    exact (hcr _ _ hph).apply hbef

theorem AllFresh.step {st' : Console} {inv : Session × ℕ × ConsoleAction} (h : AllFresh st)
    (hun : Undisturbed st inv) (hexec : execConsole go crypto inv st = .ok st') :
    AllFresh st' := by
  obtain ⟨_, request, _⟩ := inv
  unfold execConsole at hexec
  split at hexec
  · next _ hout =>
    cases hexec
    have hef := perform_effect hout
    obtain ⟨hrq, hiss⟩ := perform_fresh (h.requests request) hun hef
    constructor
    · intro other check phase hne
      by_cases hsame : other = request
      · subst hsame
        exact hrq check phase (by simpa [apply] using hne)
      · refine (h.requests other check phase ?_).apply hef.before
        simpa [apply, hsame] using hne
    · intro token htk
      rcases mem_append.mp htk with hnew | hold
      · simp only [mem_toList, bind_eq_some_iff, map_eq_some_iff] at hnew
        obtain ⟨⟨check, phase⟩, hph, version, hvr, rfl⟩ := hnew
        exact hiss check phase version hph hvr
      · exact (h.tokens token hold).apply hef.before
  · cases hexec
    refine ⟨fun other check phase hne => ?_, fun token htk => ?_⟩
    · by_cases hsame : other = request
      · subst hsame
        simp at hne
      · have hbef : st.requests other = some (check, phase) := by simpa [hsame] using hne
        exact ⟨(h.requests other check phase hbef).since, (h.requests other check phase hbef).stored⟩
    · exact ⟨(h.tokens token htk).since, (h.tokens token htk).stored⟩

/-- After any interleaving of undisturbed transactions, from any directory, a token that is accepted was
obtained by a request since whose check nobody but the request itself has raised the session version of the
user. -/
theorem accepted_tokens_not_outdated (go : Runtime) (crypto : Crypto) (d : Directory)
    (calls : List (Session × ℕ × ConsoleAction))
    (hundisturbed : AlongChanges (execConsole go crypto) Undisturbed { directory := d } calls) (token : SessionToken)
    (htk : token ∈ (run (execConsole go crypto) { directory := d } calls).tokens)
    (hac : (run (execConsole go crypto) { directory := d } calls).accepts token) (raise : Raise)
    (hrs : raise ∈ (run (execConsole go crypto) { directory := d } calls).raisedSince token.check)
    (huser : raise.userId = token.check.userId) : raise.request = token.request := by
  have hstar : AllFresh { directory := d } := ⟨nofun, nofun⟩
  have hfr : AllFresh (run (execConsole go crypto) { directory := d } calls) :=
    run_invariant_of_changes (fun _ _ _ hbef hstep h => hbef.step hstep h) hstar hundisturbed
  simp only [accepts, Option.any_eq_true, cond_iff] at hac
  obtain ⟨user, hf, -, hvr⟩ := hac
  obtain ⟨hmem, hid⟩ := found hf
  exact ((hfr.tokens token htk).stored user hmem hid).2 hvr raise hrs huser

/-- Cryptography that hides nothing: a password is its own hash, and a code repeats one digit. -/
def demoCrypto : Crypto where
  verifyPassword hash password := hash = password
  decrypt _ envelope := some (String.ofList (envelope.map fun byte => Char.ofNat byte.toNat))
  codeAt secret counter := some (String.ofList (List.replicate 6 (Char.ofNat (48 + (counter + secret.length) % 10))))

/-- The small directory with an administrator whose enrolment waits for its first code, and who has been
mailed a reset token. -/
def enrollingDirectory : Directory :=
  { demoDirectory with
    users := tableOf [⟨2, "member@example.com", "member-hash", "Member", .admin, .active, some 0, 0, none,
      some [65], some 100, none, none, false⟩] (by decide)
    accountTokens := tableOf [⟨1, 2, .passwordReset, [7], 100, none⟩] (by decide) }

/-- A request ends the other sessions of its user. -/
def logoutCalls : List (Session × ℕ × ConsoleAction) :=
  [(demoSession 1, 1, .authenticate 2 0), (demoSession 2, 1, .revokeOtherSessions),
    (demoSession 3, 1, .issueRevoked)]

/-- Nobody interferes: the token is accepted, and the request itself is the only one that raised the
version. -/
theorem accepted_tokens_not_outdated_demo :
    (⟨1, 2⟩ : Raise) ∈ (run (execConsole asciiRuntime demoCrypto) { directory := enrollingDirectory }
        logoutCalls).raises ∧
      ∀ raise ∈ (run (execConsole asciiRuntime demoCrypto) { directory := enrollingDirectory }
        logoutCalls).raisedSince ⟨2, 0, 0⟩, raise.userId = 2 → raise.request = 1 :=
  ⟨by decide +kernel, accepted_tokens_not_outdated asciiRuntime demoCrypto enrollingDirectory logoutCalls
    (Along.changes ⟨by decide +kernel, by decide +kernel, by decide +kernel, trivial⟩) ⟨1, ⟨2, 0, 0⟩, 1⟩
    (by decide +kernel) (by decide +kernel)⟩

/-- A password reset between the check of a request and the end of the other sessions, and one before an
enrolment reads its version back. -/
def disturbedCalls : List (List (Session × ℕ × ConsoleAction)) :=
  [[(demoSession 1, 1, .authenticate 2 0), (demoSession 2, 2, .resetPassword [7] "new-hash"),
      (demoSession 3, 1, .revokeOtherSessions), (demoSession 4, 1, .issueRevoked)],
    [(demoSession 1, 1, .authenticate 2 0), (demoSession 2, 1, .confirmCode "111111" 0),
      (demoSession 3, 1, .completeEnrollment), (demoSession 4, 2, .resetPassword [7] "new-hash"),
      (demoSession 5, 1, .issueConfirmed)]]

/-- In both the request obtains a token that is accepted although the password was reset after its check. -/
theorem checked_request_survives_reset : disturbedCalls ≠ [] ∧ ∀ calls ∈ disturbedCalls,
    let st := run (execConsole asciiRuntime demoCrypto) { directory := enrollingDirectory } calls
    (⟨1, ⟨2, 0, 0⟩, 2⟩ : SessionToken) ∈ st.tokens ∧ st.accepts ⟨1, ⟨2, 0, 0⟩, 2⟩ ∧
      (⟨2, 2⟩ : Raise) ∈ st.raisedSince ⟨2, 0, 0⟩ := by
  decide +kernel

end ModelDock.Identity
