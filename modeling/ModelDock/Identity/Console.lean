import ModelDock.Identity.Accounts

/-!
# Console requests, one transaction at a time

Every transaction of a console request is a step of its own, and what the request has read is kept with it.
The record of what happened, which nothing depends on, is kept next to the directory.
-/

namespace ModelDock.Identity

open Relational Text Table Directory
open Store (Uuid Timestamp)

variable {err : AccountError} {condition : User → Bool} {set : User → User} {since : ℕ} (s : Session)
  (userId : Uuid) (step : ℕ) (d : Directory)

/-- Update the row of a user where a condition holds. -/
def Directory.updateUser (userId : Uuid) (err : AccountError) (condition : User → Bool)
    (set : User → User) : Except AccountError Directory := do
  let user ← required (d.users.find? userId) err
  ensure (condition user) err
  return { d with users := d.users.replace (set user) }

/-- Replace the password that a request has verified. Open tokens of the user are consumed. -/
def changePassword (expectedHash newHash : String) (d : Directory) : Except AccountError Directory := do
  let d ← d.updateUser userId .invalidToken
    (fun user => user.passwordHash = expectedHash && user.status = .active)
    (fun user => { user with passwordHash := newHash, sessionVersion := user.sessionVersion + 1 })
  return (d.consumeTokens userId .emailVerification s.now).consumeTokens userId .passwordReset s.now

/-- End every session of a user. -/
def revokeOtherSessions : Except AccountError Directory :=
  d.updateUser userId .notFound (fun user => user.status = .active)
    (fun user => { user with sessionVersion := user.sessionVersion + 1 })

/-- Set the status of an account as an administrator. -/
def updateUserStatusAudited (status : UserStatus) (d : Directory) : Except AccountError Directory := do
  ensure (status ≠ .pendingVerification) (.message "invalid user status")
  d.updateUser userId .notFound (fun user => user.status ≠ status)
    (fun user => { user with status := status, sessionVersion := user.sessionVersion + 1 })

/-- Store the secret of an enrolment that waits for its first code. -/
def setPendingTOTP (encrypted : Envelope) (expires : Timestamp) (d : Directory) : Except AccountError Directory :=
  d.updateUser userId .notFound (fun user => user.role.isAdministrator && user.status = .active)
    (fun user => { user with totpPendingSecret := some encrypted, totpPendingExpiresAt := some expires })

/-- The user has a secret that waits for its first code. -/
def User.isPending (user : User) (now : Timestamp) : Bool :=
  user.totpPendingSecret.isSome && user.totpPendingExpiresAt.any fun expires => now < expires

/-- The secret that waits for its first code. -/
def pendingTOTP : Except AccountError Envelope := do
  let user ← required (d.users.find? userId) .notFound
  ensure (user.isPending s.now) .notFound
  required user.totpPendingSecret .notFound

/-- The row of a user whose secret that waits becomes the enrolled one. -/
def User.enroll (now : Timestamp) (step : ℕ) (user : User) : User :=
  { user with
    totpSecret := user.totpPendingSecret, totpPendingSecret := none, totpPendingExpiresAt := none
    totpEnrolledAt := some now, totpLastUsedStep := some step, sessionVersion := user.sessionVersion + 1 }

/-- Make the secret that waits the enrolled one; the first code counts as used. -/
def completeTOTPEnrollment : Except AccountError Directory :=
  d.updateUser userId .notFound (fun user => user.isPending s.now) (User.enroll s.now step)

/-- The enrolled secret. -/
def totpSecret (userId : Uuid) (d : Directory) : Except AccountError Envelope := do
  let user ← required (d.users.find? userId) .notFound
  ensure (user.totpEnrolledAt.isSome) .notFound
  required user.totpSecret .notFound

/-- Use the counter of a code up; one that is not above the last is a replay. -/
def consumeTOTPStep : Except AccountError Directory :=
  d.updateUser userId .mfaReplay
    (fun user => user.totpEnrolledAt.isSome && user.totpLastUsedStep.all fun last => last < step)
    (fun user => { user with totpLastUsedStep := some step })

/-- The row of a user without a secret. -/
def User.forgetSecrets (user : User) : User :=
  { user with
    totpSecret := none, totpPendingSecret := none, totpPendingExpiresAt := none, totpEnrolledAt := none
    totpLastUsedStep := none, sessionVersion := user.sessionVersion + 1 }

/-- Give up the enrolled secret and the one that waits. -/
def disableTOTP : Except AccountError Directory :=
  d.updateUser userId .notFound (fun _ => true) User.forgetSecrets

/-- What the code uses of cryptography: password hashes, the vault that encrypts secrets for a user, and
the code of a secret at a counter, which a malformed secret does not have. -/
structure Crypto where
  verifyPassword : String → String → Bool
  decrypt : Uuid → Envelope → Option String
  codeAt : String → ℕ → Option String

/-- The counter whose code was presented, one step around the clock. -/
def validateTOTP (crypto : Crypto) (secret code : String) (unix : ℤ) : Option ℕ :=
  if (trimSpace code).utf8ByteSize = 6 then
    [-1, 0, 1].findSome? fun offset : ℤ =>
      let counter := unix.tdiv 30 + offset
      if 0 ≤ counter ∧ crypto.codeAt secret counter.toNat = some (trimSpace code) then some counter.toNat
      else none
  else none

/-- The authentication check of a request: the user, the session version it ran with, and how many
transactions had raised a session version before it. -/
structure Check where
  userId : Uuid
  (version since : ℕ)
deriving DecidableEq

/-- Where a request stands between two transactions. -/
inductive Phase
  /-- The password of a login is right and a one-time code is needed. -/
  | loginChecked
  | loginValidated (secret : String) (step : ℕ)
  /-- A login, or the refresh of a session, that only has to issue its tokens. -/
  | ready
  /-- A request with a session, before its handler. -/
  | authenticated
  | passwordVerified (expectedHash : String)
  | othersRevoked (newVersion : ℕ)
  | confirming (secret : String) (step : ℕ)
  | confirmed
  | disableVerified
  | disabling (secret : String) (step : ℕ)
  | disableConsumed

/-- A transaction of a request, or the answer after its last one. -/
inductive ConsoleAction
  | login (email password : String)
  | loginCode (code : String) (unix : ℤ)
  | loginConsume
  | refresh (userId : Uuid) (version : ℕ)
  | issue
  | authenticate (userId : Uuid) (version : ℕ)
  | verifyPassword (password : String)
  | changePassword (newHash : String)
  | revokeOtherSessions
  | issueRevoked
  | setPending (encrypted : Envelope) (expires : Timestamp)
  | confirmCode (code : String) (unix : ℤ)
  | completeEnrollment
  | issueConfirmed
  | disablePassword (password : String)
  | disableCode (code : String) (unix : ℤ)
  | disableConsume
  | disable
  | resetPassword (digest : Digest) (passwordHash : String)
  | updateUserStatus (userId : Uuid) (status : UserStatus)

/-- A code that was accepted: the user, the secret it was checked against, and its counter. -/
structure Acceptance where
  userId : Uuid
  secret : String
  counter : ℕ
deriving DecidableEq

/-- A secret that became the enrolled one of a user, and the one whose code was presented for it. -/
structure Enabling where
  userId : Uuid
  enabled : Option String
  validated : String
deriving DecidableEq

/-- What a transaction leaves: the directory, where its request stands if it is not over, and what the
record gets. -/
structure Outcome where
  directory : Directory
  request : Option (Check × Phase) := none
  issued : Option ℕ := none
  accepted : Option Acceptance := none
  enabling : Option Enabling := none

variable {action : ConsoleAction} {outcome : Outcome} {phase : Phase} {current : Option (Check × Phase)}

section Perform

variable (go : Runtime) (crypto : Crypto) (s : Session)

/-- A stored secret in the clear. -/
def openSecret (userId : Uuid) (envelope : Envelope) : Except AccountError String :=
  required (crypto.decrypt userId envelope) (.message "invalid_mfa")

/-- The counter of a presented code, or the answer that it is wrong. -/
def presentedStep (secret code : String) (unix : ℤ) : Except AccountError ℕ :=
  required (validateTOTP crypto secret code unix) (.message "invalid_mfa")

/-- The check of a login reads the account by its address. -/
def performLogin (email password : String) (since : ℕ) (d : Directory) : Except AccountError Outcome := do
  let user ← required (d.userByEmail go (go.normalize email)) (.message "invalid_credentials")
  ensure (crypto.verifyPassword user.passwordHash password ∧ user.status = .active)
    (.message "invalid_credentials")
  ensure (user.riskBlocked = false) (.message "risk_frozen")
  return {
    directory := d
    request := some (⟨user.id, user.sessionVersion, since⟩,
      if user.role.isAdministrator && user.totpEnrolledAt.isSome then .loginChecked else .ready) }

/-- The check of a session: the account is active and has the session version of the token. -/
def performCheck (userId : Uuid) (version since : ℕ) (phase : Phase) (d : Directory) :
    Except AccountError Outcome := do
  let user ← required (d.users.find? userId) (.message "invalid_session")
  ensure (user.status = .active ∧ user.sessionVersion = version) (.message "invalid_session")
  return { directory := d, request := some (⟨userId, version, since⟩, phase) }

variable (check : Check)

/-- Verify the password of a request that has a session. -/
def performPassword (password : String) (next : String → Phase) (d : Directory) :
    Except AccountError Outcome := do
  let user ← required (d.users.find? check.userId) (.message "invalid_credentials")
  ensure (crypto.verifyPassword user.passwordHash password) (.message "invalid_credentials")
  return { directory := d, request := some (check, next user.passwordHash) }

/-- Check a presented code against a stored secret. -/
def performCode (envelope : Except AccountError Envelope) (code : String) (unix : ℤ)
    (next : String → ℕ → Phase) (d : Directory) : Except AccountError Outcome := do
  let envelope ← envelope
  let secret ← openSecret crypto check.userId envelope
  let step ← presentedStep crypto secret code unix
  return { directory := d, request := some (check, next secret step) }

/-- Use up the counter of a code that was checked against a secret. -/
def performConsume (secret : String) (step : ℕ) (next : Phase) (d : Directory) : Except AccountError Outcome := do
  let d ← consumeTOTPStep check.userId step d
  return { directory := d, request := some (check, next), accepted := some ⟨check.userId, secret, step⟩ }

/-- The enrolled secret of a user in the clear. -/
def Directory.enrolledSecret (d : Directory) (userId : Uuid) : Option String :=
  (d.users.find? userId).bind fun user => user.totpSecret.bind fun envelope => crypto.decrypt userId envelope

/-- The transaction of a request in the phase it is in. -/
def perform (action : ConsoleAction) (current : Option (Check × Phase)) (since : ℕ) (d : Directory) :
    Except AccountError Outcome :=
  match action, current with
  | .login email password, none => performLogin go crypto email password since d
  | .loginCode code unix, some (check, .loginChecked) =>
    performCode crypto check (totpSecret check.userId d) code unix .loginValidated d
  | .loginConsume, some (check, .loginValidated secret step) => performConsume check secret step .ready d
  | .refresh userId version, none => performCheck userId version since .ready d
  | .issue, some (check, .ready) => .ok { directory := d, issued := some check.version }
  | .authenticate userId version, none => performCheck userId version since .authenticated d
  | .verifyPassword password, some (check, .authenticated) =>
    performPassword crypto check password .passwordVerified d
  | .changePassword newHash, some (check, .passwordVerified expectedHash) => do
    let d ← changePassword s check.userId expectedHash newHash d
    return { directory := d }
  | .revokeOtherSessions, some (check, .authenticated) => do
    let d ← revokeOtherSessions check.userId d
    let user ← required (d.users.find? check.userId) .notFound
    return { directory := d, request := some (check, .othersRevoked user.sessionVersion) }
  | .issueRevoked, some (check, .othersRevoked newVersion) => do
    let _ ← required (d.users.find? check.userId) (.message "invalid_session")
    return { directory := d, issued := some newVersion }
  | .setPending encrypted expires, some (check, .authenticated) => do
    let d ← setPendingTOTP check.userId encrypted expires d
    return { directory := d }
  | .confirmCode code unix, some (check, .authenticated) =>
    performCode crypto check (pendingTOTP s check.userId d) code unix .confirming d
  | .completeEnrollment, some (check, .confirming secret step) => do
    let d ← completeTOTPEnrollment s check.userId step d
    return {
      directory := d, request := some (check, .confirmed), accepted := some ⟨check.userId, secret, step⟩
      enabling := some ⟨check.userId, d.enrolledSecret crypto check.userId, secret⟩ }
  | .issueConfirmed, some (check, .confirmed) => do
    let user ← required (d.users.find? check.userId) .notFound
    return { directory := d, issued := some user.sessionVersion }
  | .disablePassword password, some (check, .authenticated) =>
    performPassword crypto check password (fun _ => .disableVerified) d
  | .disableCode code unix, some (check, .disableVerified) =>
    performCode crypto check (totpSecret check.userId d) code unix .disabling d
  | .disableConsume, some (check, .disabling secret step) =>
    performConsume check secret step .disableConsumed d
  | .disable, some (check, .disableConsumed) => do
    let d ← disableTOTP check.userId d
    return { directory := d }
  | .resetPassword digest passwordHash, none => do
    let d ← resetPassword s digest passwordHash d
    return { directory := d }
  | .updateUserStatus userId status, none => do
    let d ← updateUserStatusAudited userId status d
    return { directory := d }
  | _, _ => .error (.message "not the turn of this request")

end Perform

/-- A transaction that raised the session version of a user. -/
structure Raise where
  request : ℕ
  userId : Uuid
deriving DecidableEq

/-- An access or refresh token, with the check of the request that obtained it. -/
structure SessionToken where
  request : ℕ
  check : Check
  version : ℕ
deriving DecidableEq

/-- The directory, the requests that are not over, and the record of what happened, newest first. -/
structure Console where
  directory : Directory
  requests : ℕ → Option (Check × Phase) := fun _ => none
  tokens : List SessionToken := []
  raises : List Raise := []
  accepted : List Acceptance := []
  enablings : List Enabling := []

/-- The users whose session version a transaction raised. -/
def raisedBetween (request : ℕ) (d d' : Directory) : List Raise :=
  (d'.users.rows.filter fun user =>
    (d.users.find? user.id).any fun before => before.sessionVersion < user.sessionVersion).map
      fun user => ⟨request, user.id⟩

/-- What a transaction of a request leaves of the whole console. -/
def Console.apply (st : Console) (request : ℕ) (outcome : Outcome) : Console where
  directory := outcome.directory
  requests := Function.update st.requests request outcome.request
  tokens := ((st.requests request).bind fun current => outcome.issued.map fun version =>
    (⟨request, current.1, version⟩ : SessionToken)).toList ++ st.tokens
  raises := raisedBetween request st.directory outcome.directory ++ st.raises
  accepted := outcome.accepted.toList ++ st.accepted
  enablings := outcome.enabling.toList ++ st.enablings

/-- Run one transaction of a request. One that fails changes nothing, and the request is over. -/
def execConsole (go : Runtime) (crypto : Crypto) (invocation : Session × ℕ × ConsoleAction) (st : Console) :
    Except AccountError Console :=
  match perform go crypto invocation.1 invocation.2.2 (st.requests invocation.2.1) st.raises.length
    st.directory with
  | .ok outcome => .ok (st.apply invocation.2.1 outcome)
  | .error _ => .ok { st with requests := Function.update st.requests invocation.2.1 none }

variable {go : Runtime} {crypto : Crypto} {s : Session} {d d' : Directory} {userId : Uuid}

theorem Directory.updateUser_eq_ok (h : d.updateUser userId err condition set = .ok d') :
    ∃ user ∈ d.users.rows, user.id = userId ∧ condition user ∧
      d' = { d with users := d.users.replace (set user) } := by
  simp only [updateUser, eq_ok] at h
  obtain ⟨user, huser, _, hcn, rfl⟩ := h
  obtain ⟨hmem, hid⟩ := found huser
  exact ⟨user, hmem, hid, hcn, rfl⟩

/-- What the columns of an account say about its one-time codes: the enrolled secret, the one that waits, and
the last counter. -/
def User.codes (user : User) : Option Envelope × Option Envelope × Option ℕ :=
  (user.totpSecret, user.totpPendingSecret, user.totpLastUsedStep)

/-- One account is rewritten with a higher session version, and keeps its secrets or loses them. -/
def Rewrites (d d' : Directory) : Prop :=
  ∃ user ∈ d.users.rows, ∃ new, Keyed.key new = Keyed.key user ∧ user.sessionVersion < new.sessionVersion ∧
    (new.codes = user.codes ∨ new.codes = (none, none, none)) ∧ d'.users = d.users.replace new

theorem Directory.updateUser_rewrites
    (h : d.updateUser userId err condition set = .ok d') (hkey : ∀ user, Keyed.key (set user) = Keyed.key user)
    (hvr : ∀ user, user.sessionVersion < (set user).sessionVersion)
    (hcd : ∀ user, (set user).codes = user.codes ∨ (set user).codes = (none, none, none)) :
    Rewrites d d' := by
  obtain ⟨user, huser, -, -, rfl⟩ := updateUser_eq_ok h
  exact ⟨user, huser, set user, hkey user, hvr user, hcd user, rfl⟩

/-- What a transaction of a request in a phase does. -/
inductive ConsoleEffect (crypto : Crypto) (s : Session) (d : Directory) (since : ℕ) :
    ConsoleAction → Option (Check × Phase) → Outcome → Prop
  | checked {action : ConsoleAction} (user : User) (huser : user ∈ d.users.rows) (phase : Phase)
      (hphas : phase = .loginChecked ∨ phase = .ready ∨ phase = .authenticated) :
      ConsoleEffect crypto s d since action none
        { directory := d, request := some (⟨user.id, user.sessionVersion, since⟩, phase) }
  | verified {action : ConsoleAction} {check : Check} (phase : Phase)
      (hphas : phase = .disableVerified ∨ ∃ hash, phase = .passwordVerified hash) :
      ConsoleEffect crypto s d since action (some (check, .authenticated))
        { directory := d, request := some (check, phase) }
  | validated {action : ConsoleAction} {check : Check} {phase : Phase} (secret : String) (step : ℕ) (next : Phase)
      (hval : ∃ code unix, validateTOTP crypto secret code unix = some step)
      (hnext : phase = .loginChecked ∧ next = .loginValidated secret step ∨
        phase = .authenticated ∧ next = .confirming secret step ∨
        phase = .disableVerified ∧ next = .disabling secret step) :
      ConsoleEffect crypto s d since action (some (check, phase))
        { directory := d, request := some (check, next) }
  | consumed {action : ConsoleAction} {check : Check} {phase : Phase} (secret : String) (step : ℕ) (next : Phase)
      (hnext : action = .loginConsume ∧ phase = .loginValidated secret step ∧ next = .ready ∨
        action = .disableConsume ∧ phase = .disabling secret step ∧ next = .disableConsumed) (d' : Directory)
      (hcon : consumeTOTPStep check.userId step d = .ok d') :
      ConsoleEffect crypto s d since action (some (check, phase))
        { directory := d', request := some (check, next), accepted := some ⟨check.userId, secret, step⟩ }
  | issued {check : Check} : ConsoleEffect crypto s d since .issue (some (check, .ready))
      { directory := d, issued := some check.version }
  | revoked {check : Check} (d' : Directory) (hrev : revokeOtherSessions check.userId d = .ok d') (user : User)
      (huser : user ∈ d'.users.rows) (hid : user.id = check.userId) :
      ConsoleEffect crypto s d since .revokeOtherSessions (some (check, .authenticated))
        { directory := d', request := some (check, .othersRevoked user.sessionVersion) }
  | issuedRevoked {check : Check} {newVersion : ℕ} :
      ConsoleEffect crypto s d since .issueRevoked (some (check, .othersRevoked newVersion))
        { directory := d, issued := some newVersion }
  | pending {check : Check} {encrypted : Envelope} {expires : Timestamp} (d' : Directory)
      (hset : setPendingTOTP check.userId encrypted expires d = .ok d') :
      ConsoleEffect crypto s d since (.setPending encrypted expires) (some (check, .authenticated))
        { directory := d' }
  | completed {check : Check} {secret : String} {step : ℕ} (d' : Directory)
      (hcom : completeTOTPEnrollment s check.userId step d = .ok d') :
      ConsoleEffect crypto s d since .completeEnrollment (some (check, .confirming secret step))
        { directory := d', request := some (check, .confirmed), accepted := some ⟨check.userId, secret, step⟩
          enabling := some ⟨check.userId, d'.enrolledSecret crypto check.userId, secret⟩ }
  | issuedConfirmed {check : Check} (user : User) (huser : user ∈ d.users.rows) (hid : user.id = check.userId) :
      ConsoleEffect crypto s d since .issueConfirmed (some (check, .confirmed))
        { directory := d, issued := some user.sessionVersion }
  | rewritten {action : ConsoleAction} {current : Option (Check × Phase)} (d' : Directory) (hrew : Rewrites d d') :
      ConsoleEffect crypto s d since action current { directory := d' }

theorem performCheck_effect {version : ℕ} (hph : phase = .loginChecked ∨ phase = .ready ∨ phase = .authenticated)
    (h : performCheck userId version since phase d = .ok outcome) :
    ConsoleEffect crypto s d since action none outcome := by
  simp only [performCheck, eq_ok] at h
  obtain ⟨user, huser, _, ⟨_, rfl⟩, rfl⟩ := h
  obtain ⟨hmem, rfl⟩ := found huser
  exact .checked user hmem phase hph

theorem performCode_effect {check : Check} {envelope : Except AccountError Envelope}
    {code : String} {unix : ℤ} {next : String → ℕ → Phase}
    (hnext : ∀ secret step, phase = .loginChecked ∧ next secret step = .loginValidated secret step ∨
      phase = .authenticated ∧ next secret step = .confirming secret step ∨
      phase = .disableVerified ∧ next secret step = .disabling secret step)
    (h : performCode crypto check envelope code unix next d = .ok outcome) :
    ConsoleEffect crypto s d since action (some (check, phase)) outcome := by
  simp only [performCode, presentedStep, eq_ok] at h
  obtain ⟨_, _, secret, _, step, hstep, rfl⟩ := h
  exact .validated secret step _ ⟨code, unix, hstep⟩ (hnext secret step)

/-- Every transaction of a console request has the effect its action allows. -/
theorem perform_effect (h : perform go crypto s action current since d = .ok outcome) :
    ConsoleEffect crypto s d since action current outcome := by
  have hrs (version : ℕ) : version < version + 1 := Nat.lt_succ_self version
  unfold perform at h
  split at h
  · simp only [performLogin, eq_ok] at h
    obtain ⟨user, huser, _, _, _, _, rfl⟩ := h
    refine .checked user (List.mem_of_find?_eq_some huser) _ ?_
    split
    · exact .inl rfl
    · exact .inr (.inl rfl)
  · exact performCode_effect (fun _ _ => .inl ⟨rfl, rfl⟩) h
  · simp only [performConsume, eq_ok] at h
    obtain ⟨_, hcn, rfl⟩ := h
    exact .consumed _ _ _ (.inl ⟨rfl, rfl, rfl⟩) _ hcn
  · exact performCheck_effect (.inr (.inl rfl)) h
  · cases h
    exact .issued
  · exact performCheck_effect (.inr (.inr rfl)) h
  · simp only [performPassword, eq_ok] at h
    obtain ⟨_, _, _, _, rfl⟩ := h
    exact .verified _ (.inr ⟨_, rfl⟩)
  · simp only [changePassword, eq_ok] at h
    obtain ⟨_, ⟨changed, hch, rfl⟩, rfl⟩ := h
    have hrw : Rewrites d changed :=
      updateUser_rewrites hch (fun _ => rfl) (fun _ => hrs _) fun _ => .inl rfl
    exact .rewritten _ hrw
  · simp only [eq_ok] at h
    obtain ⟨_, hrv, user, huser, rfl⟩ := h
    obtain ⟨hmem, hid⟩ := found huser
    exact .revoked _ hrv user hmem hid
  · simp only [eq_ok] at h
    obtain ⟨_, _, rfl⟩ := h
    exact .issuedRevoked
  · simp only [eq_ok] at h
    obtain ⟨_, hpn, rfl⟩ := h
    exact .pending _ hpn
  · exact performCode_effect (fun _ _ => .inr (.inl ⟨rfl, rfl⟩)) h
  · simp only [eq_ok] at h
    obtain ⟨_, hcm, rfl⟩ := h
    exact .completed _ hcm
  · simp only [eq_ok] at h
    obtain ⟨user, huser, rfl⟩ := h
    obtain ⟨hmem, hid⟩ := found huser
    exact .issuedConfirmed user hmem hid
  · simp only [performPassword, eq_ok] at h
    obtain ⟨_, _, _, _, rfl⟩ := h
    exact .verified _ (.inl rfl)
  · exact performCode_effect (fun _ _ => .inr (.inr ⟨rfl, rfl⟩)) h
  · simp only [performConsume, eq_ok] at h
    obtain ⟨_, hcn, rfl⟩ := h
    exact .consumed _ _ _ (.inr ⟨rfl, rfl, rfl⟩) _ hcn
  · simp only [eq_ok] at h
    obtain ⟨_, hds, rfl⟩ := h
    exact .rewritten _ (updateUser_rewrites hds (fun _ => rfl) (fun _ => hrs _) fun _ => .inr rfl)
  · next passwordHash =>
    simp only [resetPassword, eq_ok] at h
    obtain ⟨_, ⟨_, _, user, huser, _, _, rfl⟩, rfl⟩ := h
    refine .rewritten _ ⟨user, (found huser).1, ?_⟩
    exact ⟨{ user with passwordHash := passwordHash, sessionVersion := user.sessionVersion + 1 }, rfl, hrs _,
      .inl rfl, rfl⟩
  · simp only [updateUserStatusAudited, eq_ok] at h
    obtain ⟨_, ⟨_, _, hst⟩, rfl⟩ := h
    exact .rewritten _ (updateUser_rewrites hst (fun _ => rfl) (fun _ => hrs _) fun _ => .inl rfl)
  · cases h

theorem Directory.updateUser_before
    (h : d.updateUser userId err condition set = .ok d') (hkey : ∀ user, Keyed.key (set user) = Keyed.key user)
    (hvr : ∀ user, user.sessionVersion ≤ (set user).sessionVersion) :
    ∀ user' ∈ d'.users.rows, ∃ user ∈ d.users.rows, user.id = user'.id ∧
      user.sessionVersion ≤ user'.sessionVersion := by
  obtain ⟨user, huser, -, -, rfl⟩ := updateUser_eq_ok h
  intro user' huser'
  rcases (mem_replace huser (hkey user)).mp huser' with rfl | ⟨hne, -⟩
  · exact ⟨user, huser, (congrArg UserKey.id (hkey user)).symm, hvr user⟩
  · exact ⟨user', hne, rfl, le_rfl⟩

theorem ConsoleEffect.before (h : ConsoleEffect crypto s d since action current outcome) :
    ∀ user' ∈ outcome.directory.users.rows, ∃ user ∈ d.users.rows, user.id = user'.id ∧
      user.sessionVersion ≤ user'.sessionVersion := by
  have hsame : ∀ user' ∈ d.users.rows, ∃ user ∈ d.users.rows, user.id = user'.id ∧
      user.sessionVersion ≤ user'.sessionVersion := fun user' huser' => ⟨user', huser', rfl, le_rfl⟩
  cases h with
  | checked | verified | validated | issued | issuedRevoked | issuedConfirmed => exact hsame
  | consumed _ _ _ _ d' hwr | pending d' hwr =>
    exact updateUser_before hwr (fun _ => rfl) fun _ => le_rfl
  | revoked d' hwr | completed d' hwr =>
    exact updateUser_before hwr (fun _ => rfl) fun _ => Nat.le_succ _
  | rewritten d' hrw =>
    obtain ⟨user, huser, _, hkey, hvr, -, hus⟩ := hrw
    intro user' huser'
    rw [hus] at huser'
    rcases (mem_replace huser hkey).mp huser' with rfl | ⟨hne, -⟩
    · exact ⟨user, huser, (congrArg UserKey.id hkey).symm, hvr.le⟩
    · exact hsame user' hne

end ModelDock.Identity
