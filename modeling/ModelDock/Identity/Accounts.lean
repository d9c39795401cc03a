import ModelDock.Identity.Membership

/-!
# Registration, mailed tokens and invitations

An account is created by a registration, which a mailed token verifies, or by a mailed invitation.
`AccountEffect` says what a committed call can do to the accounts; accepting an invitation for an account that
exists leaves its password as it is.
-/

namespace ModelDock.Identity

open Relational Text Table Directory
open Store (Uuid Timestamp)

variable {invitation : OrganizationInvitation} {role : MemberRole} {passwordHash displayName : String}
  {allowCreate : Bool} (d : Directory) (s : Session) (userId : Uuid) (purpose : TokenPurpose) (now : Timestamp)
  (digest : Digest) (row : AccountToken)

/-- Consume the open tokens of a user for a purpose. -/
def AccountToken.consumeFor : AccountToken :=
  if row.userId = userId ∧ row.purpose = purpose then { row with consumedAt := row.consumedAt.or (some now) }
  else row

theorem AccountToken.consumeFor_key : Keyed.key (row.consumeFor userId purpose now) = Keyed.key row := by
  unfold AccountToken.consumeFor
  split <;> rfl

/-- Consume the open tokens of a user for a purpose. -/
def Directory.consumeTokens : Directory :=
  { d with
    accountTokens := d.accountTokens.rewrite (AccountToken.consumeFor userId purpose now)
      (AccountToken.consumeFor_key userId purpose now) }

/-- Store the digest of a new token. -/
def Directory.insertToken (expires : Timestamp) : Except AccountError Directory := do
  ensure (digest.length = 32 ∧ s.now < expires) .checkViolation
  let tokens ← d.accountTokens.insert ⟨s.uuid .accountToken, userId, purpose, digest, expires, none⟩
    AccountError.uniqueViolation
  return { d with accountTokens := tokens }

/-- The open token with a digest. -/
def Directory.openToken (purpose : TokenPurpose) (digest : Digest) : Option AccountToken :=
  d.accountTokens.rows.find? fun row => row.tokenDigest = digest && row.purpose = purpose &&
    row.consumedAt.isNone && now < row.expiresAt

/-- The open invitation with a digest. -/
def Directory.pendingInvitation : Option OrganizationInvitation :=
  d.invitations.rows.find? fun row => row.tokenDigest = digest && row.status = .pending && now < row.expiresAt

/-- Answer the selected invitations that are open. -/
def OrganizationInvitation.answer (p : OrganizationInvitation → Bool) (status : InvitationStatus)
    (row : OrganizationInvitation) : OrganizationInvitation :=
  if p row ∧ row.status = .pending then { row with status := status } else row

theorem OrganizationInvitation.answer_key (p : OrganizationInvitation → Bool) (status : InvitationStatus)
    (row : OrganizationInvitation) : Keyed.key (row.answer p status) = Keyed.key row := by
  unfold OrganizationInvitation.answer
  split <;> rfl

/-- Answer the selected invitations of the table. -/
def Directory.answerInvitations (p : OrganizationInvitation → Bool) (status : InvitationStatus) : Directory :=
  { d with
    invitations := d.invitations.rewrite (OrganizationInvitation.answer p status)
      (OrganizationInvitation.answer_key p status) }

/-- The role an invitation gives: an owner stays one. -/
def invitedRole (role : MemberRole) : Option MemberRole → MemberRole
  | some .owner => .owner
  | _ => role

/-- Make the invited user an active member if the plan has room. -/
def Directory.joinInvited (organizationId userId : Uuid) (role : MemberRole) : Except AccountError Directory := do
  enforceOrganizationMemberActivationTx s organizationId userId d
  d.setMembership organizationId userId (invitedRole role) .active

/-- Give an account that owns no organization a workspace of its own. -/
def ensurePersonalWorkspace (d : Directory) : Except AccountError Directory :=
  if d.organizationMemberships.rows.any fun row =>
      row.userId = userId && row.role = .owner && row.status = .active then .ok d
  else do
    let workspace := s.uuid .workspace
    let project := s.uuid .workspaceProject
    let organizations ← d.organizations.insert ⟨workspace, .active⟩ AccountError.uniqueViolation
    let memberships ← d.organizationMemberships.insert ⟨workspace, userId, .owner, .active⟩
      AccountError.uniqueViolation
    let projects ← d.projects.insert ⟨project, workspace, .active⟩ AccountError.uniqueViolation
    let projectMemberships ← d.projectMemberships.insert ⟨workspace, project, userId, .admin, .active⟩
      AccountError.uniqueViolation
    return { d with
      organizations := organizations, organizationMemberships := memberships, projects := projects
      projectMemberships := projectMemberships }

/-- An account whose address is verified. -/
def User.activate (user : User) (now : Timestamp) : User :=
  { user with status := .active, emailVerifiedAt := user.emailVerifiedAt.or (some now) }

/-- The name of an account that gives none. -/
def defaultDisplayName (displayName : String) : String :=
  if trimSpace displayName = "" then "ModelDock User" else displayName

/-- Who may register. -/
inductive RegistrationMode
  | closed
  | inviteOnly
  | opened
deriving DecidableEq

/-- What a registration says. -/
structure Registration where
  (email passwordHash displayName : String)
  mode : RegistrationMode
  (registrationDigest organizationInviteDigest verificationDigest : Digest)
  verificationExpires : Timestamp

variable (request : Registration) (email : String)

/-- Use a registration code once. -/
def RegistrationInvite.use (invite : RegistrationInvite) : RegistrationInvite :=
  { invite with
    usedCount := invite.usedCount + 1
    status := if invite.maxUses ≤ invite.usedCount + 1 then .exhausted else invite.status }

/-- The registration code that a registration without an invitation has to show. -/
def requiredCode (invited : Bool) (d : Directory) : Except AccountError (Option RegistrationInvite) :=
  if request.mode = .inviteOnly ∧ invited = false then do
    let invite ← required (d.registrationInvites.rows.find? fun row =>
      row.codeDigest = request.registrationDigest && row.status = .active && s.now < row.expiresAt &&
        row.usedCount < row.maxUses) .inviteRequired
    return some invite
  else .ok none

/-- Count the use of a registration code. -/
def Directory.useCode (code : Option RegistrationInvite) : Directory :=
  match code with
  | some invite => { d with registrationInvites := d.registrationInvites.replace invite.use }
  | none => d

/-- Create an account for an invitation that was mailed to it: it is active and a member at once. -/
def createInvitedAccount (invitation : OrganizationInvitation) (d : Directory) :
    Except AccountError Directory := do
  let users ← d.users.insert
    { id := s.uuid .user, email := email, passwordHash := request.passwordHash
      displayName := defaultDisplayName (trimSpace request.displayName), role := .user, status := .active
      emailVerifiedAt := some s.now } AccountError.uniqueViolation
  let d ← { d with users := users }.joinInvited s invitation.organizationId (s.uuid .user) invitation.role
  ensurePersonalWorkspace s (s.uuid .user)
    (d.answerInvitations (fun row => row.id = invitation.id) .accepted)

/-- Create an account that waits for the verification of its address. -/
def createPendingAccount (d : Directory) : Except AccountError Directory := do
  let users ← d.users.insert
    { id := s.uuid .user, email := email, passwordHash := request.passwordHash
      displayName := defaultDisplayName (trimSpace request.displayName), role := .user
      status := .pendingVerification } AccountError.uniqueViolation
  ensure (request.verificationDigest.length = 32) (.message "verification token digest is required")
  { d with users := users }.insertToken s (s.uuid .user) .emailVerification request.verificationDigest
    request.verificationExpires

section Calls

variable (go : Runtime) (s : Session) (email : String) (digest : Digest)

/-- The invitation a registration shows; it has to be for the address that registers. -/
def shownInvitation (d : Directory) : Except AccountError (Option OrganizationInvitation) :=
  if digest.length = 32 then do
    let invitation ← required (d.pendingInvitation s.now digest) .inviteRequired
    ensure (go.equalFold invitation.email email) .inviteRequired
    return some invitation
  else .ok none

/-- Register an address; one that has an account already is left alone. -/
def registerUser (request : Registration) (d : Directory) : Except AccountError Directory := do
  let email := go.normalize request.email
  ensure (request.mode ≠ .closed) .registrationClosed
  ensure (email ≠ "" ∧ request.passwordHash ≠ "") (.message "email and password hash are required")
  let invitation ← shownInvitation go s email request.organizationInviteDigest d
  let code ← requiredCode s request invitation.isSome d
  match d.userByEmail go email, invitation with
  | some _, _ => return d
  | none, some invitation => createInvitedAccount s request email invitation (d.useCode code)
  | none, none => createPendingAccount s request email (d.useCode code)

/-- Mail another verification token to an address that waits for one. -/
def resendVerification (expires : Timestamp) (d : Directory) : Except AccountError Directory :=
  match d.users.rows.find? fun user =>
      go.toLower user.email = go.toLower email && user.status = .pendingVerification with
  | none => .ok d
  | some user => (d.consumeTokens user.id .emailVerification s.now).insertToken s user.id .emailVerification
      digest expires

/-- Activate the account that a verification token was mailed to. -/
def verifyEmail (d : Directory) : Except AccountError Directory := do
  let token ← required (d.openToken s.now .emailVerification digest) .invalidToken
  let user ← required (d.users.find? token.userId) .invalidToken
  ensure (user.status = .pendingVerification) .invalidToken
  ensurePersonalWorkspace s user.id { d with
    accountTokens := d.accountTokens.replace { token with consumedAt := some s.now }
    users := d.users.replace (user.activate s.now) }

/-- Mail a reset token to the address of an active account. -/
def requestPasswordReset (expires : Timestamp) (d : Directory) : Except AccountError Directory :=
  match d.users.rows.find? fun user =>
      go.toLower user.email = go.toLower email && user.status = .active with
  | none => .ok d
  | some user => (d.consumeTokens user.id .passwordReset s.now).insertToken s user.id .passwordReset
      digest expires

/-- Replace the password of the account that a reset token was mailed to. -/
def resetPassword (passwordHash : String) (d : Directory) : Except AccountError Directory := do
  let token ← required (d.openToken s.now .passwordReset digest) .invalidToken
  let user ← required (d.users.find? token.userId) .invalidToken
  ensure (user.status = .active) .invalidToken
  let users := d.users.replace
    { user with passwordHash := passwordHash, sessionVersion := user.sessionVersion + 1 }
  return { d with users := users }.consumeTokens user.id .passwordReset s.now

/-- Invite an address; an open invitation of the organization to it is revoked. -/
def createOrganizationInvitation (organizationId : Uuid) (email : String) (role : MemberRole)
    (digest : Digest) (expires : Timestamp) (d : Directory) : Except AccountError Directory := do
  let email := go.normalize email
  let d := d.answerInvitations (fun row => row.organizationId = organizationId && go.toLower row.email = email)
    .revoked
  ensure (digest.length = 32 ∧ s.now < expires) .checkViolation
  let _ ← required (d.organizations.find? organizationId) .foreignKeyViolation
  let invitations ← d.invitations.insert ⟨s.uuid .invitation, organizationId, email, role, .pending, digest,
    expires⟩ AccountError.uniqueViolation
  return { d with invitations := invitations }

/-- The account that an invitation is accepted for: one that waits for its verification becomes active,
and an address without an account gets one. -/
def invitedAccount (invitation : OrganizationInvitation) (passwordHash displayName : String)
    (allowCreate : Bool) (d : Directory) : Except AccountError (Directory × Uuid) :=
  match d.userByEmail go invitation.email with
  | none => do
    ensure (allowCreate) .registrationClosed
    ensure (passwordHash ≠ "") .passwordRequired
    let users ← d.users.insert
      { id := s.uuid .user, email := go.toLower invitation.email, passwordHash := passwordHash
        displayName := defaultDisplayName displayName, role := .user, status := .active
        emailVerifiedAt := some s.now } AccountError.uniqueViolation
    return ({ d with users := users }, s.uuid .user)
  | some user =>
    match user.status with
    | .closed => .error .invalidToken
    | .suspended => .error .invalidToken
    | .pendingVerification => .ok ({ d with users := d.users.replace (user.activate s.now) }, user.id)
    | .active => .ok (d, user.id)

/-- Accept the invitation that a token was mailed for. -/
def acceptOrganizationInvitation (passwordHash displayName : String)
    (allowCreate : Bool) (d : Directory) : Except AccountError Directory := do
  let invitation ← required (d.pendingInvitation s.now digest) .invalidToken
  let account ← invitedAccount go s invitation passwordHash displayName allowCreate d
  let d ← account.1.joinInvited s invitation.organizationId account.2 invitation.role
  ensurePersonalWorkspace s account.2
    ((d.answerInvitations (fun row => row.id = invitation.id) .accepted).consumeTokens account.2
      .emailVerification s.now)

/-- Answer an invitation as the user it is for, signed in. -/
def respondOrganizationInvitation (userId invitationId : Uuid) (accept : Bool) (d : Directory) :
    Except AccountError Directory := do
  let user ← required (d.users.find? userId) .invalidToken
  let invitation ← required (d.invitations.find? invitationId) .invalidToken
  ensure (go.toLower user.email = go.toLower invitation.email ∧ invitation.status = .pending ∧
    s.now < invitation.expiresAt) .invalidToken
  if accept then do
    let d ← d.joinInvited s invitation.organizationId userId invitation.role
    return d.answerInvitations (fun row => row.id = invitationId) .accepted
  else return d.answerInvitations (fun row => row.id = invitationId) .rejected

/-- Take an open invitation back. -/
def revokeOrganizationInvitation (organizationId invitationId : Uuid) (d : Directory) :
    Except AccountError Directory := do
  let invitation ← required (d.invitations.find? invitationId) .notFound
  ensure (invitation.organizationId = organizationId ∧ invitation.status = .pending) .notFound
  return d.answerInvitations (fun row => row.id = invitationId) .revoked

/-- Turn down the invitation that a token was mailed for. -/
def rejectOrganizationInvitation (d : Directory) : Except AccountError Directory := do
  let invitation ← required (d.pendingInvitation s.now digest) .invalidToken
  return d.answerInvitations (fun row => row.id = invitation.id) .rejected

/-- Issue a registration code. -/
def createRegistrationInvite (maxUses : ℕ) (expires : Timestamp) (d : Directory) : Except AccountError Directory := do
  ensure (digest.length = 32 ∧ 0 < maxUses ∧ maxUses ≤ 10000 ∧ s.now < expires) .checkViolation
  let invites ← d.registrationInvites.insert ⟨s.uuid .registrationInvite, digest, .active, maxUses, 0, expires⟩
    AccountError.uniqueViolation
  return { d with registrationInvites := invites }

/-- Revoke a registration code. -/
def revokeRegistrationInvite (inviteId : Uuid) (d : Directory) : Except AccountError Directory := do
  let invite ← required (d.registrationInvites.find? inviteId) .notFound
  ensure (invite.status = .active) .notFound
  return { d with registrationInvites := d.registrationInvites.replace { invite with status := .revoked } }

/-- A call about accounts, tokens or invitations. -/
inductive AccountCall
  | registerUser (request : Registration)
  | resendVerification (email : String) (digest : Digest) (expires : Timestamp)
  | verifyEmail (digest : Digest)
  | requestPasswordReset (email : String) (digest : Digest) (expires : Timestamp)
  | resetPassword (digest : Digest) (passwordHash : String)
  | createOrganizationInvitation (organizationId : Uuid) (email : String) (role : MemberRole) (digest : Digest)
    (expires : Timestamp)
  | acceptOrganizationInvitation (digest : Digest) (passwordHash displayName : String) (allowCreate : Bool)
  | respondOrganizationInvitation (userId invitationId : Uuid) (accept : Bool)
  | revokeOrganizationInvitation (organizationId invitationId : Uuid)
  | rejectOrganizationInvitation (digest : Digest)
  | createRegistrationInvite (digest : Digest) (maxUses : ℕ) (expires : Timestamp)
  | revokeRegistrationInvite (inviteId : Uuid)

/-- Run one call in its session. -/
def execAccount (call : AccountCall) (d : Directory) : Except AccountError Directory :=
  match call with
  | .registerUser request => registerUser go s request d
  | .resendVerification email digest expires => resendVerification go s email digest expires d
  | .verifyEmail digest => verifyEmail s digest d
  | .requestPasswordReset email digest expires => requestPasswordReset go s email digest expires d
  | .resetPassword digest passwordHash => resetPassword s digest passwordHash d
  | .createOrganizationInvitation organizationId email role digest expires =>
    createOrganizationInvitation go s organizationId email role digest expires d
  | .acceptOrganizationInvitation digest passwordHash displayName allowCreate =>
    acceptOrganizationInvitation go s digest passwordHash displayName allowCreate d
  | .respondOrganizationInvitation userId invitationId accept =>
    respondOrganizationInvitation go s userId invitationId accept d
  | .revokeOrganizationInvitation organizationId invitationId =>
    revokeOrganizationInvitation organizationId invitationId d
  | .rejectOrganizationInvitation digest => rejectOrganizationInvitation s digest d
  | .createRegistrationInvite digest maxUses expires => createRegistrationInvite s digest maxUses expires d
  | .revokeRegistrationInvite inviteId => revokeRegistrationInvite inviteId d

end Calls

/-- What a committed call does to the table of accounts. -/
inductive AccountEffect (go : Runtime) (s : Session) (d : Directory) : AccountCall → Table User → Prop
  | quiet {call : AccountCall} : AccountEffect go s d call d.users
  | registered {request : Registration} {users : Table User} (user : User)
      (hins : d.users.insert user AccountError.uniqueViolation = .ok users)
      (hst : user.status = .pendingVerification) : AccountEffect go s d (.registerUser request) users
  | registeredInvited {request : Registration} {users : Table User} (invitation : OrganizationInvitation)
      (hshow : request.organizationInviteDigest.length = 32)
      (hf : d.pendingInvitation s.now request.organizationInviteDigest = some invitation) (user : User)
      (hins : d.users.insert user AccountError.uniqueViolation = .ok users)
      (heml : user.email = go.normalize request.email) : AccountEffect go s d (.registerUser request) users
  | verified {digest : Digest} (token : AccountToken)
      (htok : d.openToken s.now .emailVerification digest = some token) (user : User)
      (huser : d.users.find? token.userId = some user) (hst : user.status = .pendingVerification) :
      AccountEffect go s d (.verifyEmail digest) (d.users.replace (user.activate s.now))
  | reset {digest : Digest} {passwordHash : String} (token : AccountToken)
      (htok : d.openToken s.now .passwordReset digest = some token) (user : User)
      (huser : d.users.find? token.userId = some user) (hst : user.status = .active) :
      AccountEffect go s d (.resetPassword digest passwordHash) (d.users.replace
        { user with passwordHash := passwordHash, sessionVersion := user.sessionVersion + 1 })
  | invitedNew {digest : Digest} {passwordHash displayName : String} {allowCreate : Bool} {users : Table User}
      (invitation : OrganizationInvitation) (hf : d.pendingInvitation s.now digest = some invitation)
      (user : User) (hins : d.users.insert user AccountError.uniqueViolation = .ok users)
      (heml : user.email = go.toLower invitation.email) :
      AccountEffect go s d (.acceptOrganizationInvitation digest passwordHash displayName allowCreate) users
  | invitedPending {digest : Digest} {passwordHash displayName : String} {allowCreate : Bool}
      (invitation : OrganizationInvitation) (hf : d.pendingInvitation s.now digest = some invitation)
      (user : User) (huser : d.userByEmail go invitation.email = some user)
      (hst : user.status = .pendingVerification) :
      AccountEffect go s d (.acceptOrganizationInvitation digest passwordHash displayName allowCreate)
        (d.users.replace (user.activate s.now))

variable {go : Runtime} {s : Session} {d d' : Directory} {userId orgId : Uuid} {digest : Digest}

theorem Directory.openToken_eq_some {now : Timestamp} {purpose : TokenPurpose} {token : AccountToken}
    (h : d.openToken now purpose digest = some token) :
    token ∈ d.accountTokens.rows ∧ token.tokenDigest = digest := by
  have hsl := List.find?_some h
  simp only [cond_iff] at hsl
  exact ⟨List.mem_of_find?_eq_some h, hsl.1.1.1⟩

theorem Directory.pendingInvitation_eq_some {now : Timestamp} (h : d.pendingInvitation now digest = some invitation) :
    invitation ∈ d.invitations.rows ∧ invitation.tokenDigest = digest := by
  have hsl := List.find?_some h
  simp only [cond_iff] at hsl
  exact ⟨List.mem_of_find?_eq_some h, hsl.1.1⟩

theorem Directory.insertToken_frame {purpose : TokenPurpose} {expires : Timestamp}
    (h : d.insertToken s userId purpose digest expires = .ok d') :
    ∃ tokens, d' = { d with accountTokens := tokens } := by
  simp only [insertToken, eq_ok] at h
  obtain ⟨_, _, tokens, _, rfl⟩ := h
  exact ⟨tokens, rfl⟩

theorem Directory.joinInvited_frame (h : d.joinInvited s orgId userId role = .ok d') :
    ∃ memberships, d' = { d with organizationMemberships := memberships } := by
  simp only [joinInvited, bind_eq_ok] at h
  obtain ⟨_, _, hset⟩ := h
  exact setMembership_frame hset

theorem Directory.joinInvited_active (h : d.joinInvited s orgId userId role = .ok d') :
    d'.isActiveMember orgId userId := by
  simp only [joinInvited, bind_eq_ok] at h
  obtain ⟨_, _, h⟩ := h
  unfold setMembership at h
  split at h
  · next row hrow =>
    cases h
    have hf : (d.organizationMemberships.replace
        ⟨row.organizationId, row.userId, invitedRole role (some row.role), .active⟩).find?
          (Nat.pair orgId userId) = some _ := find?_replace_of_find? hrow rfl
    simp [isActiveMember, membership?, hf]
  · simp only [eq_ok] at h
    obtain ⟨_, _, memberships, hins, rfl⟩ := h
    have hf : memberships.find? (Nat.pair orgId userId) = some _ :=
      (find?_insert hins _).trans (if_pos rfl)
    simp [isActiveMember, membership?, hf]

theorem ensurePersonalWorkspace_users (h : ensurePersonalWorkspace s userId d = .ok d') : d'.users = d.users := by
  unfold ensurePersonalWorkspace at h
  split at h
  · cases h
    rfl
  · simp only [eq_ok] at h
    obtain ⟨_, _, _, _, _, _, _, _, rfl⟩ := h
    rfl

@[simp]
theorem Directory.useCode_users (d : Directory) (code : Option RegistrationInvite) :
    (d.useCode code).users = d.users := by
  cases code <;> rfl

theorem registerUser_effect {request : Registration} (h : registerUser go s request d = .ok d') :
    AccountEffect go s d (.registerUser request) d'.users := by
  simp only [registerUser, bind_eq_ok] at h
  obtain ⟨_, _, _, _, _, hshow, _, _, h⟩ := h
  split at h
  · cases h
    exact .quiet
  · next _ _ =>
    simp only [createInvitedAccount, bind_eq_ok] at h
    obtain ⟨users, hins, _, hjoin, hwr⟩ := h
    obtain ⟨_, rfl⟩ := joinInvited_frame hjoin
    rw [ensurePersonalWorkspace_users hwr]
    rw [useCode_users] at hins
    unfold shownInvitation at hshow
    split at hshow
    · next hln =>
      simp only [eq_ok, Option.some.injEq] at hshow
      obtain ⟨_, hf, _, _, rfl⟩ := hshow
      exact .registeredInvited _ hln hf _ hins rfl
    · cases hshow
  · simp only [createPendingAccount, bind_eq_ok] at h
    obtain ⟨users, hins, _, _, htk⟩ := h
    obtain ⟨_, rfl⟩ := insertToken_frame htk
    rw [useCode_users] at hins
    exact .registered _ hins rfl

theorem acceptOrganizationInvitation_effect
    (h : acceptOrganizationInvitation go s digest passwordHash displayName allowCreate d = .ok d') :
    AccountEffect go s d (.acceptOrganizationInvitation digest passwordHash displayName allowCreate) d'.users := by
  simp only [acceptOrganizationInvitation, eq_ok] at h
  obtain ⟨invitation, hf, _, hac, _, hjoin, hwr⟩ := h
  obtain ⟨_, rfl⟩ := joinInvited_frame hjoin
  rw [ensurePersonalWorkspace_users hwr]
  unfold invitedAccount at hac
  split at hac
  · simp only [eq_ok] at hac
    obtain ⟨_, _, _, _, _, hins, rfl⟩ := hac
    exact .invitedNew invitation hf _ hins rfl
  · next user huser =>
    split at hac
    · cases hac
    · cases hac
    · next hst =>
      cases hac
      exact .invitedPending invitation hf user huser hst
    · cases hac
      exact .quiet

/-- An accepted invitation makes its address an active member. -/
theorem acceptOrganizationInvitation_active (hf : d.pendingInvitation s.now digest = some invitation)
    (h : acceptOrganizationInvitation go s digest passwordHash displayName allowCreate d = .ok d') :
    ∃ user ∈ d'.users.rows, go.toLower user.email = go.toLower invitation.email ∧
      d'.isActiveMember invitation.organizationId user.id := by
  simp only [acceptOrganizationInvitation, eq_ok, hf, Option.some.injEq] at h
  obtain ⟨_, rfl, account, hac, _, hjd, hwr⟩ := h
  have hjoin := joinInvited_active hjd
  have hact : d'.isActiveMember invitation.organizationId account.2 := by
    have hen := hwr
    unfold ensurePersonalWorkspace at hen
    split at hen
    · cases hen
      exact hjoin
    · simp only [eq_ok] at hen
      obtain ⟨_, _, _, hins, _, _, _, _, rfl⟩ := hen
      have hrow := find?_insert hins (Nat.pair invitation.organizationId account.2)
      simp only [isActiveMember, membership?, hrow] at hjoin ⊢
      split
      · rfl
      · exact hjoin
  obtain ⟨_, rfl⟩ := joinInvited_frame hjd
  rw [ensurePersonalWorkspace_users hwr]
  suffices hacs : ∃ user ∈ account.1.users.rows, go.toLower user.email = go.toLower invitation.email ∧
      user.id = account.2 by
    obtain ⟨user, huser, hem, hid⟩ := hacs
    exact ⟨user, huser, hem, hid ▸ hact⟩
  unfold invitedAccount at hac
  split at hac
  · simp only [eq_ok] at hac
    obtain ⟨_, _, _, _, _, hins, rfl⟩ := hac
    exact ⟨_, (mem_insert hins).mpr (.inl rfl), go.toLower_toLower _, rfl⟩
  · next user huser =>
    obtain ⟨hmem, hem⟩ := queried huser
    split at hac
    · cases hac
    · cases hac
    · cases hac
      have hkey : Keyed.key (user.activate s.now) = Keyed.key user := rfl
      exact ⟨user.activate s.now, (mem_replace hmem hkey).mpr (.inl rfl), hem, rfl⟩
    · cases hac
      exact ⟨user, hmem, hem, rfl⟩

/-- Every account call changes the users as its effect says. -/
theorem execAccount_effect {call : AccountCall} (h : execAccount go s call d = .ok d') :
    AccountEffect go s d call d'.users := by
  cases call with
  | registerUser _ => exact registerUser_effect h
  | acceptOrganizationInvitation digest passwordHash _ _ =>
    exact acceptOrganizationInvitation_effect h
  | verifyEmail digest =>
    simp only [execAccount, verifyEmail, eq_ok] at h
    obtain ⟨token, htk, user, huser, _, hst, hwr⟩ := h
    rw [ensurePersonalWorkspace_users hwr]
    exact .verified token htk user huser hst
  | resetPassword digest passwordHash =>
    simp only [execAccount, resetPassword, eq_ok] at h
    obtain ⟨token, htk, user, huser, _, hst, rfl⟩ := h
    exact .reset token htk user huser hst
  | resendVerification | requestPasswordReset =>
    simp only [execAccount, resendVerification, requestPasswordReset] at h
    split at h
    · cases h
      exact .quiet
    · obtain ⟨tokens, rfl⟩ := insertToken_frame h
      exact .quiet
  | createOrganizationInvitation orgId email _ digest expires =>
    simp only [execAccount, createOrganizationInvitation, eq_ok] at h
    obtain ⟨_, _, _, _, _, _, rfl⟩ := h
    exact .quiet
  | respondOrganizationInvitation _ invitationId _ =>
    simp only [execAccount, respondOrganizationInvitation, bind_eq_ok] at h
    obtain ⟨_, _, _, _, _, _, h⟩ := h
    split at h
    · simp only [eq_ok] at h
      obtain ⟨_, hjoin, rfl⟩ := h
      obtain ⟨_, rfl⟩ := joinInvited_frame hjoin
      exact .quiet
    · cases h
      exact .quiet
  | revokeOrganizationInvitation | createRegistrationInvite | revokeRegistrationInvite =>
    simp only [execAccount, revokeOrganizationInvitation, createRegistrationInvite, revokeRegistrationInvite,
      eq_ok] at h
    obtain ⟨_, _, _, _, rfl⟩ := h
    exact .quiet
  | rejectOrganizationInvitation digest =>
    simp only [execAccount, rejectOrganizationInvitation, eq_ok] at h
    obtain ⟨_, _, rfl⟩ := h
    exact .quiet

end ModelDock.Identity
