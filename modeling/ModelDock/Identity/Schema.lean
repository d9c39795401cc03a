import Mathlib.Data.Nat.Pairing
import ModelDock.Relational.View
import ModelDock.Store.Amount

/-!
# Accounts, tenants and API keys

`Directory` is the state of users, memberships, projects, teams, API keys with their versions, invitations and
tokens. Names, metadata and quotas are left out; what a plan allows is given with the state.
-/

namespace ModelDock.Identity

open Relational
open Store (Uuid Timestamp)

/-- The digest of a secret or a token. -/
abbrev Digest := List UInt8

/-- Why an account call fails: the errors the code names, its other messages, then those of the
database. -/
inductive AccountError
  | notFound
  | invalidToken
  | inviteRequired
  | registrationClosed
  | passwordRequired
  | mfaReplay
  | entitlementRequired
  | entitlementExceeded
  | message (text : String)
  | noRows
  | uniqueViolation
  | checkViolation
  | foreignKeyViolation
deriving DecidableEq

/-- The platform role of a user. -/
inductive UserRole
  | superAdmin
  | admin
  | user
deriving DecidableEq

/-- The user administers the platform. -/
def UserRole.isAdministrator (role : UserRole) : Bool := role = .superAdmin || role = .admin

/-- The life of an account. -/
inductive UserStatus
  | pendingVerification
  | active
  | suspended
  | closed
deriving DecidableEq

/-- A one-time code secret as it is stored, encrypted. -/
abbrev Envelope := List UInt8

/-- A row of `users`. Whether the account is frozen or its payments are blocked is one column here. -/
structure User where
  id : Uuid
  (email passwordHash displayName : String)
  role : UserRole
  status : UserStatus
  emailVerifiedAt : Option Timestamp := none
  sessionVersion : ℕ := 0
  totpSecret : Option Envelope := none
  totpPendingSecret : Option Envelope := none
  totpPendingExpiresAt : Option Timestamp := none
  totpEnrolledAt : Option Timestamp := none
  totpLastUsedStep : Option ℕ := none
  riskBlocked : Bool := false
deriving DecidableEq

/-- Key columns of `users`. -/
structure UserKey where
  id : Uuid
  email : String
deriving DecidableEq

instance : Key UserKey where
  id := UserKey.id
  clash a b := a.id = b.id || a.email = b.email

instance : Keyed User UserKey where
  key user := ⟨user.id, user.email⟩

/-- The status of an organization or a project. -/
inductive TenantStatus
  | active
  | archived
deriving DecidableEq

/-- The columns of `organizations` that other tables depend on. -/
structure Organization where
  id : Uuid
  status : TenantStatus

instance : Keyed Organization RowKey where
  key organization := ⟨organization.id⟩

/-- The columns of `projects` that other tables depend on. -/
structure Project where
  (id organizationId : Uuid)
  status : TenantStatus

instance : Keyed Project RowKey where
  key project := ⟨project.id⟩

/-- The status of a team. -/
inductive TeamStatus
  | active
  | disabled
  | archived
deriving DecidableEq

/-- The columns of `teams` that other tables depend on. -/
structure Team where
  (id organizationId : Uuid)
  status : TeamStatus

instance : Keyed Team RowKey where
  key team := ⟨team.id⟩

/-- The role of a member in an organization. -/
inductive MemberRole
  | owner
  | admin
  | member
  | viewer
deriving DecidableEq

/-- The status of a membership. -/
inductive MemberStatus
  | active
  | disabled
deriving DecidableEq

/-- The key of a row that stands for a user in something else. -/
structure MemberKey where
  (scopeId userId : Uuid)
deriving DecidableEq

instance : Key MemberKey where
  id key := Nat.pair key.scopeId key.userId
  clash a b := a.scopeId = b.scopeId && a.userId = b.userId
  clash_of_id a b h := by
    obtain ⟨hscope, huser⟩ := Nat.pair_eq_pair.mp h
    simp [hscope, huser]

/-- A row of `organization_memberships`. -/
structure OrganizationMembership where
  (organizationId userId : Uuid)
  role : MemberRole
  status : MemberStatus

instance : Keyed OrganizationMembership MemberKey where
  key membership := ⟨membership.organizationId, membership.userId⟩

/-- The role of a member in a project. -/
inductive ProjectRole
  | admin
  | developer
  | viewer
deriving DecidableEq

/-- A row of `project_memberships`. -/
structure ProjectMembership where
  (organizationId projectId userId : Uuid)
  role : ProjectRole
  status : MemberStatus

instance : Keyed ProjectMembership MemberKey where
  key membership := ⟨membership.projectId, membership.userId⟩

/-- A row of `team_memberships`, without the role. -/
structure TeamMembership where
  (teamId organizationId userId : Uuid)
  status : MemberStatus

instance : Keyed TeamMembership MemberKey where
  key membership := ⟨membership.teamId, membership.userId⟩

/-- A row of `scim_resource_links` for a user. -/
structure ScimUserLink where
  (organizationId userId : Uuid)
  externalId : String

instance : Keyed ScimUserLink MemberKey where
  key link := ⟨link.organizationId, link.userId⟩

/-- The status of an API key. -/
inductive ApiKeyStatus
  | active
  | disabled
  | revoked
deriving DecidableEq

/-- A row of `api_keys`. A rotation writes the prefix, the digest and the expiry, so uniqueness of the
digest is checked where it is written. -/
structure ApiKey where
  (id userId organizationId projectId : Uuid)
  teamId : Option Uuid
  keyPrefix : String
  keyHash : Digest
  status : ApiKeyStatus
  expiresAt : Option Timestamp

instance : Keyed ApiKey RowKey where
  key row := ⟨row.id⟩

/-- The status of a version. Only a version in its grace period has an end of grace. -/
inductive VersionStatus
  | active
  | grace (expiresAt : Timestamp)
  | revoked
deriving DecidableEq

/-- A row of `api_key_versions`. -/
structure ApiKeyVersion where
  (id apiKeyId : Uuid)
  version : ℕ
  keyPrefix : String
  keyHash : Digest
  status : VersionStatus
  validFrom : Timestamp
  expiresAt : Option Timestamp

/-- Key columns of `api_key_versions`. -/
structure ApiKeyVersionKey where
  (id apiKeyId : Uuid)
  version : ℕ
  keyHash : Digest
deriving DecidableEq

instance : Key ApiKeyVersionKey where
  id := ApiKeyVersionKey.id
  clash a b := a.id = b.id || a.keyHash = b.keyHash || (a.apiKeyId = b.apiKeyId && a.version = b.version)

instance : Keyed ApiKeyVersion ApiKeyVersionKey where
  key row := ⟨row.id, row.apiKeyId, row.version, row.keyHash⟩

/-- What an account token is for. -/
inductive TokenPurpose
  | emailVerification
  | passwordReset
deriving DecidableEq

/-- A row of `account_tokens`. -/
structure AccountToken where
  (id userId : Uuid)
  purpose : TokenPurpose
  tokenDigest : Digest
  expiresAt : Timestamp
  consumedAt : Option Timestamp

/-- Key columns of a token or an invitation. -/
structure DigestKey where
  id : Uuid
  digest : Digest
deriving DecidableEq

instance : Key DigestKey where
  id := DigestKey.id
  clash a b := a.id = b.id || a.digest = b.digest

instance : Keyed AccountToken DigestKey where
  key token := ⟨token.id, token.tokenDigest⟩

/-- The life of an invitation. -/
inductive InvitationStatus
  | pending
  | accepted
  | rejected
  | revoked
deriving DecidableEq

/-- A row of `organization_invitations`. -/
structure OrganizationInvitation where
  (id organizationId : Uuid)
  email : String
  role : MemberRole
  status : InvitationStatus
  tokenDigest : Digest
  expiresAt : Timestamp

instance : Keyed OrganizationInvitation DigestKey where
  key invitation := ⟨invitation.id, invitation.tokenDigest⟩

/-- The life of a registration code. -/
inductive InviteStatus
  | active
  | revoked
  | exhausted
deriving DecidableEq

/-- A row of `registration_invites`. -/
structure RegistrationInvite where
  id : Uuid
  codeDigest : Digest
  status : InviteStatus
  (maxUses usedCount : ℕ)
  expiresAt : Timestamp

instance : Keyed RegistrationInvite DigestKey where
  key invite := ⟨invite.id, invite.codeDigest⟩

/-- What a plan limits. -/
inductive Entitlement
  | apiKeyCount
  | organizationMemberCount
deriving DecidableEq

/-- Every table that accounts, tenants and keys read or write, and what the effective plan of an
organization allows at a time. -/
structure Directory where
  users : Table User
  organizations : Table Organization
  projects : Table Project
  teams : Table Team
  organizationMemberships : Table OrganizationMembership
  projectMemberships : Table ProjectMembership
  teamMemberships : Table TeamMembership
  scimUserLinks : Table ScimUserLink
  apiKeys : Table ApiKey
  apiKeyVersions : Table ApiKeyVersion
  accountTokens : Table AccountToken
  invitations : Table OrganizationInvitation
  registrationInvites : Table RegistrationInvite
  entitlement : Timestamp → Uuid → Entitlement → Option ℤ

/-- The places where these calls draw a fresh identifier. -/
inductive Draw
  | version
  | repairedVersion
  | user
  | accountToken
  | invitation
  | workspace
  | workspaceProject
  | registrationInvite
deriving DecidableEq

/-- What one call gets from outside the database: the time its transaction starts at, the clock it
reads itself, and the identifiers it draws. -/
structure Session where
  (now clock : Timestamp)
  uuid : Draw → Uuid

/-- Abort unless the plan of an organization allows an increment. -/
def enforceIntegerEntitlementTx (s : Session) (organizationId : Uuid) (entitlement : Entitlement)
    (currentCount increment : ℤ) (d : Directory) : Except AccountError Unit := do
  let _ ← required (d.organizations.find? organizationId) .notFound
  let limit ← required (d.entitlement s.now organizationId entitlement) .entitlementRequired
  ensure (currentCount + increment ≤ limit) .entitlementExceeded

/-- The membership of a user in an organization. -/
def Directory.membership? (d : Directory) (organizationId userId : Uuid) : Option OrganizationMembership :=
  d.organizationMemberships.find? (Nat.pair organizationId userId)

theorem Directory.membership?_eq_some {d : Directory} {orgId userId : Uuid}
    {row : OrganizationMembership} (h : d.membership? orgId userId = some row) :
    row ∈ d.organizationMemberships.rows ∧ row.organizationId = orgId ∧ row.userId = userId := by
  obtain ⟨hmem, hid⟩ := Table.found h
  obtain ⟨horg, huser⟩ := Nat.pair_eq_pair.mp hid
  exact ⟨hmem, horg, huser⟩

/-- The user is an active member of the organization. -/
def Directory.isActiveMember (d : Directory) (organizationId userId : Uuid) : Bool :=
  (d.membership? organizationId userId).any fun membership => membership.status = .active

/-- Abort unless the plan of an organization allows another active member. Platform administrators do
not count. -/
def enforceOrganizationMemberActivationTx (s : Session) (organizationId userId : Uuid) (d : Directory) :
    Except AccountError Unit := do
  let _ ← required (d.organizations.find? organizationId) .notFound
  if d.isActiveMember organizationId userId then return ()
  else
    let user ← required (d.users.find? userId) .noRows
    if user.role.isAdministrator then return ()
    else
      let activeMembers := d.organizationMemberships.rows.countP fun membership =>
        membership.organizationId = organizationId && membership.status = .active &&
          (d.users.find? membership.userId).any fun member => !member.role.isAdministrator
      enforceIntegerEntitlementTx s organizationId .organizationMemberCount activeMembers 1 d

/-- One organization with a project, an owner and a member; the member has an API key with one version. -/
def demoDirectory : Directory where
  users := tableOf [⟨1, "owner@example.com", "owner-hash", "Owner", .user, .active, some 0, 0, none, none, none,
      none, none, false⟩,
    ⟨2, "member@example.com", "member-hash", "Member", .user, .active, some 0, 0, none, none, none, none, none,
      false⟩] (by decide)
  organizations := tableOf [⟨1, .active⟩] (by decide)
  projects := tableOf [⟨1, 1, .active⟩] (by decide)
  teams := .empty
  organizationMemberships := tableOf [⟨1, 1, .owner, .active⟩, ⟨1, 2, .member, .active⟩] (by decide)
  projectMemberships := tableOf [⟨1, 1, 2, .developer, .active⟩] (by decide)
  teamMemberships := .empty
  scimUserLinks := .empty
  apiKeys := tableOf [⟨1, 2, 1, 1, none, "rdk_live", [1], .active, none⟩] (by decide)
  apiKeyVersions := tableOf [⟨1, 1, 1, "rdk_live", [1], .active, 0, none⟩] (by decide)
  accountTokens := .empty
  invitations := .empty
  registrationInvites := .empty
  entitlement _ _ _ := some 10

/-- The session of the `n`-th call, at the time `n`. -/
def demoSession (n : ℕ) : Session where
  now := n
  clock := n
  uuid
    | .version => 100 * n
    | .repairedVersion => 100 * n + 1
    | .user => 100 * n + 2
    | .accountToken => 100 * n + 3
    | .invitation => 100 * n + 4
    | .workspace => 100 * n + 5
    | .workspaceProject => 100 * n + 6
    | .registrationInvite => 100 * n + 7

end ModelDock.Identity
