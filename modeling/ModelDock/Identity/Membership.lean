import ModelDock.Identity.ApiKeys
import ModelDock.Text.Runtime

/-!
# Memberships and the keys of members

A member leaves an organization by four calls, none of which writes an API key. Whether a secret is accepted
does not depend on its owner's membership, except for keys bound to a team when the user is deleted.
-/

namespace ModelDock.Identity

open Relational Text Table Directory List
open Store (Uuid Timestamp)

variable (d : Directory) (organizationId userId : Uuid)

/-- Write the membership of a user, with the role that the one before may keep. -/
def Directory.setMembership
    (role : Option MemberRole → MemberRole) (status : MemberStatus) : Except AccountError Directory :=
  match d.membership? organizationId userId with
  | some row => .ok { d with
      organizationMemberships := d.organizationMemberships.replace
        ⟨row.organizationId, row.userId, role (some row.role), status⟩ }
  | none => do
    ensure ((d.users.find? userId).isSome ∧ (d.organizations.find? organizationId).isSome)
      .foreignKeyViolation
    let memberships ← d.organizationMemberships.insert ⟨organizationId, userId, role none, status⟩
      AccountError.uniqueViolation
    return { d with organizationMemberships := memberships }

/-- The active owners of an organization besides a user. -/
def Directory.otherOwners : ℕ :=
  d.organizationMemberships.rows.countP fun row => row.organizationId = organizationId &&
    row.userId ≠ userId && row.role = .owner && row.status = .active

/-- The active owners of an organization. -/
def Directory.owners (organizationId : Uuid) : ℕ :=
  d.organizationMemberships.rows.countP fun row => row.organizationId = organizationId &&
    row.role = .owner && row.status = .active

/-- A change leaves an organization an active owner: the member is none, stays one, or is not the only
one. -/
def Directory.keepsOwner (staysOwner : Bool) : Bool :=
  staysOwner || d.otherOwners organizationId userId ≠ 0 ||
    (d.membership? organizationId userId).all fun row => row.role ≠ .owner || row.status ≠ .active

/-- Abort unless the plan of an organization has room for a member that becomes active. -/
def enforceActivation (s : Session) (organizationId userId : Uuid) (activates : Bool) (d : Directory) :
    Except AccountError Unit :=
  if activates then enforceOrganizationMemberActivationTx s organizationId userId d else .ok ()

/-- Set the role and the status of a member; no status stands for an active one. -/
def setOrganizationMember (s : Session) (organizationId userId : Uuid) (role : MemberRole)
    (status : Option MemberStatus) (d : Directory) : Except AccountError Directory := do
  let status := status.getD .active
  let _ ← required (d.organizations.find? organizationId) .notFound
  enforceActivation s organizationId userId
    (status = .active && !d.isActiveMember organizationId userId) d
  ensure (d.keepsOwner organizationId userId (role = .owner && status = .active))
    (.message "an organization must retain at least one active owner")
  d.setMembership organizationId userId (fun _ => role) status

/-- Disable the project memberships of a user in an organization. -/
def ProjectMembership.disableFor (row : ProjectMembership) : ProjectMembership :=
  if row.organizationId = organizationId ∧ row.userId = userId then { row with status := .disabled } else row

theorem ProjectMembership.disableFor_key (row : ProjectMembership) :
    Keyed.key (row.disableFor organizationId userId) = Keyed.key row := by
  unfold ProjectMembership.disableFor
  split <;> rfl

/-- Disable a membership together with the project memberships under it. -/
def Directory.disableMember (row : OrganizationMembership) : Directory :=
  { d with
    projectMemberships := d.projectMemberships.rewrite
      (ProjectMembership.disableFor row.organizationId row.userId)
      (ProjectMembership.disableFor_key row.organizationId row.userId)
    organizationMemberships := d.organizationMemberships.replace { row with status := .disabled } }

/-- Remove a member from an organization. -/
def removeOrganizationMember (d : Directory) : Except AccountError Directory := do
  let row ← required (d.membership? organizationId userId) .notFound
  ensure (row.role = .owner → 1 < d.owners organizationId)
    (.message "an organization must retain at least one active owner")
  return d.disableMember row

/-- Delete a user on behalf of the identity provider of an organization. -/
def deleteSCIMUser (d : Directory) : Except AccountError Directory := do
  let row ← required (d.membership? organizationId userId) .notFound
  ensure (row.role = .owner → d.otherOwners organizationId userId ≠ 0)
    (.message "SCIM cannot deactivate the last organization owner")
  return { d.disableMember row with
    teamMemberships := d.teamMemberships.delete fun membership =>
      membership.organizationId = organizationId && membership.userId = userId
    scimUserLinks := d.scimUserLinks.delete fun link =>
      link.organizationId = organizationId && link.userId = userId }

/-- What the identity provider of an organization says about a user. -/
structure ScimUser where
  organizationId : Uuid
  userId : Option Uuid
  (email displayName externalId : String)
  active : Bool
  passwordHash : String

section Scim

variable (go : Runtime)

/-- The account with an address. -/
def Directory.userByEmail (d : Directory) (email : String) : Option User :=
  d.users.rows.find? fun user => go.toLower user.email = go.toLower email

/-- The user a message of the identity provider is about; a new one is created. -/
def scimSubject (s : Session) (request : ScimUser) (email : String) (d : Directory) :
    Except AccountError (Directory × User) :=
  match request.userId with
  | some userId => do
    let user ← required (d.users.find? userId) .notFound
    ensure ((d.membership? request.organizationId userId).isSome ∧
      (d.scimUserLinks.find? (Nat.pair request.organizationId userId)).isSome) .notFound
    ensure (go.equalFold user.email email)
      (.message "SCIM cannot change a shared RelayDock login email")
    return (d, user)
  | none =>
    match d.userByEmail go email with
    | some user => .ok (d, user)
    | none => do
      ensure (request.passwordHash ≠ "") (.message "password hash is required for a new SCIM user")
      let user : User :=
        { id := s.uuid .user, email := email, passwordHash := request.passwordHash
          displayName := trimSpace request.displayName, role := .user, status := .active
          emailVerifiedAt := some s.now }
      let users ← d.users.insert user AccountError.uniqueViolation
      return ({ d with users := users }, user)

/-- Link a user to its identifier at the identity provider. -/
def Directory.linkScimUser (d : Directory) (organizationId userId : Uuid) (externalId : String) :
    Except AccountError Directory := do
  ensure (externalId = "" ∨ d.scimUserLinks.rows.all fun link => link.organizationId ≠ organizationId ||
    link.userId = userId || link.externalId ≠ externalId) .uniqueViolation
  match d.scimUserLinks.find? (Nat.pair organizationId userId) with
  | some link => return { d with
      scimUserLinks := d.scimUserLinks.replace ⟨link.organizationId, link.userId, externalId⟩ }
  | none => do
    let links ← d.scimUserLinks.insert ⟨organizationId, userId, externalId⟩ AccountError.uniqueViolation
    return { d with scimUserLinks := links }

/-- Store the display name of a user unless none is given. -/
def Directory.rename (d : Directory) (user : User) (displayName : String) : Directory :=
  if displayName = "" then d
  else { d with users := d.users.replace { user with displayName := displayName } }

/-- The role of a member that the identity provider writes: owners and administrators stay what they
are. -/
def scimRole : Option MemberRole → MemberRole
  | some .owner => .owner
  | some .admin => .admin
  | _ => .member

/-- Create or change a user on behalf of the identity provider of an organization. -/
def upsertSCIMUser (s : Session) (request : ScimUser) (d : Directory) : Except AccountError Directory := do
  let email := go.normalize request.email
  let displayName := trimSpace request.displayName
  let externalId := trimSpace request.externalId
  ensure (email ≠ "" ∧ '@' ∈ email.toList ∧ externalId.utf8ByteSize ≤ 255) (.message "invalid SCIM user")
  let subject ← scimSubject go s request email d
  ensure (subject.1.keepsOwner request.organizationId subject.2.id request.active)
    (.message "SCIM cannot deactivate the last organization owner")
  enforceActivation s request.organizationId subject.2.id request.active subject.1
  let d ← (subject.1.rename subject.2 displayName).setMembership request.organizationId subject.2.id scimRole
    (if request.active then .active else .disabled)
  d.linkScimUser request.organizationId subject.2.id externalId

/-- A call that writes memberships. -/
inductive MemberCall
  | setOrganizationMember (organizationId userId : Uuid) (role : MemberRole) (status : Option MemberStatus)
  | removeOrganizationMember (organizationId userId : Uuid)
  | upsertSCIMUser (request : ScimUser)
  | deleteSCIMUser (organizationId userId : Uuid)

/-- Run one call in its session. -/
def execMember (invocation : Session × MemberCall) (d : Directory) : Except AccountError Directory :=
  match invocation.2 with
  | .setOrganizationMember organizationId userId role status =>
    setOrganizationMember invocation.1 organizationId userId role status d
  | .removeOrganizationMember organizationId userId => removeOrganizationMember organizationId userId d
  | .upsertSCIMUser request => upsertSCIMUser go invocation.1 request d
  | .deleteSCIMUser organizationId userId => deleteSCIMUser organizationId userId d

end Scim

/-- How much a role lets its member do; an administrator of the platform ranks as an owner. -/
def MemberRole.rank : MemberRole → ℕ
  | .viewer => 1
  | .member => 1
  | .admin => 3
  | .owner => 4

/-- The rank of a project role. -/
def ProjectRole.rank : ProjectRole → ℕ
  | .viewer => 1
  | .developer => 2
  | .admin => 3

/-- The active roles of a user in a project and in its organization. -/
structure ProjectAccess where
  (organizationId projectId : Uuid)
  organizationRole : Option MemberRole
  projectRole : Option ProjectRole

/-- The rank of the role that counts, or nought if there is none. -/
def ProjectAccess.effectiveRank (access : ProjectAccess) (role : UserRole) : ℕ :=
  if role = .superAdmin then MemberRole.owner.rank
  else match access.organizationRole, access.projectRole with
    | some .owner, _ => MemberRole.owner.rank
    | some .admin, _ => MemberRole.admin.rank
    | _, some role => role.rank
    | some .viewer, none => MemberRole.viewer.rank
    | _, none => 0

/-- What a user may do in a project: an active one, of an active organization the user is an active member of. -/
def checkProjectAccess (userId projectId : Uuid) (minimumRole : ProjectRole) (d : Directory) :
    Except AccountError ProjectAccess := do
  let project ← required (d.projects.find? projectId) .notFound
  let organization ← required (d.organizations.find? project.organizationId) .notFound
  let user ← required (d.users.find? userId) .notFound
  ensure (project.status = .active ∧ organization.status = .active ∧ user.status = .active) .notFound
  ensure (user.role = .superAdmin ∨ d.isActiveMember project.organizationId userId) .notFound
  let access : ProjectAccess :=
    ⟨project.organizationId, projectId,
      ((d.membership? project.organizationId userId).filter (·.status = .active)).map (·.role),
      ((d.projectMemberships.find? (Nat.pair projectId userId)).filter (·.status = .active)).map (·.role)⟩
  ensure (minimumRole.rank ≤ access.effectiveRank user.role) .notFound
  return access

/-- The gateway lets a secret through: it is accepted, its owner may develop in its project, and the check of the
risk of its owner and its organization, whose answer is given, allows it. -/
def gatewayAuth (riskCheck : Uuid → Uuid → Bool) (now : Timestamp) (hash : Digest) (d : Directory) :
    Option (ApiKey × ApiKeyVersion) :=
  (authenticateAPIKeyVersion now hash d).filter fun found =>
    (checkProjectAccess found.1.userId found.1.projectId .developer d).isOk &&
      riskCheck found.1.userId found.1.organizationId

/-- What a foreign key says: a key names the organization of its project. -/
def Referential (d : Directory) : Prop :=
  ∀ key ∈ d.apiKeys.rows, ∀ project ∈ d.projects.rows, project.id = key.projectId →
    project.organizationId = key.organizationId

/-- No key or project has changed, and every account is still there. -/
structure SameAccess (d d' : Directory) : Prop where
  projects : d'.projects = d.projects
  apiKeys : d'.apiKeys = d.apiKeys
  users : ∀ user ∈ d.users.rows, ∃ user' ∈ d'.users.rows, user'.id = user.id

variable {go : Runtime} {s : Session} {d d' d'' : Directory} {orgId userId : Uuid}
  {role : Option MemberRole → MemberRole} {status : MemberStatus}

theorem SameAccess.of_eq (hpr : d'.projects = d.projects) (hkeys : d'.apiKeys = d.apiKeys)
    (hus : d'.users = d.users) : SameAccess d d' :=
  ⟨hpr, hkeys, fun user huser => ⟨user, hus ▸ huser, rfl⟩⟩

theorem SameAccess.trans (h : SameAccess d d') (h' : SameAccess d' d'') : SameAccess d d'' := by
  refine ⟨h'.projects.trans h.projects, h'.apiKeys.trans h.apiKeys, fun user huser => ?_⟩
  obtain ⟨user', huser', hid⟩ := h.users user huser
  obtain ⟨user'', huser'', hid'⟩ := h'.users user' huser'
  exact ⟨user'', huser'', hid'.trans hid⟩

theorem Directory.setMembership_frame (h : d.setMembership orgId userId role status = .ok d') :
    ∃ memberships, d' = { d with organizationMemberships := memberships } := by
  unfold setMembership at h
  split at h
  · cases h
    exact ⟨_, rfl⟩
  · simp only [eq_ok] at h
    obtain ⟨_, _, memberships, _, rfl⟩ := h
    exact ⟨memberships, rfl⟩

theorem Directory.setMembership_same (h : d.setMembership orgId userId role status = .ok d') :
    SameAccess d d' := by
  obtain ⟨_, rfl⟩ := setMembership_frame h
  exact SameAccess.of_eq rfl rfl rfl

theorem scimSubject_same {req : ScimUser} {email : String} {subject : Directory × User}
    (h : scimSubject go s req email d = .ok subject) :
    SameAccess d subject.1 ∧ subject.2 ∈ subject.1.users.rows := by
  unfold scimSubject at h
  split at h
  · simp only [eq_ok] at h
    obtain ⟨user, huser, _, _, _, _, rfl⟩ := h
    exact ⟨SameAccess.of_eq rfl rfl rfl, (found huser).1⟩
  · split at h
    · next user huser =>
      cases h
      exact ⟨SameAccess.of_eq rfl rfl rfl, mem_of_find?_eq_some huser⟩
    · simp only [eq_ok] at h
      obtain ⟨_, _, _, hus, rfl⟩ := h
      refine ⟨⟨rfl, rfl, fun user huser => ?_⟩, (mem_insert hus).mpr (.inl rfl)⟩
      exact ⟨user, (mem_insert hus).mpr (.inr huser), rfl⟩

theorem Directory.rename_same {user : User} (huser : user ∈ d.users.rows) (displayName : String) :
    SameAccess d (d.rename user displayName) := by
  unfold rename
  split
  · exact SameAccess.of_eq rfl rfl rfl
  · refine ⟨rfl, rfl, fun other hne => ?_⟩
    have hkey : Keyed.key { user with displayName := displayName } = Keyed.key user := rfl
    by_cases hsame : other.id = user.id
    · obtain rfl : other = user := eq_of_rowId hne huser hsame
      exact ⟨{ other with displayName := displayName }, (mem_replace hne hkey).mpr (.inl rfl), rfl⟩
    · exact ⟨other, (mem_replace huser hkey).mpr (.inr ⟨hne, hsame⟩), rfl⟩

theorem Directory.linkScimUser_same {externalId : String}
    (h : d.linkScimUser orgId userId externalId = .ok d') :
    SameAccess d d' := by
  simp only [linkScimUser, bind_eq_ok] at h
  obtain ⟨_, _, h⟩ := h
  split at h
  · cases h
    exact SameAccess.of_eq rfl rfl rfl
  · simp only [eq_ok] at h
    obtain ⟨_, _, rfl⟩ := h
    exact SameAccess.of_eq rfl rfl rfl

theorem execMember_same {call : MemberCall} (h : execMember go (s, call) d = .ok d') : SameAccess d d' := by
  cases call with
  | setOrganizationMember orgId userId _ _ =>
    simp only [execMember, setOrganizationMember, bind_eq_ok] at h
    obtain ⟨_, _, _, _, _, _, hset⟩ := h
    exact setMembership_same hset
  | removeOrganizationMember orgId userId =>
    simp only [execMember, removeOrganizationMember, eq_ok] at h
    obtain ⟨row, _, _, _, rfl⟩ := h
    exact SameAccess.of_eq rfl rfl rfl
  | upsertSCIMUser req =>
    simp only [execMember, upsertSCIMUser, bind_eq_ok] at h
    obtain ⟨_, _, _, hsub, _, _, _, _, _, hjoin, hld⟩ := h
    obtain ⟨hfs, huser⟩ := scimSubject_same hsub
    have hrn := rename_same huser (trimSpace req.displayName)
    exact ((hfs.trans hrn).trans (setMembership_same hjoin)).trans (linkScimUser_same hld)
  | deleteSCIMUser orgId userId =>
    simp only [execMember, deleteSCIMUser, eq_ok] at h
    obtain ⟨row, _, _, _, rfl⟩ := h
    exact SameAccess.of_eq rfl rfl rfl

theorem referential_run (h : Referential d) (calls : List (Session × MemberCall)) :
    Referential (run (execMember go) d calls) := by
  have hsame : ((run (execMember go) d calls).apiKeys, (run (execMember go) d calls).projects) =
      (d.apiKeys, d.projects) :=
    run_unchanged (fun d => (d.apiKeys, d.projects)) fun _ _ _ hexec =>
      Prod.ext (execMember_same hexec).apiKeys (execMember_same hexec).projects
  obtain ⟨hkeys, hpr⟩ := Prod.mk.inj hsame
  unfold Referential
  rw [hkeys, hpr]
  exact h

variable {now : Timestamp} {hash : Digest} {key : ApiKey} {version : ApiKeyVersion}

theorem authenticateAPIKeyVersion_eq_some (h : authenticateAPIKeyVersion now hash d = some (key, version)) :
    key ∈ d.apiKeys.rows ∧ d.ownerAllows key := by
  obtain ⟨row, _, hf⟩ := exists_of_findSome?_eq_some h
  simp only [Option.ite_none_right_eq_some, Option.bind_eq_some_iff, Option.some.injEq] at hf
  obtain ⟨_, owner, hown, hac, rfl, rfl⟩ := hf
  simp only [accepts, Bool.and_eq_true] at hac
  exact ⟨(found hown).1, hac.1.1.1.1.2⟩

/-- An accepted key of one who is no active member of its organization opens its project to an administrator of the
platform only. -/
theorem access_of_left (hall : d.ownerAllows key)
    (hown : ∀ project ∈ d.projects.rows, project.id = key.projectId → project.organizationId = key.organizationId)
    (hleft : d.isActiveMember key.organizationId key.userId = false) :
    (checkProjectAccess key.userId key.projectId .developer d).isOk =
      (d.users.find? key.userId).any fun user => user.role = .superAdmin := by
  simp only [ownerAllows, Bool.and_eq_true, Option.any_eq_true, decide_eq_true_eq] at hall
  obtain ⟨⟨⟨⟨user, huser, hst⟩, project, hpr, hac⟩, organization, horg, hopen⟩, _⟩ := hall
  obtain ⟨hmem, hid⟩ := found hpr
  have hown := hown project hmem hid
  simp only [checkProjectAccess, hpr, horg, huser, hown, required, ok_bind, ensure, hac, hopen,
    hst, hleft]
  by_cases hrole : user.role = .superAdmin
  · simp [hrole, ProjectAccess.effectiveRank]
    rfl
  · simp [hrole]
    rfl

/-- After any history of memberships that leaves the owner of a key no active member of its organization, the gateway
lets an accepted secret of the key through exactly if the owner administers the platform. -/
theorem gatewayAuth_after_leaving_iff (go : Runtime) (riskCheck : Uuid → Uuid → Bool) (hreferential : Referential d)
    (calls : List (Session × MemberCall)) (now : Timestamp) (hash : Digest) (key : ApiKey) (version : ApiKeyVersion)
    (hleft : (run (execMember go) d calls).isActiveMember key.organizationId key.userId = false) :
    gatewayAuth riskCheck now hash (run (execMember go) d calls) = some (key, version) ↔
      authenticateAPIKeyVersion now hash (run (execMember go) d calls) = some (key, version) ∧
        (((run (execMember go) d calls).users.find? key.userId).any fun user => user.role = .superAdmin) ∧
        riskCheck key.userId key.organizationId := by
  rw [gatewayAuth, Option.filter_eq_some_iff]
  refine and_congr_right fun hac => ?_
  obtain ⟨hkey, hall⟩ := authenticateAPIKeyVersion_eq_some hac
  rw [Bool.and_eq_true, access_of_left hall (referential_run hreferential calls key hkey) hleft]

theorem demoDirectory_referential : Referential demoDirectory := by
  simp [Referential, demoDirectory, tableOf]

/-- The gateway lets the secret of a member through, and not after the identity provider has deleted the user. -/
theorem gatewayAuth_after_leaving_demo : ∃ key version,
    gatewayAuth (fun _ _ => true) 5 [1] demoDirectory = some (key, version) ∧
      gatewayAuth (fun _ _ => true) 5 [1] (run (execMember asciiRuntime) demoDirectory
        [(demoSession 1, .deleteSCIMUser 1 2)]) ≠ some (key, version) := by
  refine ⟨⟨1, 2, 1, 1, none, "rdk_live", [1], .active, none⟩, ⟨1, 1, 1, "rdk_live", [1], .active, 0, none⟩, rfl,
    fun haf => ?_⟩
  have hadm := ((gatewayAuth_after_leaving_iff asciiRuntime _ demoDirectory_referential
    [(demoSession 1, .deleteSCIMUser 1 2)] 5 [1] _ _ (by decide +kernel)).mp haf).2.1
  exact absurd hadm (by decide +kernel)

/-- The calls that end the membership of the demo member. -/
def leavingCalls : List MemberCall :=
  [.removeOrganizationMember 1 2, .setOrganizationMember 1 2 .member (some .disabled), .deleteSCIMUser 1 2,
    .upsertSCIMUser ⟨1, none, "member@example.com", "", "", false, ""⟩]

/-- After any one of the calls that end a membership, the key of the member is still accepted. -/
theorem left_member_key_accepted : leavingCalls ≠ [] ∧ ∀ call ∈ leavingCalls,
    (run (execMember asciiRuntime) demoDirectory [(demoSession 1, call)]).isActiveMember 1 2 = false ∧
      (authenticateAPIKeyVersion 5 [1]
        (run (execMember asciiRuntime) demoDirectory [(demoSession 1, call)])).isSome := by
  decide +kernel

end ModelDock.Identity
