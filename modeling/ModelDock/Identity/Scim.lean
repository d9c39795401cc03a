import ModelDock.Identity.Membership

/-!
# Identity providers and the other organizations of a user

The identity provider of an organization writes rows of its own organization only, except for the display name
in the shared table of users.
-/

namespace ModelDock.Identity

open Relational Text Table Directory
open Store (Uuid Timestamp)

variable {request : ScimUser}

/-- A user as the protocol describes one. -/
structure ScimResource where
  userName : String := ""
  displayName : String := ""
  externalId : String := ""
  formattedName : String := ""
  givenName : String := ""
  familyName : String := ""
  /-- The addresses, and whether each is the primary one. -/
  emails : List (String × Bool) := []
  active : Option Bool := none

/-- A change of one attribute by a patch. -/
inductive ScimEdit
  | active (value : Bool)
  | displayName (value : String)
  | userName (value : String)
  | externalId (value : String)

/-- Apply one change of a patch. -/
def ScimEdit.apply (resource : ScimResource) : ScimEdit → ScimResource
  | .active value => { resource with active := some value }
  | .displayName value => { resource with displayName := value }
  | .userName value => { resource with userName := value }
  | .externalId value => { resource with externalId := value }

/-- A message that replaces a user: what it leaves out stays. -/
structure ScimReplacement where
  userName : Option String := none
  displayName : Option String := none
  externalId : Option String := none
  name : Option (String × String × String) := none
  emails : Option (List (String × Bool)) := none
  active : Option Bool := none

/-- Apply a message that replaces a user. -/
def ScimReplacement.apply (resource : ScimResource) (message : ScimReplacement) : ScimResource where
  userName := message.userName.getD resource.userName
  displayName := message.displayName.getD resource.displayName
  externalId := message.externalId.getD resource.externalId
  formattedName := (message.name.map fun name => name.1).getD resource.formattedName
  givenName := (message.name.map fun name => name.2.1).getD resource.givenName
  familyName := (message.name.map fun name => name.2.2).getD resource.familyName
  emails := message.emails.getD resource.emails
  active := message.active.or resource.active

/-- The display name a message gives. -/
def scimDisplayName (resource : ScimResource) : String :=
  if trimSpace resource.displayName ≠ "" then trimSpace resource.displayName
  else if trimSpace resource.formattedName ≠ "" then trimSpace resource.formattedName
  else trimSpace (resource.givenName ++ " " ++ resource.familyName)

section Calls

variable (go : Runtime) (resource : ScimResource) (organizationId userId : Uuid) (d : Directory)

/-- The address a message gives: the user name, the primary address, or the first one. -/
def scimUserEmail : String :=
  if trimSpace resource.userName ≠ "" then go.normalize resource.userName
  else match resource.emails.find? fun email => email.2 && trimSpace email.1 ≠ "" with
    | some email => go.normalize email.1
    | none => (resource.emails.head?.map fun email => go.normalize email.1).getD ""

/-- The address is one, and its domain is allowed where domains are listed. -/
def scimEmailAllowed (allowedDomains : List String) (email : String) : Bool :=
  let domain := (email.toList.reverse.takeWhile fun c => c ≠ '@').reverse
  '@' ∈ email.toList && domain ≠ [] && domain.length + 1 < email.toList.length &&
    (allowedDomains = [] || allowedDomains.any fun allowed =>
      go.toLower (String.ofList domain) = go.toLower allowed)

/-- A request of an identity provider. -/
inductive ScimCall
  | create (resource : ScimResource) (passwordHash : String)
  | replace (userId : Uuid) (message : ScimReplacement)
  | patch (userId : Uuid) (edits : List ScimEdit)
  | delete (userId : Uuid)

variable {inv : Session × List String × ScimCall}

/-- What the provider of an organization is told about a user. -/
def scimUser : Except AccountError ScimResource := do
  let user ← required (d.users.find? userId) .notFound
  let membership ← required (d.membership? organizationId userId) .notFound
  let link ← required (d.scimUserLinks.find? (Nat.pair organizationId userId)) .notFound
  return {
    userName := user.email, displayName := user.displayName, externalId := link.externalId
    active := some (membership.status = .active) }

/-- What a message says about a user of an organization. -/
def ScimResource.toUser (organizationId : Uuid) (userId : Option Uuid) (passwordHash : String) : ScimUser :=
  ⟨organizationId, userId, scimUserEmail go resource, scimDisplayName resource, resource.externalId,
    resource.active.getD true, passwordHash⟩

/-- The user that a request writes; a deletion writes none. -/
def ScimCall.written (organizationId : Uuid) (d : Directory) : ScimCall → Except AccountError ScimUser
  | .create resource passwordHash => .ok (resource.toUser go organizationId none passwordHash)
  | .replace userId message => do
    let current ← scimUser organizationId userId d
    return (message.apply current).toUser go organizationId (some userId) ""
  | .patch userId edits => do
    let current ← scimUser organizationId userId d
    return (edits.foldl ScimEdit.apply current).toUser go organizationId (some userId) ""
  | .delete _ => .error (.message "a deletion writes no user")

/-- Run a request of the identity provider of an organization, with the domains it is limited to. -/
def execScim (organizationId : Uuid) (invocation : Session × List String × ScimCall) (d : Directory) :
    Except AccountError Directory :=
  match invocation.2.2 with
  | .delete userId => deleteSCIMUser organizationId userId d
  | call => do
    let request ← call.written go organizationId d
    ensure (scimEmailAllowed go invocation.2.1 request.email) (.message "invalidValue")
    upsertSCIMUser go invocation.1 request d

/-- The account a message is about, if there is one. -/
def Directory.subjectOf (request : ScimUser) : Option User :=
  match request.userId with
  | some userId => d.users.find? userId
  | none => d.userByEmail go (go.normalize request.email)

/-- A request gives a user no display name but the stored one. -/
def KeepsDisplayName (invocation : Session × List String × ScimCall) : Prop :=
  ∀ request, invocation.2.2.written go organizationId d = .ok request → ∀ user, d.subjectOf go request = some user →
    user.id = userId → trimSpace request.displayName = "" ∨ trimSpace request.displayName = user.displayName

end Calls

/-- What is seen of a user outside an organization: the status and the display name of the account, and
the memberships in other organizations, with their projects and teams. -/
structure Observation where
  account : Option (UserStatus × String)
  organizationMemberships : List OrganizationMembership
  projectMemberships : List ProjectMembership
  teamMemberships : List TeamMembership

/-- What is seen of a user outside an organization. -/
def Directory.observed (d : Directory) (organizationId userId : Uuid) : Observation where
  account := (d.users.find? userId).map fun user => (user.status, user.displayName)
  organizationMemberships := d.organizationMemberships.rows.filter fun row =>
    row.organizationId ≠ organizationId && row.userId = userId
  projectMemberships := d.projectMemberships.rows.filter fun row =>
    row.organizationId ≠ organizationId && row.userId = userId
  teamMemberships := d.teamMemberships.rows.filter fun row =>
    row.organizationId ≠ organizationId && row.userId = userId

variable {go : Runtime} {s : Session} {d d' : Directory} {orgId userId other : Uuid}
  {role : Option MemberRole → MemberRole} {status : MemberStatus}

theorem filter_replace_membership (memberships : Table OrganizationMembership) (new : OrganizationMembership)
    (hnew : new.organizationId = orgId) :
    (memberships.replace new).rows.filter
        (fun row => row.organizationId ≠ orgId && row.userId = userId) =
      memberships.rows.filter fun row => row.organizationId ≠ orgId && row.userId = userId := by
  refine filter_map_of_unselected (fun row => ?_) (fun row hrow => ?_) memberships.rows
  · split
    · next hkey =>
      have horg : row.organizationId = new.organizationId := congrArg MemberKey.scopeId hkey
      simp [horg, hnew]
    · rfl
  · refine if_neg fun hkey => ?_
    have horg : row.organizationId = new.organizationId := congrArg MemberKey.scopeId hkey
    simp [horg, hnew] at hrow

theorem Directory.setMembership_observed (h : d.setMembership orgId other role status = .ok d') :
    d'.observed orgId userId = d.observed orgId userId := by
  unfold setMembership at h
  split at h
  · next row hrow =>
    cases h
    obtain ⟨-, horg, -⟩ := membership?_eq_some hrow
    simp only [observed]
    rw [filter_replace_membership d.organizationMemberships
      ⟨row.organizationId, row.userId, role (some row.role), status⟩ horg]
  · simp only [eq_ok] at h
    obtain ⟨_, _, _, hins, rfl⟩ := h
    simp [observed, (insert_eq_ok.mp hins).2]

theorem deleteSCIMUser_observed (h : deleteSCIMUser orgId other d = .ok d') :
    d'.observed orgId userId = d.observed orgId userId := by
  simp only [deleteSCIMUser, eq_ok] at h
  obtain ⟨row, hrow, _, _, rfl⟩ := h
  obtain ⟨-, horg, -⟩ := membership?_eq_some hrow
  have hpr : (d.projectMemberships.rows.map (ProjectMembership.disableFor row.organizationId row.userId)).filter
        (fun row => row.organizationId ≠ orgId && row.userId = userId) =
      d.projectMemberships.rows.filter fun row => row.organizationId ≠ orgId && row.userId = userId := by
    refine filter_map_of_unselected (fun project => ?_) (fun project hprt => ?_) _
    · unfold ProjectMembership.disableFor
      split <;> rfl
    · refine if_neg fun hmem => ?_
      simp [hmem.1, horg] at hprt
  have hteam : (d.teamMemberships.rows.filter fun membership =>
        !(membership.organizationId = orgId && membership.userId = other)).filter
        (fun row => row.organizationId ≠ orgId && row.userId = userId) =
      d.teamMemberships.rows.filter fun row => row.organizationId ≠ orgId && row.userId = userId := by
    rw [List.filter_filter]
    refine List.filter_congr fun membership _ => ?_
    by_cases hsame : membership.organizationId = orgId <;> simp [hsame]
  simp only [observed, disableMember, rewrite, delete]
  rw [filter_replace_membership d.organizationMemberships { row with status := .disabled } horg,
    hpr, hteam]

theorem Directory.linkScimUser_observed {externalId : String}
    (h : d.linkScimUser orgId other externalId = .ok d') :
    d'.observed orgId userId = d.observed orgId userId := by
  simp only [linkScimUser, bind_eq_ok] at h
  obtain ⟨_, _, h⟩ := h
  split at h
  · cases h
    rfl
  · simp only [eq_ok] at h
    obtain ⟨_, _, rfl⟩ := h
    rfl

theorem Directory.rename_observed (orgId userId : Uuid) {user : User} {displayName : String}
    (huser : user ∈ d.users.rows)
    (hname : user.id = userId → displayName = "" ∨ displayName = user.displayName) :
    (d.rename user displayName).observed orgId userId = d.observed orgId userId := by
  unfold rename
  split
  · rfl
  · next hgv =>
    have hkey : Keyed.key { user with displayName := displayName } = Keyed.key user := rfl
    have hf := find?_replace huser hkey userId
    simp only [observed, Observation.mk.injEq, and_true]
    rw [hf]
    split
    · next hid =>
      have hbef : d.users.find? userId = some user := find?_eq_some.mpr ⟨huser, hid⟩
      have hsame : displayName = user.displayName := (hname hid).resolve_left hgv
      simp [hbef, hsame]
    · rfl

theorem scimSubject_observed (orgId : Uuid) {subject : Directory × User}
    (huser : (d.users.find? userId).isSome)
    (h : scimSubject go s request (go.normalize request.email) d = .ok subject) :
    subject.1.observed orgId userId = d.observed orgId userId ∧
      (subject.2.id = userId → d.subjectOf go request = some subject.2) := by
  unfold scimSubject at h
  split at h
  · next _ hrq =>
    simp only [eq_ok] at h
    obtain ⟨user, hf, _, _, _, _, rfl⟩ := h
    exact ⟨rfl, fun _ => by simp [subjectOf, hrq, hf]⟩
  · next hrq =>
    split at h
    · next user hf =>
      cases h
      exact ⟨rfl, fun _ => by simp [subjectOf, hrq, hf]⟩
    · simp only [eq_ok] at h
      obtain ⟨_, _, users, hins, rfl⟩ := h
      have hne : s.uuid .user ≠ userId := by
        rintro rfl
        obtain ⟨user, hf⟩ := Option.isSome_iff_exists.mp huser
        obtain ⟨hmem, hid⟩ := found hf
        exact rowId_ne_of_insert hins hmem hid
      have hlk : users.find? userId = d.users.find? userId := (find?_insert hins userId).trans (if_neg hne)
      exact ⟨by simp only [observed, hlk], fun hid => absurd hid hne⟩

theorem execScim_user_kept (huser : (d.users.find? userId).isSome) (h : execScim go orgId inv d = .ok d') :
    (d'.users.find? userId).isSome := by
  obtain ⟨user, hf⟩ := Option.isSome_iff_exists.mp huser
  obtain ⟨hmem, hid⟩ := found hf
  have hsame : SameAccess d d' := by
    unfold execScim at h
    split at h
    · next deleted _ =>
      have hdl : execMember go (inv.1, .deleteSCIMUser orgId deleted) d = .ok d' := h
      exact execMember_same hdl
    · simp only [bind_eq_ok] at h
      obtain ⟨request, _, _, _, hwr⟩ := h
      have hup : execMember go (inv.1, .upsertSCIMUser request) d = .ok d' := hwr
      exact execMember_same hup
  obtain ⟨user', huser', hid'⟩ := hsame.users user hmem
  exact Option.isSome_iff_exists.mpr ⟨user', find?_eq_some.mpr ⟨huser', hid'.trans hid⟩⟩

theorem ScimCall.written_organization {call : ScimCall}
    (h : call.written go orgId d = .ok request) : request.organizationId = orgId := by
  cases call with
  | create _ _ =>
    cases h
    rfl
  | replace userId _ | patch userId _ =>
    simp only [ScimCall.written, eq_ok] at h
    obtain ⟨_, _, rfl⟩ := h
    rfl
  | delete userId => cases h

theorem execScim_observed (huser : (d.users.find? userId).isSome)
    (hname : KeepsDisplayName go orgId userId d inv) (h : execScim go orgId inv d = .ok d') :
    d'.observed orgId userId = d.observed orgId userId := by
  unfold execScim at h
  split at h
  · exact deleteSCIMUser_observed h
  · simp only [bind_eq_ok] at h
    obtain ⟨request, hrq, _, _, hup⟩ := h
    simp only [upsertSCIMUser, bind_eq_ok, ScimCall.written_organization hrq] at hup
    obtain ⟨_, _, subject, hsub, _, _, _, _, _, hjoin, hln⟩ := hup
    obtain ⟨-, hmem⟩ := scimSubject_same hsub
    obtain ⟨hfs, hsame⟩ := scimSubject_observed orgId huser hsub
    have hrn := rename_observed orgId userId hmem
      fun hid => hname request hrq subject.2 (hsame hid) hid
    exact (linkScimUser_observed hln).trans
      ((setMembership_observed hjoin).trans (hrn.trans hfs))

/-- Over every sequence of requests of the identity provider of an organization, with any domains allowed, that
give a user no display name but the stored one, what is seen of the user outside the organization is
unchanged. -/
theorem provider_affects_only_its_organization (go : Runtime) (orgId userId : Uuid) (d : Directory)
    (huser : (d.users.find? userId).isSome) (calls : List (Session × List String × ScimCall))
    (hnames : AlongChanges (execScim go orgId) (KeepsDisplayName go orgId userId) d calls) :
    (run (execScim go orgId) d calls).observed orgId userId =
      d.observed orgId userId := by
  have hstep (st : Directory) (call : Session × List String × ScimCall) (st' : Directory)
      (hbef : (st.users.find? userId).isSome ∧
        st.observed orgId userId = d.observed orgId userId)
      (hname : KeepsDisplayName go orgId userId st call)
      (h : execScim go orgId call st = .ok st') : (st'.users.find? userId).isSome ∧
        st'.observed orgId userId = d.observed orgId userId :=
    ⟨execScim_user_kept hbef.1 h, (execScim_observed hbef.1 hname h).trans hbef.2⟩
  exact (run_invariant_of_changes hstep ⟨huser, rfl⟩ hnames).2

/-- The small directory with a second organization. -/
def twoOrganizations : Directory :=
  { demoDirectory with organizations := tableOf [⟨1, .active⟩, ⟨3, .active⟩] (by decide) }

/-- The second organization takes the member of the first one in and gives no name. -/
theorem provider_affects_only_its_organization_demo : (run (execScim asciiRuntime 3) twoOrganizations
        [(demoSession 1, [], .create { userName := "member@example.com" } "hash")]).isActiveMember 3 2 ∧
      (run (execScim asciiRuntime 3) twoOrganizations
        [(demoSession 1, [], .create { userName := "member@example.com" } "hash")]).observed 3 2 =
          twoOrganizations.observed 3 2 := by
  refine ⟨by decide +kernel, provider_affects_only_its_organization asciiRuntime 3 2 twoOrganizations
    (by decide +kernel) _ (Along.changes ⟨?_, trivial⟩)⟩
  intro _ hrq _ _ _
  cases hrq
  exact .inl (by decide +kernel)

/-- The second organization, of which the member of the first one is none, changes the name that the first
one sees. -/
theorem provider_renames_foreign_user : (twoOrganizations.observed 3 2).account = some (.active, "Member") ∧
      ((run (execScim asciiRuntime 3) twoOrganizations
        [(demoSession 1, [], .create { userName := "member@example.com", displayName := "Somebody" }
          "hash")]).observed 3 2).account = some (.active, "Somebody") := by
  decide +kernel

end ModelDock.Identity
