import ModelDock.Identity.Membership
import ModelDock.Relational.Locks

/-!
# The owners of an organization under concurrent calls

The calls that write memberships read the member's row, count the other owners, and write with the commit.
Only setting and activating a member lock the organization, so two calls that end the memberships of two
owners may each count the other one.
-/

namespace ModelDock.Identity

open Relational Text Table MemberCall Concurrent Directory Bool
open Store (Uuid)

variable {orgId' userId' : Uuid}

/-- A row that is locked. -/
inductive Lock
  | organization (organizationId : Uuid)
  | membership (organizationId userId : Uuid)
  | user (userId : Uuid)
deriving DecidableEq

/-- What a call has read: the member it is about, the account it has inserted for them, and the
membership it saw. -/
structure Reading where
  userId : Uuid
  newUser : Option User
  row : Option OrganizationMembership

/-- The organization of a call. -/
def MemberCall.organizationId : MemberCall → Uuid
  | .setOrganizationMember organizationId _ _ _ => organizationId
  | .removeOrganizationMember organizationId _ => organizationId
  | .upsertSCIMUser request => request.organizationId
  | .deleteSCIMUser organizationId _ => organizationId

variable (go : Runtime) (s : Session) (call : MemberCall) (r : Reading) (d : Directory)

/-- Read the membership a call is about. -/
def MemberCall.read : Except AccountError Reading :=
  match call with
  | .setOrganizationMember organizationId userId _ _ => do
    let _ ← required (d.organizations.find? organizationId) .notFound
    return ⟨userId, none, d.membership? organizationId userId⟩
  | .removeOrganizationMember organizationId userId => do
    let row ← required (d.membership? organizationId userId) .notFound
    return ⟨userId, none, some row⟩
  | .upsertSCIMUser request => do
    let email := go.normalize request.email
    ensure (email ≠ "" ∧ '@' ∈ email.toList ∧ (trimSpace request.externalId).utf8ByteSize ≤ 255)
      (.message "invalid SCIM user")
    let subject ← scimSubject go s request email d
    let newUser := if (d.users.find? subject.2.id).isSome then none else some subject.2
    let row := if request.active then none else d.membership? request.organizationId subject.2.id
    return ⟨subject.2.id, newUser, row⟩
  | .deleteSCIMUser organizationId userId => do
    let row ← required (d.membership? organizationId userId) .notFound
    return ⟨userId, none, some row⟩

/-- The rows that are locked with the read. A message of the identity provider that names the user locks
the membership, one that names an address only the account. -/
def MemberCall.readLocks : List Lock :=
  match call with
  | .setOrganizationMember organizationId _ _ _ =>
    .organization organizationId :: if r.row.isSome then [.membership organizationId r.userId] else []
  | .removeOrganizationMember organizationId _ => [.membership organizationId r.userId]
  | .upsertSCIMUser request =>
    .user r.userId :: if request.userId.isSome then [.membership request.organizationId r.userId] else []
  | .deleteSCIMUser organizationId _ => [.membership organizationId r.userId]

/-- What is committed, with the account that a call has inserted itself. -/
def Directory.withNewUser : Option User → Except AccountError Directory
  | none => .ok d
  | some user => do
    let users ← d.users.insert user AccountError.uniqueViolation
    return { d with users := users }

/-- The check of an owner that is about to go, against the membership that was read. -/
def Directory.ownerRemains (row : Option OrganizationMembership) (organizationId userId : Uuid)
    (staysOwner : Bool) : Bool :=
  staysOwner || d.otherOwners organizationId userId ≠ 0 ||
    row.all fun row => row.role ≠ .owner || row.status ≠ .active

/-- Check what a call read against the other members. -/
def MemberCall.check : Except AccountError Unit :=
  match call with
  | .setOrganizationMember organizationId _ role status => do
    enforceActivation s organizationId r.userId
      (status.getD .active = .active && !(r.row.any fun row => row.status = .active)) d
    ensure (d.ownerRemains r.row organizationId r.userId (role = .owner && status.getD .active = .active))
      (.message "an organization must retain at least one active owner")
  | .removeOrganizationMember organizationId _ =>
    ensure ((r.row.all fun row => row.role ≠ .owner || 1 < d.owners organizationId))
      (.message "an organization must retain at least one active owner")
  | .upsertSCIMUser request => do
    let view ← d.withNewUser r.newUser
    ensure (view.ownerRemains r.row request.organizationId r.userId request.active)
      (.message "SCIM cannot deactivate the last organization owner")
    enforceActivation s request.organizationId r.userId request.active view
  | .deleteSCIMUser organizationId _ =>
    ensure ((r.row.all fun row => row.role ≠ .owner || d.otherOwners organizationId r.userId ≠ 0))
      (.message "SCIM cannot deactivate the last organization owner")

/-- The rows that are locked with the check: activating a user locks the organization. -/
def MemberCall.checkLocks : MemberCall → List Lock
  | .upsertSCIMUser request => if request.active then [.organization request.organizationId] else []
  | _ => []

/-- Disable the membership of a user; a statement that matches no row does nothing. -/
def Directory.disableMembership (organizationId userId : Uuid) : Directory :=
  match d.membership? organizationId userId with
  | some row => d.disableMember row
  | none => d

/-- Store the display name of a user. -/
def Directory.renameUser (userId : Uuid) (displayName : String) : Directory :=
  match d.users.find? userId with
  | some user => d.rename user displayName
  | none => d

/-- Write the membership. -/
def MemberCall.write : Except AccountError Directory :=
  match call with
  | .setOrganizationMember organizationId _ role status =>
    d.setMembership organizationId r.userId (fun _ => role) (status.getD .active)
  | .removeOrganizationMember organizationId _ => .ok (d.disableMembership organizationId r.userId)
  | .upsertSCIMUser request => do
    let view ← d.withNewUser r.newUser
    let joined ← (view.renameUser r.userId (trimSpace request.displayName)).setMembership
      request.organizationId r.userId scimRole (if request.active then .active else .disabled)
    joined.linkScimUser request.organizationId r.userId (trimSpace request.externalId)
  | .deleteSCIMUser organizationId _ =>
    .ok { d.disableMembership organizationId r.userId with
      teamMemberships := d.teamMemberships.delete fun membership =>
        membership.organizationId = organizationId && membership.userId = r.userId
      scimUserLinks := d.scimUserLinks.delete fun link =>
        link.organizationId = organizationId && link.userId = r.userId }

/-- The rows that are locked with the write: the membership, and what a new one refers to. -/
def MemberCall.writeLocks : List Lock :=
  .membership call.organizationId r.userId ::
    if (d.membership? call.organizationId r.userId).isSome then []
    else [.organization call.organizationId, .user r.userId]

/-- How far a transaction is. -/
inductive Stage
  | begun
  | read (r : Reading)
  | checked (r : Reading)

/-- A running call. -/
structure MemberTransaction where
  session : Session
  call : MemberCall
  stage : Stage

variable {t : MemberTransaction}

/-- The rows that a transaction has locked. -/
def MemberTransaction.held (t : MemberTransaction) : List Lock :=
  match t.stage with
  | .begun => []
  | .read r => t.call.readLocks r
  | .checked r => t.call.readLocks r ++ t.call.checkLocks

/-- What a transaction does next. A transaction may be rolled back at any time. -/
inductive MemberAction
  | begin (s : Session) (call : MemberCall)
  | read
  | check
  | commit
  | rollback

/-- A statement waits for a lock. -/
inductive Waiting
  | locked
deriving DecidableEq

/-- The committed directory and the calls that run. -/
abbrev Members := Concurrent Directory MemberTransaction

/-- The next part of a running call. A part that fails rolls the call back. -/
def advance (number : ℕ) (t : MemberTransaction) (action : MemberAction) (st : Members) :
    Except Waiting Members :=
  match action, t.stage with
  | .read, .begun =>
    match t.call.read go t.session st.data with
    | .error _ => .ok (st.finish number st.data)
    | .ok r =>
      if st.free MemberTransaction.held number (t.call.readLocks r) then
        .ok (st.put number { t with stage := .read r })
      else .error .locked
  | .check, .read r =>
    if st.free MemberTransaction.held number t.call.checkLocks then
      match t.call.check t.session r st.data with
      | .error _ => .ok (st.finish number st.data)
      | .ok _ => .ok (st.put number { t with stage := .checked r })
    else .error .locked
  | .commit, .checked r =>
    if st.free MemberTransaction.held number (t.call.writeLocks r st.data) then
      match t.call.write r st.data with
      | .error _ => .ok (st.finish number st.data)
      | .ok d => .ok (st.finish number d)
    else .error .locked
  | .rollback, _ => .ok (st.finish number st.data)
  | _, _ => .ok st

/-- One step of a schedule. -/
def execMembers (step : ℕ × MemberAction) (st : Members) : Except Waiting Members :=
  match st.transaction? step.1, step.2 with
  | some t, action => advance go step.1 t action st
  | none, .begin s call => .ok (st.put step.1 ⟨s, call, .begun⟩)
  | none, _ => .ok st

variable {go : Runtime} {s : Session} {call : MemberCall} {r : Reading} {d d' view : Directory}
  {orgId userId : Uuid}

theorem withNewUser_of_scimSubject {req : ScimUser} {email : String} {subject : Directory × User}
    (h : scimSubject go s req email d = .ok subject) :
    d.withNewUser (if (d.users.find? subject.2.id).isSome then none else some subject.2) = .ok subject.1 ∧
      subject.1.users.find? subject.2.id = some subject.2 := by
  unfold scimSubject at h
  split at h
  · simp only [eq_ok] at h
    obtain ⟨user, huser, _, _, _, _, rfl⟩ := h
    obtain ⟨hmem, _⟩ := found huser
    have hf : d.users.find? user.id = some user := find?_of_mem hmem
    exact ⟨by simp [hf, withNewUser], hf⟩
  · split at h
    · next user huser =>
      cases h
      have hf : d.users.find? user.id = some user := find?_of_mem (List.mem_of_find?_eq_some huser)
      exact ⟨by simp [hf, withNewUser], hf⟩
    · simp only [eq_ok] at h
      obtain ⟨_, _, _, hus, rfl⟩ := h
      have hnew : (d.users.find? (s.uuid .user)).isSome = false := by
        rw [Option.isSome_eq_false_iff, Option.isNone_iff_eq_none, find?_eq_none]
        exact fun other hne => rowId_ne_of_insert hus hne
      refine ⟨?_, find?_of_mem ((mem_insert hus).mpr (.inl rfl))⟩
      simp [hnew, withNewUser, hus]

theorem withNewUser_memberships {newUser : Option User} (h : d.withNewUser newUser = .ok view) :
    view.organizationMemberships = d.organizationMemberships := by
  unfold withNewUser at h
  split at h
  · cases h
    rfl
  · simp only [eq_ok] at h
    obtain ⟨_, _, rfl⟩ := h
    rfl

theorem execMember_eq_parts (go : Runtime) (s : Session) (call : MemberCall) (d : Directory) :
    execMember go (s, call) d =
      call.read go s d >>= fun r => call.check s r d >>= fun _ => call.write r d := by
  cases call with
  | setOrganizationMember orgId userId _ _ =>
    simp only [execMember, MemberCall.read, MemberCall.check, bind_assoc]
    rfl
  | removeOrganizationMember orgId userId | deleteSCIMUser orgId userId =>
    simp only [execMember, removeOrganizationMember, deleteSCIMUser, MemberCall.read, MemberCall.check,
      MemberCall.write, bind_assoc, pure_bind]
    cases hrow : d.membership? orgId userId with
    | none => rfl
    | some row =>
      simp only [required, ok_bind, ensure, disableMembership, hrow, Option.all_some, cond_iff, imp_iff_not_or]
      split <;> rfl
  | upsertSCIMUser req =>
    simp only [execMember, upsertSCIMUser, MemberCall.read, MemberCall.check, MemberCall.write, bind_assoc, pure_bind]
    congr 1
    funext _
    cases hsub : scimSubject go s req (go.normalize req.email) d with
    | error _ => rfl
    | ok subject =>
      obtain ⟨hview, huser⟩ := withNewUser_of_scimSubject hsub
      have hown : subject.1.ownerRemains (if req.active then none
            else d.membership? req.organizationId subject.2.id) req.organizationId subject.2.id
            req.active = subject.1.keepsOwner req.organizationId subject.2.id req.active := by
        cases req.active with
        | true => rfl
        | false => simp [ownerRemains, keepsOwner, membership?,
            withNewUser_memberships hview]
      simp only [ok_bind, hview, hown, renameUser, huser]

theorem run_alone (go : Runtime) (s : Session) (call : MemberCall) (d : Directory) (number : ℕ) :
    run (execMembers go) ⟨d, []⟩ [(number, .begin s call), (number, .read), (number, .check), (number, .commit)] =
      ⟨commit d (execMember go (s, call) d), []⟩ := by
  rw [execMember_eq_parts]
  have hfree (t : MemberTransaction) (locks : List Lock) :
      free MemberTransaction.held ⟨d, [(number, t)]⟩ number locks := by
    simp [free, others]
  cases hread : call.read go s d with
  | error e =>
    simp [execMembers, advance, commit, transaction?, put, finish, others, hread, bind, Except.bind]
  | ok r =>
    cases hch : call.check s r d with
    | error e =>
      simp [execMembers, advance, commit, transaction?, put, finish, others, hread, hch, hfree, bind, Except.bind]
    | ok _ =>
      cases hwr : call.write r d with
      | error e | ok _ =>
        simp [execMembers, advance, commit, transaction?, put, finish,
          others, hread, hch, hwr, hfree, bind, Except.bind]

/-- Every call takes all its steps before the next one begins. -/
def serially (calls : List (ℕ × Session × MemberCall)) : List (ℕ × MemberAction) :=
  calls.flatMap fun (number, s, call) =>
    [(number, .begin s call), (number, .read), (number, .check), (number, .commit)]

/-- Transactions that do not overlap do what the calls do as wholes, one after the other. -/
theorem run_serially (go : Runtime) (d : Directory) (calls : List (ℕ × Session × MemberCall)) :
    run (execMembers go) ⟨d, []⟩ (serially calls) = ⟨run (execMember go) d (calls.map Prod.snd), []⟩ := by
  induction calls generalizing d with
  | nil => rfl
  | cons inv rest ih =>
    obtain ⟨number, s, call⟩ := inv
    have hfs := run_alone go s call d number
    unfold run at hfs ih
    unfold run serially
    rw [List.flatMap_cons, List.foldl_append, hfs]
    exact ih _

/-- The user is an active owner of the organization. -/
def Directory.IsOwner (d : Directory) (organizationId userId : Uuid) : Prop :=
  ∃ row ∈ d.organizationMemberships.rows, row.organizationId = organizationId ∧ row.userId = userId ∧
    row.role = .owner ∧ row.status = .active

/-- Another user is an active owner of the organization. -/
def Directory.HasOtherOwner (d : Directory) (organizationId userId : Uuid) : Prop :=
  ∃ other, other ≠ userId ∧ d.IsOwner organizationId other

theorem owners_pos_iff : 0 < d.owners orgId ↔ ∃ userId, d.IsOwner orgId userId := by
  simp only [owners, List.countP_pos_iff, cond_iff]
  constructor
  · rintro ⟨row, hrow, ⟨horg, hrole⟩, hst⟩
    exact ⟨row.userId, row, hrow, horg, rfl, hrole, hst⟩
  · rintro ⟨userId, row, hrow, horg, -, hrole, hst⟩
    exact ⟨row, hrow, ⟨horg, hrole⟩, hst⟩

theorem otherOwners_ne_zero_iff :
    d.otherOwners orgId userId ≠ 0 ↔ d.HasOtherOwner orgId userId := by
  simp only [otherOwners, ← Nat.pos_iff_ne_zero, List.countP_pos_iff, HasOtherOwner, cond_iff]
  constructor
  · rintro ⟨row, hrow, ⟨⟨horg, huser⟩, hrole⟩, hst⟩
    exact ⟨row.userId, huser, row, hrow, horg, rfl, hrole, hst⟩
  · rintro ⟨_, hne, row, hrow, horg, rfl, hrole, hst⟩
    exact ⟨row, hrow, ⟨⟨horg, hne⟩, hrole⟩, hst⟩

theorem hasOtherOwner_of_owners (h : 1 < d.owners orgId) (userId : Uuid) :
    d.HasOtherOwner orgId userId := by
  let isOwner : OrganizationMembership → Bool := fun row =>
    row.organizationId = orgId && row.role = .owner && row.status = .active
  have hcn : 1 < (d.organizationMemberships.rows.filter isOwner).length := List.countP_eq_length_filter ▸ h
  have hun := d.organizationMemberships.unique.filter isOwner
  have hown (row) (hrow : row ∈ d.organizationMemberships.rows.filter isOwner) :
      d.IsOwner orgId row.userId ∧ row.organizationId = orgId := by
    obtain ⟨hmem, hsl⟩ := List.mem_filter.mp hrow
    simp only [isOwner, cond_iff] at hsl
    exact ⟨⟨row, hmem, hsl.1.1, rfl, hsl.1.2, hsl.2⟩, hsl.1.1⟩
  match hfl : d.organizationMemberships.rows.filter isOwner with
  | [] | [_] => simp [hfl] at hcn
  | a :: b :: rest =>
    rw [hfl] at hun hown
    have hfree := (List.pairwise_cons.mp hun).1 b List.mem_cons_self
    obtain ⟨ha, haO⟩ := hown a List.mem_cons_self
    obtain ⟨hb, hbO⟩ := hown b (List.mem_cons_of_mem _ List.mem_cons_self)
    by_cases hmr : a.userId = userId
    · refine ⟨b.userId, fun hsame => ?_, hb⟩
      have hid : Nat.pair a.organizationId a.userId = Nat.pair b.organizationId b.userId := by
        rw [haO, hbO, hmr, hsame]
      exact Bool.noConfusion (hfree.symm.trans (Key.clash_of_id (Keyed.key a) (Keyed.key b) hid))
    · exact ⟨a.userId, hmr, ha⟩

/-- The call may end the membership of an active owner. -/
def MemberCall.ends : MemberCall → Bool
  | .setOrganizationMember _ _ role status => !(role = .owner && status.getD .active = .active)
  | .upsertSCIMUser request => !request.active
  | .removeOrganizationMember _ _ | .deleteSCIMUser _ _ => true

theorem setMembership_isOwner {role : Option MemberRole → MemberRole} {status : MemberStatus}
    (h : d.setMembership orgId userId role status = .ok d') (hown : d.IsOwner orgId' userId')
    (hkept : orgId' = orgId → userId' = userId →
      role (some .owner) = .owner ∧ status = .active) : d'.IsOwner orgId' userId' := by
  obtain ⟨owner, hmem, rfl, rfl, hrole, hst⟩ := hown
  unfold setMembership at h
  split at h
  · next row hrow =>
    cases h
    obtain ⟨hold, rfl, rfl⟩ := membership?_eq_some hrow
    have hkey : Keyed.key (⟨row.organizationId, row.userId, role (some row.role), status⟩ :
      OrganizationMembership) = Keyed.key row := rfl
    by_cases hsame : owner = row
    · subst hsame
      obtain ⟨hsty, hac⟩ := hkept rfl rfl
      exact ⟨_, (mem_replace hold hkey).mpr (.inl rfl), rfl, rfl, hrole ▸ hsty, hac⟩
    · exact ⟨owner, (mem_replace hold hkey).mpr (.inr ⟨hmem, fun hid => hsame (eq_of_rowId hmem hold hid)⟩),
        rfl, rfl, hrole, hst⟩
  · simp only [eq_ok] at h
    obtain ⟨_, _, _, hins, rfl⟩ := h
    exact ⟨owner, (mem_insert hins).mpr (.inr hmem), rfl, rfl, hrole, hst⟩

theorem disableMembership_isOwner (hown : d.IsOwner orgId' userId')
    (hne : orgId' = orgId → userId' ≠ userId) :
    (d.disableMembership orgId userId).IsOwner orgId' userId' := by
  unfold disableMembership
  split
  · next row hrow =>
    obtain ⟨hold, rfl, rfl⟩ := membership?_eq_some hrow
    obtain ⟨owner, hmem, rfl, rfl, hrole, hst⟩ := hown
    have hkey : Keyed.key { row with status := .disabled } = Keyed.key row := rfl
    refine ⟨owner, (mem_replace hold hkey).mpr (.inr ⟨hmem, fun hid => ?_⟩), rfl, rfl, hrole, hst⟩
    obtain rfl := eq_of_rowId hmem hold hid
    exact hne rfl rfl
  · exact hown

theorem renameUser_memberships (displayName : String) :
    (d.renameUser userId displayName).organizationMemberships = d.organizationMemberships := by
  unfold renameUser rename
  split
  · split <;> rfl
  · rfl

theorem linkScimUser_memberships {externalId : String} (h : d.linkScimUser orgId userId externalId = .ok d') :
    d'.organizationMemberships = d.organizationMemberships := by
  simp only [linkScimUser, bind_eq_ok] at h
  obtain ⟨_, _, h⟩ := h
  split at h
  · cases h
    rfl
  · simp only [eq_ok] at h
    obtain ⟨_, _, rfl⟩ := h
    rfl

theorem Directory.IsOwner.of_memberships (h : d.IsOwner orgId userId)
    (hsame : d'.organizationMemberships = d.organizationMemberships) : d'.IsOwner orgId userId := by
  unfold IsOwner
  rw [hsame]
  exact h

theorem write_isOwner (h : call.write r d = .ok d') (hown : d.IsOwner orgId userId)
    (hkept : orgId = call.organizationId → userId = r.userId → call.ends = false) :
    d'.IsOwner orgId userId := by
  cases call with
  | setOrganizationMember orgId' userId' role status =>
    have hset : d.setMembership orgId' r.userId (fun _ => role) (status.getD .active) = .ok d' := h
    refine setMembership_isOwner hset hown fun horg huser => ?_
    simpa [ends] using hkept horg huser
  | removeOrganizationMember orgId' userId' =>
    cases h
    exact disableMembership_isOwner hown fun horg huser => by
      simpa [ends] using hkept horg huser
  | upsertSCIMUser req =>
    simp only [write, bind_eq_ok] at h
    obtain ⟨view, hview, _, hjoin, hln⟩ := h
    have hrn : (view.renameUser r.userId (trimSpace req.displayName)).IsOwner orgId userId :=
      hown.of_memberships ((renameUser_memberships _).trans (withNewUser_memberships hview))
    refine (setMembership_isOwner hjoin hrn fun horg huser => ?_).of_memberships
      (linkScimUser_memberships hln)
    have hac : req.active := by
      simpa [ends] using hkept horg huser
    exact ⟨rfl, if_pos hac⟩
  | deleteSCIMUser orgId' userId' =>
    cases h
    exact IsOwner.of_memberships (disableMembership_isOwner hown fun horg huser => by
      simpa [ends] using hkept horg huser) rfl

/-- The membership that was read is that of an active owner. -/
def Reading.seesOwner (r : Reading) : Bool :=
  r.row.any fun row => row.role = .owner && row.status = .active

theorem read_row (h : call.read go s d = .ok r) (hends : call.ends) :
    r.row = d.membership? call.organizationId r.userId := by
  cases call with
  | setOrganizationMember orgId userId _ _ =>
    simp only [MemberCall.read, eq_ok] at h
    obtain ⟨_, _, rfl⟩ := h
    rfl
  | removeOrganizationMember orgId userId | deleteSCIMUser orgId userId =>
    simp only [MemberCall.read, eq_ok] at h
    obtain ⟨_, hrow, rfl⟩ := h
    exact hrow.symm
  | upsertSCIMUser req =>
    simp only [MemberCall.read, eq_ok] at h
    obtain ⟨_, _, _, _, rfl⟩ := h
    have hinac : req.active = false := by simpa [MemberCall.ends] using hends
    simp [hinac, MemberCall.organizationId]

theorem hasOtherOwner_of_read (h : call.read go s d = .ok r) (hends : call.ends)
    (hsees : r.seesOwner = false) (hown : ∃ userId, d.IsOwner call.organizationId userId) :
    d.HasOtherOwner call.organizationId r.userId := by
  obtain ⟨owner, row, hmem, horg, huser, hrole, hst⟩ := hown
  refine ⟨owner, fun hsame => ?_, row, hmem, horg, huser, hrole, hst⟩
  have hrow : d.membership? call.organizationId r.userId = some row := by
    rw [← horg, ← hsame, ← huser]
    exact find?_of_mem hmem
  rw [Reading.seesOwner, read_row h hends, hrow] at hsees
  simp [hrole, hst] at hsees

theorem hasOtherOwner_of_check {u : Unit} (h : call.check s r d = .ok u) (hends : call.ends)
    (hsees : r.seesOwner) : d.HasOtherOwner call.organizationId r.userId := by
  obtain ⟨row, hrow, hrole, hst⟩ : ∃ row, r.row = some row ∧ row.role = .owner ∧ row.status = .active := by
    cases hrow : r.row with
    | none => simp [Reading.seesOwner, hrow] at hsees
    | some row => exact ⟨row, rfl, by simpa [Reading.seesOwner, hrow] using hsees⟩
  have hrem {view : Directory} {orgId : Uuid}
      (h : view.ownerRemains r.row orgId r.userId false) :
      view.HasOtherOwner orgId r.userId :=
    otherOwners_ne_zero_iff.mp (by simpa [ownerRemains, hrow, hrole, hst] using h)
  cases call with
  | setOrganizationMember orgId userId role status =>
    simp only [check, eq_ok] at h
    obtain ⟨_, _, hch⟩ := h
    have hsty : (role = .owner && status.getD .active = .active) = false := by
      simpa only [ends, not_eq_true'] using hends
    exact hrem (hsty ▸ hch)
  | removeOrganizationMember orgId userId =>
    have hcn : 1 < d.owners orgId := by simpa [check, hrow, hrole] using h
    exact hasOtherOwner_of_owners hcn r.userId
  | upsertSCIMUser req =>
    simp only [check, eq_ok] at h
    obtain ⟨view, hview, _, hch, _⟩ := h
    have hinac : req.active = false := by simpa [ends] using hends
    obtain ⟨other, hne, hown⟩ := hrem (hinac ▸ hch)
    exact ⟨other, hne, hown.of_memberships (withNewUser_memberships hview).symm⟩
  | deleteSCIMUser orgId userId =>
    have hcn : d.otherOwners orgId r.userId ≠ 0 := by simpa [check, hrow, hrole] using h
    exact otherOwners_ne_zero_iff.mp hcn

/-- What a step of a schedule does. -/
inductive MembersEffect (go : Runtime) (number : ℕ) (action : MemberAction) (st : Members) : Members → Prop
  | nothing : MembersEffect go number action st st
  | begun (s : Session) (call : MemberCall) :
    MembersEffect go number action st (st.put number ⟨s, call, .begun⟩)
  | ended : MembersEffect go number action st (st.finish number st.data)
  | read {t : MemberTransaction} {r : Reading} (hrun : st.transaction? number = some t)
    (hact : action = .read) (hread : t.call.read go t.session st.data = .ok r)
    (hfree : st.free MemberTransaction.held number (t.call.readLocks r)) :
    MembersEffect go number action st (st.put number { t with stage := .read r })
  | checked {t : MemberTransaction} {r : Reading} {u : Unit} (hrun : st.transaction? number = some t)
    (hstag : t.stage = .read r) (hchec : t.call.check t.session r st.data = .ok u) :
    MembersEffect go number action st (st.put number { t with stage := .checked r })
  | committed {t : MemberTransaction} {r : Reading} {d : Directory} (hrun : st.transaction? number = some t)
    (hstag : t.stage = .checked r) (hwrit : t.call.write r st.data = .ok d) :
    MembersEffect go number action st (st.finish number d)

variable {st st' : Members} {next : ℕ × MemberAction} {number : ℕ}

theorem execMembers_effect (h : execMembers go next st = .ok st') : MembersEffect go next.1 next.2 st st' := by
  unfold execMembers at h
  split at h
  · next _ hrun =>
    unfold advance at h
    split at h
    · next hread hstag =>
      split at h
      · cases h
        exact .ended
      · next r hr =>
        split at h
        · next hfree =>
          cases h
          exact .read hrun hread hr hfree
        · cases h
    · next r _ hstag =>
      split at h
      · split at h
        · cases h
          exact .ended
        · next _ hps =>
          cases h
          exact .checked hrun hstag hps
      · cases h
    · next r _ hstag =>
      split at h
      · split at h
        · cases h
          exact .ended
        · next _ hwr =>
          cases h
          exact .committed hrun hstag hwr
      · cases h
    · cases h
      exact .ended
    · cases h
      exact .nothing
  · cases h
    exact .begun _ _
  · cases h
    exact .nothing

/-- The transaction has read the membership it may end in the organization. -/
def MemberTransaction.mayEnd (organizationId : Uuid) (t : MemberTransaction) : Bool :=
  t.call.organizationId = organizationId && t.call.ends &&
    match t.stage with
    | .begun => false
    | .read _ | .checked _ => true

/-- The call locks the organization with its read. -/
def MemberCall.setsMember : MemberCall → Bool
  | .setOrganizationMember _ _ _ _ => true
  | _ => false

/-- A call that may end an owner's membership reads it only while no other such call of the organization
is between its read and its end, unless both of them set a member. -/
def Apart (organizationId : Uuid) (st : Members) (step : ℕ × MemberAction) : Prop :=
  match step.2, st.transaction? step.1 with
  | .read, some t => t.call.organizationId = organizationId → t.call.ends →
    ∀ entry ∈ st.others step.1, entry.2.mayEnd organizationId →
      t.call.setsMember ∧ entry.2.call.setsMember
  | _, _ => True

instance (organizationId : Uuid) (st : Members) (step : ℕ × MemberAction) :
    Decidable (Apart organizationId st step) := by
  unfold Apart
  split <;> infer_instance

/-- Another owner remains when the transaction ends the membership it read. -/
def MemberTransaction.Safe (organizationId : Uuid) (d : Directory) (t : MemberTransaction) : Prop :=
  match t.stage with
  | .begun => True
  | .read r => r.seesOwner = false → d.HasOtherOwner organizationId r.userId
  | .checked r => d.HasOtherOwner organizationId r.userId

/-- The organization has an owner, and keeps one whichever transaction commits next. -/
structure KeepsOwner (organizationId : Uuid) (st : Members) : Prop where
  owner : ∃ userId, st.data.IsOwner organizationId userId
  alone : ∀ entry ∈ st.running, ∀ other ∈ st.running, entry.2.mayEnd organizationId →
    other.2.mayEnd organizationId → entry.1 = other.1
  safe : ∀ entry ∈ st.running, entry.2.mayEnd organizationId →
    entry.2.Safe organizationId st.data

theorem KeepsOwner.put {t' : MemberTransaction} (h : KeepsOwner orgId st)
    (hal : t'.mayEnd orgId → ∀ entry ∈ st.others number, entry.2.mayEnd orgId = false)
    (hsafe : t'.mayEnd orgId → t'.Safe orgId st.data) :
    KeepsOwner orgId (st.put number t') := by
  refine ⟨h.owner, fun entry hent other hne hends hends' => ?_, fun entry hent hends => ?_⟩
  · rcases List.mem_cons.mp hent with rfl | hent <;> rcases List.mem_cons.mp hne with rfl | hne
    · rfl
    · exact Bool.noConfusion ((hal hends other hne).symm.trans hends')
    · exact Bool.noConfusion ((hal hends' entry hent).symm.trans hends)
    · exact h.alone entry (mem_others.mp hent).1 other (mem_others.mp hne).1 hends hends'
  · rcases List.mem_cons.mp hent with rfl | hent
    · exact hsafe hends
    · exact h.safe entry (mem_others.mp hent).1 hends

theorem KeepsOwner.finish {d : Directory} (h : KeepsOwner orgId st) (hown : ∃ userId, d.IsOwner orgId userId)
    (hsafe : ∀ entry ∈ st.others number, entry.2.mayEnd orgId → entry.2.Safe orgId d) :
    KeepsOwner orgId (st.finish number d) :=
  ⟨hown, fun entry hent other hne => h.alone entry (mem_others.mp hent).1 other
    (mem_others.mp hne).1, hsafe⟩

theorem MemberTransaction.Safe.mono (h : t.Safe orgId d)
    (hkept : ∀ userId, d.IsOwner orgId userId → d'.IsOwner orgId userId) :
    t.Safe orgId d' := by
  have hoth {userId : Uuid} (hoth : d.HasOtherOwner orgId userId) :
      d'.HasOtherOwner orgId userId := by
    obtain ⟨other, hne, hown⟩ := hoth
    exact ⟨other, hne, hkept other hown⟩
  unfold MemberTransaction.Safe at h ⊢
  split at h
  · trivial
  · exact fun hsees => hoth (h hsees)
  · exact hoth h

theorem MemberTransaction.mayEnd_iff : t.mayEnd orgId ↔
    t.call.organizationId = orgId ∧ t.call.ends ∧ ∃ r, t.stage = .read r ∨ t.stage = .checked r := by
  unfold MemberTransaction.mayEnd
  cases t.stage <;> simp

theorem organization_mem_held (hsets : t.call.setsMember)
    (hends : t.mayEnd orgId) : .organization orgId ∈ t.held := by
  obtain ⟨rfl, -, _, hstag⟩ := MemberTransaction.mayEnd_iff.mp hends
  obtain ⟨_, call, _⟩ := t
  cases call <;> simp [setsMember] at hsets
  rcases hstag with rfl | rfl <;> simp [MemberTransaction.held, readLocks, organizationId]

theorem others_not_mayEnd (hap : Apart orgId st (number, .read)) (hrun : st.transaction? number = some t)
    (hfree : st.free MemberTransaction.held number (t.call.readLocks r))
    (hends : ({ t with stage := .read r } : MemberTransaction).mayEnd orgId) :
    ∀ entry ∈ st.others number, entry.2.mayEnd orgId = false := by
  intro entry hent
  rw [← not_eq_true]
  intro hne
  obtain ⟨horg, hcall, -⟩ := MemberTransaction.mayEnd_iff.mp hends
  simp only [Apart, hrun] at hap
  obtain ⟨hsets, hsets'⟩ := hap horg hcall entry hent hne
  have hlock := organization_mem_held (t := { t with stage := .read r }) hsets hends
  exact not_held_of_free hfree hlock hent (organization_mem_held hsets' hne)

theorem KeepsOwner.step (h : KeepsOwner orgId st) (hap : Apart orgId st next)
    (hexec : execMembers go next st = .ok st') : KeepsOwner orgId st' := by
  cases execMembers_effect hexec with
  | nothing => exact h
  | begun _ _ => exact h.put (by simp [MemberTransaction.mayEnd]) (fun _ => trivial)
  | ended => exact h.finish h.owner fun entry hent => h.safe entry (mem_others.mp hent).1
  | read hrun hac hread hfree =>
    refine h.put (others_not_mayEnd (hac ▸ hap) hrun hfree) fun hends hsees => ?_
    obtain ⟨rfl, hcall, -⟩ := MemberTransaction.mayEnd_iff.mp hends
    exact hasOtherOwner_of_read hread hcall hsees h.owner
  | @checked t r _ hrun hstag hch =>
    have hmem := mem_of_transaction? hrun
    have hsame (hends : ({ t with stage := .checked r } : MemberTransaction).mayEnd orgId) :
        t.mayEnd orgId := by
      obtain ⟨horg, hcall, -⟩ := MemberTransaction.mayEnd_iff.mp hends
      exact MemberTransaction.mayEnd_iff.mpr ⟨horg, hcall, r, .inl hstag⟩
    refine h.put (fun hends entry hent => ?_) fun hends => ?_
    · rw [← not_eq_true]
      intro hoth
      obtain ⟨hrun', hne⟩ := mem_others.mp hent
      exact hne (h.alone entry hrun' _ hmem hoth (hsame hends))
    · obtain ⟨rfl, hcall, -⟩ := MemberTransaction.mayEnd_iff.mp hends
      have hsafe := h.safe _ hmem (hsame hends)
      simp only [MemberTransaction.Safe, hstag] at hsafe
      cases hsees : r.seesOwner with
      | false => exact hsafe hsees
      | true => exact hasOtherOwner_of_check hch hcall hsees
  | @committed t r d hrun hstag hwr =>
    have hmem := mem_of_transaction? hrun
    by_cases hends : t.mayEnd orgId
    · -- The member may go: another owner remains, and nobody else was about to end a membership.
      have hsafe := h.safe _ hmem hends
      simp only [MemberTransaction.Safe, hstag] at hsafe
      obtain ⟨other, hoth, hown⟩ := hsafe
      refine h.finish ⟨other, write_isOwner hwr hown fun _ hsame => absurd hsame hoth⟩ fun entry hent hends' => ?_
      obtain ⟨hrun', hne⟩ := mem_others.mp hent
      exact absurd (h.alone entry hrun' _ hmem hends' hends) hne
    · -- Every owner of the organization stays one.
      have hkept (userId : Uuid) (hown : st.data.IsOwner orgId userId) :
          d.IsOwner orgId userId := by
        refine write_isOwner hwr hown fun horg _ => ?_
        rw [← not_eq_true]
        exact fun hcall => hends (MemberTransaction.mayEnd_iff.mpr ⟨horg.symm, hcall, r, .inr hstag⟩)
      obtain ⟨owner, hown⟩ := h.owner
      exact h.finish ⟨owner, hkept owner hown⟩ fun entry hent hends' =>
        (h.safe entry (mem_others.mp hent).1 hends').mono hkept

/-- An organization with an active owner has one after every schedule of calls in which those that may
end an owner's membership do not overlap, but for those that set a member. -/
theorem organization_keeps_owner (go : Runtime) (d : Directory) (orgId : Uuid)
    (howner : 0 < d.owners orgId) (schedule : List (ℕ × MemberAction))
    (hapart : AlongChanges (execMembers go) (Apart orgId) ⟨d, []⟩ schedule) :
    0 < (run (execMembers go) ⟨d, []⟩ schedule).data.owners orgId := by
  have hinit : KeepsOwner orgId (⟨d, []⟩ : Members) :=
    ⟨owners_pos_iff.mp howner, fun _ hent => absurd hent List.not_mem_nil,
      fun _ hent => absurd hent List.not_mem_nil⟩
  exact owners_pos_iff.mpr (run_invariant_of_changes (fun st step st' h => h.step) hinit hapart).owner

/-- An organization with two owners. -/
def ownersDirectory : Directory :=
  { demoDirectory with
    organizationMemberships := tableOf [⟨1, 1, .owner, .active⟩, ⟨1, 2, .owner, .active⟩] (by decide) }

/-- Two calls that run next to each other: both read, both check, and both commit. -/
def overlapping (first second : MemberCall) : List (ℕ × MemberAction) :=
  [(1, .begin (demoSession 1) first), (2, .begin (demoSession 2) second), (1, .read), (2, .read), (1, .check),
    (2, .check), (1, .commit), (2, .commit)]

/-- Two owners resign by setting each other's role at the same time: the second call waits for the lock. -/
theorem organization_keeps_owner_demo : 0 < (run (execMembers asciiRuntime) ⟨ownersDirectory, []⟩ (overlapping
      (.setOrganizationMember 1 1 .member none) (.setOrganizationMember 1 2 .member none))).data.owners 1 :=
  organization_keeps_owner asciiRuntime ownersDirectory 1 (by decide +kernel) _
    (Along.changes ⟨by decide +kernel, by decide +kernel, by decide +kernel, by decide +kernel, by decide +kernel,
      by decide +kernel, by decide +kernel, by decide +kernel, trivial⟩)

/-- The two owners leave at the same time, each by one of the calls that lock no organization, or one of
them by such a call: nobody is left. -/
theorem overlapping_calls_remove_last_owner : 0 < ownersDirectory.owners 1 ∧
    ∀ calls ∈ [(MemberCall.removeOrganizationMember 1 1, MemberCall.removeOrganizationMember 1 2),
        (.deleteSCIMUser 1 1, .deleteSCIMUser 1 2), (.setOrganizationMember 1 1 .member none,
          .removeOrganizationMember 1 2),
        (.upsertSCIMUser ⟨1, none, "owner@example.com", "", "", false, ""⟩,
          .upsertSCIMUser ⟨1, none, "member@example.com", "", "", false, ""⟩)],
      (run (execMembers asciiRuntime) ⟨ownersDirectory, []⟩ (overlapping calls.1 calls.2)).data.owners 1 = 0 := by
  decide +kernel

end ModelDock.Identity
