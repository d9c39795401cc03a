import ModelDock.Identity.Accounts

/-!
# Who set the password of an account

Next to the directory we keep who set the password an account has and who has presented a mailed token; the
code depends on neither. Whoever registers an address first keeps a password to the account, unless the same
party presents the token that makes it active.
-/

namespace ModelDock.Identity

open Relational Text Table Directory
open Store (Uuid Timestamp)

/-- Somebody who makes calls. -/
abbrev Party := ℕ

/-- The directory, who set the password of each account, and who has presented a token mailed to which
address. -/
structure Attributed where
  directory : Directory
  setBy : Uuid → Option Party
  presented : List (Party × String)

variable (d : Directory) (go : Runtime) (address : String) (st : Attributed)

/-- Nobody has done anything yet. -/
def Attributed.start : Attributed := ⟨d, fun _ => none, []⟩

/-- The address that the token a call presents was mailed to. -/
def AccountCall.presents (s : Session) (d : Directory) : AccountCall → Option String
  | .registerUser request =>
    if request.organizationInviteDigest.length = 32 then
      (d.pendingInvitation s.now request.organizationInviteDigest).map fun invitation => invitation.email
    else none
  | .verifyEmail digest => (d.openToken s.now .emailVerification digest).bind fun token =>
      (d.users.find? token.userId).map fun user => user.email
  | .resetPassword digest _ => (d.openToken s.now .passwordReset digest).bind fun token =>
      (d.users.find? token.userId).map fun user => user.email
  | .acceptOrganizationInvitation digest _ _ _ =>
    (d.pendingInvitation s.now digest).map fun invitation => invitation.email
  | .rejectOrganizationInvitation digest =>
    (d.pendingInvitation s.now digest).map fun invitation => invitation.email
  | _ => none

/-- The stored password of an account. -/
def Directory.passwordOf (userId : Uuid) : Option String :=
  (d.users.find? userId).map fun user => user.passwordHash

/-- Run the call of a party. A password that is new after the call was set by the party. -/
def execAttributed (invocation : Party × Session × AccountCall) (st : Attributed) :
    Except AccountError Attributed := do
  let directory ← execAccount go invocation.2.1 invocation.2.2 st.directory
  return {
    directory := directory
    setBy := fun userId => if directory.passwordOf userId = st.directory.passwordOf userId then st.setBy userId
      else some invocation.1
    presented := (invocation.2.2.presents invocation.2.1 st.directory).toList.map
      (fun address => (invocation.1, go.toLower address)) ++ st.presented }

/-- The password of an account was set by a party, or by somebody who has presented a token mailed to the
address. -/
def Attributed.setByOwner (party : Party) (address : String) (userId : Uuid) : Bool :=
  (st.setBy userId).any fun setter => setter = party || (setter, address) ∈ st.presented

/-- The call of a party makes no account with an address active that has somebody else's password: a token
that verifies the address, or an invitation for an account that waits for verification, is presented by
whoever set the password or after they have presented one themselves, and an invitation is used to register
the very address it was mailed to. -/
def Careful (invocation : Party × Session × AccountCall) : Prop :=
  match invocation.2.2 with
  | .registerUser request => go.normalize request.email = address →
    ∀ invitation ∈ st.directory.invitations.rows, invitation.tokenDigest = request.organizationInviteDigest →
      go.toLower invitation.email = address
  | .verifyEmail digest => ∀ token ∈ st.directory.accountTokens.rows, token.tokenDigest = digest →
    ∀ user ∈ st.directory.users.rows, user.id = token.userId → go.toLower user.email = address →
      user.status = .pendingVerification → st.setByOwner invocation.1 address user.id
  | .acceptOrganizationInvitation digest _ _ _ =>
    ∀ invitation ∈ st.directory.invitations.rows, invitation.tokenDigest = digest →
      go.toLower invitation.email = address → ∀ user ∈ st.directory.users.rows,
        go.toLower user.email = address → user.status = .pendingVerification →
          st.setByOwner invocation.1 address user.id
  | _ => True

instance (go : Runtime) (address : String) (st : Attributed) (invocation : Party × Session × AccountCall) :
    Decidable (Careful go address st invocation) := by
  unfold Careful
  split <;> infer_instance

/-- Every active account with an address has the password of somebody who has presented a token mailed to
the address. -/
def OwnersOnly : Prop :=
  ∀ user ∈ st.directory.users.rows, go.toLower user.email = address → user.status = .active →
    ∃ setter, st.setBy user.id = some setter ∧ (setter, address) ∈ st.presented

variable {go : Runtime} {st st' : Attributed} {party : Party} {s : Session} {call : AccountCall}
  {address : String} {user user' : User}

section

variable (h : execAttributed go (party, s, call) st = .ok st')
include h

theorem execAttributed_eq_ok : execAccount go s call st.directory = .ok st'.directory ∧
      (∀ userId, st'.setBy userId = if st'.directory.passwordOf userId = st.directory.passwordOf userId
        then st.setBy userId else some party) ∧
      st'.presented = (call.presents s st.directory).toList.map (fun address => (party, go.toLower address)) ++
        st.presented := by
  simp only [execAttributed, eq_ok] at h
  obtain ⟨_, hexec, rfl⟩ := h
  exact ⟨hexec, fun _ => rfl, rfl⟩

theorem setBy_kept (hold : user ∈ st.directory.users.rows)
    (hnew : user' ∈ st'.directory.users.rows) (hid : user'.id = user.id)
    (hhash : user'.passwordHash = user.passwordHash) : st'.setBy user'.id = st.setBy user'.id := by
  obtain ⟨-, hset, -⟩ := execAttributed_eq_ok h
  have hbef : st.directory.users.find? user'.id = some user := hid ▸ find?_of_mem hold
  have haf : st'.directory.users.find? user'.id = some user' := find?_of_mem hnew
  rw [hset, if_pos]
  rw [passwordOf, passwordOf, hbef, haf, Option.map_some, Option.map_some, hhash]

theorem setBy_new (hnew : user' ∈ st'.directory.users.rows)
    (hfr : st.directory.passwordOf user'.id ≠ some user'.passwordHash) : st'.setBy user'.id = some party := by
  obtain ⟨-, hset, -⟩ := execAttributed_eq_ok h
  have haf : st'.directory.users.find? user'.id = some user' := find?_of_mem hnew
  rw [hset, if_neg]
  rw [passwordOf, haf]
  exact hfr.symm

theorem mem_presented {mailed : String}
    (hml : call.presents s st.directory = some mailed) : (party, go.toLower mailed) ∈ st'.presented := by
  obtain ⟨-, -, hpr⟩ := execAttributed_eq_ok h
  rw [hpr, hml]
  exact List.mem_cons_self

theorem presented_kept {entry : Party × String} (hent : entry ∈ st.presented) : entry ∈ st'.presented := by
  obtain ⟨-, -, hpr⟩ := execAttributed_eq_ok h
  rw [hpr]
  exact List.mem_append_right _ hent

theorem OwnersOnly.kept (hinv : OwnersOnly go address st) (hold : user ∈ st.directory.users.rows)
    (hnew : user' ∈ st'.directory.users.rows) (hid : user'.id = user.id)
    (hhash : user'.passwordHash = user.passwordHash) (hadd : go.toLower user.email = address)
    (hac : user.status = .active) :
    ∃ setter, st'.setBy user'.id = some setter ∧ (setter, address) ∈ st'.presented := by
  obtain ⟨setter, hset, hpr⟩ := hinv user hold hadd hac
  exact ⟨setter, by rw [setBy_kept h hold hnew hid hhash, hid, hset], presented_kept h hpr⟩

theorem owner_of_activated (hold : user ∈ st.directory.users.rows) (hnew : user' ∈ st'.directory.users.rows)
    (hid : user'.id = user.id) (hhash : user'.passwordHash = user.passwordHash)
    (hown : st.setByOwner party address user.id) (hpr : (party, address) ∈ st'.presented) :
    ∃ setter, st'.setBy user'.id = some setter ∧ (setter, address) ∈ st'.presented := by
  simp only [Attributed.setByOwner, Option.any_eq_true, Bool.or_eq_true, decide_eq_true_eq] at hown
  obtain ⟨setter, hset, hwho⟩ := hown
  refine ⟨setter, by rw [setBy_kept h hold hnew hid hhash, hid, hset], ?_⟩
  rcases hwho with rfl | hbef
  · exact hpr
  · exact presented_kept h hbef

theorem owner_of_inserted {users : Table User}
    (hins : st.directory.users.insert user AccountError.uniqueViolation = .ok users)
    (hnew : user ∈ st'.directory.users.rows) (hpr : (party, address) ∈ st'.presented) :
    ∃ setter, st'.setBy user.id = some setter ∧ (setter, address) ∈ st'.presented := by
  refine ⟨party, setBy_new h hnew ?_, hpr⟩
  have hnone : st.directory.users.find? user.id = none :=
    find?_eq_none.mpr fun row hrow => rowId_ne_of_insert hins hrow
  simp [passwordOf, hnone]

theorem OwnersOnly.step (hinv : OwnersOnly go address st) (hcr : Careful go address st (party, s, call)) :
    OwnersOnly go address st' := by
  intro _ huser' hadd hac
  have hef := execAccount_effect (execAttributed_eq_ok h).1
  have hrows := huser'
  generalize st'.directory.users = users at hef hrows
  cases hef with
  | quiet => exact hinv.kept h hrows huser' rfl rfl hadd hac
  | registered user hins hst =>
    rcases (mem_insert hins).mp hrows with rfl | hold
    · exact absurd (hst.symm.trans hac) (by decide)
    · exact hinv.kept h hold huser' rfl rfl hadd hac
  | @registeredInvited req _ invitation hshow hf user hins hem =>
    rcases (mem_insert hins).mp hrows with rfl | hold
    · have hpr : (AccountCall.registerUser req).presents s st.directory = some invitation.email := by
        simp [AccountCall.presents, hshow, hf]
      have hrg : go.normalize req.email = address := by
        rw [hem, Runtime.normalize, go.toLower_toLower] at hadd
        exact hadd
      obtain ⟨hmem, hdg⟩ := pendingInvitation_eq_some hf
      have hml : go.toLower invitation.email = address := hcr hrg invitation hmem hdg
      exact owner_of_inserted h hins huser' (hml ▸ mem_presented h hpr)
    · exact hinv.kept h hold huser' rfl rfl hadd hac
  | @verified digest token htk user hf hst =>
    obtain ⟨hold, hid⟩ := found hf
    have hkey : Keyed.key (user.activate s.now) = Keyed.key user := rfl
    rcases (mem_replace hold hkey).mp hrows with rfl | ⟨hne, -⟩
    · have hpr : (AccountCall.verifyEmail digest).presents s st.directory = some user.email := by
        simp [AccountCall.presents, htk, hf]
      obtain ⟨hmem, hdg⟩ := openToken_eq_some htk
      have hown := hcr token hmem hdg user hold hid hadd hst
      exact owner_of_activated h hold huser' rfl rfl hown (hadd ▸ mem_presented h hpr)
    · exact hinv.kept h hne huser' rfl rfl hadd hac
  | @reset digest passwordHash token htk user hf hst =>
    obtain ⟨hold, hid⟩ := found hf
    have hkey : Keyed.key { user with passwordHash := passwordHash, sessionVersion := user.sessionVersion + 1 } =
        Keyed.key user := rfl
    rcases (mem_replace hold hkey).mp hrows with rfl | ⟨hne, -⟩
    · have hpr : (AccountCall.resetPassword digest passwordHash).presents s st.directory =
          some user.email := by
        simp [AccountCall.presents, htk, hf]
      -- A reset to the stored password leaves it with whoever set it; the account was active already.
      by_cases hhash : passwordHash = user.passwordHash
      · exact hinv.kept h hold huser' rfl hhash hadd hst
      · refine ⟨party, setBy_new h huser' ?_, hadd ▸ mem_presented h hpr⟩
        have hbef : st.directory.users.find? user.id = some user := find?_of_mem hold
        simpa [passwordOf, hbef] using Ne.symm hhash
    · exact hinv.kept h hne huser' rfl rfl hadd hac
  | @invitedNew digest passwordHash displayName allowCreate _ invitation hf user hins hem =>
    rcases (mem_insert hins).mp hrows with rfl | hold
    · have hpr : (AccountCall.acceptOrganizationInvitation digest passwordHash displayName
          allowCreate).presents s st.directory = some invitation.email := by
        simp [AccountCall.presents, hf]
      have hml : go.toLower invitation.email = address := by
        rw [hem, go.toLower_toLower] at hadd
        exact hadd
      exact owner_of_inserted h hins huser' (hml ▸ mem_presented h hpr)
    · exact hinv.kept h hold huser' rfl rfl hadd hac
  | @invitedPending digest passwordHash displayName allowCreate invitation hf user huser hst =>
    obtain ⟨hold, hsame⟩ := queried huser
    have hkey : Keyed.key (user.activate s.now) = Keyed.key user := rfl
    rcases (mem_replace hold hkey).mp hrows with rfl | ⟨hne, -⟩
    · have hpr : (AccountCall.acceptOrganizationInvitation digest passwordHash displayName
          allowCreate).presents s st.directory = some invitation.email := by
        simp [AccountCall.presents, hf]
      have hml : go.toLower invitation.email = address := hsame.symm.trans hadd
      obtain ⟨hmem, hdg⟩ := pendingInvitation_eq_some hf
      have hown := hcr invitation hmem hdg hml user hold hadd hst
      exact owner_of_activated h hold huser' rfl rfl hown (hml ▸ mem_presented h hpr)
    · exact hinv.kept h hne huser' rfl rfl hadd hac

end

theorem OwnersOnly.run {calls : List (Party × Session × AccountCall)} (hinv : OwnersOnly go address st)
    (hcr : AlongChanges (execAttributed go) (Careful go address) st calls) :
    OwnersOnly go address (run (execAttributed go) st calls) :=
  run_invariant_of_changes (fun _ _ _ hbef hstep h => hbef.step h hstep) hinv hcr

/-- An account that joins by an invitation, after any careful history of registrations, verifications,
resets and invitations of an address that had no account, and before any other, has no password but that of
somebody who has presented a token mailed to the address. -/
theorem invited_account_password_owner (go : Runtime) (d : Directory) (address : String)
    (hunused : ∀ user ∈ d.users.rows, go.toLower user.email ≠ address)
    (before after : List (Party × Session × AccountCall)) (party : Party) (s : Session) (digest : Digest)
    (passwordHash displayName : String) (allowCreate : Bool) (invitation : OrganizationInvitation)
    (joined : Attributed)
    (hinvitation : (run (execAttributed go) (.start d) before).directory.pendingInvitation s.now digest =
      some invitation) (haddress : go.toLower invitation.email = address)
    (haccept : execAttributed go
      (party, s, .acceptOrganizationInvitation digest passwordHash displayName allowCreate)
      (run (execAttributed go) (.start d) before) = .ok joined)
    (hcareful : AlongChanges (execAttributed go) (Careful go address) (.start d) (before ++
      (party, s, .acceptOrganizationInvitation digest passwordHash displayName allowCreate) :: after)) :
    (∃ user ∈ joined.directory.users.rows, go.toLower user.email = address ∧
      joined.directory.isActiveMember invitation.organizationId user.id) ∧
    OwnersOnly go address (run (execAttributed go) (.start d) (before ++
      (party, s, .acceptOrganizationInvitation digest passwordHash displayName allowCreate) :: after)) := by
  constructor
  · obtain ⟨hac, -, -⟩ := execAttributed_eq_ok haccept
    obtain ⟨user, huser, hem, hact⟩ := acceptOrganizationInvitation_active hinvitation hac
    exact ⟨user, huser, hem.trans haddress, hact⟩
  · have hstar : OwnersOnly go address (.start d) := fun user huser hem => absurd hem (hunused user huser)
    exact hstar.run hcareful

/-- A digest as long as those of the code. -/
def demoDigest (byte : UInt8) : Digest := List.replicate 32 byte

/-- A registration of an address for which a verification token is mailed. -/
def demoRegistration : Registration :=
  ⟨"New@example.com", "first-hash", "", .opened, [], [], demoDigest 1, 100⟩

/-- The first party registers the address and the organization invites it. -/
def registeredAndInvited : List (Party × Session × AccountCall) :=
  [(1, demoSession 1, .registerUser demoRegistration),
    (9, demoSession 2, .createOrganizationInvitation 1 "new@example.com" .member (demoDigest 2) 100)]

/-- The owner of the address registers it and accepts the invitation, and the account has their password. -/
theorem invited_account_password_owner_demo :
    OwnersOnly asciiRuntime "new@example.com" (run (execAttributed asciiRuntime) (.start demoDirectory)
      (registeredAndInvited ++
        [(1, demoSession 3, .acceptOrganizationInvitation (demoDigest 2) "" "" true)])) := by
  have hml : ((run (execAttributed asciiRuntime) (.start demoDirectory) registeredAndInvited).directory
      |>.pendingInvitation 3 (demoDigest 2)).map (fun invitation => asciiRuntime.toLower invitation.email) =
        some "new@example.com" := by
    decide +kernel
  obtain ⟨invitation, hinv, hadd⟩ := Option.map_eq_some_iff.mp hml
  have hcm : (execAttributed asciiRuntime
      (1, demoSession 3, .acceptOrganizationInvitation (demoDigest 2) "" "" true)
      (run (execAttributed asciiRuntime) (.start demoDirectory) registeredAndInvited)).isOk := by
    decide +kernel
  cases hac : execAttributed asciiRuntime
      (1, demoSession 3, .acceptOrganizationInvitation (demoDigest 2) "" "" true)
      (run (execAttributed asciiRuntime) (.start demoDirectory) registeredAndInvited) with
  | error _ => rw [hac] at hcm; exact nomatch hcm
  | ok joined =>
    exact (invited_account_password_owner asciiRuntime demoDirectory "new@example.com" (by decide +kernel)
      registeredAndInvited [] 1 (demoSession 3) (demoDigest 2) "" "" true invitation joined hinv hadd
      hac (Along.changes ⟨by decide +kernel, by decide +kernel, by decide +kernel, trivial⟩)).2

/-- The owner of the address accepts the invitation, or verifies the address and then accepts it. -/
def ownerAnswers : List (List (Party × Session × AccountCall)) :=
  [[(2, demoSession 3, .acceptOrganizationInvitation (demoDigest 2) "" "" true)],
    [(2, demoSession 3, .verifyEmail (demoDigest 1)),
      (2, demoSession 4, .acceptOrganizationInvitation (demoDigest 2) "" "" true)]]

/-- Somebody else registers the address first. The account that the owner of the address joins the
organization with is active and has the password of the party that presented no token. -/
theorem first_registration_keeps_password : ownerAnswers ≠ [] ∧ ∀ answers ∈ ownerAnswers,
    let st := run (execAttributed asciiRuntime) (.start demoDirectory) (registeredAndInvited ++ answers)
    st.directory.isActiveMember 1 102 ∧
      (st.directory.users.find? 102).any (fun user => user.email = "new@example.com" && user.status = .active &&
        user.passwordHash = "first-hash") ∧
      st.setBy 102 = some 1 ∧ (1, "new@example.com") ∉ st.presented := by
  decide +kernel

end ModelDock.Identity
