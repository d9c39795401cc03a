import ModelDock.Identity.Sessions

/-!
# One-time codes under interleaving

A code is checked against a secret that was read before; the transactions that use up its counter or enrol a
secret do not look at the secret it was checked against. Both guarantees fail when it was exchanged in between.
-/

namespace ModelDock.Identity

open Relational Text Table List Option
open Store (Uuid Timestamp)

variable (crypto : Crypto) (user : User) (st : Console)

/-- The enrolled secret of an account in the clear. -/
def User.clearSecret : Option String :=
  user.totpSecret.bind fun envelope => crypto.decrypt user.id envelope

/-- The secret that waits for its first code in the clear. -/
def User.clearPending : Option String :=
  user.totpPendingSecret.bind fun envelope => crypto.decrypt user.id envelope

/-- A code is used up while the secret it was checked against is the enrolled one, and an enrolment is
completed while it is the one that waits. -/
def SameSecret (invocation : Session × ℕ × ConsoleAction) : Prop :=
  match invocation.2.2, st.requests invocation.2.1 with
  | .loginConsume, some (check, .loginValidated secret _) =>
    ∀ user ∈ st.directory.users.rows, user.id = check.userId → user.clearSecret crypto = some secret
  | .disableConsume, some (check, .disabling secret _) =>
    ∀ user ∈ st.directory.users.rows, user.id = check.userId → user.clearSecret crypto = some secret
  | .completeEnrollment, some (check, .confirming secret _) =>
    ∀ user ∈ st.directory.users.rows, user.id = check.userId → user.clearPending crypto = some secret
  | _, _ => True

instance (crypto : Crypto) (st : Console) (invocation : Session × ℕ × ConsoleAction) :
    Decidable (SameSecret crypto st invocation) := by
  obtain ⟨_, request, action⟩ := invocation
  unfold SameSecret
  split <;> infer_instance

/-- A generated secret is a new one: it is not the enrolled one and none of its codes was accepted. -/
def NewSecret (invocation : Session × ℕ × ConsoleAction) : Prop :=
  match invocation.2.2, st.requests invocation.2.1 with
  | .setPending encrypted _, some (check, _) =>
    (∀ user ∈ st.directory.users.rows, user.id = check.userId → ∀ secret ∈ user.clearSecret crypto,
      crypto.decrypt check.userId encrypted ≠ some secret) ∧
    ∀ entry ∈ st.accepted, entry.userId = check.userId →
      crypto.decrypt check.userId encrypted ≠ some entry.secret
  | _, _ => True

instance (crypto : Crypto) (st : Console) (invocation : Session × ℕ × ConsoleAction) :
    Decidable (NewSecret crypto st invocation) := by
  obtain ⟨_, request, action⟩ := invocation
  unfold NewSecret
  split <;> infer_instance

/-- The last counter of an account bounds the accepted ones of its enrolled secret, and no code of a secret
that waits was accepted. -/
structure CodesUsed (crypto : Crypto) (accepted : List Acceptance) (user : User) : Prop where
  used : ∀ entry ∈ accepted, entry.userId = user.id → user.clearSecret crypto = some entry.secret →
    ∃ last, user.totpLastUsedStep = some last ∧ entry.counter ≤ last
  unused : ∀ entry ∈ accepted, entry.userId = user.id → user.clearPending crypto ≠ some entry.secret
  distinct : ∀ secret, user.clearPending crypto = some secret → user.clearSecret crypto ≠ some secret

/-- Accepted counters of one secret of one user increase; the newest code comes first. -/
def Increasing (accepted : List Acceptance) : Prop :=
  accepted.Pairwise fun later earlier => later.userId = earlier.userId → later.secret = earlier.secret →
    earlier.counter < later.counter

variable {go : Runtime} {crypto : Crypto} {s : Session} {st st' : Console} {outcome : Outcome} {request : ℕ}
  {d d' : Directory} {accepted : List Acceptance} {user new : User} {entry : Acceptance} {step : ℕ}
  {secret : String} {check : Check}

section

variable (h : CodesUsed crypto accepted user)
include h

theorem CodesUsed.cons_of_ne (hne : entry.userId ≠ user.id) : CodesUsed crypto (entry :: accepted) user := by
  refine ⟨fun other hoth hof => ?_, fun other hoth hof => ?_, h.distinct⟩
  · rcases mem_cons.mp hoth with rfl | hold
    · exact absurd hof hne
    · exact h.used other hold hof
  · rcases mem_cons.mp hoth with rfl | hold
    · exact absurd hof hne
    · exact h.unused other hold hof

theorem CodesUsed.rewritten (hkey : Keyed.key new = Keyed.key user)
    (hcd : new.codes = user.codes ∨ new.codes = (none, none, none)) : CodesUsed crypto accepted new := by
  have hid : new.id = user.id := congrArg UserKey.id hkey
  rcases hcd with hsame | hnone
  · simp only [User.codes, Prod.mk.injEq] at hsame
    obtain ⟨hsc, hpn, hlast⟩ := hsame
    have hcl : new.clearSecret crypto = user.clearSecret crypto := by
      rw [User.clearSecret, User.clearSecret, hsc, hid]
    have hwt : new.clearPending crypto = user.clearPending crypto := by
      rw [User.clearPending, User.clearPending, hpn, hid]
    exact ⟨by rw [hcl, hlast, hid]; exact h.used, by rw [hwt, hid]; exact h.unused,
      by rw [hcl, hwt]; exact h.distinct⟩
  · simp only [User.codes, Prod.mk.injEq] at hnone
    obtain ⟨hsc, hpn, -⟩ := hnone
    constructor <;> simp [User.clearSecret, User.clearPending, hsc, hpn]

section

variable (henr : user.clearSecret crypto = some secret) (hlast : ∀ last ∈ user.totpLastUsedStep, last < step)
include henr hlast

theorem CodesUsed.below :
    ∀ entry ∈ accepted, entry.userId = user.id → entry.secret = secret → entry.counter < step := by
  intro entry hent hof hsame
  obtain ⟨last, hstor, hle⟩ := h.used entry hent hof (hsame ▸ henr)
  exact lt_of_le_of_lt hle (hlast last hstor)

theorem CodesUsed.consumed :
    CodesUsed crypto (⟨user.id, secret, step⟩ :: accepted) { user with totpLastUsedStep := some step } := by
  refine ⟨fun entry hent hof hsc => ⟨step, rfl, ?_⟩, fun entry hent hof hpn => ?_, h.distinct⟩
  · rcases mem_cons.mp hent with rfl | hold
    · exact le_rfl
    · have hsame : some secret = some entry.secret := henr.symm.trans hsc
      exact (h.below henr hlast entry hold hof (some.inj hsame).symm).le
  · rcases mem_cons.mp hent with rfl | hold
    · exact h.distinct secret hpn henr
    · exact h.unused entry hold hof hpn

end

theorem CodesUsed.enrolled {now : Timestamp} (hpn : user.clearPending crypto = some secret) :
    CodesUsed crypto (⟨user.id, secret, step⟩ :: accepted) (user.enroll now step) := by
  have hcl : (user.enroll now step).clearSecret crypto = some secret := hpn
  refine ⟨fun entry hent hof hsc => ⟨step, rfl, ?_⟩, fun _ _ _ => nofun, nofun⟩
  rcases mem_cons.mp hent with rfl | hold
  · exact le_rfl
  · have hsame : secret = entry.secret := mem_unique hcl hsc
    exact absurd (hsame ▸ hpn) (h.unused entry hold hof)

end

/-- A code that a request was given is a code of the secret it was checked against. -/
def Phase.Valid (crypto : Crypto) : Phase → Prop
  | .loginValidated secret step => ∃ code unix, validateTOTP crypto secret code unix = some step
  | .confirming secret step => ∃ code unix, validateTOTP crypto secret code unix = some step
  | .disabling secret step => ∃ code unix, validateTOTP crypto secret code unix = some step
  | _ => True

/-- A secret was enabled with a code of its own. -/
def Enabling.Proper (crypto : Crypto) (enabling : Enabling) : Prop :=
  enabling.enabled = some enabling.validated ∧
    ∃ code unix counter, validateTOTP crypto enabling.validated code unix = some counter

/-- The record of codes and enrolments is as it should be, and every account and request knows it. -/
structure CodesOnce (crypto : Crypto) (st : Console) : Prop where
  accounts : ∀ user ∈ st.directory.users.rows, CodesUsed crypto st.accepted user
  requests : ∀ request check phase, st.requests request = some (check, phase) → phase.Valid crypto
  increasing : Increasing st.accepted
  enablings : ∀ enabling ∈ st.enablings, enabling.Proper crypto

theorem accounts_updated {later : List Acceptance} {err : AccountError} {condition : User → Bool}
    {set : User → User} (h : d.updateUser check.userId err condition set = .ok d')
    (hac : ∀ user ∈ d.users.rows, CodesUsed crypto accepted user)
    (hkey : ∀ user, Keyed.key (set user) = Keyed.key user)
    (hrow : ∀ user ∈ d.users.rows, user.id = check.userId → condition user →
      CodesUsed crypto later (set user))
    (hlat : ∀ user : User, user.id ≠ check.userId → CodesUsed crypto accepted user →
      CodesUsed crypto later user) : ∀ user' ∈ d'.users.rows, CodesUsed crypto later user' := by
  obtain ⟨user, huser, hid, hcn, rfl⟩ := Directory.updateUser_eq_ok h
  intro user' huser'
  rcases (mem_replace huser (hkey user)).mp huser' with rfl | ⟨hoth, hne⟩
  · exact hrow user huser hid hcn
  · have hset : (set user).id = user.id := congrArg UserKey.id (hkey user)
    exact hlat user' (fun hsame => hne (hsame.trans (hid.symm.trans hset.symm))) (hac user' hoth)

theorem enrolledSecret_completed (h : completeTOTPEnrollment s check.userId step d = .ok d')
    (hpn : ∀ user ∈ d.users.rows, user.id = check.userId → user.clearPending crypto = some secret) :
    Directory.enrolledSecret crypto d' check.userId = some secret := by
  obtain ⟨user, huser, hid, -, rfl⟩ := Directory.updateUser_eq_ok h
  have hkey : Keyed.key (user.enroll s.now step) = Keyed.key user := rfl
  have hbef : d.users.find? check.userId = some user := hid ▸ find?_of_mem huser
  have hf : (d.users.replace (user.enroll s.now step)).find? check.userId = some (user.enroll s.now step) :=
    find?_replace_of_find? hbef hkey
  have hwt := hpn user huser hid
  rw [User.clearPending, hid] at hwt
  rw [Directory.enrolledSecret, hf]
  exact hwt

theorem CodesOnce.apply {action : ConsoleAction} (h : CodesOnce crypto st)
    (hsc : SameSecret crypto st (s, request, action)) (hnew : NewSecret crypto st (s, request, action))
    (hef : ConsoleEffect crypto s st.directory st.raises.length action (st.requests request) outcome) :
    (∀ user ∈ outcome.directory.users.rows, CodesUsed crypto (outcome.accepted.toList ++ st.accepted) user) ∧
      Increasing (outcome.accepted.toList ++ st.accepted) ∧
      (∀ check phase, outcome.request = some (check, phase) → phase.Valid crypto) ∧
      ∀ enabling ∈ outcome.enabling, enabling.Proper crypto := by
  simp only [SameSecret, NewSecret] at hsc hnew
  have hcr := h.requests request
  generalize st.requests request = current at hef hsc hnew hcr
  have hpl {check : Check} {phase : Phase} (hph : phase.Valid crypto) (check' : Check) (phase' : Phase)
      (hrq : some (check, phase) = some (check', phase')) : phase'.Valid crypto := by
    obtain ⟨-, rfl⟩ := Prod.mk.inj (Option.some.inj hrq)
    exact hph
  cases hef with
  | checked user huser phase hph =>
    refine ⟨h.accounts, h.increasing, hpl ?_, nofun⟩
    rcases hph with rfl | rfl | rfl <;> trivial
  | verified phase hph =>
    refine ⟨h.accounts, h.increasing, hpl ?_, nofun⟩
    rcases hph with rfl | ⟨hash, rfl⟩ <;> trivial
  | validated secret step next hvl hnext =>
    refine ⟨h.accounts, h.increasing, hpl ?_, nofun⟩
    rcases hnext with ⟨-, rfl⟩ | ⟨-, rfl⟩ | ⟨-, rfl⟩ <;> exact hvl
  | issued | issuedRevoked | issuedConfirmed => exact ⟨h.accounts, h.increasing, nofun, nofun⟩
  | @revoked check d' hrv user huser hid =>
    refine ⟨?_, h.increasing, hpl trivial, nofun⟩
    exact accounts_updated hrv h.accounts (fun _ => rfl)
      (fun user huser _ _ => (h.accounts user huser).rewritten rfl (.inl rfl)) fun _ _ hoth => hoth
  | @pending check encrypted expires d' hset =>
    obtain ⟨hnd, hnot⟩ := hnew
    refine ⟨?_, h.increasing, nofun, nofun⟩
    refine accounts_updated hset h.accounts (fun _ => rfl) (fun user huser hid _ => ?_) fun _ _ hoth => hoth
    rw [← hid] at hnot
    exact ⟨(h.accounts user huser).used, hnot, fun secret hpn henr =>
      hnd user huser hid secret henr (hid ▸ hpn)⟩
  | @consumed _ check phase secret step next hnext d' hcn =>
    have henr : ∀ user ∈ st.directory.users.rows, user.id = check.userId →
        user.clearSecret crypto = some secret := by
      rcases hnext with ⟨rfl, rfl, -⟩ | ⟨rfl, rfl, -⟩ <;> exact hsc
    obtain ⟨user, huser, hid, hco, -⟩ := Directory.updateUser_eq_ok hcn
    have hlast : ∀ last ∈ user.totpLastUsedStep, last < step := by
      simpa [Option.all_eq_true] using (Bool.and_eq_true_iff.mp hco).2
    refine ⟨?_, ?_, hpl ?_, nofun⟩
    · refine accounts_updated hcn h.accounts (fun _ => rfl) (fun other hoth hsame hgr => ?_)
        fun other hne hoth => hoth.cons_of_ne hne.symm
      obtain rfl : other = user := eq_of_rowId hoth huser (hsame.trans hid.symm)
      rw [← hid]
      exact (h.accounts other huser).consumed (henr other huser hid) hlast
    · refine pairwise_cons.mpr ⟨fun entry hent hof hsame => ?_, h.increasing⟩
      exact (h.accounts user huser).below (henr user huser hid) hlast entry hent (hof.symm.trans hid.symm)
        hsame.symm
    · rcases hnext with ⟨-, -, rfl⟩ | ⟨-, -, rfl⟩ <;> trivial
  | @completed check secret step d' hcm =>
    obtain ⟨user, huser, hid, -, -⟩ := Directory.updateUser_eq_ok hcm
    have hpn := hsc user huser hid
    refine ⟨?_, ?_, hpl trivial, fun enabling hen => ?_⟩
    · refine accounts_updated hcm h.accounts (fun _ => rfl) (fun other hoth hsame _ => ?_)
        fun other hne hoth => hoth.cons_of_ne hne.symm
      rw [← hsame]
      exact (h.accounts other hoth).enrolled (hsc other hoth hsame)
    · refine pairwise_cons.mpr ⟨fun entry hent hof hsame => ?_, h.increasing⟩
      exact absurd (hsame ▸ hpn) ((h.accounts user huser).unused entry hent (hof.symm.trans hid.symm))
    · obtain rfl := Option.mem_some_iff.mp hen
      obtain ⟨code, unix, hvl⟩ := hcr check _ rfl
      exact ⟨enrolledSecret_completed hcm hsc, code, unix, step, hvl⟩
  | rewritten d' hrw =>
    obtain ⟨user, huser, new, hkey, -, hcd, hus⟩ := hrw
    refine ⟨fun user' huser' => ?_, h.increasing, nofun, nofun⟩
    rw [hus] at huser'
    rcases (mem_replace huser hkey).mp huser' with rfl | ⟨hoth, -⟩
    · exact (h.accounts user huser).rewritten hkey hcd
    · exact h.accounts user' hoth

theorem CodesOnce.kept {inv : Session × ℕ × ConsoleAction} (h : CodesOnce crypto st)
    (hsc : SameSecret crypto st inv) (hnew : NewSecret crypto st inv)
    (hexec : execConsole go crypto inv st = .ok st') : CodesOnce crypto st' := by
  obtain ⟨_, request, _⟩ := inv
  have hup (next : Option (Check × Phase))
      (hnext : ∀ check phase, next = some (check, phase) → phase.Valid crypto) (other : ℕ) (check : Check)
      (phase : Phase) (hne : Function.update st.requests request next other = some (check, phase)) :
      phase.Valid crypto := by
    by_cases hsame : other = request
    · subst hsame
      exact hnext check phase (by simpa using hne)
    · exact h.requests other check phase (by simpa [hsame] using hne)
  unfold execConsole at hexec
  split at hexec
  · next outcome hout =>
    cases hexec
    obtain ⟨hac, hinc, hrq, hen⟩ := h.apply hsc hnew (perform_effect hout)
    refine ⟨hac, hup outcome.request hrq, hinc, fun enabling hmem => ?_⟩
    rcases mem_append.mp hmem with hadd | hold
    · exact hen enabling (by simpa using hadd)
    · exact h.enablings enabling hold
  · cases hexec
    exact ⟨h.accounts, hup none nofun, h.increasing, h.enablings⟩

/-- In every directory where no secret that waits is the enrolled one, after any interleaving in which codes
are used up and enrolments completed only for the secret the code was checked against, and generated secrets
are new: the accepted counters of one secret strictly increase, so that each is accepted at most once, and every
secret that was enabled is the one a valid code was presented for. -/
theorem codes_accepted_once (go : Runtime) (crypto : Crypto) (d : Directory)
    (hdistinct : ∀ user ∈ d.users.rows, ∀ secret, user.clearPending crypto = some secret →
      user.clearSecret crypto ≠ some secret) (calls : List (Session × ℕ × ConsoleAction))
    (hnew : AlongChanges (execConsole go crypto) (NewSecret crypto) { directory := d } calls)
    (hsc : AlongChanges (execConsole go crypto) (SameSecret crypto) { directory := d } calls) :
    Increasing (run (execConsole go crypto) { directory := d } calls).accepted ∧
      ∀ enabling ∈ (run (execConsole go crypto) { directory := d } calls).enablings, enabling.Proper crypto := by
  have hstar : CodesOnce crypto { directory := d } :=
    ⟨fun user huser => ⟨nofun, nofun, hdistinct user huser⟩, nofun, Pairwise.nil, nofun⟩
  have honce : CodesOnce crypto (run (execConsole go crypto) { directory := d } calls) :=
    run_invariant_of_changes (fun _ _ _ hbef hstep h => hbef.kept hstep.1 hstep.2 h) hstar (hsc.and hnew)
  exact ⟨honce.increasing, honce.enablings⟩

/-- An administrator confirms an enrolment, then logs in with the next code. -/
def enrollAndLogin : List (Session × ℕ × ConsoleAction) :=
  [(demoSession 1, 1, .authenticate 2 0), (demoSession 2, 1, .confirmCode "111111" 0),
    (demoSession 3, 1, .completeEnrollment), (demoSession 4, 2, .login "member@example.com" "member-hash"),
    (demoSession 5, 2, .loginCode "222222" 30), (demoSession 6, 2, .loginConsume)]

/-- Two codes are accepted, one secret is enabled, and both are as they should be. -/
theorem codes_accepted_once_demo :
    (run (execConsole asciiRuntime demoCrypto) { directory := enrollingDirectory } enrollAndLogin).accepted =
        [⟨2, "A", 1⟩, ⟨2, "A", 0⟩] ∧
      Increasing (run (execConsole asciiRuntime demoCrypto) { directory := enrollingDirectory }
        enrollAndLogin).accepted := by
  refine ⟨by decide +kernel, (codes_accepted_once asciiRuntime demoCrypto enrollingDirectory ?_ enrollAndLogin
    (Along.changes ⟨by decide +kernel, by decide +kernel, by decide +kernel, by decide +kernel, by decide +kernel,
      by decide +kernel, trivial⟩)
    (Along.changes ⟨by decide +kernel, by decide +kernel, by decide +kernel, by decide +kernel, by decide +kernel,
      by decide +kernel, trivial⟩)).1⟩
  intro _ huser _ _
  obtain rfl := mem_singleton.mp huser
  exact nofun

/-- A code is checked for one secret, another starts to wait, and the enrolment is completed. -/
def exchangedEnrollment : List (Session × ℕ × ConsoleAction) :=
  [(demoSession 1, 1, .authenticate 2 0), (demoSession 2, 1, .confirmCode "111111" 0),
    (demoSession 3, 2, .authenticate 2 0), (demoSession 4, 2, .setPending [66, 66] 100),
    (demoSession 5, 1, .completeEnrollment)]

/-- Two logins present the same code. One uses it up; the other goes on after another secret was enrolled with
an older code. -/
def exchangedLogin : List (Session × ℕ × ConsoleAction) :=
  [(demoSession 1, 1, .authenticate 2 0), (demoSession 2, 1, .confirmCode "111111" 0),
    (demoSession 3, 1, .completeEnrollment), (demoSession 4, 2, .login "member@example.com" "member-hash"),
    (demoSession 5, 3, .login "member@example.com" "member-hash"), (demoSession 6, 2, .loginCode "222222" 30),
    (demoSession 7, 3, .loginCode "222222" 30), (demoSession 8, 2, .loginConsume),
    (demoSession 9, 4, .authenticate 2 1), (demoSession 10, 4, .setPending [66, 66] 100),
    (demoSession 11, 5, .authenticate 2 1), (demoSession 12, 5, .confirmCode "222222" 0),
    (demoSession 13, 5, .completeEnrollment), (demoSession 14, 3, .loginConsume)]

/-- A secret is enabled with the code of another one, and a counter of one secret is accepted twice. -/
theorem exchanged_secret_accepted : (⟨2, some "BB", "A"⟩ : Enabling) ∈ (run (execConsole asciiRuntime demoCrypto)
        { directory := enrollingDirectory } exchangedEnrollment).enablings ∧
      (run (execConsole asciiRuntime demoCrypto) { directory := enrollingDirectory }
        exchangedLogin).accepted.count ⟨2, "A", 1⟩ = 2 := by
  decide +kernel

end ModelDock.Identity
