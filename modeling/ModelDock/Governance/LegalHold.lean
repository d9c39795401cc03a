import ModelDock.Relational.History
import ModelDock.Relational.View
import ModelDock.Text.Runtime

/-!
# Legal holds and the deletion of data

A row can belong to a user and to an organization at once. The retention cleanup looks at the holds of both; a
deletion job looks at the hold of its subject only, and then redacts every row of that subject.
-/

namespace ModelDock.Governance

open Relational Text Table

/-- Identifiers. -/
abbrev Uuid := ℕ

/-- Times, in seconds. -/
abbrev Timestamp := ℕ

/-- Whom data is about. -/
inductive Subject
  | user (id : Uuid)
  | organization (id : Uuid)
deriving DecidableEq

/-- A row of `users`. -/
structure User where
  id : Uuid
  (email displayName passwordHash : String)
  closed : Bool := false
  legalHold : Bool := false
deriving DecidableEq

/-- A row of `organizations`. -/
structure Organization where
  id : Uuid
  (name slug : String)
  metadata : String := "\x7b\x7d"
  archived : Bool := false
  legalHold : Bool := false
deriving DecidableEq

/-- A row that can belong to a user and to an organization. -/
structure Record (C : Type) where
  id : Uuid
  (userId organizationId : Option Uuid)
  createdAt : Timestamp
  content : C
deriving DecidableEq

/-- What a row of `user_reports` says; `closed` is `RESOLVED` or `REJECTED`. -/
structure Report where
  closed : Bool
  description : String
  resolution : Option String
deriving DecidableEq

/-- What a row of `manual_review_queue` says. -/
structure Review where
  reason : String
  resolution : Option String
deriving DecidableEq

/-- What a row of `risk_events` says. -/
structure RiskEvent where
  (ipHash deviceHash : Option String)
  metadata : String
deriving DecidableEq

/-- A row of `account_tokens`. -/
structure Token where
  (id userId : Uuid)
deriving DecidableEq

/-- A row of `email_outbox`. -/
structure Email where
  id : Uuid
  recipient : String
deriving DecidableEq

/-- What a lifecycle job does. -/
inductive JobType
  | export
  | close
  | delete
  | purge
deriving DecidableEq

/-- How far a lifecycle job is. -/
inductive JobStatus
  | requested
  | completed
  | blocked
deriving DecidableEq

/-- A row of `data_lifecycle_jobs`. -/
structure Job where
  id : Uuid
  subject : Subject
  jobType : JobType
  status : JobStatus
deriving DecidableEq

/-- A row of `privacy_settings`. -/
structure PrivacySettings where
  retentionDays : ℕ := 30
  legalHold : Bool := false

instance : Keyed User RowKey where key user := ⟨user.id⟩
instance : Keyed Organization RowKey where key organization := ⟨organization.id⟩
instance {C : Type} : Keyed (Record C) RowKey where key record := ⟨record.id⟩
instance : Keyed Token RowKey where key token := ⟨token.id⟩
instance : Keyed Email RowKey where key email := ⟨email.id⟩
instance : Keyed Job RowKey where key job := ⟨job.id⟩

/-- The tables that hold and deletion read and write. -/
structure Records where
  users : Table User
  organizations : Table Organization
  privacy : Subject → Option PrivacySettings
  reports : Table (Record Report)
  reviews : Table (Record Review)
  riskEvents : Table (Record RiskEvent)
  tokens : Table Token
  emails : Table Email
  jobs : Table Job

/-- The subject is under legal hold, by its settings or by its own row. -/
def Records.legalHold (g : Records) (subject : Subject) : Bool :=
  (g.privacy subject).any PrivacySettings.legalHold ||
    match subject with
    | .user id => (g.users.find? id).any User.legalHold
    | .organization id => (g.organizations.find? id).any Organization.legalHold

variable {C : Type}

/-- The row belongs to the subject. -/
def Record.linked (record : Record C) : Subject → Bool
  | .user id => record.userId = some id
  | .organization id => record.organizationId = some id

variable (go : Runtime) (g : Records) (user : User) (organization : Organization)

/-- The row belongs to a subject under legal hold. -/
def Record.held (record : Record C) : Bool :=
  record.userId.any (fun id => g.legalHold (.user id)) ||
    record.organizationId.any fun id => g.legalHold (.organization id)

variable (email : Email) (marker : String) (now : Timestamp)

/-- The message goes to the user. -/
def Email.addressed : Bool :=
  go.toLower email.recipient = go.toLower user.email

/-- The message goes to a user under legal hold. -/
def Email.held : Bool :=
  g.users.rows.any fun user => email.addressed go user && g.legalHold (.user user.id)

/-- Rewrite what a row says. -/
def Record.map (f : C → C) (record : Record C) : Record C := { record with content := f record.content }

theorem Record.map_key (f : C → C) (record : Record C) : Keyed.key (record.map f) = Keyed.key record := rfl

/-- A report without its texts. -/
def Report.redact (report : Report) : Report :=
  { report with description := marker, resolution := report.resolution.map fun _ => marker }

/-- A review without its texts. -/
def Review.redact (review : Review) : Review :=
  ⟨marker, review.resolution.map fun _ => marker⟩

/-- A risk event without its hashes. -/
def RiskEvent.redact (_ : RiskEvent) : RiskEvent := ⟨none, none, "\x7b\x7d"⟩

/-- What deleted texts are replaced by. -/
def deletionMarker : String := "[redacted by account deletion]"

/-- What expired texts are replaced by. -/
def retentionMarker : String := "[redacted by retention policy]"

/-- The address of a deleted user. -/
def deletedEmail (id : Uuid) : String := "deleted+" ++ toString id ++ "@example.invalid"

/-- The short name of a deleted organization. -/
def deletedSlug (id : Uuid) : String := "deleted-" ++ toString id

/-- A user without personal data. -/
def User.anonymize : User :=
  { user with
    email := deletedEmail user.id
    displayName := "Deleted User", passwordHash := "DELETED", closed := true }

/-- An organization without its name. -/
def Organization.anonymize : Organization :=
  { organization with
    name := "Deleted organization", slug := deletedSlug organization.id
    metadata := "\x7b\x7d", archived := true }

/-- Redact the rows of a subject. -/
def Records.redact (g : Records) (subject : Subject) : Records :=
  { g with
    reports := g.reports.rewriteIf (·.linked subject) (Record.map (Report.redact deletionMarker))
    reviews := g.reviews.rewriteIf (·.linked subject) (Record.map (Review.redact deletionMarker))
    riskEvents := g.riskEvents.rewriteIf (·.linked subject) (Record.map RiskEvent.redact) }

/-- The address of a deleted user is not in use. -/
def Records.addressFree : Bool :=
  g.users.rows.all fun other => other.id = user.id || other.email ≠ user.anonymize.email

/-- Why a job failed. -/
inductive LifecycleError
  | notFound
  | uniqueViolation

/-- Delete what a user left. -/
def deleteUser (id : Uuid) (g : Records) : Except LifecycleError Records := do
  let user ← required (g.users.find? id) .notFound
  ensure (g.addressFree user) .uniqueViolation
  return { g with
    users := g.users.rewriteIf (·.id = id) User.anonymize
    tokens := g.tokens.delete (·.userId = id)
    emails := g.emails.delete (Email.addressed go user) }.redact (.user id)

/-- The short name of a deleted organization is not in use. -/
def Records.slugFree : Bool :=
  g.organizations.rows.all fun other =>
    other.id = organization.id || go.toLower other.slug ≠ go.toLower organization.anonymize.slug

/-- Delete what an organization left. -/
def deleteOrganization (id : Uuid) (g : Records) : Except LifecycleError Records := do
  ensure ((g.organizations.find? id).all (g.slugFree go)) .uniqueViolation
  return { g with
    organizations := g.organizations.rewriteIf (·.id = id) Organization.anonymize }.redact (.organization id)

/-- Carry out a job that no hold blocks. -/
def Records.carryOut (job : Job) : Except LifecycleError Records :=
  match job.jobType, job.subject with
  | .close, .user id => .ok { g with users := g.users.rewriteIf (·.id = id) fun user => { user with closed := true } }
  | .close, .organization id =>
    .ok { g with organizations := g.organizations.rewriteIf (·.id = id) fun row => { row with archived := true } }
  | .delete, .user id => deleteUser go id g
  | .delete, .organization id => deleteOrganization go id g
  | _, _ => .ok g

/-- Write how a job ended. -/
def Records.finish (jobId : Uuid) (status : JobStatus) (g : Records) : Records :=
  { g with jobs := g.jobs.rewriteIf (·.id = jobId) fun job => { job with status := status } }

/-- Process a requested job. Which one is the next is given. -/
def processNextLifecycleJob (jobId : Uuid) (g : Records) : Except LifecycleError Records :=
  match g.jobs.find? jobId with
  | none => .ok g
  | some job =>
    if job.status ≠ .requested then .ok g
    else if g.legalHold job.subject ∧ job.jobType ≠ .export then .ok (g.finish jobId .blocked)
    else (g.carryOut go job).map (Records.finish jobId .completed)

/-- How long a row is kept, in days: the shorter of what its user and its organization set, or thirty. -/
def Record.retentionDays (g : Records) (record : Record C) : ℕ :=
  let days := [record.userId.bind fun id => g.privacy (.user id),
    record.organizationId.bind fun id => g.privacy (.organization id)].filterMap (·.map PrivacySettings.retentionDays)
  days.min?.getD 30

/-- The row is due for the retention cleanup. -/
def Record.expired (record : Record C) : Bool :=
  !record.held g && record.createdAt + 86400 * record.retentionDays g < now

/-- Redact what is kept long enough. -/
def cleanupExpiredGovernanceData (g : Records) : Records :=
  { g with
    reports := g.reports.rewriteIf
      (fun row => row.content.closed && row.content.description ≠ retentionMarker && row.expired g now)
      (Record.map (Report.redact retentionMarker))
    riskEvents := g.riskEvents.rewriteIf
      (fun row => row.content ≠ row.content.redact && row.expired g now) (Record.map RiskEvent.redact) }

/-- What happens: settings are changed, a job is requested, a job is processed, or expired data is cleaned up. -/
inductive Event
  | upsertPrivacySettings (subject : Subject) (settings : PrivacySettings)
  | createLifecycleJob (id : Uuid) (subject : Subject) (jobType : JobType)
  | process (jobId : Uuid)
  | cleanup (now : Timestamp)

/-- Apply an event. -/
def execGovernance (event : Event) (g : Records) : Except LifecycleError Records :=
  match event with
  | .upsertPrivacySettings subject settings =>
    .ok { g with privacy := Function.update g.privacy subject (some settings) }
  | .createLifecycleJob id subject jobType => do
    let jobs ← g.jobs.insert ⟨id, subject, jobType, .requested⟩ .uniqueViolation
    return { g with jobs := jobs }
  | .process jobId => processNextLifecycleJob go jobId g
  | .cleanup now => .ok (cleanupExpiredGovernanceData now g)

variable {go : Runtime} {g g' : Records} {subject : Subject}

/-- A step neither redacts nor deletes what belongs to a subject under legal hold. -/
structure Respects (go : Runtime) (g g' : Records) : Prop where
  users : ∀ user ∈ g.users.rows, g.legalHold (.user user.id) → user ∈ g'.users.rows
  organizations : ∀ row ∈ g.organizations.rows, g.legalHold (.organization row.id) → row ∈ g'.organizations.rows
  reports : ∀ row ∈ g.reports.rows, row.held g → row ∈ g'.reports.rows
  reviews : ∀ row ∈ g.reviews.rows, row.held g → row ∈ g'.reviews.rows
  riskEvents : ∀ row ∈ g.riskEvents.rows, row.held g → row ∈ g'.riskEvents.rows
  tokens : ∀ token ∈ g.tokens.rows, g.legalHold (.user token.userId) → token ∈ g'.tokens.rows
  emails : ∀ email ∈ g.emails.rows, email.held go g → email ∈ g'.emails.rows

/-- No row of the subject that still says something belongs to a subject under legal hold as well. -/
structure Clear (go : Runtime) (g : Records) (subject : Subject) : Prop where
  reports : ∀ row ∈ g.reports.rows, row.linked subject → row.held g →
    row.content.redact deletionMarker = row.content
  reviews : ∀ row ∈ g.reviews.rows, row.linked subject → row.held g →
    row.content.redact deletionMarker = row.content
  riskEvents : ∀ row ∈ g.riskEvents.rows, row.linked subject → row.held g → row.content.redact = row.content
  emails : ∀ id user, subject = .user id → g.users.find? id = some user → ∀ email ∈ g.emails.rows,
    email.addressed go user → email.held go g = false

/-- The subject can be deleted: a user is there, and the new name is free. -/
def Records.deletable (go : Runtime) (g : Records) : Subject → Bool
  | .user id => (g.users.find? id).any g.addressFree
  | .organization id => (g.organizations.find? id).all (g.slugFree go)

/-- The event deletes no subject whose rows belong to a subject under legal hold as well. -/
def Event.Clears (go : Runtime) (g : Records) : Event → Prop
  | .process jobId => ∀ job, g.jobs.find? jobId = some job → job.status = .requested → job.jobType = .delete →
      g.legalHold job.subject = false → g.deletable go job.subject → Clear go g job.subject
  | _ => True

theorem held_kept_iff {t : Table (Record C)} {redact : C → C} : (∀ row ∈ t.rows, row.held g →
        row ∈ (t.rewriteIf (·.linked subject) (Record.map redact)).rows) ↔
      ∀ row ∈ t.rows, row.linked subject → row.held g → redact row.content = row.content := by
  refine forall₂_congr fun row hrow => ?_
  have hmap : Record.map redact row = row ↔ redact row.content = row.content :=
    ⟨fun h => congrArg Record.content h, fun h => by simp [Record.map, h]⟩
  have hkept := mem_rewriteIf_iff (p := fun row => row.linked subject) (Record.map_key redact) hrow
  rw [hkept, hmap]
  exact ⟨fun h hln hheld => h hheld hln, fun h hheld hln => h hln hheld⟩

theorem unheld_kept {R : Type} [Keyed R RowKey] {t : Table R} {p : R → Bool} {f : R → R}
    (hkey : ∀ row, Keyed.key (f row) = Keyed.key row) {held : R → Prop} (hown : ∀ row, p row → ¬held row) :
    ∀ row ∈ t.rows, held row → row ∈ (t.rewriteIf p f hkey).rows := fun row hrow hheld =>
  (mem_rewriteIf_iff hkey hrow).mpr fun hp => absurd hheld (hown row hp)

theorem cleanup_respects (now : Timestamp) : Respects go g (cleanupExpiredGovernanceData now g) where
  users _ h _ := h
  organizations _ h _ := h
  reports := unheld_kept (Record.map_key _) fun row hp hheld => by simp [Record.expired, hheld] at hp
  reviews _ h _ := h
  riskEvents := unheld_kept (Record.map_key _) fun row hp hheld => by simp [Record.expired, hheld] at hp
  tokens _ h _ := h
  emails _ h _ := h

theorem users_kept {id : Uuid} (hfree : g.legalHold (.user id) = false) {f : User → User}
    (hkey : ∀ user, Keyed.key (f user) = Keyed.key user) : ∀ user ∈ g.users.rows,
      g.legalHold (.user user.id) → user ∈ (g.users.rewriteIf (·.id = id) f hkey).rows :=
  unheld_kept hkey fun user hid => by simp [of_decide_eq_true hid, hfree]

theorem organizations_kept {id : Uuid} (hfree : g.legalHold (.organization id) = false)
    {f : Organization → Organization} (hkey : ∀ row, Keyed.key (f row) = Keyed.key row) :
    ∀ row ∈ g.organizations.rows, g.legalHold (.organization row.id) →
      row ∈ (g.organizations.rewriteIf (·.id = id) f hkey).rows :=
  unheld_kept hkey fun row hid => by simp [of_decide_eq_true hid, hfree]

theorem carryOut_delete_respects_iff (go : Runtime) {job : Job} (hdl : job.jobType = .delete)
    (hfree : g.legalHold job.subject = false) :
    (g.deletable go job.subject = false ∧ ∃ e, g.carryOut go job = .error e) ∨
      g.deletable go job.subject ∧
        ∃ g', g.carryOut go job = .ok g' ∧ (Respects go g g' ↔ Clear go g job.subject) := by
  cases hsub : job.subject with
  | user id =>
    rw [hsub] at hfree
    simp only [Records.carryOut, hdl, hsub, deleteUser, Records.deletable]
    cases huser : g.users.find? id with
    | none => exact .inl ⟨rfl, _, rfl⟩
    | some user =>
      by_cases hadd : g.addressFree user
      swap
      · exact .inl ⟨eq_false_of_ne_true hadd, .uniqueViolation, by simp [required, ensure, hadd]⟩
      refine .inr ⟨hadd, _, by rw [required, ok_bind, ensure_of hadd]; rfl, fun hrs => ?_, fun hcl => ?_⟩
      · refine ⟨held_kept_iff.mp hrs.reports, held_kept_iff.mp hrs.reviews,
          held_kept_iff.mp hrs.riskEvents, fun other stored hne hstor email hem haddr => ?_⟩
        cases hne
        obtain rfl := Option.mem_unique hstor huser
        by_contra hheld
        have hkept := hrs.emails email hem (eq_true_of_ne_false hheld)
        simp [Records.redact, delete, haddr] at hkept
      · refine ⟨users_kept hfree fun _ => by rfl, fun _ h _ => h,
          held_kept_iff.mpr hcl.reports, held_kept_iff.mpr hcl.reviews, held_kept_iff.mpr hcl.riskEvents,
          fun token htk hheld => ?_, fun email hem hheld => ?_⟩
        · have hne : token.userId ≠ id := fun hown => by simp [hown, hfree] at hheld
          exact List.mem_filter.mpr ⟨htk, by simpa using hne⟩
        · refine List.mem_filter.mpr ⟨hem, ?_⟩
          cases haddr : email.addressed go user with
          | false => rfl
          | true =>
            rw [hcl.emails id user rfl huser email hem haddr] at hheld
            cases hheld
  | organization id =>
    rw [hsub] at hfree
    simp only [Records.carryOut, hdl, hsub, deleteOrganization]
    by_cases hslug : (g.organizations.find? id).all (g.slugFree go)
    swap
    · exact .inl ⟨eq_false_of_ne_true hslug, .uniqueViolation, by simp [ensure, hslug]⟩
    refine .inr ⟨hslug, _, by rw [ensure_of hslug]; rfl, fun hrs => ?_, fun hcl => ?_⟩
    · exact ⟨held_kept_iff.mp hrs.reports, held_kept_iff.mp hrs.reviews,
        held_kept_iff.mp hrs.riskEvents, fun _ _ hne => by cases hne⟩
    · exact ⟨fun _ h _ => h, organizations_kept hfree fun _ => by rfl,
        held_kept_iff.mpr hcl.reports, held_kept_iff.mpr hcl.reviews, held_kept_iff.mpr hcl.riskEvents,
        fun _ h _ => h, fun _ h _ => h⟩

theorem Respects.finish (h : Respects go g g') (jobs : Table Job) : Respects go g { g' with jobs := jobs } :=
  ⟨h.users, h.organizations, h.reports, h.reviews, h.riskEvents, h.tokens, h.emails⟩

theorem Respects.refl (go : Runtime) (g : Records) : Respects go g g :=
  ⟨fun _ h _ => h, fun _ h _ => h, fun _ h _ => h, fun _ h _ => h, fun _ h _ => h, fun _ h _ => h, fun _ h _ => h⟩

theorem carryOut_respects (go : Runtime) {job : Job} (hdl : job.jobType ≠ .delete) (hfree : job.jobType ≠ .export →
    g.legalHold job.subject = false) : ∃ g', g.carryOut go job = .ok g' ∧ Respects go g g' := by
  unfold Records.carryOut
  split
  · next id hcl hsub =>
    rw [hcl, hsub] at hfree
    exact ⟨_, rfl, { Respects.refl go g with users := users_kept (hfree (by decide)) (by intro; rfl) }⟩
  · next id hcl hsub =>
    rw [hcl, hsub] at hfree
    exact ⟨_, rfl, { Respects.refl go g with organizations := organizations_kept (hfree (by decide)) (by intro; rfl) }⟩
  · next h _ => exact absurd h hdl
  · next h _ => exact absurd h hdl
  · exact ⟨g, rfl, .refl go g⟩

theorem event_respects_iff (go : Runtime) (g : Records) (event : Event) :
    Respects go g (commit g (execGovernance go event g)) ↔ event.Clears go g := by
  cases event with
  | upsertPrivacySettings subject _ =>
    exact iff_of_true { Respects.refl go g with } trivial
  | createLifecycleJob id subject jobType =>
    refine iff_of_true ?_ trivial
    simp only [execGovernance]
    cases g.jobs.insert ⟨id, subject, jobType, .requested⟩ LifecycleError.uniqueViolation with
    | error e => exact .refl go g
    | ok jobs => exact (Respects.refl go g).finish jobs
  | cleanup now => exact iff_of_true (cleanup_respects now) trivial
  | process jobId =>
    simp only [execGovernance, processNextLifecycleJob, Event.Clears]
    cases hjob : g.jobs.find? jobId with
    | none => exact iff_of_true (.refl go g) fun _ hno => nomatch hno
    | some job =>
      simp only [Option.some.injEq, forall_eq']
      by_cases hrq : job.status = .requested
      swap
      · rw [if_pos hrq]
        exact iff_of_true (.refl go g) fun h => absurd h hrq
      rw [if_neg (not_not_intro hrq)]
      by_cases hbl : g.legalHold job.subject ∧ job.jobType ≠ .export
      · rw [if_pos hbl]
        refine iff_of_true ((Respects.refl go g).finish _) fun _ _ hfree => ?_
        rw [hbl.1] at hfree
        cases hfree
      rw [if_neg hbl]
      have hfree (hjo : job.jobType ≠ .export) : g.legalHold job.subject = false :=
        eq_false_of_ne_true fun hheld => hbl ⟨hheld, hjo⟩
      by_cases hde : job.jobType = .delete
      · have hfree := hfree (by simp [hde])
        rcases carryOut_delete_respects_iff go hde hfree with ⟨hnot, e, he⟩ | ⟨hdl, g', hg', hiff⟩
        · rw [he]
          refine iff_of_true (.refl go g) fun _ _ _ hdl => ?_
          rw [hnot] at hdl
          cases hdl
        · rw [hg']
          refine ⟨fun h _ _ _ _ => hiff.mp ?_, fun h => (hiff.mpr (h hrq hde hfree hdl)).finish _⟩
          exact ⟨h.users, h.organizations, h.reports, h.reviews, h.riskEvents, h.tokens, h.emails⟩
      · obtain ⟨g', hg', hrs⟩ := carryOut_respects go hde hfree
        rw [hg']
        exact iff_of_true (hrs.finish _) fun _ h => absurd h hde

/-- In every history of settings, jobs and cleanups no row of a user or an organization under legal hold is redacted
or deleted if and only if no job deletes a subject while a row of it that still says something, or a message to it,
belongs to another subject under legal hold as well. -/
theorem legal_holds_respected_iff (go : Runtime) (g : Records) (events : List Event) :
    Along (execGovernance go) (fun g event => Respects go g (commit g (execGovernance go event g))) g events ↔
      Along (execGovernance go) (fun g event => event.Clears go g) g events :=
  ⟨Along.imp fun g event => (event_respects_iff go g event).mp,
    Along.imp fun g event => (event_respects_iff go g event).mpr⟩

/-- An organization under legal hold has a report from a user, who is to be deleted. -/
def demoRecords : Records where
  users := ⟨[⟨1, "user@example.com", "User", "hash", false, false⟩], by decide⟩
  organizations := ⟨[⟨1, "Organization", "organization", "\x7b\x7d", false, true⟩], by decide⟩
  privacy := fun _ => none
  reports := ⟨[⟨1, some 1, some 1, 0, ⟨false, "What happened", none⟩⟩], by decide⟩
  reviews := .empty
  riskEvents := .empty
  tokens := .empty
  emails := .empty
  jobs := ⟨[⟨1, .user 1, .delete, .requested⟩], by decide⟩

/-- The deletion of a user redacts a report that belongs to an organization under legal hold. -/
theorem held_report_redacted :
    (∀ row ∈ demoRecords.reports.rows, row.organizationId = some 1 ∧ row.content.description = "What happened") ∧
      demoRecords.legalHold (.organization 1) ∧
      ∀ row ∈ (commit demoRecords (execGovernance asciiRuntime (.process 1) demoRecords)).reports.rows,
        row.content.description = deletionMarker := by
  decide +kernel

end ModelDock.Governance
