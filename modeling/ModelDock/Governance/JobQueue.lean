import ModelDock.Governance.LegalHold

/-!
# The queue of lifecycle jobs

The processor always takes the oldest requested job, and one that fails is rolled back and stays the oldest. So a
job is done some day exactly if every job ahead of it can end: what a deletion needs is a name that is free.
-/

namespace ModelDock.Governance

open Relational Text Table

/-- The requested jobs, oldest first; a new row is put first in the table. -/
def Records.waiting (g : Records) : List Job := (g.jobs.rows.filter (·.status = .requested)).reverse

/-- An invocation of the processor takes the oldest job. -/
def processOldest (go : Runtime) (g : Records) : Except LifecycleError Records :=
  match g.waiting with
  | [] => .ok g
  | job :: _ => processNextLifecycleJob go job.id g

/-- The records after some invocations; one that fails is rolled back. -/
def Records.after (go : Runtime) : ℕ → Records → Records
  | 0, g => g
  | n + 1, g => Records.after go n (commit g (processOldest go g))

/-- The job is done. -/
def Records.completed (g : Records) (jobId : Uuid) : Bool := (g.jobs.find? jobId).any (·.status = .completed)

/-- What must be unique: the addresses of users and the short names of organizations. -/
def Records.names (go : Runtime) (g : Records) : List (Subject × (String ⊕ String)) :=
  g.users.rows.map (fun user => (.user user.id, .inl user.email)) ++
    g.organizations.rows.map fun row => (.organization row.id, .inr (go.toLower row.slug))

/-- The name of a deleted subject. -/
def Subject.deletedName (go : Runtime) : Subject → String ⊕ String
  | .user id => .inl (deletedEmail id)
  | .organization id => .inr (go.toLower (deletedSlug id))

/-- Some of the jobs deletes the subject, which is under no hold. -/
def Records.Deletes (g : Records) (jobs : List Job) (subject : Subject) : Prop :=
  ∃ job ∈ jobs, job.jobType = .delete ∧ subject = job.subject ∧ g.legalHold subject = false

instance (g : Records) (jobs : List Job) (subject : Subject) : Decidable (g.Deletes jobs subject) :=
  inferInstanceAs (Decidable (∃ job ∈ jobs, _))

/-- Give those who are deleted the names of deleted subjects. -/
def rename (go : Runtime) (deleted : Subject → Prop) [DecidablePred deleted]
    (names : List (Subject × (String ⊕ String))) : List (Subject × (String ⊕ String)) :=
  names.map fun x => if deleted x.1 then (x.1, x.1.deletedName go) else x

/-- The subject can be deleted when these names are in use: a user is there, and nobody else has the new name. -/
def Deletable (go : Runtime) (names : List (Subject × (String ⊕ String))) (subject : Subject) : Prop :=
  (∀ id, subject = .user id → ∃ x ∈ names, x.1 = subject) ∧
    ((∃ x ∈ names, x.1 = subject) → ∀ x ∈ names, x.1 = subject ∨ x.2 ≠ subject.deletedName go)

/-- The job ends, completed or blocked, when others are done before it: it deletes no subject, or one under a hold,
or one that can be deleted then. -/
def Records.Passes (go : Runtime) (g : Records) (ahead : List Job) (job : Job) : Prop :=
  job.jobType = .delete → g.legalHold job.subject = false →
    Deletable go (rename go (g.Deletes ahead) (g.names go)) job.subject

/-- How a job ends. -/
def Records.outcome (g : Records) (job : Job) : JobStatus :=
  if g.legalHold job.subject ∧ job.jobType ≠ .export then .blocked else .completed

/-- What the processing of the oldest job leaves. -/
structure Processed (go : Runtime) (g : Records) (job : Job) (g' : Records) : Prop where
  jobs : g'.jobs = (g.finish job.id (g.outcome job)).jobs
  hold : g'.legalHold = g.legalHold
  names : g'.names go = rename go (g.Deletes [job]) (g.names go)

variable {go : Runtime} {g g' : Records} {subject : Subject} {job : Job} {rest : List Job}

section Rename

variable {deleted more : Subject → Prop} [DecidablePred deleted] [DecidablePred more]
  {names : List (Subject × (String ⊕ String))}

theorem rename_congr (h : ∀ subject, deleted subject ↔ more subject) :
    rename go deleted names = rename go more names := by
  simp only [rename, h]

theorem rename_none (h : ∀ subject, ¬deleted subject) : rename go deleted names = names := by
  simp [rename, h]

theorem rename_rename :
    rename go more (rename go deleted names) = rename go (fun subject => deleted subject ∨ more subject) names := by
  simp only [rename, List.map_map]
  refine List.map_congr_left fun x _ => ?_
  by_cases hx : deleted x.1 <;> simp [hx]

end Rename

theorem deletable_iff : g.deletable go subject ↔ Deletable go (g.names go) subject := by
  have hnm (p : Subject × (String ⊕ String) → Prop) : (∃ x ∈ g.names go, p x) ↔
      (∃ user ∈ g.users.rows, p (.user user.id, .inl user.email)) ∨
        ∃ row ∈ g.organizations.rows, p (.organization row.id, .inr (go.toLower row.slug)) := by
    simp only [Records.names, List.mem_append, List.mem_map, or_and_right, exists_or, exists_exists_and_eq_and]
  have hall (p : Subject × (String ⊕ String) → Prop) : (∀ x ∈ g.names go, p x) ↔
      (∀ user ∈ g.users.rows, p (.user user.id, .inl user.email)) ∧
        ∀ row ∈ g.organizations.rows, p (.organization row.id, .inr (go.toLower row.slug)) := by
    simp only [Records.names, List.forall_mem_append, List.forall_mem_map]
  cases subject with
  | user id =>
    simp only [Deletable, hnm, hall, Records.deletable]
    cases huser : g.users.find? id with
    | none =>
      have hnone (user) (hrow : user ∈ g.users.rows) : user.id ≠ id := find?_eq_none.mp huser user hrow
      simp +contextual [hnone]
    | some user =>
      obtain ⟨hrow, hid : user.id = id⟩ := found huser
      have hth : ∃ user ∈ g.users.rows, user.id = id := ⟨user, hrow, hid⟩
      simp [Subject.deletedName, Records.addressFree, User.anonymize, hid, hth]
  | organization id =>
    simp only [Deletable, hnm, hall, Records.deletable]
    cases hfind : g.organizations.find? id with
    | none =>
      have hnone (row) (hrow : row ∈ g.organizations.rows) : row.id ≠ id := find?_eq_none.mp hfind row hrow
      simp +contextual [hnone]
    | some row =>
      obtain ⟨hrow, hid : row.id = id⟩ := found hfind
      have hth : ∃ row ∈ g.organizations.rows, row.id = id := ⟨row, hrow, hid⟩
      simp [Subject.deletedName, Records.slugFree, Organization.anonymize, hid, hth]

theorem any_find?_rewriteIf {R : Type} [Keyed R RowKey] {t : Table R} {p b : R → Bool} {f : R → R} {id : Uuid}
    (hkey : ∀ r, Keyed.key (f r) = Keyed.key r) (h : ∀ r, b (f r) = b r) :
    ((t.rewriteIf p f hkey).find? id).any b = (t.find? id).any b := by
  rw [find?_rewriteIf, Option.any_map]
  refine congrArg (Option.any · _) (funext fun r => ?_)
  simp only [apply_ite, h, ite_self]

/-- A job that is carried out renames what it deletes, and changes no hold. -/
theorem carryOut_names (h : g.carryOut go job = .ok g') : g'.legalHold = g.legalHold ∧
    g'.names go = rename go (fun other => job.jobType = .delete ∧ other = job.subject) (g.names go) := by
  unfold Records.carryOut at h
  split at h
  · next hcl _ =>
    cases h
    refine ⟨funext fun subject => ?_, ?_⟩
    · cases subject <;> simp [Records.legalHold, find?_rewriteIf, Option.any_map, apply_ite]
    · simp [Records.names, rename, hcl, rewriteIf, rewrite, Function.comp_def, apply_ite]
  · next hcl _ =>
    cases h
    refine ⟨funext fun subject => ?_, ?_⟩
    · cases subject <;> simp [Records.legalHold, find?_rewriteIf, Option.any_map, apply_ite]
    · simp [Records.names, rename, hcl, rewriteIf, rewrite, Function.comp_def, apply_ite]
  · next id hdl hsub =>
    simp only [deleteUser, eq_ok] at h
    obtain ⟨_, _, _, _, rfl⟩ := h
    refine ⟨funext fun subject => ?_, ?_⟩
    · cases subject with
      | user id => exact congrArg (_ || ·) (any_find?_rewriteIf (fun _ => by rfl) fun _ => rfl)
      | organization id => rfl
    · simp [Records.names, rename, hdl, hsub, rewriteIf, rewrite, Function.comp_def, apply_ite, Records.redact,
        User.anonymize, Subject.deletedName]
  · next id hdl hsub =>
    simp only [deleteOrganization, eq_ok] at h
    obtain ⟨_, _, rfl⟩ := h
    refine ⟨funext fun subject => ?_, ?_⟩
    · cases subject with
      | user id => rfl
      | organization id => exact congrArg (_ || ·) (any_find?_rewriteIf (fun _ => by rfl) fun _ => rfl)
    · simp [Records.names, rename, hdl, hsub, rewriteIf, rewrite, Function.comp_def, apply_ite, Records.redact,
        Organization.anonymize, Subject.deletedName]
  · next huser horg =>
    cases h
    have hne : job.jobType ≠ .delete := fun hdl => by
      cases hsub : job.subject with
      | user id => exact huser id hdl hsub
      | organization id => exact horg id hdl hsub
    simp [rename, hne]

theorem carryOut_jobs (h : g.carryOut go job = .ok g') : g'.jobs = g.jobs := by
  unfold Records.carryOut at h
  split at h
  · cases h; rfl
  · cases h; rfl
  · simp only [deleteUser, eq_ok] at h
    obtain ⟨_, _, _, _, rfl⟩ := h
    rfl
  · simp only [deleteOrganization, eq_ok] at h
    obtain ⟨_, _, rfl⟩ := h
    rfl
  · cases h; rfl

theorem find?_of_waiting (h : job ∈ g.waiting) : g.jobs.find? job.id = some job ∧ job.status = .requested := by
  have hjob : job ∈ g.jobs.rows ∧ job.status = .requested := by simpa [Records.waiting] using h
  exact ⟨find?_of_mem hjob.1, hjob.2⟩

/-- A job that waits is blocked by a hold or carried out. -/
theorem process_of_waiting (h : job ∈ g.waiting) : processNextLifecycleJob go job.id g =
    if g.legalHold job.subject ∧ job.jobType ≠ .export then .ok (g.finish job.id .blocked)
    else (g.carryOut go job).map (Records.finish job.id .completed) := by
  obtain ⟨hfind, hst⟩ := find?_of_waiting h
  simp only [processNextLifecycleJob, hfind, hst, ne_eq, not_true, if_false]

/-- A job that no hold blocks is carried out unless it deletes a subject that cannot be deleted. -/
theorem carryOut_succeeds_iff (hfree : job.jobType ≠ .export → g.legalHold job.subject = false) :
    (∃ g', g.carryOut go job = .ok g') ↔ (job.jobType = .delete → g.deletable go job.subject) := by
  by_cases hdl : job.jobType = .delete
  · rcases carryOut_delete_respects_iff go hdl (hfree (by simp [hdl])) with
      ⟨hnot, e, he⟩ | ⟨hcan, g', hg', _⟩
    · simp [he, hdl, hnot]
    · simp [hg', hcan]
  · obtain ⟨g', hg', _⟩ := carryOut_respects go hdl hfree
    simp [hg', hdl]

/-- The oldest job ends if it passes, and fails otherwise. -/
theorem processOldest_cases (go : Runtime) (hwt : g.waiting = job :: rest) :
    (g.Passes go [] job ∧ ∃ g', processOldest go g = .ok g' ∧ Processed go g job g') ∨
      ¬g.Passes go [] job ∧ ∃ e, processOldest go g = .error e := by
  have hmem : job ∈ g.waiting := hwt ▸ List.mem_cons_self
  have hfs : g.Passes go [] job ↔ (job.jobType = .delete → g.legalHold job.subject = false →
      g.deletable go job.subject) := by
    simp [Records.Passes, deletable_iff, Records.Deletes, rename]
  simp only [processOldest, hwt, process_of_waiting hmem]
  split
  · next hheld =>
    refine .inl ⟨hfs.mpr fun _ hfree => by simp [hheld.1] at hfree, _, rfl, ?_, rfl, ?_⟩
    · simp only [Records.outcome, if_pos hheld]
    · refine (rename_none ?_).symm
      rintro _ ⟨_, hjob, _, rfl, hfree⟩
      rw [List.mem_singleton.mp hjob, hheld.1] at hfree
      cases hfree
  · next hheld =>
    have hfree (htype : job.jobType ≠ .export) : g.legalHold job.subject = false :=
      eq_false_of_ne_true fun h => hheld ⟨h, htype⟩
    have hps : g.Passes go [] job ↔ ∃ g', g.carryOut go job = .ok g' := by
      rw [hfs, carryOut_succeeds_iff hfree]
      exact forall_congr' fun hdl => imp_iff_right (hfree (by simp [hdl]))
    rw [hps]
    cases hdone : g.carryOut go job with
    | error e => exact .inr ⟨by simp, e, rfl⟩
    | ok g' =>
      obtain ⟨hhold, hnm⟩ := carryOut_names hdone
      refine .inl ⟨⟨g', rfl⟩, _, rfl, ?_, hhold, hnm.trans ?_⟩
      · simp only [Records.outcome, if_neg hheld, Records.finish, carryOut_jobs hdone]
      · refine rename_congr fun subject => ?_
        simp only [Records.Deletes, List.mem_singleton, exists_eq_left]
        refine and_congr_right fun hdl => (and_iff_left_of_imp ?_).symm
        rintro rfl
        exact hfree (by simp [hdl])

theorem outcome_ne_requested : g.outcome job ≠ .requested := by
  unfold Records.outcome
  split <;> decide

theorem outcome_eq_completed :
    g.outcome job = .completed ↔ (job.jobType ≠ .export → g.legalHold job.subject = false) := by
  simp only [Records.outcome, ite_eq_right_iff, reduceCtorEq, imp_false, not_and', Bool.not_eq_true]

theorem Processed.waiting (h : Processed go g job g') (hwt : g.waiting = job :: rest) : g'.waiting = rest := by
  have hd := distinct_of_query (t := g.jobs) (List.reverse_perm (g.jobs.rows.filter (·.status = .requested)))
  rw [← Records.waiting, hwt, List.pairwise_cons] at hd
  have hleft : g'.jobs.rows.filter (·.status = .requested) =
      (g.jobs.rows.filter (·.status = .requested)).filter (·.id ≠ job.id) := by
    rw [h.jobs]
    change (g.jobs.rows.map _).filter _ = _
    induction g.jobs.rows with
    | nil => rfl
    | cons row rows ih =>
      simp only [decide_eq_true_eq] at ih
      by_cases hid : row.id = job.id <;> by_cases hrow : row.status = .requested <;>
        simp [hid, hrow, outcome_ne_requested, ih]
  rw [Records.waiting, hleft, ← List.filter_reverse, ← Records.waiting, hwt, List.filter_cons_of_neg (by simp)]
  exact List.filter_eq_self.mpr fun other hne => decide_eq_true (hd.1 other hne).symm

/-- A job that passes behind another passes when that one is done. -/
theorem Processed.passes_iff (h : Processed go g job g') (ahead : List Job) (other : Job) :
    g'.Passes go ahead other ↔ g.Passes go (job :: ahead) other := by
  have hnm : rename go (g'.Deletes ahead) (g'.names go) = rename go (g.Deletes (job :: ahead)) (g.names go) := by
    rw [h.names, rename_rename]
    refine rename_congr fun subject => ?_
    simp [Records.Deletes, h.hold]
  simp only [Records.Passes, h.hold, hnm]

theorem Processed.completed (h : Processed go g job g') (hmem : job ∈ g.waiting) (x : Uuid) :
    g'.completed x = if x = job.id then decide (g.outcome job = .completed) else g.completed x := by
  simp only [Records.completed, h.jobs, Records.finish, find?_rewriteIf]
  split
  · next hx => simp [hx, (find?_of_waiting hmem).1]
  · next hx =>
    cases hrow : g.jobs.find? x with
    | none => rfl
    | some row =>
      have hid : row.id ≠ job.id := fun hid => hx ((found hrow).2.symm.trans hid)
      simp [hid]

theorem after_of_failed {e} (h : processOldest go g = .error e) (n : ℕ) : g.after go n = g := by
  induction n with
  | zero => rfl
  | succ n ih => rw [Records.after, h, commit, ih]

/-- What does not wait stays as it is. -/
theorem completed_after {x : Uuid} (h : ∀ job ∈ g.waiting, job.id ≠ x) (n : ℕ) :
    (g.after go n).completed x = g.completed x := by
  induction n generalizing g with
  | zero => rfl
  | succ n ih =>
    rw [Records.after]
    cases hwt : g.waiting with
    | nil => simpa [processOldest, hwt, commit] using ih h
    | cons job rest =>
      rcases processOldest_cases go hwt with ⟨_, g', hg', hdone⟩ | ⟨_, e, he⟩
      · rw [hwt] at h
        obtain ⟨hjob, hrest⟩ := List.forall_mem_cons.mp h
        rw [hg', commit, ih (hdone.waiting hwt ▸ hrest), hdone.completed (hwt ▸ List.mem_cons_self),
          if_neg hjob.symm]
      · rw [he, commit, ih h]

theorem completed_iff {g : Records} {k : ℕ} (h : g.waiting[k]? = some job) : (∃ n, (g.after go n).completed job.id) ↔
    g.outcome job = .completed ∧
      ∀ i ≤ k, ∀ other, g.waiting[i]? = some other → g.Passes go (g.waiting.take i) other := by
  have hmem := List.mem_of_getElem? h
  obtain ⟨hfind, hst⟩ := find?_of_waiting hmem
  have hnot : g.completed job.id = false := by simp [Records.completed, hfind, hst]
  cases hwt : g.waiting with
  | nil => simp [hwt] at h
  | cons head rest =>
    rw [← Nat.or_exists_add_one, Records.after, hnot]
    simp only [Bool.false_eq_true, false_or, Records.after]
    rcases processOldest_cases go hwt with ⟨hps, g', hg', hdone⟩ | ⟨hstuc, e, he⟩
    swap
    · refine iff_of_false ?_ fun hall => hstuc (hall.2 0 (Nat.zero_le _) head rfl)
      simp [he, commit, after_of_failed he, hnot]
    have hrest := hdone.waiting hwt
    rw [hg', commit]
    cases k with
    | zero =>
      obtain rfl : head = job := by simpa [hwt] using h
      have hgone (other) (hne : other ∈ g'.waiting) : other.id ≠ head.id := by
        obtain ⟨hne, hrq⟩ := find?_of_waiting hne
        rintro hid
        simp only [hid, hdone.jobs, Records.finish, find?_rewriteIf, hfind, Option.map_some, decide_true, if_true,
          Option.some.injEq] at hne
        exact outcome_ne_requested ((congrArg Job.status hne).trans hrq)
      simp [completed_after hgone, hdone.completed hmem, hps]
    | succ k =>
      rw [hwt, List.getElem?_cons_succ, ← hrest] at h
      have hout : g'.outcome job = g.outcome job := by simp only [Records.outcome, hdone.hold]
      rw [completed_iff h, hout, hrest]
      refine and_congr_right fun _ => ⟨fun hall i hi other hne => ?_, fun hall i hi other hne => ?_⟩
      · cases i with
        | zero =>
          obtain rfl : head = other := by simpa using hne
          exact hps
        | succ i => exact (hdone.passes_iff _ _).mp (hall i (Nat.le_of_succ_le_succ hi) other hne)
      · exact (hdone.passes_iff _ _).mpr (hall (i + 1) (Nat.succ_le_succ hi) other hne)

/-- A job is completed some day exactly if no hold blocks it and each job up to it passes, when those ahead of that
one are done: one that fails stays the oldest, and no later job is taken. -/
theorem job_completed_iff (go : Runtime) (g : Records) (k : Fin g.waiting.length) :
    (∃ n, (g.after go n).completed (g.waiting.get k).id) ↔
      ((g.waiting.get k).jobType ≠ .export → g.legalHold (g.waiting.get k).subject = false) ∧
        ∀ i ≤ k, g.Passes go (g.waiting.take i) (g.waiting.get i) := by
  rw [completed_iff (k := k) (by simp), outcome_eq_completed]
  refine and_congr_right fun _ => ⟨fun h i hi => h i hi _ (by simp), fun h i hi other hne => ?_⟩
  obtain ⟨hln, rfl⟩ := List.getElem?_eq_some_iff.mp hne
  exact h ⟨i, hln⟩ hi

/-- A deletion of user 1 and an export behind it. -/
def demoQueue (users : Table User) : Records :=
  { demoRecords with
    users, jobs := ⟨[⟨2, .user 1, .export, .requested⟩, ⟨1, .user 1, .delete, .requested⟩], by decide⟩ }

/-- The deletion of a user who does not exist fails for ever, and the export behind it waits, though its own
processing would complete it. -/
theorem failed_job_blocks_export :
    (commit (demoQueue .empty) (processNextLifecycleJob asciiRuntime 2 (demoQueue .empty))).completed 2 ∧
      ∀ n, ((demoQueue .empty).after asciiRuntime n).completed 2 = false := by
  have hfl : processOldest asciiRuntime (demoQueue .empty) = .error .notFound := rfl
  exact ⟨by decide +kernel, fun n => by rw [after_of_failed hfl]; rfl⟩

end ModelDock.Governance
