import ModelDock.Identity.Schema
import ModelDock.Relational.History

/-!
# API keys and their versions

A secret is accepted through the version row with its digest and the key row it belongs to. Revocation and
freeze end every version; a status change writes the key row alone, so that a revoked status can be set back.
-/

namespace ModelDock.Identity

open Relational Table Directory List Option
open Store (Uuid Timestamp)

variable {key : ApiKey} {new : ApiKeyStatus} {graceUntil : Timestamp} (s : Session) (keyId : Uuid) (hash : Digest)
  (d : Directory) (now : Timestamp)

/-- A version may be used at a time. -/
def VersionStatus.usable : VersionStatus → Bool
  | .active => true
  | .grace expiresAt => now < expiresAt
  | .revoked => false

/-- A column with an optional end has not ended. -/
def notExpired (expiresAt : Option Timestamp) : Bool := expiresAt.all fun t => now < t

/-- The team a key is bound to is active and has the owner of the key as an active member. -/
def Directory.teamAllows (key : ApiKey) : Bool :=
  match key.teamId with
  | none => true
  | some teamId => d.teams.rows.any fun team => team.id = teamId &&
      team.organizationId = key.organizationId && team.status = .active &&
      d.teamMemberships.rows.any fun membership => membership.teamId = team.id &&
        membership.userId = key.userId && membership.status = .active

/-- The owner, the project, the organization and the team of a key let it be used. -/
def Directory.ownerAllows (key : ApiKey) : Bool :=
  (d.users.find? key.userId).any (fun user => user.status = .active) &&
    (d.projects.find? key.projectId).any (fun project => project.status = .active) &&
    (d.organizations.find? key.organizationId).any (fun organization => organization.status = .active) &&
    d.teamAllows key

/-- A version of a key is accepted. -/
def Directory.accepts (key : ApiKey) (version : ApiKeyVersion) : Bool :=
  key.status = .active && d.ownerAllows key && notExpired now key.expiresAt &&
    version.validFrom ≤ now && notExpired now version.expiresAt && version.status.usable now

/-- The key and the version a secret is accepted through. The times of last use are left out. -/
def authenticateAPIKeyVersion (hash : Digest) (d : Directory) : Option (ApiKey × ApiKeyVersion) :=
  d.apiKeyVersions.rows.findSome? fun version =>
    if version.keyHash = hash then
      (d.apiKeys.find? version.apiKeyId).bind fun key =>
        if d.accepts now key version then some (key, version) else none
    else none

/-- A rotation puts the active version into its grace period. -/
def ApiKeyVersion.startGrace (graceUntil : Timestamp) (row : ApiKeyVersion) : ApiKeyVersion :=
  if row.apiKeyId = keyId ∧ row.status = .active then { row with status := .grace graceUntil } else row

theorem ApiKeyVersion.startGrace_key (graceUntil : Timestamp) (row : ApiKeyVersion) :
    Keyed.key (row.startGrace keyId graceUntil) = Keyed.key row := by
  unfold ApiKeyVersion.startGrace
  split <;> rfl

/-- Give a key from before the version table the version it should have had. -/
def repairVersions (key : ApiKey) (versions : Table ApiKeyVersion) : Except AccountError (Table ApiKeyVersion) :=
  if versions.rows.any fun row => row.apiKeyId = key.id then .ok versions
  else versions.insert ⟨s.uuid .repairedVersion, key.id, 1, key.keyPrefix, key.keyHash, .active, s.now,
    key.expiresAt⟩ .uniqueViolation

/-- Make the next secret of a key current; the one before is accepted until its grace ends. -/
def rotateAPIKeyVersion (keyPrefix : String) (hash : Digest)
    (graceUntil : Timestamp) (expiresAt : Option Timestamp) (d : Directory) :
    Except AccountError Directory := do
  ensure (hash ≠ [] ∧ keyPrefix ≠ "") (.message "API key prefix and hash are required")
  ensure (s.clock < graceUntil) (.message "grace expiry must be in the future")
  let key ← required (d.apiKeys.find? keyId) .notFound
  ensure (key.status = .active) (.message "only an active API key can be rotated")
  let versions ← repairVersions s key d.apiKeyVersions
  let nextVersion := ((versions.rows.filter fun row => row.apiKeyId = keyId).map fun row => row.version).foldr
    max 0 + 1
  let graced := versions.rewrite (ApiKeyVersion.startGrace keyId graceUntil)
    (ApiKeyVersion.startGrace_key keyId graceUntil)
  let expiresAt := expiresAt.or key.expiresAt
  let versions ← graced.insert ⟨s.uuid .version, keyId, nextVersion, keyPrefix, hash, .active, s.now,
    expiresAt⟩ AccountError.uniqueViolation
  ensure (d.apiKeys.rows.all fun row => row.id = keyId || row.keyHash ≠ hash) .uniqueViolation
  return { d with
    apiKeyVersions := versions
    apiKeys := d.apiKeys.replace { key with keyPrefix := keyPrefix, keyHash := hash, expiresAt := expiresAt } }

/-- Revoke the selected versions. -/
def ApiKeyVersion.revokeWhen (p : ApiKeyVersion → Bool) (row : ApiKeyVersion) : ApiKeyVersion :=
  if p row then { row with status := .revoked } else row

theorem ApiKeyVersion.revokeWhen_key (p : ApiKeyVersion → Bool) (row : ApiKeyVersion) :
    Keyed.key (row.revokeWhen p) = Keyed.key row := by
  unfold ApiKeyVersion.revokeWhen
  split <;> rfl

/-- Revoke the selected versions of the table. -/
def Directory.revokeVersions (p : ApiKeyVersion → Bool) : Directory :=
  { d with apiKeyVersions :=
    d.apiKeyVersions.rewrite (ApiKeyVersion.revokeWhen p) (ApiKeyVersion.revokeWhen_key p) }

/-- The version is in its grace period. -/
def VersionStatus.isGrace : VersionStatus → Bool
  | .grace _ => true
  | _ => false

/-- End the grace of a key's versions, or of one of them. -/
def finalizeAPIKeyRotation (version : ℕ) (d : Directory) : Except AccountError Directory := do
  let ended (row : ApiKeyVersion) : Bool :=
    row.apiKeyId = keyId && row.status.isGrace && (version = 0 || row.version = version)
  ensure (d.apiKeyVersions.rows.any ended) .notFound
  return d.revokeVersions ended

/-- The grace of the version has ended by a time. -/
def VersionStatus.graceEnded : VersionStatus → Bool
  | .grace expiresAt => expiresAt ≤ now
  | _ => false

/-- End every grace that has run out by a time. -/
def finalizeExpiredAPIKeyRotations (d : Directory) : Directory :=
  d.revokeVersions fun row => row.status.graceEnded now

/-- Read a key status. -/
def ApiKeyStatus.parse (text : String) : Option ApiKeyStatus :=
  if text = "ACTIVE" then some .active
  else if text = "DISABLED" then some .disabled
  else if text = "REVOKED" then some .revoked
  else none

/-- Store a key's new status. -/
def Directory.setKeyStatus (key : ApiKey) (status : ApiKeyStatus) : Directory :=
  { d with apiKeys := d.apiKeys.replace { key with status := status } }

/-- Set the status of a key. Making a key active needs room in the plan. -/
def updateAPIKeyStatus (status : String) (d : Directory) : Except AccountError Directory := do
  let status ← required (ApiKeyStatus.parse status) (.message "invalid API key status")
  let key ← required (d.apiKeys.find? keyId) .notFound
  if status = .active ∧ key.status ≠ .active then
    let activeKeys := d.apiKeys.rows.countP fun row =>
      row.organizationId = key.organizationId && row.status = .active
    enforceIntegerEntitlementTx s key.organizationId .apiKeyCount activeKeys 1 d
    return d.setKeyStatus key status
  else return d.setKeyStatus key status

/-- Revoke a key with all its versions; a user revokes their own keys only. -/
def revokeAPIKey (keyId userId : Uuid) (admin : Bool) (d : Directory) : Except AccountError Directory := do
  let key ← required (d.apiKeys.find? keyId) .notFound
  ensure (admin ∨ key.userId = userId) .notFound
  return (d.setKeyStatus key .revoked).revokeVersions fun row => row.apiKeyId = keyId

/-- Disable a leaked key and revoke all its versions. -/
def freezeAPIKeyForLeak : Except AccountError Directory := do
  let key ← required (d.apiKeys.find? keyId) .notFound
  ensure (key.status ≠ .revoked) .notFound
  return (d.setKeyStatus key .disabled).revokeVersions fun row => row.apiKeyId = keyId

/-- Freeze the key that a leaked secret belongs to. -/
def freezeAPIKeyByHash : Except AccountError Directory := do
  let keyId ← required (((d.apiKeys.rows.find? fun row => row.keyHash = hash).map fun row => row.id).or
    ((d.apiKeyVersions.rows.find? fun row => row.keyHash = hash).map fun row => row.apiKeyId)) .notFound
  freezeAPIKeyForLeak keyId d

/-- A call that writes keys or versions. -/
inductive KeyCall
  | rotateAPIKeyVersion (keyId : Uuid) (keyPrefix : String) (hash : Digest) (graceUntil : Timestamp)
    (expiresAt : Option Timestamp)
  | finalizeAPIKeyRotation (keyId : Uuid) (version : ℕ)
  | finalizeExpiredAPIKeyRotations (now : Timestamp)
  | updateAPIKeyStatus (keyId : Uuid) (status : String)
  | revokeAPIKey (keyId userId : Uuid) (admin : Bool)
  | freezeAPIKeyForLeak (keyId : Uuid)
  | freezeAPIKeyByHash (hash : Digest)

variable {call : KeyCall} {calls : List (Session × KeyCall)}

/-- Run one call in its session. -/
def execKey (invocation : Session × KeyCall) (d : Directory) : Except AccountError Directory :=
  match invocation.2 with
  | .rotateAPIKeyVersion keyId keyPrefix hash graceUntil expiresAt =>
    rotateAPIKeyVersion invocation.1 keyId keyPrefix hash graceUntil expiresAt d
  | .finalizeAPIKeyRotation keyId version => finalizeAPIKeyRotation keyId version d
  | .finalizeExpiredAPIKeyRotations now => .ok (finalizeExpiredAPIKeyRotations now d)
  | .updateAPIKeyStatus keyId status => updateAPIKeyStatus invocation.1 keyId status d
  | .revokeAPIKey keyId userId admin => revokeAPIKey keyId userId admin d
  | .freezeAPIKeyForLeak keyId => freezeAPIKeyForLeak keyId d
  | .freezeAPIKeyByHash hash => freezeAPIKeyByHash hash d

/-- The current secret of every key has a version: inserting a key inserts its first version. -/
def Seeded : Prop :=
  ∀ key ∈ d.apiKeys.rows, ∃ row ∈ d.apiKeyVersions.rows, row.apiKeyId = key.id ∧ row.keyHash = key.keyHash

/-- The secret was issued for the key: it is the current one, or one of its versions. -/
def Issued : Prop :=
  (∃ row ∈ d.apiKeyVersions.rows, row.apiKeyId = keyId ∧ row.keyHash = hash) ∨
    ∃ key ∈ d.apiKeys.rows, key.id = keyId ∧ key.keyHash = hash

/-- The call revokes a key or freezes it. -/
def KeyCall.Revokes : KeyCall → Prop
  | .updateAPIKeyStatus id status => id = keyId ∧ status = "REVOKED"
  | .revokeAPIKey id _ _ => id = keyId
  | .freezeAPIKeyForLeak id => id = keyId
  | .freezeAPIKeyByHash hash => Issued keyId hash d
  | _ => False

/-- A version can not be used at a time or later. -/
def VersionStatus.endedBy (time : Timestamp) : VersionStatus → Bool
  | .active => false
  | .grace expiresAt => expiresAt ≤ time
  | .revoked => true

/-- The call does not take a key out of the revoked status while one of its versions can still be
used. -/
def KeepsRevoked (invocation : Session × KeyCall) : Prop :=
  match invocation.2 with
  | .updateAPIKeyStatus keyId status => status ≠ "REVOKED" →
    ∀ key ∈ d.apiKeys.rows, key.id = keyId → key.status = .revoked →
      ∀ row ∈ d.apiKeyVersions.rows, row.apiKeyId = keyId → row.status.endedBy invocation.1.now
  | _ => True

/-- The call ends a key by its status alone, and leaves its versions as they are. -/
def KeyCall.leavesVersions : KeyCall → Bool
  | .updateAPIKeyStatus .. => true
  | _ => false

variable {s : Session} {d d' : Directory} {keyId : Uuid} {hash : Digest} {now time : Timestamp}
  {status : VersionStatus} {byStatus : Prop}

theorem VersionStatus.endedBy_mono (h : status.endedBy time) (hle : time ≤ now) :
    status.endedBy now := by
  cases status with
  | active => cases h
  | revoked => rfl
  | grace _ => exact decide_eq_true ((of_decide_eq_true h).trans hle)

theorem VersionStatus.usable_of_endedBy (h : status.endedBy now) : status.usable now = false := by
  cases status with
  | active => cases h
  | revoked => rfl
  | grace _ => exact decide_eq_false (not_lt.mpr (of_decide_eq_true h))

/-- The secret has a version of the key, and the version has ended or, where a status may end it, the key is
revoked. -/
def Ended (byStatus : Prop) (keyId : Uuid) (hash : Digest) (time : Timestamp) (d : Directory) : Prop :=
  ∃ row ∈ d.apiKeyVersions.rows, row.apiKeyId = keyId ∧ row.keyHash = hash ∧
    (row.status.endedBy time ∨ byStatus ∧ ∃ key ∈ d.apiKeys.rows, key.id = keyId ∧ key.status = .revoked)

/-- A secret leads to one version. -/
theorem authenticateAPIKeyVersion_eq {version : ApiKeyVersion} (hvr : version ∈ d.apiKeyVersions.rows)
    (hhash : version.keyHash = hash) : authenticateAPIKeyVersion now hash d =
      (d.apiKeys.find? version.apiKeyId).bind fun key =>
        if d.accepts now key version then some (key, version) else none := by
  have hun : ∀ other ∈ d.apiKeyVersions.rows, other.keyHash = hash → other = version := by
    intro other hne hsame
    exact eq_of_clash hne hvr (by simp [Key.clash, Keyed.key, hsame, hhash])
  cases hf : authenticateAPIKeyVersion now hash d with
  | none =>
    have hnone := findSome?_eq_none_iff.mp hf version hvr
    rw [if_pos hhash] at hnone
    exact hnone.symm
  | some found =>
    obtain ⟨other, hne, hsome⟩ := exists_of_findSome?_eq_some hf
    split at hsome
    · next hsame => rw [← hun other hne hsame, hsome]
    · cases hsome

theorem Ended.rejected (h : Ended byStatus keyId hash now d) : authenticateAPIKeyVersion now hash d = none := by
  obtain ⟨row, hrow, hown, hhash, hend⟩ := h
  rw [authenticateAPIKeyVersion_eq hrow hhash, bind_eq_none_iff]
  intro key hkey
  refine if_neg (Bool.eq_false_iff.mp ?_)
  rcases hend with hvr | ⟨_, revoked, hrv, hid, hst⟩
  · simp [accepts, VersionStatus.usable_of_endedBy hvr]
  · obtain ⟨hmem, hf⟩ := found hkey
    have hke : key = revoked := eq_of_rowId hmem hrv
      (hf.trans (hown.trans hid.symm))
    simp [accepts, hke, hst]

/-- A step keeps what has ended: versions stay, and stay ended, and where that matters a key leaves the revoked
status only when its versions have ended. -/
structure KeepsEnded (byStatus : Prop) (now : Timestamp) (d d' : Directory) : Prop where
  versions : ∀ row ∈ d.apiKeyVersions.rows, ∃ row' ∈ d'.apiKeyVersions.rows, row'.apiKeyId = row.apiKeyId ∧
    row'.keyHash = row.keyHash ∧ (row.status.endedBy now → row'.status.endedBy now)
  keys : byStatus → ∀ key ∈ d.apiKeys.rows, key.status = .revoked →
    (∃ key' ∈ d'.apiKeys.rows, key'.id = key.id ∧ key'.status = .revoked) ∨
      ∀ row ∈ d.apiKeyVersions.rows, row.apiKeyId = key.id → row.status.endedBy now

theorem Ended.kept (h : Ended byStatus keyId hash now d) (hkept : KeepsEnded byStatus now d d') :
    Ended byStatus keyId hash now d' := by
  obtain ⟨row, hrow, hown, hhash, hend⟩ := h
  obtain ⟨row', hrow', hown', hhash', hsty⟩ := hkept.versions row hrow
  refine ⟨row', hrow', hown'.trans hown, hhash'.trans hhash, ?_⟩
  rcases hend with hend | ⟨hby, key, hkey, hid, hst⟩
  · exact .inl (hsty hend)
  · rcases hkept.keys hby key hkey hst with ⟨key', hkey', hid', hst'⟩ | hall
    · exact .inr ⟨hby, key', hkey', hid'.trans hid, hst'⟩
    · exact .inl (hsty (hall row hrow (hown.trans hid.symm)))

theorem Directory.revokeVersions_keeps (d : Directory) (p : ApiKeyVersion → Bool) (now : Timestamp) :
    KeepsEnded byStatus now d (d.revokeVersions p) := by
  refine ⟨fun row hrow => ⟨row.revokeWhen p, mem_map_of_mem hrow, ?_⟩,
    fun _ key hkey hst => .inl ⟨key, hkey, rfl, hst⟩⟩
  unfold ApiKeyVersion.revokeWhen
  split
  · exact ⟨rfl, rfl, fun _ => rfl⟩
  · exact ⟨rfl, rfl, id⟩

theorem KeepsEnded.trans {d'' : Directory} (h : KeepsEnded byStatus now d d') (h' : KeepsEnded byStatus now d' d'')
    (hsame : d'.apiKeyVersions = d.apiKeyVersions) : KeepsEnded byStatus now d d'' := by
  refine ⟨fun row hrow => h'.versions row (hsame ▸ hrow), fun hby key hkey hst => ?_⟩
  rcases h.keys hby key hkey hst with ⟨key', hkey', hid, hst'⟩ | hall
  · rcases h'.keys hby key' hkey' hst' with ⟨key'', hkey'', hid', hst''⟩ | hall'
    · exact .inl ⟨key'', hkey'', hid'.trans hid, hst''⟩
    · refine .inr fun row hrow hown => hall' row (hsame.symm ▸ hrow) (hown.trans hid.symm)
  · exact .inr hall

theorem Directory.mem_setKeyStatus {row : ApiKey} (hkey : key ∈ d.apiKeys.rows) :
    row ∈ (d.setKeyStatus key new).apiKeys.rows ↔
      row = { key with status := new } ∨ row ∈ d.apiKeys.rows ∧ row.id ≠ key.id :=
  mem_replace hkey rfl

theorem Directory.setKeyStatus_keeps (hkey : key ∈ d.apiKeys.rows) (h : byStatus → key.status = .revoked →
      new = .revoked ∨ ∀ row ∈ d.apiKeyVersions.rows, row.apiKeyId = key.id → row.status.endedBy now) :
    KeepsEnded byStatus now d (d.setKeyStatus key new) := by
  refine ⟨fun row hrow => ⟨row, hrow, rfl, rfl, id⟩, fun hby other hne hst => ?_⟩
  by_cases hid : other.id = key.id
  · obtain rfl : other = key := eq_of_rowId hne hkey hid
    rcases h hby hst with rfl | hall
    · exact .inl ⟨_, (mem_setKeyStatus hkey).mpr (.inl rfl), rfl, rfl⟩
    · exact .inr hall
  · exact .inl ⟨other, (mem_setKeyStatus hkey).mpr (.inr ⟨hne, hid⟩), rfl, hst⟩

/-- What a rotation writes: the versions that were there, the active ones in their grace period, and a
new one; the key has the new secret. -/
structure Rotates (keyId : Uuid) (hash : Digest) (d d' : Directory) : Prop where
  active : ∃ key ∈ d.apiKeys.rows, key.id = keyId ∧ key.status = .active ∧
    ∃ key', key'.id = key.id ∧ key'.keyHash = hash ∧ d'.apiKeys = d.apiKeys.replace key'
  versions : ∃ graceUntil, ∀ row ∈ d.apiKeyVersions.rows,
    row.startGrace keyId graceUntil ∈ d'.apiKeyVersions.rows
  issued : ∃ row ∈ d'.apiKeyVersions.rows, row.apiKeyId = keyId ∧ row.keyHash = hash

variable {keyPrefix : String} {expiresAt : Option Timestamp}

theorem rotateAPIKeyVersion_writes
    (h : rotateAPIKeyVersion s keyId keyPrefix hash graceUntil expiresAt d = .ok d') :
    ∃ key key', d.apiKeys.find? keyId = some key ∧ key.status = .active ∧
      key' = { key with keyPrefix := keyPrefix, keyHash := hash, expiresAt := expiresAt.or key.expiresAt } ∧
      (∀ row ∈ d.apiKeyVersions.rows, row.startGrace keyId graceUntil ∈ d'.apiKeyVersions.rows) ∧
      (∃ row ∈ d'.apiKeyVersions.rows, row.apiKeyId = keyId ∧ row.keyHash = hash) ∧
      d' = { d with apiKeyVersions := d'.apiKeyVersions, apiKeys := d.apiKeys.replace key' } := by
  simp only [rotateAPIKeyVersion, eq_ok] at h
  obtain ⟨_, _, _, _, key, hkey, _, hac, versions, hvr, _, hins, _, _, rfl⟩ := h
  have hold : ∀ row ∈ d.apiKeyVersions.rows, row ∈ versions.rows := by
    intro row hrow
    unfold repairVersions at hvr
    split at hvr
    · cases hvr
      exact hrow
    · exact (mem_insert hvr).mpr (.inr hrow)
  refine ⟨key, _, hkey, hac, rfl, fun row hrow => ?_, ⟨_, (mem_insert hins).mpr (.inl rfl), rfl, rfl⟩, rfl⟩
  exact (mem_insert hins).mpr (.inr (mem_map_of_mem (hold row hrow)))

theorem rotateAPIKeyVersion_eq_ok
    (h : rotateAPIKeyVersion s keyId keyPrefix hash graceUntil expiresAt d = .ok d') :
    Rotates keyId hash d d' := by
  obtain ⟨key, key', hkey, hac, hkey', hgr, hiss, hd'⟩ := rotateAPIKeyVersion_writes h
  obtain ⟨hmem, hid⟩ := found hkey
  exact ⟨⟨key, hmem, hid, hac, key', by rw [hkey'], by rw [hkey'], by rw [hd']⟩, ⟨graceUntil, hgr⟩, hiss⟩

theorem ApiKeyVersion.startGrace_columns (keyId : Uuid) (graceUntil : Timestamp) (row : ApiKeyVersion) :
    (row.startGrace keyId graceUntil).apiKeyId = row.apiKeyId ∧
      (row.startGrace keyId graceUntil).keyHash = row.keyHash := by
  unfold ApiKeyVersion.startGrace
  split <;> exact ⟨rfl, rfl⟩

theorem ApiKeyVersion.startGrace_of_endedBy {row : ApiKeyVersion}
    (h : row.status.endedBy now) : row.startGrace keyId graceUntil = row := by
  refine if_neg fun hac => ?_
  rw [hac.2] at h
  cases h

theorem Rotates.keeps (h : Rotates keyId hash d d') (now : Timestamp) : KeepsEnded byStatus now d d' := by
  obtain ⟨key, hkey, _, hac, _, hid', _, hkeys⟩ := h.active
  obtain ⟨_, hvr⟩ := h.versions
  refine ⟨fun row hrow => ⟨_, hvr row hrow, (row.startGrace_columns _ _).1,
    (row.startGrace_columns _ _).2, fun hend => ?_⟩, fun _ other hoth hst => .inl ?_⟩
  · rwa [ApiKeyVersion.startGrace_of_endedBy hend]
  · have hne : other.id ≠ key.id := by
      intro hsame
      rw [eq_of_rowId hoth hkey hsame, hac] at hst
      cases hst
    refine ⟨other, ?_, rfl, hst⟩
    rw [hkeys]
    exact mem_replace_of_ne hoth fun hsame => hne (hsame.trans hid')

theorem freezeAPIKeyByHash_eq_ok (h : freezeAPIKeyByHash hash d = .ok d') :
    ∃ keyId, Issued keyId hash d ∧ freezeAPIKeyForLeak keyId d = .ok d' := by
  simp only [freezeAPIKeyByHash, eq_ok] at h
  obtain ⟨keyId, hf, hfr⟩ := h
  refine ⟨keyId, ?_, hfr⟩
  rcases or_eq_some_iff.mp hf with hkey | ⟨_, hvr⟩
  · obtain ⟨key, hfind, rfl⟩ := map_eq_some_iff.mp hkey
    obtain ⟨hmem, hhash⟩ := queried hfind
    exact .inr ⟨key, hmem, rfl, hhash⟩
  · obtain ⟨row, hfind, rfl⟩ := map_eq_some_iff.mp hvr
    obtain ⟨hmem, hhash⟩ := queried hfind
    exact .inl ⟨row, hmem, rfl, hhash⟩

theorem freezeAPIKeyForLeak_keeps (h : freezeAPIKeyForLeak keyId d = .ok d') (now : Timestamp) :
    KeepsEnded byStatus now d d' := by
  simp only [freezeAPIKeyForLeak, eq_ok] at h
  obtain ⟨_, hkey, _, hopen, rfl⟩ := h
  obtain ⟨hmem, _⟩ := found hkey
  exact (setKeyStatus_keeps hmem fun _ hrv => absurd hrv hopen).trans
    (revokeVersions_keeps _ _ now) rfl

theorem updateAPIKeyStatus_eq_ok {text : String} (h : updateAPIKeyStatus s keyId text d = .ok d') :
    ∃ key ∈ d.apiKeys.rows, key.id = keyId ∧ ∃ new, ApiKeyStatus.parse text = some new ∧
      d' = d.setKeyStatus key new := by
  simp only [updateAPIKeyStatus, eq_ok] at h
  obtain ⟨new, hnew, key, hkey, h⟩ := h
  obtain ⟨hmem, hid⟩ := found hkey
  refine ⟨key, hmem, hid, new, hnew, ?_⟩
  split at h
  · simp only [eq_ok] at h
    obtain ⟨_, _, rfl⟩ := h
    rfl
  · exact (pure_eq_ok.mp h).symm

theorem execKey_keeps (h : execKey (s, call) d = .ok d') (hk : byStatus → KeepsRevoked d (s, call))
    (hnow : s.now ≤ now) : KeepsEnded byStatus now d d' := by
  cases call with
  | rotateAPIKeyVersion => exact (rotateAPIKeyVersion_eq_ok h).keeps now
  | finalizeAPIKeyRotation keyId _ =>
    simp only [execKey, finalizeAPIKeyRotation, eq_ok] at h
    obtain ⟨_, _, rfl⟩ := h
    exact revokeVersions_keeps d _ now
  | finalizeExpiredAPIKeyRotations _ =>
    cases h
    exact revokeVersions_keeps d _ now
  | updateAPIKeyStatus keyId text =>
    obtain ⟨key, hkey, hid, _, hnew, rfl⟩ := updateAPIKeyStatus_eq_ok h
    refine setKeyStatus_keeps hkey fun hby hrv => ?_
    by_cases htext : text = "REVOKED"
    · rw [htext] at hnew
      exact .inl (some.inj hnew).symm
    · exact .inr fun row hrow hown =>
        VersionStatus.endedBy_mono (hk hby htext key hkey hid hrv row hrow (hown.trans hid)) hnow
  | revokeAPIKey keyId _ _ =>
    simp only [execKey, revokeAPIKey, eq_ok] at h
    obtain ⟨key, hkey, _, _, rfl⟩ := h
    obtain ⟨hmem, _⟩ := found hkey
    exact (setKeyStatus_keeps hmem fun _ _ => .inl rfl).trans
      (revokeVersions_keeps _ _ now) rfl
  | freezeAPIKeyForLeak => exact freezeAPIKeyForLeak_keeps h now
  | freezeAPIKeyByHash =>
    obtain ⟨keyId, _, hfr⟩ := freezeAPIKeyByHash_eq_ok h
    exact freezeAPIKeyForLeak_keeps hfr now

theorem Ended.run (h : Ended byStatus keyId hash now d) (hk : byStatus → AlongChanges execKey KeepsRevoked d calls)
    (hnow : ∀ inv ∈ calls, inv.1.now ≤ now) : Ended byStatus keyId hash now (run execKey d calls) := by
  have hok : AlongChanges execKey (fun d inv => byStatus → KeepsRevoked d inv) d calls := by
    by_cases hby : byStatus
    · exact (hk hby).imp fun _ _ hcall hch _ => hcall hch
    · exact Along.of_forall fun _ _ _ hby' => absurd hby' hby
  exact run_invariant_of_changes (fun _ _ _ hend hcall hexec => hend.kept (execKey_keeps hexec hcall.1 hcall.2)) h
    (hok.and_mem hnow)

theorem Seeded.of_step (h : Seeded d) (hvr : ∀ row ∈ d.apiKeyVersions.rows, ∃ row' ∈ d'.apiKeyVersions.rows,
      row'.apiKeyId = row.apiKeyId ∧ row'.keyHash = row.keyHash)
    (hkeys : ∀ key' ∈ d'.apiKeys.rows, (∃ key ∈ d.apiKeys.rows, key'.id = key.id ∧ key'.keyHash = key.keyHash) ∨
      ∃ row ∈ d'.apiKeyVersions.rows, row.apiKeyId = key'.id ∧ row.keyHash = key'.keyHash) :
    Seeded d' := by
  intro key' hkey'
  rcases hkeys key' hkey' with ⟨key, hkey, hid, hhash⟩ | hiss
  · obtain ⟨row, hrow, hown, hsame⟩ := h key hkey
    obtain ⟨row', hrow', hown', hsame'⟩ := hvr row hrow
    exact ⟨row', hrow', hown'.trans (hown.trans hid.symm), hsame'.trans (hsame.trans hhash.symm)⟩
  · exact hiss

theorem Directory.mem_revokeVersions (d : Directory) (p : ApiKeyVersion → Bool) :
    ∀ row ∈ d.apiKeyVersions.rows, ∃ row' ∈ (d.revokeVersions p).apiKeyVersions.rows,
      row'.apiKeyId = row.apiKeyId ∧ row'.keyHash = row.keyHash := fun row hrow => by
  have hk : KeepsEnded False 0 d (d.revokeVersions p) := d.revokeVersions_keeps p 0
  obtain ⟨row', hrow', hown, hhash, _⟩ := hk.versions row hrow
  exact ⟨row', hrow', hown, hhash⟩

theorem Directory.secrets_setKeyStatus (hkey : key ∈ d.apiKeys.rows) :
    ∀ key' ∈ (d.setKeyStatus key new).apiKeys.rows, ∃ old ∈ d.apiKeys.rows, key'.id = old.id ∧
      key'.keyHash = old.keyHash := by
  intro key' hkey'
  rcases (mem_setKeyStatus hkey).mp hkey' with rfl | ⟨hold, _⟩
  · exact ⟨key, hkey, rfl, rfl⟩
  · exact ⟨key', hold, rfl, rfl⟩

theorem Seeded.exec (h : Seeded d) (hexec : execKey (s, call) d = .ok d') : Seeded d' := by
  have hst {key : ApiKey} {new : ApiKeyStatus} (hkey : key ∈ d.apiKeys.rows) (p : ApiKeyVersion → Bool) :
      Seeded ((d.setKeyStatus key new).revokeVersions p) :=
    h.of_step (mem_revokeVersions (d.setKeyStatus key new) p)
      fun key' hkey' => .inl (secrets_setKeyStatus hkey key' hkey')
  have hfreez {keyId : Uuid} (hfr : freezeAPIKeyForLeak keyId d = .ok d') : Seeded d' := by
    simp only [freezeAPIKeyForLeak, eq_ok] at hfr
    obtain ⟨key, hkey, _, _, rfl⟩ := hfr
    exact hst (found hkey).1 _
  have hrv (p : ApiKeyVersion → Bool) : Seeded (d.revokeVersions p) :=
    h.of_step (d.mem_revokeVersions p) fun key' hkey' => .inl ⟨key', hkey', rfl, rfl⟩
  cases call with
  | rotateAPIKeyVersion keyId _ _ _ _ =>
    have hrt := rotateAPIKeyVersion_eq_ok hexec
    obtain ⟨key, hkey, hid, _, key', hid', hhash', hkeys⟩ := hrt.active
    obtain ⟨_, hvr⟩ := hrt.versions
    refine h.of_step (fun row hrow => ⟨_, hvr row hrow, row.startGrace_columns _ _⟩) fun other hne => ?_
    rw [hkeys] at hne
    have hmem := (mem_replace hkey (congrArg RowKey.mk hid')).mp hne
    rcases hmem with rfl | ⟨hold, _⟩
    · obtain ⟨row, hrow, hown, hhash⟩ := hrt.issued
      exact .inr ⟨row, hrow, hown.trans (hid.symm.trans hid'.symm), hhash.trans hhash'.symm⟩
    · exact .inl ⟨other, hold, rfl, rfl⟩
  | finalizeAPIKeyRotation keyId _ =>
    simp only [execKey, finalizeAPIKeyRotation, eq_ok] at hexec
    obtain ⟨_, _, rfl⟩ := hexec
    exact hrv _
  | finalizeExpiredAPIKeyRotations _ =>
    cases hexec
    exact hrv _
  | updateAPIKeyStatus keyId _ =>
    obtain ⟨key, hkey, _, new, _, rfl⟩ := updateAPIKeyStatus_eq_ok hexec
    exact h.of_step (fun row hrow => ⟨row, hrow, rfl, rfl⟩)
      fun key' hkey' => .inl (secrets_setKeyStatus hkey key' hkey')
  | revokeAPIKey keyId _ _ =>
    simp only [execKey, revokeAPIKey, eq_ok] at hexec
    obtain ⟨key, hkey, _, _, rfl⟩ := hexec
    exact hst (found hkey).1 _
  | freezeAPIKeyForLeak => exact hfreez hexec
  | freezeAPIKeyByHash =>
    obtain ⟨keyId, _, hfr⟩ := freezeAPIKeyByHash_eq_ok hexec
    exact hfreez hfr

theorem Seeded.run (h : Seeded d) : Seeded (run execKey d calls) := by
  have hok : Along execKey (fun _ _ => True) d calls := Along.of_forall fun _ _ => trivial
  exact run_invariant (fun _ _ _ hsd _ hexec => hsd.exec hexec) h hok

theorem Seeded.issued (h : Seeded d) (hiss : Issued keyId hash d) :
    ∃ row ∈ d.apiKeyVersions.rows, row.apiKeyId = keyId ∧ row.keyHash = hash := by
  rcases hiss with hvr | ⟨key, hkey, hid, hhash⟩
  · exact hvr
  · obtain ⟨row, hrow, hown, hsame⟩ := h key hkey
    exact ⟨row, hrow, hown.trans hid, hsame.trans hhash⟩

theorem Ended.of_revokeVersions (hiss : ∃ row ∈ d.apiKeyVersions.rows, row.apiKeyId = keyId ∧
    row.keyHash = hash) (now : Timestamp) :
    Ended byStatus keyId hash now (d.revokeVersions fun row => row.apiKeyId = keyId) := by
  obtain ⟨row, hrow, hown, hhash⟩ := hiss
  have hrv : row.revokeWhen (fun row => row.apiKeyId = keyId) = { row with status := .revoked } :=
    if_pos (decide_eq_true hown)
  exact ⟨_, mem_map_of_mem hrow, by rw [hrv]; exact hown, by rw [hrv]; exact hhash,
    .inl (by rw [hrv]; rfl)⟩

theorem Ended.of_revokes (hrv : call.Revokes keyId d) (hsd : Seeded d)
    (hexec : execKey (s, call) d = .ok d') (hiss : Issued keyId hash d) (now : Timestamp) :
    Ended call.leavesVersions keyId hash now d' := by
  have hvr := hsd.issued hiss
  have hfreez (hfr : freezeAPIKeyForLeak keyId d = .ok d') : Ended call.leavesVersions keyId hash now d' := by
    simp only [freezeAPIKeyForLeak, eq_ok] at hfr
    obtain ⟨key, _, _, _, rfl⟩ := hfr
    exact Ended.of_revokeVersions (d := d.setKeyStatus key .disabled) hvr now
  cases call with
  | rotateAPIKeyVersion | finalizeAPIKeyRotation | finalizeExpiredAPIKeyRotations => exact hrv.elim
  | updateAPIKeyStatus id _ =>
    obtain ⟨rfl, rfl⟩ := hrv
    obtain ⟨key, hkey, hid, new, hnew, rfl⟩ := updateAPIKeyStatus_eq_ok hexec
    obtain rfl : .revoked = new := some.inj hnew
    obtain ⟨row, hrow, hown, hhash⟩ := hvr
    exact ⟨row, hrow, hown, hhash, .inr ⟨rfl, _, (mem_setKeyStatus hkey).mpr (.inl rfl), hid, rfl⟩⟩
  | revokeAPIKey id _ _ =>
    obtain rfl : id = keyId := hrv
    simp only [execKey, revokeAPIKey, eq_ok] at hexec
    obtain ⟨key, _, _, _, rfl⟩ := hexec
    exact Ended.of_revokeVersions (d := d.setKeyStatus key .revoked) hvr now
  | freezeAPIKeyForLeak id =>
    obtain rfl : id = keyId := hrv
    exact hfreez hexec
  | freezeAPIKeyByHash leaked =>
    -- The leaked secret has one version, so it leads to this key.
    obtain ⟨id, hlk, hfr⟩ := freezeAPIKeyByHash_eq_ok hexec
    obtain ⟨row, hrow, hown, hhash⟩ := hsd.issued hlk
    obtain ⟨row', hrow', hown', hhash'⟩ := hsd.issued hrv
    have hcl : Key.clash (Keyed.key row) (Keyed.key row') := by
      simp [Key.clash, Keyed.key, hhash, hhash']
    obtain rfl := eq_of_clash hrow hrow' hcl
    obtain rfl : id = keyId := hown.symm.trans hown'
    exact hfreez hfr

/-- Once a key is revoked or frozen, or a version is revoked or its grace has run out, no secret issued before
is accepted again. Where the key was ended by its status alone, that needs a history that takes no key out of the
revoked status while one of its versions can still be used. -/
theorem ended_secrets_stay_rejected {start : Directory} (hseeded : Seeded start)
    (earlier : List (Session × KeyCall)) (keyId : Uuid) (hash : Digest) :
    (∀ inv d', execKey inv (run execKey start earlier) = .ok d' →
      inv.2.Revokes keyId (run execKey start earlier) → Issued keyId hash (run execKey start earlier) →
      ∀ later now, (inv.2.leavesVersions → AlongChanges execKey KeepsRevoked d' later) →
        (∀ call ∈ later, call.1.now ≤ now) →
        authenticateAPIKeyVersion now hash (run execKey d' later) = none) ∧
      ∀ row ∈ (run execKey start earlier).apiKeyVersions.rows, row.keyHash = hash →
        ∀ time, row.status.endedBy time →
          ∀ later now, time ≤ now → (∀ call ∈ later, call.1.now ≤ now) →
            authenticateAPIKeyVersion now hash (run execKey (run execKey start earlier) later) = none := by
  constructor
  · intro inv d' hexec hrv hiss later now hk hnow
    exact ((Ended.of_revokes hrv hseeded.run hexec hiss now).run hk hnow).rejected
  · intro row hrow hhash time hend later now htime hnow
    have hstar : Ended False row.apiKeyId hash now (run execKey start earlier) :=
      ⟨row, hrow, rfl, hhash, .inl (VersionStatus.endedBy_mono hend htime)⟩
    exact (hstar.run False.elim hnow).rejected

/-- The secret of the small directory is rejected for good once its key is revoked. -/
theorem ended_secrets_stay_rejected_demo :
    ∃ d', execKey (demoSession 1, .revokeAPIKey 1 2 false) demoDirectory = .ok d' ∧
      ∀ later now, (∀ call ∈ later, call.1.now ≤ now) →
        authenticateAPIKeyVersion now [1] (run execKey d' later) = none := by
  have hsd : Seeded demoDirectory := by
    intro _ hkey
    rw [mem_singleton.mp hkey]
    exact ⟨_, mem_cons_self, rfl, rfl⟩
  obtain ⟨d', hexec⟩ : ∃ d', execKey (demoSession 1, .revokeAPIKey 1 2 false) demoDirectory = .ok d' :=
    exists_of_isOk (by decide +kernel)
  exact ⟨d', hexec, fun later now => (ended_secrets_stay_rejected hsd [] 1 [1]).1 _ d' hexec rfl
    (.inl ⟨_, mem_cons_self, rfl, rfl⟩) later now Bool.noConfusion⟩

/-- A key whose status is set to revoked and back is accepted with its old secret. -/
theorem revoked_status_reactivated : (authenticateAPIKeyVersion 2 [1] (run execKey demoDirectory
      [(demoSession 1, .updateAPIKeyStatus 1 "REVOKED")])).isNone ∧
    (authenticateAPIKeyVersion 3 [1] (run execKey demoDirectory
      [(demoSession 1, .updateAPIKeyStatus 1 "REVOKED"),
        (demoSession 2, .updateAPIKeyStatus 1 "ACTIVE")])).isSome := by decide +kernel

/-- What a rotation promises for a secret and a later time: it is accepted now, its grace has not ended then, and
neither have the ends it had itself. -/
structure Promised (s : Session) (graceUntil : Timestamp) (d : Directory) (key : ApiKey) (version : ApiKeyVersion)
    (time : Timestamp) : Prop where
  issued : version ∈ d.apiKeyVersions.rows
  belongs : d.apiKeys.find? version.apiKeyId = some key
  accepted : d.accepts s.now key version
  later : s.now ≤ time
  grace : (version.startGrace key.id graceUntil).status.usable time
  version : notExpired time version.expiresAt
  key : notExpired time key.expiresAt

/-- A call that rotates a key and names no end of its new secret up to a time. -/
def RotatesPast (keyId : Uuid) (time : Timestamp) (invocation : Session × KeyCall) : Prop :=
  ∃ keyPrefix hash graceUntil expiresAt,
    invocation.2 = .rotateAPIKeyVersion keyId keyPrefix hash graceUntil expiresAt ∧ notExpired time expiresAt

/-- A secret that is not the current one of its key is accepted at a time. -/
def AcceptedInGrace (keyId : Uuid) (hash : Digest) (time : Timestamp) (d : Directory) : Prop :=
  ∃ version ∈ d.apiKeyVersions.rows, version.keyHash = hash ∧ version.status ≠ .active ∧
    ∃ key, key.id = keyId ∧ d.apiKeys.find? version.apiKeyId = some key ∧ d.accepts time key version

theorem AcceptedInGrace.authenticates (h : AcceptedInGrace keyId hash time d) :
    (authenticateAPIKeyVersion time hash d).isSome := by
  obtain ⟨_, hiss, hhash, _, _, _, hbl, hac⟩ := h
  simp [authenticateAPIKeyVersion_eq hiss hhash, hbl, hac]

variable {version : ApiKeyVersion}

theorem ApiKeyVersion.startGrace_status_ne (hid : version.apiKeyId = keyId) :
    (version.startGrace keyId graceUntil).status ≠ .active := by
  unfold ApiKeyVersion.startGrace
  split
  · exact nofun
  · next hgr => exact fun hac => hgr ⟨hid, hac⟩

/-- A secret whose version, owner and key allow a time is accepted then after a rotation exactly if the rotation
names no end up to then. -/
theorem rotated_accepts_iff (hiss : version ∈ d.apiKeyVersions.rows)
    (hbl : d.apiKeys.find? version.apiKeyId = some key) (hown : d.ownerAllows key)
    (hvl : version.validFrom ≤ time) (hvr : notExpired time version.expiresAt)
    (hkey : notExpired time key.expiresAt) (hgre : (version.startGrace key.id graceUntil).status.usable time)
    (hrt : rotateAPIKeyVersion s key.id keyPrefix hash graceUntil expiresAt d = .ok d') :
    version.startGrace key.id graceUntil ∈ d'.apiKeyVersions.rows ∧ ∃ key', key'.id = key.id ∧
      d'.apiKeys.find? version.apiKeyId = some key' ∧
      (d'.accepts time key' (version.startGrace key.id graceUntil) ↔ notExpired time expiresAt) := by
  obtain ⟨same, key', hsame, hac, hkey', hgr, _, hd'⟩ := rotateAPIKeyVersion_writes hrt
  obtain rfl : key = same := by
    rw [show key.id = version.apiKeyId from (found hbl).2, hbl] at hsame
    exact some.inj hsame
  refine ⟨hgr version hiss, key', by rw [hkey'], ?_, ?_⟩
  · rw [hd']
    exact find?_replace_of_find? hbl (by rw [hkey']; rfl)
  · -- Only the status of the version changes.
    have hsp : version.startGrace key.id graceUntil =
        { version with status := (version.startGrace key.id graceUntil).status } := by
      unfold ApiKeyVersion.startGrace
      split <;> rfl
    have hkept : d'.ownerAllows key' ∧ key'.status = .active := by
      rw [hd', hkey']
      exact ⟨hown, hac⟩
    have hnew : notExpired time key'.expiresAt ↔ notExpired time expiresAt := by
      rw [hkey']
      cases expiresAt with
      | none => exact iff_of_true hkey rfl
      | some _ => rfl
    rw [hsp, ← hnew]
    simp [accepts, hkept, hvr, hgre, hvl]

theorem AcceptedInGrace.rotated {inv : Session × KeyCall} (h : AcceptedInGrace keyId hash time d)
    (hrt : RotatesPast keyId time inv) (hexec : execKey inv d = .ok d') :
    AcceptedInGrace keyId hash time d' := by
  obtain ⟨version, hiss, hhash, hst, key, rfl, hbl, hac⟩ := h
  obtain ⟨_, _, graceUntil, _, hcall, hend⟩ := hrt
  have hsame : version.startGrace key.id graceUntil = version := if_neg fun hact => hst hact.2
  simp only [accepts, cond_iff] at hac
  obtain ⟨⟨⟨⟨⟨_, hown⟩, hkey⟩, hvl⟩, hvr⟩, hus⟩ := hac
  simp only [execKey, hcall] at hexec
  obtain ⟨hiss', key', hid, hbl', hac'⟩ :=
    rotated_accepts_iff hiss hbl hown hvl hvr hkey (by rwa [hsame]) hexec
  rw [hsame] at hiss' hac'
  exact ⟨version, hiss', hhash, hst, key', hid, hbl', hac'.mpr hend⟩

/-- The rotation writes the end of the new secret on the key, where it ends the older secrets as well: what is
promised for a time is kept exactly if the rotation names no end up to then, and by every later rotation of the
key that names none. -/
theorem promised_secret_accepted_iff (h : Promised s graceUntil d key version time)
    (hrotated : rotateAPIKeyVersion s key.id keyPrefix hash graceUntil expiresAt d = .ok d') :
    ((authenticateAPIKeyVersion time version.keyHash d').isSome ↔ notExpired time expiresAt) ∧
      (notExpired time expiresAt → ∀ later, AlongChanges execKey (fun _ => RotatesPast key.id time) d' later →
        (authenticateAPIKeyVersion time version.keyHash (run execKey d' later)).isSome) := by
  have hac := h.accepted
  simp only [accepts, cond_iff] at hac
  obtain ⟨⟨⟨⟨⟨_, hown⟩, _⟩, hvl⟩, _⟩, _⟩ := hac
  obtain ⟨hiss, key', hid, hbl, hacs⟩ :=
    rotated_accepts_iff h.issued h.belongs hown (hvl.trans h.later) h.version h.key h.grace hrotated
  obtain ⟨howns, hhash⟩ := version.startGrace_columns key.id graceUntil
  constructor
  · rw [authenticateAPIKeyVersion_eq hiss hhash, howns, hbl, ← hacs]
    simp
  · intro hend later hlat
    have hgr : AcceptedInGrace key.id version.keyHash time d' :=
      ⟨_, hiss, hhash, ApiKeyVersion.startGrace_status_ne (found h.belongs).2.symm, key', hid,
        by rwa [howns], hacs.mpr hend⟩
    exact (run_invariant_of_changes (fun _ _ _ hst => hst.rotated) hgr hlat).authenticates

/-- The old secret of the small directory is accepted in its grace if the new one has no end, and still after a
second rotation. -/
theorem promised_secret_accepted_demo : ∃ d', rotateAPIKeyVersion (demoSession 1) 1 "rdk_next" [2] 9 none
    demoDirectory = .ok d' ∧ (authenticateAPIKeyVersion 5 [1] d').isSome ∧
      (authenticateAPIKeyVersion 5 [1] (run execKey d'
        [(demoSession 2, .rotateAPIKeyVersion 1 "rdk_third" [3] 4 none)])).isSome := by
  obtain ⟨d', hrt⟩ : ∃ d', rotateAPIKeyVersion (demoSession 1) 1 "rdk_next" [2] 9 none demoDirectory = .ok d' :=
    exists_of_isOk (by decide +kernel)
  have hpr : Promised (demoSession 1) 9 demoDirectory ⟨1, 2, 1, 1, none, "rdk_live", [1], .active, none⟩
      ⟨1, 1, 1, "rdk_live", [1], .active, 0, none⟩ 5 := by
    refine ⟨mem_cons_self, rfl, ?_, ?_, ?_, ?_, ?_⟩ <;> decide +kernel
  obtain ⟨hiff, hlat⟩ := promised_secret_accepted_iff hpr hrt
  exact ⟨d', hrt, hiff.mpr rfl, hlat rfl _ (Along.changes ⟨⟨_, _, _, _, rfl, rfl⟩, trivial⟩)⟩

/-- A new secret that ends at 3 ends the old one too, in the middle of a grace up to 9. -/
theorem rotation_ends_grace_early : (authenticateAPIKeyVersion 5 [1] (run execKey demoDirectory
    [(demoSession 1, .rotateAPIKeyVersion 1 "rdk_next" [2] 9 (some 3))])).isNone := by decide +kernel

end ModelDock.Identity
