import ModelDock.Scheduler.Select

/-!
# Shared capacity an organization forbids

An organization's own credential can forbid platform credentials, but each selection looks only at what the
store returns at that moment for that group.
-/

namespace ModelDock.Scheduler

open Relational Text List
open Store (CredentialOwner)

/-- The groups and the policy of a route. -/
structure Route where
  credentialGroupId : String
  fallbackGroupId : Option String := none
  routingPolicy : String := ""

/-- How the call to the provider ends: with a response, without a connection, or cut off (by the
client, by the deadline, or before it was made). -/
inductive Upstream
  | responded
  | connectionFailed
  | interrupted
deriving DecidableEq

/-- The store and the services at the moment of one selection. -/
structure Moment where
  directory : Directory
  services : Services

section Request

variable (go : Runtime) (route : Route) (constraints : CredentialConstraints) (organizationId : String)

/-- Select in a group at one moment. -/
def selectAt (moment : Moment) (groupId : String) : Except SelectError Selection :=
  selectConstrainedForOrganization go moment.services moment.directory groupId route.routingPolicy
    constraints organizationId

/-- The group and the credential the request starts with. -/
def startSelection (primary alternative : Moment) : Option (String × Selection) :=
  match selectAt go route constraints organizationId primary route.credentialGroupId with
  | .ok selection => some (route.credentialGroupId, selection)
  | .error _ => route.fallbackGroupId.bind fun groupId =>
    (selectAt go route constraints organizationId alternative groupId).toOption.map (groupId, ·)

/-- All credentials a request selects, in order. -/
def requestSelections (primary alternative retry : Moment) (upstream : Upstream) : List Selection :=
  match startSelection go route constraints organizationId primary alternative with
  | none => []
  | some (groupId, selection) =>
    selection ::
      if upstream = .connectionFailed ∧ groupId = route.credentialGroupId then
        (route.fallbackGroupId.bind fun fallback =>
          (selectAt go route constraints organizationId retry fallback).toOption).toList
      else []

end Request

variable {go : Runtime} {services : Services} {fit : Credential → Bool} {credential : Credential}
  {candidates : List Credential} {ranked list : List Ranked} {policy : SchedulingPolicy}
  {blocked : Bool} {selection : Selection} {groupId : String}

theorem mem_rankAll (h : rankAll go services fit candidates = .ok ranked) {item : Ranked} : item ∈ ranked ↔
    ∃ c ∈ candidates, fit c ∧ ∃ active < c.maxConcurrency, services.active c.id = some active ∧
      item = rank go c active := by
  induction candidates generalizing ranked with
  | nil =>
    cases h
    simp
  | cons c rest ih =>
    by_cases hfit : fit c
    · simp only [rankAll, hfit, if_true, eq_ok] at h
      grind
    · simp only [rankAll, hfit, Bool.false_eq_true] at h
      simp [ih h, hfit]

theorem swapToFront_perm (chosen : String) (list : List Ranked) : (swapToFront chosen list).Perm list := by
  unfold swapToFront
  split
  · rw [Array.swapIfInBounds_def]
    split
    · split
      · exact (Array.swap_perm _ _).toList
      · exact Perm.refl _
    · exact Perm.refl _
  · exact Perm.refl _

theorem perm_of_arrange (h : arrange go services groupId policy ranked = .ok list) : list.Perm ranked := by
  have hsor := mergeSort_perm ranked fun a b => !b.less go policy a
  simp only [arrange] at h
  split at h
  · next htop =>
    simp only [eq_ok] at h
    obtain ⟨chosen, -, rfl⟩ := h
    exact (swapToFront_perm chosen _).trans (htop ▸ hsor)
  · cases h
    exact hsor

theorem mem_of_acquireFirst (h : acquireFirst services policy blocked list = .ok selection) :
    ∃ item ∈ list, selection.credential.owner = item.credential.owner := by
  induction list with
  | nil => cases h
  | cons item _ ih =>
    simp only [acquireFirst, eq_ok, Prod.exists] at h
    obtain ⟨acquired, _, -, h⟩ := h
    cases acquired with
    | true =>
      cases h
      exact ⟨item, mem_cons_self, rfl⟩
    | false =>
      obtain ⟨other, hne, hown⟩ := ih h
      exact ⟨other, mem_cons_of_mem _ hne, hown⟩

variable {directory : Directory} {route : Route} {constraints : CredentialConstraints}
  {organizationId : String}

variable (go directory constraints organizationId) in
/-- Whether a candidate can be selected from a group. -/
def selectable (groupId : String) (credential : Credential) : Bool :=
  fits go constraints organizationId
    (blockShared go constraints organizationId (directory.candidates groupId)) credential

theorem selectAt_owner
    (h : selectAt go route constraints organizationId ⟨directory, services⟩ groupId = .ok selection) :
    ∃ c ∈ directory.candidates groupId,
      selectable go directory constraints organizationId groupId c ∧
        selection.credential.owner = c.owner := by
  simp only [selectAt, selectConstrainedForOrganization, eq_ok] at h
  obtain ⟨_, -, _, -, _, hrn, _, har, hac⟩ := h
  obtain ⟨item, hitem, hown⟩ := mem_of_acquireFirst hac
  obtain ⟨c, hc, hfits, _, _, _, rfl⟩ := (mem_rankAll hrn).mp ((perm_of_arrange har).mem_iff.mp hitem)
  exact ⟨c, hc, hfits, hown⟩

/-- Services that do not answer. -/
def unreachable : Services where
  reachable := false
  active _ := none
  chooseWeighted _ _ := none
  tryAcquire _ _ := none

theorem selectAt_unreachable : selectAt go route constraints organizationId ⟨directory, unreachable⟩ groupId =
      .error .sourceUnavailable := rfl

/-- Services that report one credential idle and all others at their limit. -/
def onlyIdle (limit : ℕ) (id : String) : Services where
  reachable := true
  active other := some (if other = id then 0 else limit)
  chooseWeighted _ _ := some id
  tryAcquire _ _ := some (true, 1)

variable (go fit) in
/-- Only the idle credential is ranked. -/
theorem rankAll_onlyIdle {limit : ℕ} (hlm : ∀ c ∈ candidates, c.maxConcurrency ≤ limit) (id : String) :
    rankAll go (onlyIdle limit id) fit candidates =
      .ok ((candidates.filter fun c => fit c && c.id = id).map fun c => rank go c 0) := by
  induction candidates with
  | nil => rfl
  | cons c _ ih =>
    have hrest := ih fun other hne => hlm other (mem_cons_of_mem _ hne)
    by_cases hfit : fit c
    · have hac : required ((onlyIdle limit id).active c.id) SelectError.stateUnavailable =
          .ok (if c.id = id then 0 else limit) := rfl
      rw [rankAll, hac, hrest]
      by_cases hid : c.id = id
      · have hroom : ¬c.maxConcurrency ≤ 0 := not_le.mpr c.maxConcurrency_pos
        simp [hid, hroom, hfit, pure, Except.pure]
      · simp [hid, hlm c mem_cons_self, pure, Except.pure]
    · simp [rankAll, hfit, hrest]

theorem Directory.candidates_nodup (directory : Directory) (groupId : String) :
    ((directory.candidates groupId).map Credential.id).Nodup := by
  unfold Directory.candidates
  rw [map_map, ((mergeSort_perm _ _).map _).nodup_iff]
  -- Within one group the key of a member is its credential.
  refine Nodup.of_map (groupId, ·) ?_
  rw [map_map]
  refine (map_congr_left fun member hmem => ?_) ▸
    directory.nodup.sublist (filter_sublist.map _)
  have hgr : member.groupId = groupId := by
    simpa using (Bool.and_eq_true_iff.mp (mem_filter.mp hmem).2).1
  exact congrArg (·, member.credential.id) hgr

theorem arrange_singleton (item : Ranked) : arrange go services groupId policy [item] = .ok [item] := by
  cases policy <;> simp [arrange, pure, Except.pure]

theorem exists_selectAt (route : Route) (hmem : credential ∈ directory.candidates groupId)
    (hfits : selectable go directory constraints organizationId groupId credential) :
    ∃ services selection,
      selectAt go route constraints organizationId ⟨directory, services⟩ groupId = .ok selection ∧
        selection.credential.owner = credential.owner := by
  let limit := ((directory.candidates groupId).map Credential.maxConcurrency).sum
  have hlm : ∀ c ∈ directory.candidates groupId, c.maxConcurrency ≤ limit :=
    fun c hc => le_sum_of_mem (mem_map_of_mem hc)
  have hnd := directory.candidates_nodup groupId
  have honly : ((directory.candidates groupId).filter fun c =>
      selectable go directory constraints organizationId groupId c && c.id = credential.id) =
        [credential] := by
    have hsame : ∀ c ∈ directory.candidates groupId,
        (selectable go directory constraints organizationId groupId c && c.id = credential.id) =
          (c == credential) := by
      intro c hc
      rw [Bool.eq_iff_iff, Bool.and_eq_true, decide_eq_true_eq, beq_iff_eq]
      refine ⟨fun h => inj_on_of_nodup_map hnd hc hmem h.2, ?_⟩
      rintro rfl
      exact ⟨hfits, rfl⟩
    rw [filter_congr hsame, filter_beq, count_eq_one_of_mem hnd.of_map hmem]
    rfl
  have hrn := rankAll_onlyIdle go (selectable go directory constraints organizationId groupId)
    hlm credential.id
  rw [honly] at hrn
  simp only [selectAt, selectConstrainedForOrganization, eq_ok]
  exact ⟨onlyIdle limit credential.id, _, ⟨(), rfl, (), ne_nil_of_mem hmem, _, hrn, _,
    arrange_singleton _, rfl⟩, rfl⟩

variable (go directory constraints organizationId) in
/-- No platform credential of a group can be selected: the request does not want one, a credential
that is returned forbids it, or none that is returned fits. -/
def NoShared (groupId : String) : Prop :=
  constraints.useSharedCapacity = some false ∨
    (∃ c ∈ directory.candidates groupId, forbidsShared go constraints organizationId c) ∨
    ∀ c ∈ directory.candidates groupId, c.owner = .platform →
      fits go constraints organizationId false c = false

variable (go directory constraints organizationId) in
/-- Some credential of a group can be selected. -/
def Selectable (groupId : String) : Prop :=
  ∃ c ∈ directory.candidates groupId,
    selectable go directory constraints organizationId groupId c

theorem blockShared_iff (go : Runtime) (constraints : CredentialConstraints) (organizationId : String)
    (candidates : List Credential) :
    blockShared go constraints organizationId candidates ↔
      constraints.useSharedCapacity = some false ∨
        ∃ c ∈ candidates, forbidsShared go constraints organizationId c := by
  simp [blockShared]

theorem noShared_iff (route : Route) : NoShared go directory constraints organizationId groupId ↔
      ∀ services selection,
        selectAt go route constraints organizationId ⟨directory, services⟩ groupId = .ok selection →
          selection.credential.owner = .customer := by
  have hbld := blockShared_iff go constraints organizationId (directory.candidates groupId)
  refine ⟨fun h services selection hsl => ?_, fun h => ?_⟩
  · obtain ⟨c, hc, hfits, hown⟩ := selectAt_owner hsl
    rw [hown]
    cases hpl : c.owner with
    | customer => rfl
    | platform =>
      exfalso
      unfold selectable at hfits
      cases hbl : blockShared go constraints organizationId (directory.candidates groupId) with
      | true => simp [hbl, fits, hpl] at hfits
      | false =>
        rw [hbl] at hfits
        rcases h with hrq | hfor | hnone
        · exact absurd (hbld.mpr (.inl hrq)) (by simp [hbl])
        · exact absurd (hbld.mpr (.inr hfor)) (by simp [hbl])
        · exact absurd hfits (by simp [hnone c hc hpl])
  · by_contra hshar
    obtain ⟨hrq, hfor, hsome⟩ : ¬_ ∧ ¬_ ∧ ¬_ := by
      simpa only [NoShared, not_or] using hshar
    have hopen : blockShared go constraints organizationId (directory.candidates groupId) = false := by
      rw [Bool.eq_false_iff]
      exact fun hbl => (hbld.mp hbl).elim hrq hfor
    push Not at hsome
    obtain ⟨c, hc, hpl, hfits⟩ := hsome
    have hse : selectable go directory constraints organizationId groupId c := by
      unfold selectable
      rw [hopen]
      simpa using hfits
    obtain ⟨services, selection, hsl, hown⟩ := exists_selectAt route hc hse
    have hcs := h services selection hsl
    rw [hown, hpl] at hcs
    cases hcs

theorem noShared_of_schedulable {own : Member} (hmem : own ∈ directory.members)
    (hfor : forbidsShared go constraints organizationId own.credential)
    (hsc : own.isSchedulable directory.now) :
    NoShared go directory constraints organizationId own.groupId := by
  refine .inr (.inl ⟨own.candidate, mem_map_of_mem ?_, hfor⟩)
  exact mem_mergeSort.mpr (mem_filter.mpr ⟨hmem, by simp [hsc]⟩)

theorem mem_requestSelections {primary alternative retry : Moment} {upstream : Upstream} :
    selection ∈ requestSelections go route constraints organizationId primary alternative retry
        upstream ↔
      selectAt go route constraints organizationId primary route.credentialGroupId = .ok selection ∨
      (∃ err, selectAt go route constraints organizationId primary route.credentialGroupId =
          .error err) ∧
        (∃ fallback ∈ route.fallbackGroupId,
          selectAt go route constraints organizationId alternative fallback = .ok selection) ∨
      upstream = .connectionFailed ∧ ∃ fallback ∈ route.fallbackGroupId,
        selectAt go route constraints organizationId retry fallback = .ok selection ∧
          ((∃ started, selectAt go route constraints organizationId primary route.credentialGroupId =
              .ok started) ∨
            (∃ err, selectAt go route constraints organizationId primary route.credentialGroupId =
              .error err) ∧ fallback = route.credentialGroupId ∧
            ∃ started, selectAt go route constraints organizationId alternative fallback =
              .ok started) := by
  unfold requestSelections startSelection
  cases hpr : selectAt go route constraints organizationId primary route.credentialGroupId with
  | ok started =>
    cases hfa : route.fallbackGroupId with
    | none => simp [eq_comm]
    | some fallback =>
      cases hrt : selectAt go route constraints organizationId retry fallback <;>
        by_cases hfl : upstream = .connectionFailed <;>
          simp [hrt, Except.toOption, eq_comm]
  | error err =>
    cases hfa : route.fallbackGroupId with
    | none => simp
    | some fallback =>
      cases hal : selectAt go route constraints organizationId alternative fallback with
      | error err => simp [hal, Except.toOption]
      | ok started =>
        by_cases hsame : fallback = route.credentialGroupId
        · subst hsame
          cases hrt : selectAt go route constraints organizationId retry route.credentialGroupId <;>
            by_cases hfl : upstream = .connectionFailed <;>
              simp [hrt, hal, Except.toOption, eq_comm]
        · simp [hsame, hal, Except.toOption, eq_comm]

/-- No answer of the services makes a request select a platform credential, although one of the
organization's own credentials in the primary group forbids it, exactly when that credential is
schedulable or the group has no shared capacity anyway, and the fallback group has none either
whenever it is consulted. -/
theorem platform_never_selected_iff (go : Runtime) (route : Route) (constraints : CredentialConstraints)
    (organizationId : String) (primary alternative retry : Directory) (own : Member)
    (hmember : own ∈ primary.members) (hgroup : own.groupId = route.credentialGroupId)
    (hforbids : own.credential.owner = .customer ∧
      own.credential.ownerOrganizationId = some organizationId ∧
      own.credential.sharedCapacityFallback = .never ∧
      credentialActorFiltersMatch go constraints own.credential) :
    (∀ first second third upstream, ∀ selection ∈ requestSelections go route constraints
        organizationId ⟨primary, first⟩ ⟨alternative, second⟩ ⟨retry, third⟩ upstream,
      selection.credential.owner = .customer) ↔
    (own.isSchedulable primary.now ∨
        NoShared go primary constraints organizationId route.credentialGroupId) ∧
      ∀ fallback ∈ route.fallbackGroupId,
        NoShared go alternative constraints organizationId fallback ∧
          (Selectable go primary constraints organizationId route.credentialGroupId ∨
              fallback = route.credentialGroupId ∧
                Selectable go alternative constraints organizationId fallback →
            NoShared go retry constraints organizationId fallback) := by
  obtain ⟨hown, horg, hnv, hac⟩ := hforbids
  have hforbids : forbidsShared go constraints organizationId own.credential := by
    simp [forbidsShared, hown, horg, hnv, hac]
  have hfa (directory : Directory) (groupId : String) : ∃ err, selectAt go route constraints
      organizationId ⟨directory, unreachable⟩ groupId = .error err := ⟨_, selectAt_unreachable⟩
  constructor
  · intro h
    refine ⟨.inr ((noShared_iff route).mpr fun services selection hsl => ?_),
      fun fallback hfl => ⟨(noShared_iff route).mpr fun services selection hsl => ?_, ?_⟩⟩
    · exact h services unreachable unreachable .responded selection
        (mem_requestSelections.mpr (.inl hsl))
    · exact h unreachable services unreachable .responded selection
        (mem_requestSelections.mpr (.inr (.inl ⟨hfa _ _, fallback, hfl, hsl⟩)))
    · rintro (⟨c, hc, hfits⟩ | ⟨rfl, c, hc, hfits⟩)
      · -- The primary group serves the request, and the provider cannot be reached.
        obtain ⟨first, started, hstar, -⟩ := exists_selectAt route hc hfits
        refine (noShared_iff route).mpr fun services selection hsl => ?_
        exact h first unreachable services .connectionFailed selection (mem_requestSelections.mpr
          (.inr (.inr ⟨rfl, fallback, hfl, hsl, .inl ⟨started, hstar⟩⟩)))
      · -- The fallback group is the primary group, and serves the request at the second attempt.
        obtain ⟨second, started, hstar, -⟩ := exists_selectAt route hc hfits
        refine (noShared_iff route).mpr fun services selection hsl => ?_
        exact h unreachable second services .connectionFailed selection (mem_requestSelections.mpr
          (.inr (.inr ⟨rfl, _, hfl, hsl, .inr ⟨hfa _ _, rfl, started, hstar⟩⟩)))
  · rintro ⟨hfs, hlat⟩ first second third upstream selection hmem
    have hpr : NoShared go primary constraints organizationId route.credentialGroupId :=
      hfs.elim (fun hsc => hgroup ▸ noShared_of_schedulable hmember hforbids hsc) id
    rcases mem_requestSelections.mp hmem with hsl | ⟨-, fallback, hfl, hsl⟩ |
      ⟨-, fallback, hfl, hsl, hstar⟩
    · exact (noShared_iff route).mp hpr first selection hsl
    · exact (noShared_iff route).mp (hlat fallback hfl).1 second selection hsl
    · refine (noShared_iff route).mp ((hlat fallback hfl).2 ?_) third selection hsl
      rcases hstar with ⟨started, hstar⟩ | ⟨-, hsame, started, hstar⟩
      · obtain ⟨c, hc, hfits, -⟩ := selectAt_owner hstar
        exact .inl ⟨c, hc, hfits⟩
      · obtain ⟨c, hc, hfits, -⟩ := selectAt_owner hstar
        exact .inr ⟨hsame, c, hc, hfits⟩

variable (cooldownUntil : Option ℕ)

/-- An organization's own credential that forbids shared capacity, cooling down for a time. -/
def demoOwn : Member where
  groupId := "primary"
  credential :=
    { id := "own"
      owner := .customer
      ownerOrganizationId := some "acme"
      sharedCapacityFallback := .never
      cooldownUntil := cooldownUntil }

/-- A group with that credential and one of the platform. -/
def demoDirectory : Directory where
  now := 0
  members := [demoOwn cooldownUntil, { groupId := "primary", credential := { id := "shared" } }]
  nodup := by
    change [("primary", "own"), ("primary", "shared")].Nodup
    decide

/-- As long as the organization's credential is schedulable, a request without a fallback group never
gets the platform's. -/
theorem platform_never_selected_demo : demoOwn none ∈ (demoDirectory none).members ∧
    ∀ first second third upstream, ∀ selection ∈ requestSelections asciiRuntime
        { credentialGroupId := "primary" } {} "acme" ⟨demoDirectory none, first⟩
        ⟨demoDirectory none, second⟩ ⟨demoDirectory none, third⟩ upstream,
      selection.credential.owner = .customer :=
  ⟨mem_cons_self, (platform_never_selected_iff asciiRuntime { credentialGroupId := "primary" } {} "acme"
    (demoDirectory none) (demoDirectory none) (demoDirectory none) (demoOwn none) (by decide) rfl
    (by decide)).mpr ⟨.inl (by decide), by simp⟩⟩

/-- While it cools down, the platform's credential is selected. -/
theorem platform_selected_in_cooldown :
    (requestSelections asciiRuntime { credentialGroupId := "primary" } {} "acme"
      ⟨demoDirectory (some 100), onlyIdle 0 "shared"⟩ ⟨demoDirectory (some 100), unreachable⟩
      ⟨demoDirectory (some 100), unreachable⟩ .responded).map (fun selection =>
        (selection.credential.id, selection.credential.owner)) = [("shared", .platform)] := by
  decide +kernel

end ModelDock.Scheduler
