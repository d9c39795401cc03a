import Mathlib.Algebra.Order.Ring.Int
import ModelDock.Relational.History

/-!
# Concurrency leases counted in Redis

The number of requests in flight is a Redis counter that two atomic scripts move, and that expires two hours
after it left zero. A counter that expires under a held lease forgets it, and the limit can be exceeded by
what was forgotten.
-/

namespace ModelDock.Concurrency

open Relational Option

/-- A counter key: its value, and when it expires. -/
structure ActiveKey where
  value : ℤ
  expiresAt : Option ℕ
deriving DecidableEq

/-- The lifetime of a counter, in milliseconds. -/
def activeTtl : ℕ := 7200 * 1000

theorem activeTtl_pos : 0 < activeTtl := by decide

variable (now : ℕ) (key : Option ActiveKey)

/-- The key as a command sees it: an expired key does not exist. -/
def live : Option ActiveKey :=
  key.filter fun active => active.expiresAt.all fun expiry => now < expiry

/-- The value of a counter that may not exist. -/
def activeCount : ℤ := (live now key).elim 0 ActiveKey.value

/-- `INCR`: a missing key is created at one, without an expiry. -/
def incr : ActiveKey :=
  match live now key with
  | some active => { active with value := active.value + 1 }
  | none => ⟨1, none⟩

/-- Take a slot: the counter as incremented, or decremented again above the limit. The expiry is set
when the counter reaches one. -/
def acquireScript (limit : ℤ) (ttl now : ℕ) (key : Option ActiveKey) : (Bool × ℤ) × Option ActiveKey :=
  let active := incr now key
  let active := if active.value = 1 then { active with expiresAt := some (now + ttl) } else active
  if limit < active.value then
    ((false, active.value - 1), some { active with value := active.value - 1 })
  else ((true, active.value), some active)

/-- Return a slot; the last one deletes the key. -/
def releaseScript : ℤ × Option ActiveKey :=
  match live now key with
  | some active =>
    if active.value ≤ 1 then (0, none)
    else (active.value - 1, some { active with value := active.value - 1 })
  | none => (0, none)

/-- The clock, the counter, and the leases that are held. -/
structure LeaseState where
  now : ℕ
  key : Option ActiveKey
  held : ℕ
deriving DecidableEq

/-- What can happen: a request asks for a lease, a holder returns its lease, time passes. -/
inductive LeaseEvent
  | acquire
  | release
  | wait (milliseconds : ℕ)
deriving DecidableEq

/-- Only a held lease can be returned. -/
inductive LeaseError
  | notHeld
deriving DecidableEq

/-- Run one event under a limit; a refused request holds nothing. -/
def leaseStep (limit : ℕ) (event : LeaseEvent) (st : LeaseState) : Except LeaseError LeaseState :=
  match event with
  | .acquire =>
    let result := acquireScript limit activeTtl st.now st.key
    .ok { st with key := result.2, held := if result.1.1 then st.held + 1 else st.held }
  | .release =>
    if 0 < st.held then
      .ok { st with key := (releaseScript st.now st.key).2, held := st.held - 1 }
    else .error .notHeld
  | .wait milliseconds => .ok { st with now := st.now + milliseconds }

/-- No counter expires under a held lease while time passes. -/
def Outlives (st : LeaseState) : LeaseEvent → Prop
  | .wait milliseconds => 0 < st.held → (live (st.now + milliseconds) st.key).isSome
  | _ => True

instance (st : LeaseState) (event : LeaseEvent) : Decidable (Outlives st event) := by
  cases event <;> unfold Outlives <;> infer_instance

/-- The counter counts the leases that are held, and they are within the limit. -/
structure Counted (limit : ℕ) (st : LeaseState) : Prop where
  count : activeCount st.now st.key = st.held
  within : st.held ≤ limit

variable {limit now : ℕ} {key : Option ActiveKey} {st st' : LeaseState} {event : LeaseEvent}

theorem live_of_live_later {later : ℕ} (hle : now ≤ later) (h : (live later key).isSome) :
    live later key = live now key := by
  cases key with
  | none => rfl
  | some active =>
    have hal : active.expiresAt.all (fun expiry => later < expiry) := by
      by_contra hdead
      simp [live, hdead] at h
    have hbef : active.expiresAt.all (fun expiry => now < expiry) := by
      cases hexp : active.expiresAt with
      | none => rfl
      | some expiry =>
        rw [hexp] at hal
        exact decide_eq_true (lt_of_le_of_lt hle (of_decide_eq_true hal))
    simp only [live, Option.filter, hal, hbef]

theorem activeCount_of_live {active : ActiveKey} (h : active.expiresAt.all (fun expiry => now < expiry)) :
    activeCount now (some active) = active.value := by
  simp [activeCount, live, Option.filter, h]

theorem incr_spec (now : ℕ) (key : Option ActiveKey) : (incr now key).value = activeCount now key + 1 ∧
      (incr now key).expiresAt.all (fun expiry => now < expiry) := by
  unfold incr activeCount
  cases hlive : live now key with
  | none => exact ⟨rfl, rfl⟩
  | some _ =>
    refine ⟨rfl, ?_⟩
    simpa using (filter_eq_some_iff.mp hlive).2

theorem acquireScript_spec (limit now : ℕ) (key : Option ActiveKey) {ttl : ℕ} (httl : 0 < ttl) :
    (acquireScript limit ttl now key).1.1 = decide (activeCount now key + 1 ≤ limit) ∧
      activeCount now (acquireScript limit ttl now key).2 =
        if activeCount now key + 1 ≤ limit then activeCount now key + 1 else activeCount now key := by
  obtain ⟨hvl, hal⟩ := incr_spec now key
  have hrn : (some (now + ttl)).all (fun expiry => now < expiry) := by
    simp [httl]
  -- Whether or not the expiry is set anew, the counter is alive with the incremented value.
  have hac : ∃ active : ActiveKey, (if (incr now key).value = 1 then
      { incr now key with expiresAt := some (now + ttl) } else incr now key) = active ∧
      active.value = activeCount now key + 1 ∧
      active.expiresAt.all (fun expiry => now < expiry) := by
    split
    · exact ⟨_, rfl, hvl, hrn⟩
    · exact ⟨_, rfl, hvl, hal⟩
  obtain ⟨active, hwr, hcn, hlive⟩ := hac
  simp only [acquireScript, hwr]
  by_cases hfull : (limit : ℤ) < active.value
  · rw [if_pos hfull, if_neg (not_le.mpr (hcn ▸ hfull))]
    refine ⟨(decide_eq_false (not_le.mpr (hcn ▸ hfull))).symm, ?_⟩
    have hback : activeCount now (some { active with value := active.value - 1 }) = active.value - 1 :=
      activeCount_of_live hlive
    rw [hback, hcn, add_sub_cancel_right]
  · rw [if_neg hfull, if_pos (hcn ▸ not_lt.mp hfull)]
    refine ⟨(decide_eq_true (hcn ▸ not_lt.mp hfull)).symm, ?_⟩
    exact (activeCount_of_live hlive).trans hcn

theorem releaseScript_spec (hpos : 0 < activeCount now key) :
    activeCount now (releaseScript now key).2 = activeCount now key - 1 := by
  unfold releaseScript
  cases hlive : live now key with
  | none => simp [activeCount, hlive] at hpos
  | some active =>
    have hvl : activeCount now key = active.value := by rw [activeCount, hlive]; rfl
    have hal := (filter_eq_some_iff.mp hlive).2
    rw [hvl] at hpos ⊢
    by_cases hlast : active.value ≤ 1
    · simp only [hlast]
      change (0 : ℤ) = active.value - 1
      omega
    · simp only [hlast]
      exact activeCount_of_live (by simpa using hal)

theorem Counted.step (h : Counted limit st) (hout : Outlives st event)
    (hstep : leaseStep limit event st = .ok st') : Counted limit st' := by
  have hin := h.within
  cases event with
  | acquire =>
    cases hstep
    obtain ⟨hgr, hcn⟩ := acquireScript_spec limit st.now st.key activeTtl_pos
    rw [h.count] at hgr hcn
    by_cases hroom : (st.held : ℤ) + 1 ≤ limit
    · rw [decide_eq_true hroom] at hgr
      rw [if_pos hroom] at hcn
      refine ⟨?_, ?_⟩
      · simp only [hgr, hcn]
        rfl
      · simp only [hgr]
        exact_mod_cast hroom
    · rw [decide_eq_false hroom] at hgr
      rw [if_neg hroom] at hcn
      exact ⟨by simpa [hgr] using hcn, by simpa [hgr] using hin⟩
  | release =>
    simp only [leaseStep] at hstep
    split at hstep
    · next hheld =>
      cases hstep
      have hpos : 0 < activeCount st.now st.key := by
        rw [h.count]
        exact_mod_cast hheld
      refine ⟨?_, by simp only; omega⟩
      rw [releaseScript_spec hpos, h.count]
      push_cast [hheld]
      omega
    · cases hstep
  | wait milliseconds =>
    cases hstep
    refine ⟨?_, hin⟩
    by_cases hheld : 0 < st.held
    · have hsame := live_of_live_later (Nat.le_add_right st.now milliseconds) (hout hheld)
      rw [activeCount, hsame]
      exact h.count
    · -- Without a lease the counter is zero, and an expired counter reads as zero too.
      have hzero : activeCount st.now st.key = 0 := by
        rw [h.count]
        exact_mod_cast Nat.eq_zero_of_not_pos hheld
      have hnone : (st.held : ℤ) = 0 := by exact_mod_cast Nat.eq_zero_of_not_pos hheld
      rw [hnone]
      cases hlat : live (st.now + milliseconds) st.key with
      | none => simp [activeCount, hlat]
      | some _ =>
        have hsame := live_of_live_later (Nat.le_add_right st.now milliseconds) (by rw [hlat]; rfl)
        rw [activeCount, hsame]
        exact hzero

theorem run_acquire_of_room {n : ℕ} (hroom : activeCount st.now st.key + n ≤ limit) :
    (run (leaseStep limit) st (List.replicate n .acquire)).held = st.held + n := by
  induction n generalizing st with
  | zero => rfl
  | succ n ih =>
    obtain ⟨hgr, hcn⟩ := acquireScript_spec limit st.now st.key activeTtl_pos
    have hone : activeCount st.now st.key + 1 ≤ limit := by
      omega
    rw [decide_eq_true hone] at hgr
    rw [List.replicate_succ, run_cons]
    simp only [leaseStep, commit, hgr, if_true]
    rw [ih]
    · simp only
      omega
    · simp only [hcn]
      omega

theorem along_acquire (n : ℕ) (st : LeaseState) :
    Along (leaseStep limit) Outlives st (List.replicate n .acquire) := by
  induction n generalizing st with
  | zero => trivial
  | succ n ih => exact ⟨trivial, ih _⟩

/-- A state before anyone asked for a lease. -/
def noLeases (now : ℕ) : LeaseState := ⟨now, none, 0⟩

/-- As long as no counter expires under a held lease, the leases held at once are within the limit.
The next event keeps it so for everything that may follow exactly when it lets no counter expire
under a held lease. -/
theorem held_le_limit (limit now : ℕ) (events : List LeaseEvent)
    (hevents : Along (leaseStep limit) Outlives (noLeases now) events) :
    (run (leaseStep limit) (noLeases now) events).held ≤ limit ∧
      ∀ event st, leaseStep limit event (run (leaseStep limit) (noLeases now) events) = .ok st →
        ((∀ later, Along (leaseStep limit) Outlives st later →
            (run (leaseStep limit) st later).held ≤ limit) ↔
          Outlives (run (leaseStep limit) (noLeases now) events) event) := by
  have hk {first : LeaseState} (hfs : Counted limit first) {later : List LeaseEvent}
      (hlat : Along (leaseStep limit) Outlives first later) :
      Counted limit (run (leaseStep limit) first later) :=
    run_invariant (fun _ _ _ hinv hout hstep => hinv.step hout hstep) hfs hlat
  have hnone : Counted limit (noLeases now) := ⟨rfl, Nat.zero_le _⟩
  have hrun := hk hnone hevents
  refine ⟨hrun.within, fun event st hstep => ⟨fun hbd => ?_, fun hout later hlat => ?_⟩⟩
  · cases event with
    | acquire => trivial
    | release => trivial
    | wait _ =>
      cases hstep
      intro _
      by_contra hgone
      -- The counter is gone, so the whole limit can be taken on top of what is still held.
      have hdead := not_isSome_iff_eq_none.mp hgone
      have hmore := hbd (List.replicate limit .acquire) (along_acquire limit _)
      rw [run_acquire_of_room (by simp [activeCount, hdead])] at hmore
      simp only at hmore
      omega
  · exact (hk (hrun.step hout hstep) hlat).within

/-- Two leases of a limit of two, returned before their counter expires, and a third one after it. -/
def demoLeases : List LeaseEvent :=
  [.acquire, .acquire, .acquire, .wait 1000, .release, .release, .wait activeTtl, .acquire]

/-- The hypothesis is met by leases that are returned in time. -/
theorem held_le_limit_demo : Along (leaseStep 2) Outlives (noLeases 0) demoLeases ∧
      (run (leaseStep 2) (noLeases 0) demoLeases).held ≤ 2 := by
  have hev : Along (leaseStep 2) Outlives (noLeases 0) demoLeases := by
    refine ⟨trivial, trivial, trivial, ?_, trivial, trivial, ?_, trivial, trivial⟩ <;> decide +kernel
  exact ⟨hev, (held_le_limit 2 0 demoLeases hev).1⟩

/-- Under a limit of one, a lease that is held for two hours is forgotten and a second one granted. -/
theorem held_above_limit_of_expiry :
    (run (leaseStep 1) (noLeases 0) [.acquire, .wait activeTtl, .acquire]).held = 2 := by
  decide +kernel

end ModelDock.Concurrency
