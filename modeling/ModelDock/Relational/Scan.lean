import Mathlib.Data.Finset.Max
import ModelDock.Relational.History
import ModelDock.Relational.View

/-!
# Bounded scans of a queue

A worker that takes the oldest items up to a limit looks again at those it cannot finish: an item is taken some
day if and only if fewer of them than the limit are before it. `oldest` is the query of a round.
-/

namespace ModelDock.Relational

open List

section Rounds

variable {ι α : Type} [LinearOrder α]

/-- How many waiting items come before an item. -/
def place (key : ι → α) (waiting : Finset ι) (item : ι) : ℕ := (waiting.filter fun other => key other < key item).card

/-- The items before an item that can never be finished. -/
def blockers (able : ι → Bool) (key : ι → α) (waiting : Finset ι) (item : ι) : Finset ι :=
  waiting.filter fun other => key other < key item ∧ able other = false

/-- In every round only items that can be finished leave, and only from among the first `limit`. Those that
stay keep their place in the order, and new ones come after them. -/
structure BoundedScan (limit : ℕ) (able : ℕ → ι → Bool) (key : ℕ → ι → α) (waiting : ℕ → Finset ι) : Prop where
  stays : ∀ n, ∀ item ∈ waiting n, ¬(able n item ∧ place (key n) (waiting n) item < limit) →
    item ∈ waiting (n + 1)
  keeps : ∀ n, ∀ item ∈ waiting n, item ∈ waiting (n + 1) →
    key (n + 1) item = key n item ∧ able (n + 1) item = able n item
  arrives : ∀ n, ∀ item ∈ waiting (n + 1), item ∉ waiting n → ∀ other ∈ waiting n, key n other < key (n + 1) item

/-- Every item that can be finished and is among the first leaves. -/
def Served (limit : ℕ) (able : ℕ → ι → Bool) (key : ℕ → ι → α) (waiting : ℕ → Finset ι) : Prop :=
  ∀ n, ∀ item ∈ waiting n, able n item → place (key n) (waiting n) item < limit → item ∉ waiting (n + 1)

variable {limit : ℕ} {able : ℕ → ι → Bool} {key : ℕ → ι → α} {waiting : ℕ → Finset ι} {item other : ι} {n : ℕ}

section

variable (h : BoundedScan limit able key waiting) (hitem : item ∈ waiting n) (hsty : item ∈ waiting (n + 1))
include h hitem hsty

theorem BoundedScan.before (hne : other ∈ waiting (n + 1))
    (hbef : key (n + 1) other < key (n + 1) item) : other ∈ waiting n ∧ key n other < key n item := by
  have hkey := (h.keeps n item hitem hsty).1
  by_cases hwas : other ∈ waiting n
  · rw [hkey, (h.keeps n other hwas hne).1] at hbef
    exact ⟨hwas, hbef⟩
  · have haf := h.arrives n other hne hwas item hitem
    rw [hkey] at hbef
    exact absurd hbef (lt_asymm haf)

theorem BoundedScan.blockers_succ :
    blockers (able (n + 1)) (key (n + 1)) (waiting (n + 1)) item = blockers (able n) (key n) (waiting n) item := by
  ext other
  simp only [blockers, Finset.mem_filter]
  constructor
  · rintro ⟨hne, hbef, hstuc⟩
    obtain ⟨hwas, hbef⟩ := h.before hitem hsty hne hbef
    exact ⟨hwas, hbef, (h.keeps n other hwas hne).2 ▸ hstuc⟩
  · rintro ⟨hne, hbef, hstuc⟩
    have hne' : other ∈ waiting (n + 1) := h.stays n other hne fun hlv => by
      rw [hstuc] at hlv
      cases hlv.1
    obtain ⟨hkey, hable⟩ := h.keeps n other hne hne'
    rw [(h.keeps n item hitem hsty).1, hkey, hable]
    exact ⟨hne', hbef, hstuc⟩

end

theorem exists_able_before {able : ι → Bool} {key : ι → α} {waiting : Finset ι}
    (hbl : (blockers able key waiting item).card < limit) (hpl : limit ≤ place key waiting item) :
    ∃ other ∈ waiting, key other < key item ∧ able other ∧ place key waiting other < limit := by
  -- The first item before it that can be finished has only blockers before itself.
  let candidates := waiting.filter fun other => key other < key item ∧ able other
  have hsome : candidates.Nonempty := by
    by_contra hnone
    have hall : (waiting.filter fun other => key other < key item) ⊆ blockers able key waiting item := by
      intro other hne
      obtain ⟨hmem, hbef⟩ := Finset.mem_filter.mp hne
      have hstuc : able other = false := by
        by_contra hable
        exact hnone ⟨other, Finset.mem_filter.mpr ⟨hmem, hbef, eq_true_of_ne_false hable⟩⟩
      exact Finset.mem_filter.mpr ⟨hmem, hbef, hstuc⟩
    exact absurd (Finset.card_le_card hall) (by unfold place at hpl; omega)
  obtain ⟨first, hfs, hls⟩ := Finset.exists_min_image candidates key hsome
  obtain ⟨hmem, hbef, hable⟩ := Finset.mem_filter.mp hfs
  refine ⟨first, hmem, hbef, hable, (Finset.card_le_card fun other hne => ?_).trans_lt hbl⟩
  obtain ⟨hmem', hbef'⟩ := Finset.mem_filter.mp hne
  have hstuc : able other = false := by
    by_contra hable'
    have hcan : other ∈ candidates :=
      Finset.mem_filter.mpr ⟨hmem', hbef'.trans hbef, eq_true_of_ne_false hable'⟩
    exact absurd (hls other hcan) (not_le.mpr hbef')
  exact Finset.mem_filter.mpr ⟨hmem', hbef'.trans hbef, hstuc⟩

theorem BoundedScan.leaves (h : BoundedScan limit able key waiting) (hsr : Served limit able key waiting)
    (hitem : item ∈ waiting n) (hable : able n item)
    (hbl : (blockers (able n) (key n) (waiting n) item).card < limit) : ∃ m, item ∉ waiting m := by
  -- Each round takes an item from before it, until it is among the first.
  induction hpl : place (key n) (waiting n) item using Nat.strong_induction_on generalizing n with
  | _ k ih =>
    by_cases hsty : item ∈ waiting (n + 1)
    · have hfar : limit ≤ place (key n) (waiting n) item := by
        by_contra hnear
        exact hsr n item hitem hable (not_le.mp hnear) hsty
      obtain ⟨other, hne, hbef, hable', hnear⟩ := exists_able_before hbl hfar
      have hgone : other ∉ waiting (n + 1) := hsr n other hne hable' hnear
      have hcl : place (key (n + 1)) (waiting (n + 1)) item < k := by
        have hsub : (waiting (n + 1)).filter (fun row => key (n + 1) row < key (n + 1) item) ⊆
            (waiting n).filter fun row => key n row < key n item := by
          intro row hrow
          obtain ⟨hmem, hro⟩ := Finset.mem_filter.mp hrow
          exact Finset.mem_filter.mpr (h.before hitem hsty hmem hro)
        rw [← hpl]
        refine Finset.card_lt_card ((Finset.ssubset_iff_of_subset hsub).mpr ?_)
        exact ⟨other, Finset.mem_filter.mpr ⟨hne, hbef⟩, fun hin => hgone (Finset.mem_filter.mp hin).1⟩
      refine ih _ hcl hsty ?_ ?_ rfl
      · rwa [(h.keeps n item hitem hsty).2]
      · rwa [h.blockers_succ hitem hsty]
    · exact ⟨n + 1, hsty⟩

theorem place_lt_card {key : ι → α} {waiting : Finset ι} (hitem : item ∈ waiting) :
    place key waiting item < waiting.card :=
  Finset.card_lt_card (Finset.filter_ssubset.mpr ⟨item, hitem, lt_irrefl _⟩)

theorem card_blockers_le_place {able : ι → Bool} {key : ι → α} {waiting : Finset ι} :
    (blockers able key waiting item).card ≤ place key waiting item :=
  Finset.card_le_card fun other hne => by
    obtain ⟨hne, hbef, _⟩ := Finset.mem_filter.mp hne
    exact Finset.mem_filter.mpr ⟨hne, hbef⟩

section

variable (h : BoundedScan limit able key waiting)
include h

theorem BoundedScan.waits (hitem : item ∈ waiting 0)
    (hbl : limit ≤ (blockers (able 0) (key 0) (waiting 0) item).card) (n : ℕ) : item ∈ waiting n ∧
      blockers (able n) (key n) (waiting n) item = blockers (able 0) (key 0) (waiting 0) item := by
  induction n with
  | zero => exact ⟨hitem, rfl⟩
  | succ n ih =>
    obtain ⟨hmem, hsame⟩ := ih
    have hfar : limit ≤ place (key n) (waiting n) item := (hsame ▸ hbl).trans card_blockers_le_place
    have hsty := h.stays n item hmem fun hlv => absurd hlv.2 (not_lt.mpr hfar)
    exact ⟨hsty, (h.blockers_succ hmem hsty).trans hsame⟩

theorem BoundedScan.stuck_waits (hitem : item ∈ waiting 0)
    (hstuc : able 0 item = false) (n : ℕ) : item ∈ waiting n ∧ able n item = false := by
  induction n with
  | zero => exact ⟨hitem, hstuc⟩
  | succ n ih =>
    have hsty := h.stays n item ih.1 fun hlv => by
      rw [ih.2] at hlv
      cases hlv.1
    exact ⟨hsty, (h.keeps n item ih.1 hsty).2.trans ih.2⟩

/-- An item leaves some day exactly if fewer blockers than the limit stand before it. -/
theorem BoundedScan.leaves_iff (hsr : Served limit able key waiting)
    (hitem : item ∈ waiting 0) (hable : able 0 item) :
    (∃ n, item ∉ waiting n) ↔ (blockers (able 0) (key 0) (waiting 0) item).card < limit := by
  refine ⟨fun ⟨n, hgone⟩ => ?_, h.leaves hsr hitem hable⟩
  by_contra hmany
  exact hgone (h.waits hitem (not_lt.mp hmany) n).1

end

theorem BoundedScan.of_views {view : ℕ → ι → Option Bool} (hwt : ∀ n item, item ∈ waiting n ↔ view n item ≠ none)
    (hrn : ∀ n item, view (n + 1) item = view n item ∨
      (view n item = some true ∧ place (key n) (waiting n) item < limit ∧ view (n + 1) item = none) ∨
      view n item = none ∧ ∀ other ∈ waiting n, key n other < key (n + 1) item)
    (hk : ∀ n, ∀ item ∈ waiting n, item ∈ waiting (n + 1) → key (n + 1) item = key n item) :
    BoundedScan limit (fun n item => view n item = some true) key waiting := by
  refine ⟨fun n item hitem hsty => ?_, fun n item hitem hitem' => ⟨hk n item hitem hitem', ?_⟩,
    fun n item hitem hnew other hne => ?_⟩
  · rw [hwt] at hitem ⊢
    rcases hrn n item with hsame | ⟨hable, hpl, _⟩ | ⟨hnone, _⟩
    · rwa [hsame]
    · exact absurd ⟨decide_eq_true hable, hpl⟩ hsty
    · exact absurd hnone hitem
  · rw [hwt] at hitem hitem'
    rcases hrn n item with hsame | ⟨_, _, hnone⟩ | ⟨hnone, _⟩
    · simp only [hsame]
    · exact absurd hnone hitem'
    · exact absurd hnone hitem
  · rw [hwt] at hitem hnew
    rcases hrn n item with hsame | ⟨_, _, hnone⟩ | ⟨_, haf⟩
    · exact absurd (hsame ▸ hitem) hnew
    · exact absurd hnone hitem
    · exact haf other hne

end Rounds

section Query

variable {R ι α : Type} [LinearOrder α] {rows : List R} {limit : ℕ} {x : R}

/-- The first rows in the order of a key: `ORDER BY … LIMIT`. -/
def oldest (limit : ℕ) (key : R → α) (rows : List R) : List R :=
  (rows.mergeSort fun a b => decide (key a ≤ key b)).take limit

variable {key : R → α}

theorem mem_of_mem_oldest (h : x ∈ oldest limit key rows) : x ∈ rows :=
  (mergeSort_perm rows _).mem_iff.mp (mem_of_mem_take h)

theorem oldest_ne_nil (hlm : limit ≠ 0) (hrows : rows ≠ []) : oldest limit key rows ≠ [] := by
  intro hnil
  rcases take_eq_nil_iff.mp hnil with hzero | hsor
  · exact hlm hzero
  · exact hrows (length_eq_zero_iff.mp (by rw [← length_mergeSort, hsor]; rfl))

theorem mem_take_of_sorted (hsor : rows.Pairwise fun a b => key a < key b) :
    x ∈ rows.take limit ↔ x ∈ rows ∧ rows.countP (fun a => key a < key x) < limit := by
  induction rows generalizing limit with
  | nil => simp
  | cons first rest ih =>
    obtain ⟨hfs, hrest⟩ := pairwise_cons.mp hsor
    have hzero : (first :: rest).countP (fun a => key a < key first) = 0 := by
      refine countP_eq_zero.mpr fun a ha => ?_
      rcases mem_cons.mp ha with rfl | ha
      · simp
      · simpa using (hfs a ha).le
    have hlat (hx : x ∈ rest) : (first :: rest).countP (fun a => key a < key x) =
        rest.countP (fun a => key a < key x) + 1 := by
      rw [countP_cons_of_pos (by simpa using hfs x hx)]
    cases limit with
    | zero => simp
    | succ limit =>
      rw [take_succ_cons, mem_cons, mem_cons, ih hrest]
      constructor
      · rintro (rfl | ⟨hx, hpl⟩)
        · exact ⟨.inl rfl, hzero ▸ Nat.succ_pos limit⟩
        · exact ⟨.inr hx, by rw [hlat hx]; omega⟩
      · rintro ⟨rfl | hx, hpl⟩
        · exact .inl rfl
        · rw [hlat hx] at hpl
          exact .inr ⟨hx, by omega⟩

theorem mem_oldest (hd : rows.Pairwise fun a b => key a ≠ key b) :
    x ∈ oldest limit key rows ↔ x ∈ rows ∧ rows.countP (fun a => key a < key x) < limit := by
  have hperm := mergeSort_perm rows fun a b => decide (key a ≤ key b)
  have hsor : (rows.mergeSort fun a b => decide (key a ≤ key b)).Pairwise fun a b => key a < key b := by
    have hle : (rows.mergeSort fun a b => decide (key a ≤ key b)).Pairwise fun a b => decide (key a ≤ key b) :=
      pairwise_mergeSort
        (fun a b c hab hbc => decide_eq_true ((of_decide_eq_true hab).trans (of_decide_eq_true hbc)))
        (fun a b => by simpa using le_total (key a) (key b)) rows
    have hne := (hperm.pairwise_iff fun hab => hab.symm).mpr hd
    exact (hle.and hne).imp fun ⟨hab, hne⟩ => lt_of_le_of_ne (by simpa using hab) hne
  rw [oldest, mem_take_of_sorted hsor, hperm.mem_iff, hperm.countP_eq]

theorem mem_oldest_iff_place [DecidableEq ι] {id : R → ι} {key : ι → α} (hkey : Function.Injective key)
    (hnd : (rows.map id).Nodup) :
    x ∈ oldest limit (fun row => key (id row)) rows ↔
      x ∈ rows ∧ place key (rows.map id).toFinset (id x) < limit := by
  have hd : rows.Pairwise fun a b => key (id a) ≠ key (id b) :=
    (pairwise_map.mp hnd).imp fun hne hsame => hne (hkey hsame)
  have hpl : place key (rows.map id).toFinset (id x) = rows.countP (fun a => key (id a) < key (id x)) := by
    have hfl : ((rows.map id).toFinset.filter fun other => key other < key (id x)) =
        ((rows.map id).filter fun other => key other < key (id x)).toFinset := by
      ext other
      simp
    rw [place, hfl, toFinset_card_of_nodup (hnd.filter _), ← countP_eq_length_filter, countP_map]
    rfl
  rw [mem_oldest hd, hpl]

end Query

section Tables

variable {R K α : Type} [Key K] [Keyed R K] [LinearOrder α] {t : Table R} {key : ℕ → α} {p : R → Bool} {limit id : ℕ}

/-- The identifiers of the selected rows. -/
def Table.waiting (t : Table R) (p : R → Bool) : Finset ℕ := ((t.rows.filter p).map Table.rowId).toFinset

/-- The first selected rows in the order of a key: `SELECT … WHERE … ORDER BY … LIMIT`. -/
def Table.scan (t : Table R) (p : R → Bool) (key : ℕ → α) (limit : ℕ) : List R :=
  oldest limit (fun row => key (Table.rowId row)) (t.rows.filter p)

theorem Table.mem_waiting : id ∈ t.waiting p ↔ ∃ row, t.find? id = some row ∧ p row := by
  simp only [Table.waiting, mem_toFinset, mem_map, mem_filter]
  constructor
  · rintro ⟨row, ⟨hrow, hp⟩, hid⟩
    exact ⟨row, Table.find?_eq_some.mpr ⟨hrow, hid⟩, hp⟩
  · rintro ⟨row, hf, hp⟩
    obtain ⟨hrow, hid⟩ := Table.found hf
    exact ⟨row, ⟨hrow, hp⟩, hid⟩

theorem Table.mem_waiting_iff_view {able : R → Bool} :
    id ∈ t.waiting p ↔ ((t.find? id).filter p).map able ≠ none := by
  simp [Table.mem_waiting]

theorem Table.nodup_selected : ((t.rows.filter p).map Table.rowId).Nodup :=
  pairwise_map.mpr (Table.distinct_of_query (Perm.refl _))

theorem Table.find?_of_mem_scan {row : R} (hkey : Function.Injective key) (h : row ∈ t.scan p key limit) :
    t.find? (Table.rowId row) = some row ∧ p row := by
  obtain ⟨hrow, _⟩ := (mem_oldest_iff_place hkey Table.nodup_selected).mp h
  obtain ⟨hmem, hp⟩ := mem_filter.mp hrow
  exact ⟨Table.find?_eq_some.mpr ⟨hmem, rfl⟩, hp⟩

theorem Table.mem_scan (hkey : Function.Injective key) : id ∈ (t.scan p key limit).map Table.rowId ↔
    id ∈ t.waiting p ∧ place key (t.waiting p) id < limit := by
  simp only [mem_map, Table.scan, mem_oldest_iff_place hkey Table.nodup_selected]
  constructor
  · rintro ⟨row, ⟨hrow, hpl⟩, rfl⟩
    exact ⟨mem_toFinset.mpr (mem_map_of_mem hrow), hpl⟩
  · rintro ⟨hwt, hpl⟩
    obtain ⟨row, hrow, rfl⟩ := mem_map.mp (mem_toFinset.mp hwt)
    exact ⟨row, ⟨hrow, hpl⟩, rfl⟩

end Tables

section Service

variable {S L ε ι : Type} {exec : L → S → Except ε S} {idOf : L → ι} {view : S → ι → Option Bool} {Inv : S → Prop}
  {s s' : S} {calls : List L} {id : ι}

/-- Calls that each serve one item. The view of an item is `none` once it is finished, and says whether it can
be finished before. -/
structure Serves (exec : L → S → Except ε S) (idOf : L → ι) (view : S → ι → Option Bool) (Inv : S → Prop)
    (calls : List L) : Prop where
  inv : ∀ call ∈ calls, ∀ {s s'}, Inv s → exec call s = .ok s' → Inv s'
  other : ∀ call ∈ calls, ∀ {s s'}, Inv s → exec call s = .ok s' → ∀ id ≠ idOf call, view s' id = view s id
  stuck : ∀ call ∈ calls, ∀ {s s'}, Inv s → exec call s = .ok s' → view s (idOf call) ≠ some true →
    view s' (idOf call) = view s (idOf call)
  done : ∀ call ∈ calls, ∀ {s s'}, Inv s → exec call s = .ok s' → view s (idOf call) = some true →
    view s' (idOf call) = none

/-- The calls that could finish their item do not fail. -/
def Answered (exec : L → S → Except ε S) (idOf : L → ι) (view : S → ι → Option Bool) (s : S) (call : L) : Prop :=
  view s (idOf call) = some true → (exec call s).isOk

theorem Serves.tail {call : L} (h : Serves exec idOf view Inv (call :: calls)) : Serves exec idOf view Inv calls where
  inv later hlat := h.inv later (mem_cons_of_mem _ hlat)
  other later hlat := h.other later (mem_cons_of_mem _ hlat)
  stuck later hlat := h.stuck later (mem_cons_of_mem _ hlat)
  done later hlat := h.done later (mem_cons_of_mem _ hlat)

theorem Serves.head {call : L} (h : Serves exec idOf view Inv (call :: calls)) (hinv : Inv s) :
    Inv (commit s (exec call s)) ∧ ∀ id, view (commit s (exec call s)) id = view s id ∨
      id = idOf call ∧ view s id = some true ∧ view (commit s (exec call s)) id = none := by
  cases hexec : exec call s with
  | error _ => exact ⟨hinv, fun _ => .inl rfl⟩
  | ok _ =>
    refine ⟨h.inv call mem_cons_self hinv hexec, fun id => ?_⟩
    by_cases hid : id = idOf call
    · subst hid
      by_cases hable : view s (idOf call) = some true
      · exact .inr ⟨rfl, hable, h.done call mem_cons_self hinv hexec hable⟩
      · exact .inl (h.stuck call mem_cons_self hinv hexec hable)
    · exact .inl (h.other call mem_cons_self hinv hexec id hid)

section

variable (h : Serves exec idOf view Inv calls) (hinv : Inv s)
include h hinv

theorem Serves.run (id : ι) : view (run exec s calls) id = view s id ∨
      id ∈ calls.map idOf ∧ view s id = some true ∧ view (run exec s calls) id = none := by
  induction calls generalizing s with
  | nil => exact .inl rfl
  | cons _ _ ih =>
    obtain ⟨hinv', hcall⟩ := h.head hinv
    rcases hcall id with hsame | ⟨rfl, hable, hdone⟩
    · rcases ih h.tail hinv' with hkept | ⟨hmem, hable, hdone⟩
      · exact .inl (hkept.trans hsame)
      · exact .inr ⟨mem_cons_of_mem _ hmem, hsame ▸ hable, hdone⟩
    · rcases ih h.tail hinv' with hkept | ⟨_, hag, _⟩
      · exact .inr ⟨mem_cons_self, hable, hkept.trans hdone⟩
      · rw [hdone] at hag
        cases hag

theorem Serves.answered_of_stuck
    (hstuc : ∀ call ∈ calls, view s (idOf call) ≠ some true) : Along exec (Answered exec idOf view) s calls := by
  induction calls generalizing s with
  | nil => trivial
  | cons call _ ih =>
    obtain ⟨hinv', hhead⟩ := h.head hinv
    refine ⟨fun hable => absurd hable (hstuc call mem_cons_self), ih h.tail hinv' fun later hlat => ?_⟩
    rcases hhead (idOf later) with hsame | ⟨_, _, hdone⟩
    · rw [hsame]
      exact hstuc later (mem_cons_of_mem _ hlat)
    · simp [hdone]

/-- An item whose call is answered is finished after the round. -/
theorem Serves.served (han : Along exec (Answered exec idOf view) s calls) (hid : id ∈ calls.map idOf)
    (hable : view s id = some true) : view (Relational.run exec s calls) id = none := by
  induction calls generalizing s with
  | nil => cases hid
  | cons call rest ih =>
    obtain ⟨hcall, hrest⟩ := han
    obtain ⟨hinv', hhead⟩ := h.head hinv
    by_cases hthis : id = idOf call
    · subst hthis
      obtain ⟨_, hexec⟩ := exists_of_isOk (hcall hable)
      have hdone : view (commit s (exec call s)) (idOf call) = none := by
        rw [hexec]
        exact h.done call mem_cons_self hinv hexec hable
      rcases h.tail.run hinv' (idOf call) with hkept | ⟨_, hag, _⟩
      · exact hkept.trans hdone
      · rw [hdone] at hag
        cases hag
    · have hmem : id ∈ rest.map idOf := (mem_cons.mp hid).resolve_left hthis
      refine ih h.tail hinv' hrest hmem ?_
      rcases hhead id with hsame | ⟨hthis', _⟩
      · exact hsame.trans hable
      · exact absurd hthis' hthis

end

end Service

end ModelDock.Relational
