import Mathlib.Data.List.Pairwise
import Mathlib.Data.List.Sort
import Mathlib.Tactic.Abel
import ModelDock.Relational.Transaction

/-!
# Tables with unique columns

A table is a list of rows no two of which collide on a PRIMARY KEY or UNIQUE constraint, which is a field of the
table. Aggregate queries are sums over the rows, and the sum lemmas say how each write moves them.
-/

namespace ModelDock.Relational

open List

variable {α A : Type}

section

variable {rows : List α} {p : α → Prop} [DecidablePred p] {row : α}

theorem queried (h : rows.find? (fun row => p row) = some row) : row ∈ rows ∧ p row :=
  ⟨mem_of_find?_eq_some h, by simpa using find?_some h⟩

theorem query_eq_some (hrow : row ∈ rows) (hp : p row) (hun : ∀ other ∈ rows, p other → other = row) :
    rows.find? (fun row => p row) = some row := by
  cases hfind : rows.find? fun row => p row with
  | none => exact absurd hp (by simpa using find?_eq_none.mp hfind row hrow)
  | some found =>
    obtain ⟨hmem, hf⟩ := queried hfind
    rw [hun found hmem hf]

end

/-- Two nullable unique columns collide when both hold the same value. -/
def sameValue {α : Type} [DecidableEq α] : Option α → Option α → Bool
  | some a, some b => a = b
  | _, _ => false

theorem sameValue_some [DecidableEq α] {a : Option α} {b : α} : sameValue a (some b) ↔ a = some b := by
  cases a <;> simp [sameValue]

@[simp] theorem sameValue_none [DecidableEq α] (a : Option α) : sameValue none a = false := by
  cases a <;> rfl

theorem sameValue_eq_false [DecidableEq α] {a : Option α} {b : α} (h : a ≠ some b) :
    sameValue (some b) a = false := by
  cases a with
  | none => rfl
  | some _ => exact decide_eq_false fun hsame => h (congrArg some hsame.symm)

theorem sameValue_symm [DecidableEq α] (a b : Option α) : sameValue a b = sameValue b a := by
  cases a <;> cases b <;> simp [sameValue, eq_comm]

/-- The values of a row's key columns: its primary key, and when two rows may not stand in
one table because a PRIMARY KEY or UNIQUE constraint forbids it. -/
class Key (K : Type) where
  id : K → ℕ
  clash : K → K → Bool
  clash_of_id : ∀ a b, id a = id b → clash a b := by
    intro a b h
    simp [h]
  clash_symm : ∀ a b, clash a b = clash b a := by
    intro a b
    simp [eq_comm, sameValue_symm]

/-- The key columns of a row type. -/
class Keyed (R : Type) (K : outParam Type) where
  key : R → K

/-- A list of rows without collisions. -/
structure Table (R : Type) {K : Type} [Key K] [Keyed R K] where
  rows : List R
  unique : rows.Pairwise fun a b => Key.clash (Keyed.key a) (Keyed.key b) = false

namespace Table

variable {R K ε : Type} [Key K] [Keyed R K]

/-- The primary key of a row. -/
def rowId (r : R) : ℕ := Key.id (Keyed.key r)

/-- The table without rows. -/
def empty : Table R := ⟨[], List.Pairwise.nil⟩

/-- The row with the given primary key. -/
def find? (t : Table R) (id : ℕ) : Option R := t.rows.find? fun r => rowId r = id

/-- Add a row, or fail with `err` when a key column is taken. -/
def insert (t : Table R) (r : R) (err : ε) : Except ε (Table R) :=
  if h : ∀ x ∈ t.rows, Key.clash (Keyed.key r) (Keyed.key x) = false then
    .ok ⟨r :: t.rows, List.pairwise_cons.mpr ⟨h, t.unique⟩⟩
  else .error err

/-- Write a new version of the row that has the same key columns. -/
def replace [DecidableEq K] (t : Table R) (new : R) : Table R where
  rows := t.rows.map fun x => if Keyed.key x = Keyed.key new then new else x
  unique := by
    refine List.pairwise_map.mpr (t.unique.imp fun {a b} h => ?_)
    have hkey (x : R) : Keyed.key (if Keyed.key x = Keyed.key new then new else x) = Keyed.key x := by
      split
      · next hx => exact hx.symm
      · rfl
    rw [hkey, hkey]
    exact h

/-- Rewrite the row with the given primary key; a statement that matches no row does nothing. -/
def update [DecidableEq K] (t : Table R) (id : ℕ) (f : R → Except ε R) : Except ε (Table R) :=
  match t.find? id with
  | none => .ok t
  | some r => do
    let new ← f r
    return t.replace new

/-- Rewrite the non-key columns of every row. -/
def rewrite (t : Table R) (f : R → R) (hkey : ∀ r, Keyed.key (f r) = Keyed.key r) : Table R where
  rows := t.rows.map f
  unique := List.pairwise_map.mpr (t.unique.imp fun {a b} h => by rw [hkey, hkey]; exact h)

/-- Rewrite the non-key columns of the selected rows: `UPDATE … WHERE`. -/
def rewriteIf (t : Table R) (p : R → Bool) (f : R → R)
    (hkey : ∀ r, Keyed.key (f r) = Keyed.key r := by intro; rfl) : Table R :=
  t.rewrite (fun r => if p r then f r else r) fun r => by
    split
    · exact hkey r
    · rfl

/-- Delete the selected rows. -/
def delete (t : Table R) (p : R → Bool) : Table R where
  rows := t.rows.filter fun r => !p r
  unique := t.unique.sublist List.filter_sublist

/-- An aggregate over all rows. -/
def sum {A : Type} [AddCommMonoid A] (t : Table R) (f : R → A) : A := (t.rows.map f).sum

/-- Rows in the order `ORDER BY created_at, id`. -/
def oldestFirst (createdAt : R → ℕ) (rows : List R) : List R :=
  rows.insertionSort fun a b => createdAt a < createdAt b ∨ createdAt a = createdAt b ∧ rowId a ≤ rowId b

/-- Rows in the order `ORDER BY created_at DESC, id DESC`. -/
def newestFirst (createdAt : R → ℕ) (rows : List R) : List R := (oldestFirst createdAt rows).reverse

theorem oldestFirst_perm (createdAt : R → ℕ) (rows : List R) : (oldestFirst createdAt rows).Perm rows :=
  perm_insertionSort _ rows

theorem newestFirst_perm (createdAt : R → ℕ) (rows : List R) : (newestFirst createdAt rows).Perm rows :=
  (reverse_perm _).trans (oldestFirst_perm createdAt rows)

variable {t t' : Table R} {r s x new old : R} {id : ℕ} {err : ε}

@[ext] theorem ext (h : t.rows = t'.rows) : t = t' := by
  cases t; cases t'; cases h; rfl

theorem eq_of_clash (hr : r ∈ t.rows) (hs : s ∈ t.rows) (h : Key.clash (Keyed.key r) (Keyed.key s)) : r = s := by
  have hsymm : Std.Symm fun a b : R => Key.clash (Keyed.key a) (Keyed.key b) = false :=
    ⟨fun a b hab => (Key.clash_symm _ _).trans hab⟩
  by_contra hne
  have hfree := t.unique.forall hr hs hne
  rw [h] at hfree
  exact Bool.noConfusion hfree

theorem eq_of_rowId (hr : r ∈ t.rows) (hs : s ∈ t.rows) (h : rowId r = rowId s) : r = s :=
  eq_of_clash hr hs (Key.clash_of_id _ _ h)

theorem find?_eq_some : t.find? id = some r ↔ r ∈ t.rows ∧ rowId r = id :=
  ⟨queried, fun ⟨hr, hid⟩ => query_eq_some hr hid fun _ hs hsid => eq_of_rowId hs hr (hsid.trans hid.symm)⟩

theorem found (h : t.find? id = some r) : r ∈ t.rows ∧ rowId r = id := find?_eq_some.mp h

theorem find?_eq_none : t.find? id = none ↔ ∀ r ∈ t.rows, rowId r ≠ id := by
  simp [find?]

theorem find?_of_mem (hr : r ∈ t.rows) : t.find? (rowId r) = some r :=
  find?_eq_some.mpr ⟨hr, rfl⟩

theorem insert_eq_ok : t.insert r err = .ok t' ↔
    (∀ x ∈ t.rows, Key.clash (Keyed.key r) (Keyed.key x) = false) ∧ t'.rows = r :: t.rows := by
  unfold insert
  split
  · next h =>
    constructor
    · intro ht
      cases ht
      exact ⟨h, rfl⟩
    · rintro ⟨_, ht⟩
      exact congrArg Except.ok (Table.ext ht.symm)
  · next h =>
    constructor
    · intro ht
      cases ht
    · rintro ⟨hfree, _⟩
      exact absurd hfree h

theorem insert_succeeds (h : ∀ x ∈ t.rows, Key.clash (Keyed.key r) (Keyed.key x) = false) (err : ε) :
    ∃ t' : Table R, t.insert r err = .ok t' :=
  ⟨⟨r :: t.rows, pairwise_cons.mpr ⟨h, t.unique⟩⟩, insert_eq_ok.mpr ⟨h, rfl⟩⟩

theorem mem_insert (h : t.insert r err = .ok t') : x ∈ t'.rows ↔ x = r ∨ x ∈ t.rows := by
  rw [(insert_eq_ok.mp h).2, mem_cons]

theorem rowId_ne_of_insert (h : t.insert r err = .ok t') (hx : x ∈ t.rows) : rowId x ≠ rowId r := by
  intro hid
  have hfree := (insert_eq_ok.mp h).1 x hx
  rw [Key.clash_of_id _ _ hid.symm] at hfree
  exact Bool.noConfusion hfree

theorem find?_insert (h : t.insert r err = .ok t') (id : ℕ) :
    t'.find? id = if rowId r = id then some r else t.find? id := by
  rw [find?, (insert_eq_ok.mp h).2]
  by_cases hid : rowId r = id <;> simp [hid, find?]

omit [Key K] [Keyed R K] in
/-- A change of rows that are not selected leaves the selected ones. -/
theorem filter_map_of_unselected {p : R → Bool} {f : R → R} (hp : ∀ r, p (f r) = p r)
    (hf : ∀ r, p r → f r = r) (rows : List R) : (rows.map f).filter p = rows.filter p := by
  induction rows with
  | nil => rfl
  | cons r _ ih =>
    rw [map_cons, filter_cons, filter_cons, hp, ih]
    split
    · next hr => rw [hf r hr]
    · rfl

theorem sum_insert [AddCommMonoid A] (h : t.insert r err = .ok t') (f : R → A) : t'.sum f = f r + t.sum f := by
  simp [sum, (insert_eq_ok.mp h).2]

section

variable {p : R → Bool} {f : R → R} (hkey : ∀ r, Keyed.key (f r) = Keyed.key r)

/-- A table whose rows are all rewritten has no new keys. -/
theorem exists_key_of_mem_rewrite (h : x ∈ (t.rewrite f hkey).rows) : ∃ y ∈ t.rows, Keyed.key x = Keyed.key y := by
  obtain ⟨y, hy, rfl⟩ := mem_map.mp h
  exact ⟨y, hy, hkey y⟩

/-- A rewritten row is found where it was. -/
theorem find?_rewrite (id : ℕ) :
    (t.rewrite f hkey).find? id = (t.find? id).map f := by
  have hid (r : R) : rowId (f r) = rowId r := congrArg Key.id (hkey r)
  simp only [find?, rewrite, List.find?_map, Function.comp_def, hid]

/-- What is found after the selected rows were rewritten. -/
theorem find?_rewriteIf (id : ℕ) :
    (t.rewriteIf p f hkey).find? id = (t.find? id).map fun r => if p r then f r else r :=
  find?_rewrite _ id

/-- The rows after the selected ones were rewritten. -/
theorem mem_rewriteIf : x ∈ (t.rewriteIf p f hkey).rows ↔ ∃ r ∈ t.rows, (if p r then f r else r) = x := mem_map

/-- A row is left as it is unless it is selected and rewritten to another. -/
theorem mem_rewriteIf_iff (hr : r ∈ t.rows) : r ∈ (t.rewriteIf p f hkey).rows ↔ (p r → f r = r) := by
  rw [mem_rewriteIf hkey]
  constructor
  · rintro ⟨old, hold, hnew⟩ hp
    have hid : rowId old = rowId r := by
      rw [← hnew]
      split
      · exact congrArg Key.id (hkey old).symm
      · rfl
    obtain rfl := eq_of_rowId hold hr hid
    rwa [if_pos hp] at hnew
  · intro hsame
    refine ⟨r, hr, ?_⟩
    split
    · next hp => exact hsame hp
    · rfl

end

variable [DecidableEq K]

theorem mem_replace_of_ne (hr : r ∈ t.rows) (hne : rowId r ≠ rowId new) : r ∈ (t.replace new).rows :=
  mem_map.mpr ⟨r, hr, if_neg fun hkey => hne (congrArg Key.id hkey)⟩

theorem exists_key_of_mem_replace (h : x ∈ (t.replace new).rows) : ∃ y ∈ t.rows, Keyed.key x = Keyed.key y := by
  obtain ⟨y, hy, rfl⟩ := mem_map.mp h
  refine ⟨y, hy, ?_⟩
  split
  · next hkey => exact hkey.symm
  · rfl

theorem mem_replace (hold : old ∈ t.rows) (hkey : Keyed.key new = Keyed.key old) :
    x ∈ (t.replace new).rows ↔ x = new ∨ x ∈ t.rows ∧ rowId x ≠ rowId new := by
  have hid : rowId new = rowId old := congrArg Key.id hkey
  simp only [replace, mem_map]
  constructor
  · rintro ⟨_, hy, rfl⟩
    split
    · exact .inl rfl
    · next hne =>
      refine .inr ⟨hy, fun hyid => hne ?_⟩
      rw [eq_of_rowId hy hold (hyid.trans hid), hkey]
  · rintro (rfl | ⟨hx, hne⟩)
    · exact ⟨old, hold, if_pos hkey.symm⟩
    · exact ⟨x, hx, if_neg fun hk => hne (congrArg Key.id hk)⟩

theorem find?_replace (hold : old ∈ t.rows) (hkey : Keyed.key new = Keyed.key old) (id : ℕ) :
    (t.replace new).find? id = if rowId new = id then some new else t.find? id := by
  split
  · next hid => exact find?_eq_some.mpr ⟨(mem_replace hold hkey).mpr (.inl rfl), hid⟩
  · next hid =>
    refine Option.ext fun x => ?_
    rw [find?_eq_some, find?_eq_some, mem_replace hold hkey]
    constructor
    · rintro ⟨rfl | ⟨hx, _⟩, hxid⟩
      · exact absurd hxid hid
      · exact ⟨hx, hxid⟩
    · rintro ⟨hx, hxid⟩
      exact ⟨.inr ⟨hx, fun h => hid (h.symm.trans hxid)⟩, hxid⟩

theorem find?_replace_of_find? (hold : t.find? id = some old) (hkey : Keyed.key new = Keyed.key old) :
    (t.replace new).find? id = some new := by
  obtain ⟨hmem, hid⟩ := find?_eq_some.mp hold
  have hnew : rowId new = id := (congrArg Key.id hkey).trans hid
  rw [find?_replace hmem hkey, if_pos hnew]

private theorem sum_map_exchange [AddCommGroup A] (f : R → A)
    (hkey : Keyed.key new = Keyed.key old) : ∀ rows : List R,
      rows.Pairwise (fun a b => Key.clash (Keyed.key a) (Keyed.key b) = false) → old ∈ rows →
      ((rows.map fun x => if Keyed.key x = Keyed.key new then new else x).map f).sum =
        (rows.map f).sum - f old + f new
  | [], _, hold => absurd hold List.not_mem_nil
  | y :: rest, hrows, hold => by
    obtain ⟨hy, hrest⟩ := pairwise_cons.mp hrows
    have hcl (a b : R) (h : Keyed.key a = Keyed.key b) :
        Key.clash (Keyed.key a) (Keyed.key b) :=
      Key.clash_of_id _ _ (congrArg Key.id h)
    by_cases hhead : Keyed.key y = Keyed.key new
    · -- The head is the row being rewritten, and no later row has its key.
      have hyold : y = old := by
        rcases mem_cons.mp hold with h | h
        · exact h.symm
        · have hfree := hy old h
          rw [hcl y old (hhead.trans hkey)] at hfree
          exact Bool.noConfusion hfree
      have htail : (rest.map fun x => if Keyed.key x = Keyed.key new then new else x) = rest := by
        refine (map_congr_left fun x hx => if_neg fun hxk => ?_).trans (map_id rest)
        have hfree := hy x hx
        rw [hcl y x (hhead.trans hxk.symm)] at hfree
        exact Bool.noConfusion hfree
      rw [map_cons, htail, if_pos hhead, map_cons, map_cons, sum_cons, sum_cons, hyold]
      abel
    · have hrs : old ∈ rest := by
        rcases mem_cons.mp hold with rfl | h
        · exact absurd hkey.symm hhead
        · exact h
      rw [map_cons, if_neg hhead, map_cons, map_cons, sum_cons, sum_cons,
        sum_map_exchange f hkey rest hrest hrs]
      abel

theorem sum_replace [AddCommGroup A] (hold : old ∈ t.rows) (hkey : Keyed.key new = Keyed.key old) (f : R → A) :
    (t.replace new).sum f = t.sum f - f old + f new :=
  sum_map_exchange f hkey t.rows t.unique hold

theorem replace_self (hr : r ∈ t.rows) : t.replace r = t := by
  refine Table.ext ((map_congr_left fun x hx => ?_).trans (map_id t.rows))
  split
  · next hkey => exact (eq_of_rowId hx hr (congrArg Key.id hkey)).symm
  · rfl

theorem replace_insert (h : t.insert old err = .ok t') (hkey : Keyed.key new = Keyed.key old) :
    (t'.replace new).rows = new :: t.rows := by
  obtain ⟨hfree, hrows⟩ := insert_eq_ok.mp h
  have htail : (t.rows.map fun x => if Keyed.key x = Keyed.key new then new else x) = t.rows := by
    refine (map_congr_left fun x hx => if_neg fun hxk => ?_).trans (map_id t.rows)
    have hcl := hfree x hx
    rw [Key.clash_of_id _ _ (congrArg Key.id (hxk.trans hkey)).symm] at hcl
    exact Bool.noConfusion hcl
  change t'.rows.map (fun x => if Keyed.key x = Keyed.key new then new else x) = new :: t.rows
  rw [hrows, map_cons, if_pos hkey.symm, htail]

variable {f : R → Except ε R}

theorem update_eq_ok : t.update id f = .ok t' ↔ t.find? id = none ∧ t' = t ∨
      ∃ r new, t.find? id = some r ∧ f r = .ok new ∧ t' = t.replace new := by
  unfold update
  cases t.find? id with
  | none => simp [eq_comm]
  | some r =>
    simp only [eq_ok]
    constructor
    · rintro ⟨new, hnew, rfl⟩
      exact .inr ⟨r, new, rfl, hnew, rfl⟩
    · rintro (⟨h, _⟩ | ⟨_, new, h, hnew, rfl⟩)
      · cases h
      · cases h
        exact ⟨new, hnew, rfl⟩

theorem update_succeeds {new : R} (hr : t.find? id = some r) (h : f r = .ok new) :
    t.update id f = .ok (t.replace new) :=
  update_eq_ok.mpr (.inr ⟨r, new, hr, h, rfl⟩)

theorem update_of_mem (hr : r ∈ t.rows) (h : t.update (rowId r) f = .ok t') :
    ∃ new, f r = .ok new ∧ t' = t.replace new := by
  rcases update_eq_ok.mp h with ⟨hnone, _⟩ | ⟨_, new, hrow, hnew, rfl⟩
  · rw [find?_of_mem hr] at hnone
    cases hnone
  · rw [find?_of_mem hr] at hrow
    cases hrow
    exact ⟨new, hnew, rfl⟩

end Table

/-- A table of rows that do not collide. -/
def tableOf {R K : Type} [Key K] [Keyed R K] (rows : List R)
    (h : rows.Pairwise fun a b => Key.clash (Keyed.key a) (Keyed.key b) = false) : Table R :=
  ⟨rows, h⟩

/-- Key columns of a table that has no key but its primary key. -/
structure RowKey where
  id : ℕ
deriving DecidableEq

instance : Key RowKey where
  id := RowKey.id
  clash a b := a.id = b.id

end ModelDock.Relational
