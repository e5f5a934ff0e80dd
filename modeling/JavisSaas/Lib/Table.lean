import Mathlib.Data.List.Nodup
import Mathlib.Data.List.Pairwise
import JavisSaas.Lib.Fallible

/-!
# Tables, updates and partial unique indexes

A table is the list of its rows. `updateWhere` is `UPDATE … SET … WHERE`, and a partial unique index
is a function `key` that gives a row's indexed value, or `none` outside the index.

* `UniqueOn key t`: no two rows of `t` have the same indexed value.
* `UniqueOn.updateWhere`: an update that keeps or drops every indexed value keeps the index.
* `Schema`, `Table`: a table with its primary key and its unique indexes, only built by `write`.
* `Table.update_ok`, `Table.updateEach_ok`: writes that no index refuses.
* `Table.updateEach_rows`: a loop of updates is one pass over the table.
-/

namespace JavisSaas.Lib

universe u v

variable {R : Type u} {K : Type v}

/-! ## Updates -/

/-- `UPDATE … SET r := f r WHERE p r`. -/
def updateWhere (p : R → Prop) [DecidablePred p] (f : R → R) (t : List R) : List R :=
  t.map fun r => if p r then f r else r

/-- No two rows of `t` have the same indexed value. -/
def UniqueOn (key : R → Option K) (t : List R) : Prop := (t.filterMap key).Nodup

instance [DecidableEq K] (key : R → Option K) (t : List R) : Decidable (UniqueOn key t) :=
  inferInstanceAs (Decidable (t.filterMap key).Nodup)

variable {p : R → Prop} {f : R → R} {t : List R} {r : R} {key : R → Option K}

theorem mem_updateWhere [DecidablePred p] :
    r ∈ updateWhere p f t ↔ ∃ r₀ ∈ t, r = if p r₀ then f r₀ else r₀ := by
  simp only [updateWhere, List.mem_map, eq_comm]

/-- Columns that the assignment leaves alone are the same after the update. -/
theorem map_updateWhere [DecidablePred p] {A : Type*} (col : R → A)
    (h : ∀ r, p r → col (f r) = col r) (t : List R) :
    (updateWhere p f t).map col = t.map col := by
  rw [updateWhere, List.map_map]
  apply List.map_congr_left
  intro r _
  simp only [Function.comp_apply]
  split_ifs with hp
  · exact h r hp
  · rfl

/-! ## Indexes -/

theorem uniqueOn_nil (key : R → Option K) : UniqueOn key [] := List.nodup_nil

theorem uniqueOn_iff :
    UniqueOn key t ↔ t.Pairwise fun r r' => ∀ k, key r = some k → key r' ≠ some k := by
  unfold UniqueOn List.Nodup
  rw [List.pairwise_filterMap]
  constructor
  · intro h
    exact h.imp fun hab k hk hk' => hab k hk k hk' rfl
  · intro h
    exact h.imp fun hab k hk k' hk' e => hab k hk (by rw [e]; exact hk')

/-- Two rows of a unique index with the same value are the same row. -/
theorem UniqueOn.eq_of_mem (h : UniqueOn key t) {r' : R} {k : K} (hr : r ∈ t) (hr' : r' ∈ t)
    (hk : key r = some k) (hk' : key r' = some k) : r = r' := by
  by_contra hne
  have hd : Std.Symm fun a b : R => ∀ k, key a = some k → key b ≠ some k :=
    ⟨fun a b hab k hb ha => hab k ha hb⟩
  exact (uniqueOn_iff.mp h).forall hr hr' hne k hk hk'

theorem UniqueOn.map_of_sub {g : R → R} (h : UniqueOn key t)
    (hg : ∀ r ∈ t, key (g r) = none ∨ key (g r) = key r) : UniqueOn key (t.map g) := by
  rw [uniqueOn_iff] at h ⊢
  rw [List.pairwise_map]
  refine h.imp_of_mem fun {a b} ha hb hab k hk hk' => ?_
  rcases hg a ha with e | e
  · rw [e] at hk; cases hk
  · rcases hg b hb with e' | e'
    · rw [e'] at hk'; cases hk'
    · exact hab k (e ▸ hk) (e' ▸ hk')

/-- An update that keeps or drops the indexed value of every row it touches keeps the index. -/
theorem UniqueOn.updateWhere [DecidablePred p] (h : UniqueOn key t)
    (hf : ∀ r ∈ t, p r → key (f r) = none ∨ key (f r) = key r) :
    UniqueOn key (updateWhere p f t) := by
  refine h.map_of_sub fun r hr => ?_
  split_ifs with hp
  · exact hf r hr hp
  · exact Or.inr rfl

/-- An index over fewer rows is weaker. -/
theorem UniqueOn.mono {key' : R → Option K} (h : UniqueOn key t)
    (hk : ∀ r ∈ t, key' r = none ∨ key' r = key r) : UniqueOn key' t := by
  rw [uniqueOn_iff] at h ⊢
  refine h.imp_of_mem fun {a b} ha hb hab k ha' hb' => ?_
  rcases hk a ha with e | e
  · rw [e] at ha'; cases ha'
  · rcases hk b hb with e' | e'
    · rw [e'] at hb'; cases hb'
    · exact hab k (e ▸ ha') (e' ▸ hb')

/-- Inserting a row keeps the index exactly when its value is not taken. -/
theorem uniqueOn_append_singleton :
    UniqueOn key (t ++ [r]) ↔ UniqueOn key t ∧ ∀ k, key r = some k → ∀ r' ∈ t, key r' ≠ some k := by
  simp only [uniqueOn_iff, List.pairwise_append, List.pairwise_singleton, List.mem_singleton,
    forall_eq, true_and]
  constructor
  · rintro ⟨h, h'⟩
    exact ⟨h, fun k hk r' hr' e => h' r' hr' k e hk⟩
  · rintro ⟨h, h'⟩
    exact ⟨h, fun r' hr' k e hk => h' k hk r' hr' e⟩

/-! ## Tables that carry their constraints -/

/-- The constraints of a table: its primary key and its partial unique indexes. -/
structure Schema (R : Type u) where
  Key : Type
  key : R → Key
  /-- The names of the unique indexes. -/
  Index : Type
  indexes : List Index
  Val : Index → Type
  /-- The indexed value of a row, `none` for a row outside the partial index. -/
  val : (i : Index) → R → Option (Val i)
  decKey : DecidableEq Key
  decVal : ∀ i, DecidableEq (Val i)

attribute [instance] Schema.decKey Schema.decVal

/-- The unique violations of a schema. -/
inductive Violation (σ : Schema R)
  | key
  | index (i : σ.Index)

/-- The rows of a table, with every constraint of its schema. -/
structure Table (σ : Schema R) where
  rows : List R
  nodup : (rows.map σ.key).Nodup
  unique : ∀ i ∈ σ.indexes, UniqueOn (σ.val i) rows

namespace Table

variable {σ : Schema R}

variable {t t' : Table σ} {rows : List R} {i : σ.Index} {r : R} {k : σ.Key} {f : R → R} {x : R}
  {sel : List R}

@[ext] theorem ext (h : t.rows = t'.rows) : t = t' := by
  cases t; cases t'; simp_all

instance : EmptyCollection (Table σ) := ⟨⟨[], List.nodup_nil, fun _ _ => uniqueOn_nil _⟩⟩

@[simp] theorem rows_empty : (∅ : Table σ).rows = [] := rfl

/-- Writes new contents, or refuses them for the first constraint they violate. -/
def write (rows : List R) : Except (Violation σ) (Table σ) :=
  if hk : (rows.map σ.key).Nodup then
    match hi : σ.indexes.find? fun i => ¬ UniqueOn (σ.val i) rows with
    | some i => .error (.index i)
    | none => .ok ⟨rows, hk, by simpa using hi⟩
  else .error .key

theorem write_eq_ok : write rows = .ok t ↔ t.rows = rows := by
  unfold write
  constructor
  · intro h
    split_ifs at h with hk
    split at h
    · cases h
    · cases h; rfl
  · rintro rfl
    rw [dif_pos t.nodup]
    split
    · rename_i i hi
      have hmem := List.mem_of_find?_eq_some hi
      have hnot := List.find?_some hi
      simp only [decide_eq_true_eq] at hnot
      exact absurd (t.unique i hmem) hnot
    · rfl

/-- Rows that meet every constraint are written. -/
theorem write_ok {rows : List R} (hk : (rows.map σ.key).Nodup)
    (hi : ∀ i ∈ σ.indexes, UniqueOn (σ.val i) rows) : write rows = .ok (⟨rows, hk, hi⟩ : Table σ) :=
  write_eq_ok.mpr rfl

/-- A refusal by an index names an index that the rows violate. -/
theorem not_uniqueOn_of_write
    (h : write rows = (.error (.index i) : Except (Violation σ) (Table σ))) :
    ¬ UniqueOn (σ.val i) rows := by
  unfold write at h
  split_ifs at h with hk
  split at h
  · rename_i j hj
    cases h
    simpa using List.find?_some hj
  · cases h
  · cases h

/-- `SELECT … WHERE key = k`. -/
def get? (t : Table σ) (k : σ.Key) : Option R := t.rows.find? fun r => σ.key r = k

def insert (t : Table σ) (r : R) : Except (Violation σ) (Table σ) := write (t.rows ++ [r])

/-- `UPDATE … SET f WHERE key = k`. -/
def update (t : Table σ) (k : σ.Key) (f : R → R) : Except (Violation σ) (Table σ) :=
  write (updateWhere (fun r => σ.key r = k) f t.rows)

/-- One `UPDATE` by primary key for each selected row `x`, with its columns as selected. -/
def updateEach (t : Table σ) (sel : List R) (f : R → R → R) : Except (Violation σ) (Table σ) :=
  sel.foldlM (fun t x => t.update (σ.key x) (f x)) t

theorem key_injective (t : Table σ) {r' : R} (hr : r ∈ t.rows) (hr' : r' ∈ t.rows)
    (h : σ.key r = σ.key r') : r = r' :=
  List.inj_on_of_nodup_map t.nodup hr hr' h

theorem get?_eq_some : t.get? k = some r ↔ r ∈ t.rows ∧ σ.key r = k := by
  unfold get?
  constructor
  · intro h
    exact ⟨List.mem_of_find?_eq_some h, by simpa using List.find?_some h⟩
  · rintro ⟨hr, rfl⟩
    have hsome : (t.rows.find? fun r' => σ.key r' = σ.key r).isSome := by
      rw [List.find?_isSome]; exact ⟨r, hr, by simp⟩
    obtain ⟨r', h'⟩ := Option.isSome_iff_exists.mp hsome
    have hr' := List.mem_of_find?_eq_some h'
    have hk : σ.key r' = σ.key r := by simpa using List.find?_some h'
    rw [h', t.key_injective hr' hr hk]

theorem insert_eq_ok :
    t.insert r = .ok t' ↔ t'.rows = t.rows ++ [r] := write_eq_ok

theorem update_eq_ok :
    t.update k f = .ok t' ↔ t'.rows = updateWhere (fun r => σ.key r = k) f t.rows := write_eq_ok

/-- A refused insertion names an index at which a row of the table has the new row's value. -/
theorem exists_of_insert_error (hi : i ∈ σ.indexes) (h : t.insert r = .error (.index i)) :
    ∃ v, σ.val i r = some v ∧ ∃ r' ∈ t.rows, σ.val i r' = some v := by
  have hnot := not_uniqueOn_of_write h
  rw [uniqueOn_append_singleton] at hnot
  by_contra hno
  push Not at hno
  exact hnot ⟨t.unique i hi, hno⟩

/-- An inserted row has a new key. -/
theorem key_ne_of_rows_append {t t' : Table σ} {r x : R} (h : t'.rows = t.rows ++ [r])
    (hx : x ∈ t.rows) : σ.key x ≠ σ.key r := by
  have hnd := t'.nodup
  rw [h, List.map_append, List.nodup_append] at hnd
  exact hnd.2.2 _ (List.mem_map_of_mem hx) _ (by simp)

/-- An insertion under a key that is taken is refused for the key. -/
theorem insert_of_key_mem (h : ∃ x ∈ t.rows, σ.key x = σ.key r) : t.insert r = .error .key := by
  obtain ⟨x, hx, e⟩ := h
  refine dif_neg fun hnd => ?_
  rw [List.map_append, List.nodup_append] at hnd
  exact hnd.2.2 _ (List.mem_map_of_mem hx) _ (by simp) e

/-- An insertion under a new key is not refused for the key. -/
theorem insert_ne_error_key (h : ∀ x ∈ t.rows, σ.key x ≠ σ.key r) : t.insert r ≠ .error .key := by
  have hnd : ((t.rows ++ [r]).map σ.key).Nodup := by
    rw [List.map_append, List.nodup_append]
    refine ⟨t.nodup, List.nodup_singleton _, ?_⟩
    intro a ha b hb
    obtain ⟨x, hx, rfl⟩ := List.mem_map.mp ha
    rw [List.map_singleton, List.mem_singleton] at hb
    exact hb ▸ h x hx
  unfold insert write
  rw [dif_pos hnd]
  split <;> simp

/-- Rows with distinct keys that violate the first index are refused by it. -/
theorem write_eq_error {is : List σ.Index} (his : σ.indexes = i :: is) (hk : (rows.map σ.key).Nodup)
    (hi : ¬ UniqueOn (σ.val i) rows) :
    write rows = (.error (.index i) : Except (Violation σ) (Table σ)) := by
  have hfind : (σ.indexes.find? fun i => ¬ UniqueOn (σ.val i) rows) = some i := by
    rw [his, List.find?_cons_of_pos (by simpa using hi)]
  unfold write
  rw [dif_pos hk]
  split
  · rename_i j hj
    cases hfind.symm.trans hj
    rfl
  · rename_i hj
    cases hfind.symm.trans hj

/-! ## Writes that no index refuses -/

/-- A family of indexes that contain the indexes of the schema. -/
def Wider (w : (i : σ.Index) → R → Option (σ.Val i)) : Prop :=
  ∀ i r, σ.val i r = none ∨ σ.val i r = w i r

variable {w : (i : σ.Index) → R → Option (σ.Val i)}

/-- It keeps or drops the values of wider indexes that the table satisfies, and keeps these. -/
theorem update_ok (hw : Wider w) (hu : ∀ i, UniqueOn (w i) t.rows)
    (hkey : ∀ r, σ.key (f r) = σ.key r)
    (hf : ∀ r ∈ t.rows, σ.key r = k → ∀ i, w i (f r) = none ∨ w i (f r) = w i r) :
    ∃ t', t.update k f = .ok t' ∧ ∀ i, UniqueOn (w i) t'.rows := by
  have hwide : ∀ i, UniqueOn (w i) (updateWhere (fun r => σ.key r = k) f t.rows) :=
    fun i => (hu i).updateWhere fun r hr hp => hf r hr hp i
  have hnodup : ((updateWhere (fun r => σ.key r = k) f t.rows).map σ.key).Nodup := by
    rw [map_updateWhere σ.key (fun r _ => hkey r)]
    exact t.nodup
  have huniq : ∀ i ∈ σ.indexes, UniqueOn (σ.val i) (updateWhere (fun r => σ.key r = k) f t.rows) :=
    fun i _ => (hwide i).mono fun r _ => hw i r
  exact ⟨_, write_ok hnodup huniq, hwide⟩

/-- The rows that a loop of updates has yet to visit are still as they were selected. -/
theorem mem_rows_of_update {y : R} (h : t.update (σ.key x) f = .ok t') (hy : y ∈ t.rows)
    (hne : σ.key y ≠ σ.key x) :
    y ∈ t'.rows := by
  rw [update_eq_ok.mp h, mem_updateWhere]
  exact ⟨y, hy, by simp [hne]⟩

theorem updateEach_cons {f : R → R → R} :
    t.updateEach (x :: sel) f = t.update (σ.key x) (f x) >>= fun t' => t'.updateEach sel f := by
  simp only [updateEach, List.foldlM_cons]

/-- A loop of updates over selected rows is one pass over the table. -/
theorem updateEach_rows {f : R → R → R} (hkey : ∀ x r, σ.key (f x r) = σ.key r) :
    ∀ {t t' : Table σ}, (∀ x ∈ sel, x ∈ t.rows) → (sel.map σ.key).Nodup →
      t.updateEach sel f = .ok t' →
      t'.rows = t.rows.map fun r => if σ.key r ∈ sel.map σ.key then f r r else r := by
  induction sel with
  | nil =>
    intro t t' _ _ h
    cases h
    simp
  | cons x sel ih =>
    intro t t' hsel hnd h
    rw [List.map_cons, List.nodup_cons] at hnd
    rw [updateEach_cons] at h
    obtain ⟨m, hm, h⟩ := bind_eq_ok.mp h
    have hx : x ∈ t.rows := hsel x (List.mem_cons_self ..)
    have hne : ∀ y ∈ sel, σ.key y ≠ σ.key x := fun y hy e => hnd.1 (List.mem_map.mpr ⟨y, hy, e⟩)
    have hrest := ih (fun y hy => mem_rows_of_update hm (hsel y (List.mem_cons_of_mem _ hy)) (hne y hy))
      hnd.2 h
    rw [hrest, update_eq_ok.mp hm, updateWhere, List.map_map]
    apply List.map_congr_left
    intro r hr
    simp only [Function.comp_apply, List.map_cons, List.mem_cons]
    by_cases hrx : σ.key r = σ.key x
    · have : r = x := t.key_injective hr hx hrx
      subst this
      simp [hkey, hnd.1]
    · simp [hrx]

/-- Each keeps or drops the values of wider indexes that the table satisfies. -/
theorem updateEach_ok (hw : Wider w) {f : R → R → R} (hkey : ∀ x r, σ.key (f x r) = σ.key r)
    (hf : ∀ x ∈ sel, ∀ i, w i (f x x) = none ∨ w i (f x x) = w i x) :
    ∀ {t : Table σ}, (∀ i, UniqueOn (w i) t.rows) → (∀ x ∈ sel, x ∈ t.rows) →
      (sel.map σ.key).Nodup →
      ∃ t', t.updateEach sel f = .ok t' ∧ ∀ i, UniqueOn (w i) t'.rows := by
  induction sel with
  | nil => intro t hu _ _; exact ⟨t, rfl, hu⟩
  | cons x sel ih =>
    intro t hu hsel hnd
    rw [List.map_cons, List.nodup_cons] at hnd
    have hx : x ∈ t.rows := hsel x (List.mem_cons_self ..)
    have hself : ∀ r ∈ t.rows, σ.key r = σ.key x →
        ∀ i, w i (f x r) = none ∨ w i (f x r) = w i r := by
      intro r hr e
      have : r = x := t.key_injective hr hx e
      subst this
      exact hf r (List.mem_cons_self ..)
    obtain ⟨m, hm, hum⟩ := update_ok hw hu (hkey x) hself
    have hne : ∀ y ∈ sel, σ.key y ≠ σ.key x := fun y hy e => hnd.1 (List.mem_map.mpr ⟨y, hy, e⟩)
    obtain ⟨t', ht', hut'⟩ := ih (fun y hy => hf y (List.mem_cons_of_mem _ hy)) hum
      (fun y hy => mem_rows_of_update hm (hsel y (List.mem_cons_of_mem _ hy)) (hne y hy)) hnd.2
    refine ⟨t', ?_, hut'⟩
    rw [updateEach_cons, hm]
    exact ht'

end Table

end JavisSaas.Lib
