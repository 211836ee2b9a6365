import Mathlib.Data.List.Nodup

/-!
# Tables with row ids and a unique key

A table as SQL has it: rows under ids that are never given twice (`AUTOINCREMENT`) and a key
that no two rows share.  `key` is partial, for a row without a key is never in conflict, as with
`NULL`; a table with no `UNIQUE` clause has the key `fun _ => none`.  A `Table` carries both
properties, so every operation proves that it keeps them.

    t.insert x = none ↔ some row has the key of x                      (insert_eq_none_iff)
    t.insertOrIgnore x = t and a row of t has the key of x, or x is appended
                                                                       (insertOrIgnore_eq)
    (t.insertOrReplace x).1.get (t.insertOrReplace x).2 = some x       (get_insertOrReplace)
    rows with one key are one row                                      (key_injective)
    a table and one with its rows in another form replace the same rows
                                                           (Mirrors.insertOrReplace)
    what one statement of a list brings about, and the others keep, holds after all of them
                                                                       (foldl_establishes)
-/

namespace Sql

/-! ## Tables -/

/-- Rows with distinct ids below `nextId` and distinct keys. -/
structure Table {ρ κ : Type*} (key : ρ → Option κ) where
  rows : List (Nat × ρ)
  nextId : Nat
  ids_lt : ∀ r ∈ rows, r.1 < nextId
  ids_nodup : (rows.map Prod.fst).Nodup
  keys_nodup : (rows.filterMap fun r => key r.2).Nodup

variable {ρ κ : Type*} {key : ρ → Option κ}

namespace Table

def empty (key : ρ → Option κ) : Table key := ⟨[], 1, by simp, by simp, by simp⟩

def values (t : Table key) : List ρ := t.rows.map Prod.snd

def keys (t : Table key) : List κ := t.rows.filterMap fun r => key r.2

/-- The row with this id. -/
def get (t : Table key) (id : Nat) : Option ρ :=
  (t.rows.find? fun r => r.1 == id).map Prod.snd

/-- A new row whose key is new. -/
def append (t : Table key) (x : ρ) (h : ∀ k, key x = some k → k ∉ t.keys) : Table key where
  rows := t.rows ++ [(t.nextId, x)]
  nextId := t.nextId + 1
  ids_lt := by
    intro r hr
    rcases List.mem_append.1 hr with hr | hr
    · exact Nat.lt_succ_of_lt (t.ids_lt r hr)
    · rw [List.mem_singleton] at hr
      rw [hr]
      exact Nat.lt_succ_self _
  ids_nodup := by
    rw [List.map_append, List.nodup_append]
    refine ⟨t.ids_nodup, by simp, fun i hi j hj => ?_⟩
    obtain ⟨r, hr, rfl⟩ := List.mem_map.1 hi
    have hj : j = t.nextId := by simpa using hj
    rw [hj]
    exact Nat.ne_of_lt (t.ids_lt r hr)
  keys_nodup := by
    rw [List.filterMap_append, List.nodup_append]
    refine ⟨t.keys_nodup, ?_, fun k hk l hl => ?_⟩
    · cases hx : key x <;> simp [hx]
    · have hl : key x = some l := by simpa using hl
      rintro rfl
      exact h k hl hk

/-- `DELETE … WHERE p`. -/
def delete (t : Table key) (p : Nat → ρ → Bool) : Table key where
  rows := t.rows.filter fun r => !p r.1 r.2
  nextId := t.nextId
  ids_lt := fun r hr => t.ids_lt r (List.mem_of_mem_filter hr)
  ids_nodup := t.ids_nodup.sublist (List.filter_sublist.map _)
  keys_nodup := t.keys_nodup.sublist (List.filter_sublist.filterMap _)

/-- `UPDATE …`, of columns outside the key. -/
def update (t : Table key) (f : Nat → ρ → ρ) (hf : ∀ i x, key (f i x) = key x) : Table key where
  rows := t.rows.map fun r => (r.1, f r.1 r.2)
  nextId := t.nextId
  ids_lt := by
    intro r hr
    obtain ⟨r₀, hr₀, rfl⟩ := List.mem_map.1 hr
    exact t.ids_lt r₀ hr₀
  ids_nodup := by
    rw [List.map_map]
    exact t.ids_nodup
  keys_nodup := by
    rw [List.filterMap_map]
    have : (fun r : Nat × ρ => key r.2) ∘ (fun r : Nat × ρ => (r.1, f r.1 r.2)) =
        fun r => key r.2 := by
      funext r
      exact hf r.1 r.2
    rw [this]
    exact t.keys_nodup

section Keys

variable [DecidableEq κ]

/-- Some row has the key of `x`. -/
def conflicts (t : Table key) (x : ρ) : Bool :=
  match key x with
  | none => false
  | some k => decide (k ∈ t.keys)

theorem conflicts_eq_false_iff (t : Table key) (x : ρ) :
    t.conflicts x = false ↔ ∀ k, key x = some k → k ∉ t.keys := by
  unfold conflicts
  cases key x with
  | none => simp
  | some k => simp

/-- The rows without those that have the key of `x`. -/
def clear (t : Table key) (x : ρ) : Table key :=
  t.delete fun _ y => (key y).isSome && key y == key x

theorem conflicts_clear (t : Table key) (x : ρ) : (t.clear x).conflicts x = false := by
  unfold conflicts
  cases hx : key x with
  | none => rfl
  | some k =>
    rw [decide_eq_false_iff_not]
    intro hk
    obtain ⟨r, hr, hk⟩ := List.mem_filterMap.1 hk
    have := (List.mem_filter.1 hr).2
    simp [hk, hx] at this

/-- `INSERT`: the table and the new id, or a `UNIQUE` violation. -/
def insert (t : Table key) (x : ρ) : Option (Table key × Nat) :=
  if h : t.conflicts x = false then
    some (t.append x ((t.conflicts_eq_false_iff x).1 h), t.nextId)
  else none

/-- `INSERT OR IGNORE`. -/
def insertOrIgnore (t : Table key) (x : ρ) : Table key :=
  if h : t.conflicts x = false then t.append x ((t.conflicts_eq_false_iff x).1 h) else t

/-- `INSERT OR REPLACE`: the row with the same key goes, the new one has a new id. -/
def insertOrReplace (t : Table key) (x : ρ) : Table key × Nat :=
  ((t.clear x).append x (((t.clear x).conflicts_eq_false_iff x).1 (t.conflicts_clear x)), t.nextId)

end Keys

/-! ## Lemmas -/

theorem id_injective (t : Table key) {r s : Nat × ρ} (hr : r ∈ t.rows) (hs : s ∈ t.rows)
    (h : r.1 = s.1) : r = s := List.inj_on_of_nodup_map t.ids_nodup hr hs h

theorem get_eq_some_iff (t : Table key) (id : Nat) (x : ρ) :
    t.get id = some x ↔ (id, x) ∈ t.rows := by
  unfold get
  constructor
  · intro h
    obtain ⟨r, hr, rfl⟩ := Option.map_eq_some_iff.1 h
    have hid : r.1 = id := by simpa using List.find?_some hr
    have := List.mem_of_find?_eq_some hr
    rwa [← hid]
  · intro h
    cases hf : t.rows.find? fun r => r.1 == id with
    | none =>
      have := List.find?_eq_none.1 hf (id, x) h
      simp at this
    | some r =>
      have hid : r.1 = id := by simpa using List.find?_some hf
      have := t.id_injective (List.mem_of_find?_eq_some hf) h hid
      simp [this]

theorem get_update (t : Table key) (f : Nat → ρ → ρ) (hf : ∀ i x, key (f i x) = key x) (id : Nat) :
    (t.update f hf).get id = (t.get id).map (f id) := by
  unfold get update
  rw [List.find?_map]
  show ((t.rows.find? fun r => r.1 == id).map _).map _ = _
  cases hfind : t.rows.find? fun r => r.1 == id with
  | none => rfl
  | some r =>
    have hid : r.1 = id := by simpa using List.find?_some hfind
    rw [← hid]
    rfl

theorem mem_keys_iff (t : Table key) (k : κ) :
    k ∈ t.keys ↔ ∃ r ∈ t.rows, key r.2 = some k := by
  simp [keys]

theorem key_injective (t : Table key) {r s : Nat × ρ} (hr : r ∈ t.rows) (hs : s ∈ t.rows)
    {k : κ} (h : key r.2 = some k) (h' : key s.2 = some k) : r = s := by
  have hnd := t.keys_nodup
  obtain ⟨xs, ys, he⟩ := List.append_of_mem hr
  rw [he] at hs hnd
  have hcons : (r :: ys).filterMap (fun r => key r.2) = k :: ys.filterMap fun r => key r.2 :=
    List.filterMap_cons_some h
  rw [List.filterMap_append, hcons] at hnd
  have hx : ∀ q ∈ xs, key q.2 ≠ some k := by
    intro q hq hk
    have := (List.nodup_append.1 hnd).2.2 k (List.mem_filterMap.2 ⟨q, hq, hk⟩) k (by simp)
    exact this rfl
  have hy : ∀ q ∈ ys, key q.2 ≠ some k := by
    intro q hq hk
    have := (List.nodup_cons.1 (List.nodup_append.1 hnd).2.1).1
    exact this (List.mem_filterMap.2 ⟨q, hq, hk⟩)
  rcases List.mem_append.1 hs with hs | hs
  · exact absurd h' (hx s hs)
  · rcases List.mem_cons.1 hs with hs | hs
    · exact hs.symm
    · exact absurd h' (hy s hs)

/-- Where every row has a key, the keys are those of the rows. -/
theorem keys_eq_map (t : Table key) {f : ρ → κ} (hf : ∀ x, key x = some (f x)) :
    t.keys = t.values.map f := by
  unfold keys values
  rw [List.map_map, ← List.filterMap_eq_map]
  refine congrArg (fun g => List.filterMap g t.rows) ?_
  funext r
  exact hf r.2

theorem nodup_map_key (t : Table key) {f : ρ → κ} (hf : ∀ x, key x = some (f x)) :
    (t.values.map f).Nodup := by
  rw [← t.keys_eq_map hf]
  exact t.keys_nodup

@[simp] theorem rows_append (t : Table key) (x : ρ) (h) :
    (t.append x h).rows = t.rows ++ [(t.nextId, x)] := rfl

@[simp] theorem keys_append (t : Table key) (x : ρ) (h) :
    (t.append x h).keys = t.keys ++ (key x).toList := by
  unfold keys
  rw [rows_append, List.filterMap_append]
  cases hx : key x <;> simp [hx]

@[simp] theorem rows_delete (t : Table key) (p : Nat → ρ → Bool) :
    (t.delete p).rows = t.rows.filter fun r => !p r.1 r.2 := rfl

theorem values_delete (t : Table key) (p : ρ → Bool) :
    (t.delete fun _ x => p x).values = t.values.filter fun x => !p x := by
  unfold values
  rw [rows_delete, List.filter_map]
  rfl

/-- A deletion whose condition is about the row takes away the rows that meet it. -/
theorem mem_values_delete_iff (t : Table key) (p : ρ → Bool) (x : ρ) :
    x ∈ (t.delete fun _ r => p r).values ↔ x ∈ t.values ∧ p x = false := by
  unfold values
  rw [rows_delete]
  simp only [List.mem_map, List.mem_filter, Bool.not_eq_true', Prod.exists, exists_eq_right]
  exact exists_and_right

@[simp] theorem values_append (t : Table key) (x : ρ) (h) :
    (t.append x h).values = t.values ++ [x] := by
  unfold values
  rw [rows_append, List.map_append]
  rfl

@[simp] theorem rows_update (t : Table key) (f : Nat → ρ → ρ) (hf) :
    (t.update f hf).rows = t.rows.map fun r => (r.1, f r.1 r.2) := rfl

theorem values_update (t : Table key) (f : ρ → ρ) (hf) :
    (t.update (fun _ x => f x) hf).values = t.values.map f := by
  unfold values
  rw [rows_update, List.map_map, List.map_map]
  rfl

@[simp] theorem keys_update (t : Table key) (f : Nat → ρ → ρ) (hf) :
    (t.update f hf).keys = t.keys := by
  unfold keys
  rw [rows_update, List.filterMap_map]
  refine congrArg (fun g => List.filterMap g t.rows) ?_
  funext r
  exact hf r.1 r.2

section Keys

variable [DecidableEq κ]

theorem insert_of_new (t : Table key) (x : ρ) (h : ∀ k, key x = some k → k ∉ t.keys) :
    t.insert x = some (t.append x h, t.nextId) :=
  dif_pos ((t.conflicts_eq_false_iff x).2 h)

theorem insert_eq_none_iff (t : Table key) (x : ρ) :
    t.insert x = none ↔ ∃ k, key x = some k ∧ k ∈ t.keys := by
  by_cases h : ∀ k, key x = some k → k ∉ t.keys
  · rw [t.insert_of_new x h]
    simpa using h
  · have hc : ¬ t.conflicts x = false := fun hc => h ((t.conflicts_eq_false_iff x).1 hc)
    unfold insert
    rw [dif_neg hc]
    push Not at h
    simpa using h

/-- A row stays when the new row's key is not its own. -/
theorem mem_rows_clear_iff (t : Table key) (x : ρ) (r : Nat × ρ) :
    r ∈ (t.clear x).rows ↔ r ∈ t.rows ∧ ∀ k, key r.2 = some k → key x ≠ some k := by
  unfold clear
  rw [rows_delete, List.mem_filter]
  refine and_congr_right fun _ => ?_
  cases hr : key r.2 with
  | none => simp
  | some k =>
    simp only [Option.isSome_some, Bool.true_and, Bool.not_eq_true', beq_eq_false_iff_ne, ne_eq,
      Option.some.injEq, forall_eq']
    exact not_congr eq_comm

theorem mem_rows_insertOrReplace_iff (t : Table key) (x : ρ) (r : Nat × ρ) :
    r ∈ (t.insertOrReplace x).1.rows ↔
      (r ∈ t.rows ∧ ∀ k, key r.2 = some k → key x ≠ some k) ∨ r = (t.nextId, x) := by
  unfold insertOrReplace
  rw [rows_append, List.mem_append, mem_rows_clear_iff, List.mem_singleton]
  rfl

theorem get_insertOrReplace (t : Table key) (x : ρ) :
    (t.insertOrReplace x).1.get (t.insertOrReplace x).2 = some x := by
  rw [get_eq_some_iff, mem_rows_insertOrReplace_iff]
  exact .inr rfl

theorem insertOrIgnore_eq (t : Table key) (x : ρ) :
    (∃ k, key x = some k ∧ k ∈ t.keys ∧ t.insertOrIgnore x = t) ∨
      ∃ h, t.insertOrIgnore x = t.append x h := by
  by_cases h : ∀ k, key x = some k → k ∉ t.keys
  · exact .inr ⟨h, dif_pos ((t.conflicts_eq_false_iff x).2 h)⟩
  · left
    have hc : ¬ t.conflicts x = false := fun hc => h ((t.conflicts_eq_false_iff x).1 hc)
    push Not at h
    obtain ⟨k, hk, hm⟩ := h
    exact ⟨k, hk, hm, dif_neg hc⟩

theorem mem_values_insertOrIgnore {t : Table key} {x y : ρ} (h : y ∈ (t.insertOrIgnore x).values) :
    y ∈ t.values ∨ y = x := by
  rcases t.insertOrIgnore_eq x with ⟨k, -, -, heq⟩ | ⟨hnew, heq⟩
  · rw [heq] at h
    exact .inl h
  · rw [heq, values_append] at h
    simpa using h

theorem mem_values_insert {t t' : Table key} {x y : ρ} {id : Nat} (h : t.insert x = some (t', id))
    (hy : y ∈ t'.values) : y ∈ t.values ∨ y = x := by
  unfold insert at h
  split at h
  · obtain ⟨rfl, -⟩ := Prod.mk.inj (Option.some.inj h)
    rw [values_append] at hy
    simpa using hy
  · cases h

/-- Insert all of these, but for those whose key is taken. -/
def insertAll (t : Table key) (xs : List ρ) : Table key := xs.foldl insertOrIgnore t

theorem mem_values_insertAll {t : Table key} {xs : List ρ} {y : ρ}
    (h : y ∈ (t.insertAll xs).values) : y ∈ t.values ∨ y ∈ xs := by
  induction xs generalizing t with
  | nil => exact .inl h
  | cons x xs ih =>
    rcases ih (t := t.insertOrIgnore x) h with h | h
    · rcases mem_values_insertOrIgnore h with h | rfl
      · exact .inl h
      · exact .inr List.mem_cons_self
    · exact .inr (List.mem_cons_of_mem _ h)

theorem mem_keys_insertOrIgnore {t : Table key} {x : ρ} {k : κ} :
    k ∈ (t.insertOrIgnore x).keys ↔ k ∈ t.keys ∨ key x = some k := by
  rcases t.insertOrIgnore_eq x with ⟨l, hl, hmem, heq⟩ | ⟨hnew, heq⟩
  · rw [heq, hl]
    constructor
    · exact .inl
    · rintro (h | h)
      · exact h
      · rwa [← Option.some.inj h]
  · rw [heq, keys_append, List.mem_append, Option.mem_toList]

theorem mem_keys_insertAll {t : Table key} {xs : List ρ} {k : κ} :
    k ∈ (t.insertAll xs).keys ↔ k ∈ t.keys ∨ ∃ x ∈ xs, key x = some k := by
  induction xs generalizing t with
  | nil => simp [insertAll]
  | cons x xs ih =>
    have h := ih (t := t.insertOrIgnore x)
    rw [mem_keys_insertOrIgnore] at h
    rw [List.exists_mem_cons_iff, ← or_assoc]
    exact h

end Keys

/-! ## Rows in another form -/

section Mirrors

variable {σ μ : Type*} {key' : σ → Option μ}

/-- `u` has the rows of `t`, in the form that `f` gives them. -/
structure Mirrors (f : ρ → σ) (t : Table key) (u : Table key') : Prop where
  rows : u.rows = t.rows.map fun r => (r.1, f r.2)
  nextId : u.nextId = t.nextId

variable {f : ρ → σ} {t : Table key} {u : Table key'}

theorem Mirrors.get (h : Mirrors f t u) (id : Nat) : u.get id = (t.get id).map f := by
  unfold Table.get
  rw [h.rows, List.find?_map]
  show ((t.rows.find? fun r => r.1 == id).map _).map _ = _
  rw [Option.map_map, Option.map_map]
  rfl

theorem isSome_and_beq_iff [DecidableEq κ] (k l : Option κ) :
    (k.isSome && k == l) = true ↔ ∃ i, k = some i ∧ l = some i := by
  cases k with
  | none => simp
  | some i =>
    rw [Option.isSome_some, Bool.true_and, beq_iff_eq]
    constructor
    · rintro rfl
      exact ⟨i, rfl, rfl⟩
    · rintro ⟨j, hj, hl⟩
      rw [hj, hl]

variable [DecidableEq κ] [DecidableEq μ] {x : ρ}

/-- Where the forms are in conflict as the rows are, the same rows go. -/
theorem Mirrors.clear (h : Mirrors f t u)
    (hkey : ∀ r ∈ t.rows, (∃ k, key' (f r.2) = some k ∧ key' (f x) = some k) ↔
      ∃ k, key r.2 = some k ∧ key x = some k) :
    (u.clear (f x)).rows = (t.clear x).rows.map fun r => (r.1, f r.2) := by
  unfold Table.clear
  rw [rows_delete, rows_delete, h.rows, List.filter_map]
  refine congrArg _ (List.filter_congr fun r hr => ?_)
  show (!((key' (f r.2)).isSome && key' (f r.2) == key' (f x))) = _
  apply congrArg
  rw [Bool.eq_iff_iff, isSome_and_beq_iff, isSome_and_beq_iff]
  exact hkey r hr

/-- **A row is replaced in either form**, under the same id. -/
theorem Mirrors.insertOrReplace (h : Mirrors f t u)
    (hkey : ∀ r ∈ t.rows, (∃ k, key' (f r.2) = some k ∧ key' (f x) = some k) ↔
      ∃ k, key r.2 = some k ∧ key x = some k) :
    Mirrors f (t.insertOrReplace x).1 (u.insertOrReplace (f x)).1 ∧
      (u.insertOrReplace (f x)).2 = (t.insertOrReplace x).2 := by
  refine ⟨⟨?_, congrArg (· + 1) h.nextId⟩, h.nextId⟩
  show (u.clear (f x)).rows ++ [(u.nextId, f x)] = ((t.clear x).rows ++ [(t.nextId, x)]).map _
  rw [h.clear hkey, h.nextId, List.map_append]
  rfl

end Mirrors

end Table

/-! ## Statements in a row -/

theorem foldl_keeps {σ : Type*} {Q : σ → Prop} {statements : List (σ → σ)}
    (hQ : ∀ f ∈ statements, ∀ s, Q s → Q (f s)) {s : σ} (hs : Q s) :
    Q (statements.foldl (fun s f => f s) s) := by
  induction statements generalizing s with
  | nil => exact hs
  | cons f statements ih =>
    rw [List.foldl_cons]
    exact ih (fun g hg => hQ g (List.mem_cons_of_mem _ hg)) (hQ f List.mem_cons_self s hs)

/-- Statements that keep `I` and, under it, `Q`: if one of them brings `Q` about, it holds in the
end. -/
theorem foldl_establishes {σ : Type*} {I Q : σ → Prop} {statements : List (σ → σ)}
    (hI : ∀ f ∈ statements, ∀ s, I s → I (f s))
    (hQ : ∀ f ∈ statements, ∀ s, I s → Q s → Q (f s))
    (hmake : ∃ f ∈ statements, ∀ s, I s → Q (f s)) {s : σ} (hs : I s) :
    Q (statements.foldl (fun s f => f s) s) := by
  obtain ⟨f, hf, hmakes⟩ := hmake
  obtain ⟨before, after, rfl⟩ := List.append_of_mem hf
  rw [List.foldl_append, List.foldl_cons]
  have hbefore := foldl_keeps (fun g hg => hI g (List.mem_append_left _ hg)) hs
  have hlater : ∀ g ∈ after, g ∈ before ++ f :: after := fun g hg =>
    List.mem_append_right _ (List.mem_cons_of_mem _ hg)
  refine (foldl_keeps (Q := fun s => I s ∧ Q s) ?_ ⟨hI f hf _ hbefore, hmakes _ hbefore⟩).2
  intro g hg t ht
  exact ⟨hI g (hlater g hg) t ht.1, hQ g (hlater g hg) t ht.1 ht.2⟩

end Sql
