import Mathlib.Algebra.Order.BigOperators.Group.List
import Mathlib.Algebra.Order.Field.Basic
import Mathlib.Algebra.Order.Ring.Rat
import Mathlib.Data.List.Dedup
import Mathlib.Data.List.MinMax
import Mathlib.Order.Std
import Mathlib.Tactic.Linarith

/-!
# Aggregate functions

The aggregate functions of SQL over the rows of a query.  An expression is a function of the row,
`none` where it is `NULL`; `AVG`, `MAX` and `MIN` skip its nulls and are null themselves where
nothing is left.

    AVG(e) = some a, MAX(e) = some m → a ≤ m, and likewise for MIN       (avg_le_max, min_le_avg)
    CASE WHEN p THEN e END has the values of e in the rows with p                 (values_caseWhen)
    AVG over 1.0 and 0.0 = the share of the rows with 1.0                           (avg_indicator)
    GROUP BY has every key once, with its number of rows    (groupCount_nodup, mem_groupCount_iff)
-/

namespace Sql

variable {α β κ : Type*}

/-! ## Functions -/

/-- The values of an expression that are not `NULL`. -/
def values (e : α → Option β) (rows : List α) : List β := rows.filterMap e

def mean (l : List ℚ) : ℚ := l.sum / l.length

def avg (e : α → Option ℚ) (rows : List α) : Option ℚ :=
  if values e rows = [] then none else some (mean (values e rows))

def max [LinearOrder β] (e : α → Option β) (rows : List α) : Option β := (values e rows).max?

def min [LinearOrder β] (e : α → Option β) (rows : List α) : Option β := (values e rows).min?

/-- `CASE WHEN p THEN x END`. -/
def caseWhen (p : Bool) (x : Option β) : Option β := if p then x else none

/-- `1.0` and `0.0`. -/
def indicator (b : Bool) : ℚ := if b then 1 else 0

/-- The first row with `p` in the order of `time`. -/
def first (time : α → Nat) (p : α → Bool) (rows : List α) : Option α :=
  (rows.filter p).argmin time

/-- `SELECT e, COUNT(*) … WHERE e IS NOT NULL GROUP BY e`. -/
def groupCount [DecidableEq κ] (e : α → Option κ) (rows : List α) : List (κ × Nat) :=
  (values e rows).dedup.map fun k => (k, rows.countP fun r => e r = some k)

/-! ## Averages -/

theorem mean_le {l : List ℚ} {m : ℚ} (hl : l ≠ []) (h : ∀ v ∈ l, v ≤ m) : mean l ≤ m := by
  have hpos : (0 : ℚ) < l.length := by exact_mod_cast List.length_pos_iff.2 hl
  have hsum := List.sum_le_card_nsmul l m h
  rw [nsmul_eq_mul] at hsum
  unfold mean
  rw [div_le_iff₀ hpos]
  linarith

theorem le_mean {l : List ℚ} {m : ℚ} (hl : l ≠ []) (h : ∀ v ∈ l, m ≤ v) : m ≤ mean l := by
  have hpos : (0 : ℚ) < l.length := by exact_mod_cast List.length_pos_iff.2 hl
  have hsum := List.card_nsmul_le_sum l m h
  rw [nsmul_eq_mul] at hsum
  unfold mean
  rw [le_div_iff₀ hpos]
  linarith

section
variable {e : α → Option ℚ} {rows : List α}

theorem avg_eq_some_iff {a : ℚ} :
    avg e rows = some a ↔ values e rows ≠ [] ∧ mean (values e rows) = a := by
  unfold avg
  by_cases h : values e rows = []
  · simp [h]
  · simp [h]

theorem avg_congr {e' : α → Option ℚ} (h : values e rows = values e' rows) :
    avg e rows = avg e' rows := by
  unfold avg
  rw [h]

theorem avg_eq_none_iff : avg e rows = none ↔ values e rows = [] := by
  unfold avg
  by_cases h : values e rows = []
  · simp [h]
  · simp [h]

end

section
variable [LinearOrder β] {e : α → Option β} {rows : List α} {m : β}

theorem max_eq_some_iff :
    max e rows = some m ↔ m ∈ values e rows ∧ ∀ v ∈ values e rows, v ≤ m :=
  List.max?_eq_some_iff

theorem min_eq_some_iff :
    min e rows = some m ↔ m ∈ values e rows ∧ ∀ v ∈ values e rows, m ≤ v :=
  List.min?_eq_some_iff

theorem max_eq_none_iff : max e rows = none ↔ values e rows = [] := List.max?_eq_none_iff

theorem min_eq_none_iff : min e rows = none ↔ values e rows = [] := List.min?_eq_none_iff

end

/-! ## Bounds -/

section
variable {e : α → Option ℚ} {rows : List α} {a m : ℚ}

theorem avg_le_max (ha : avg e rows = some a) (hm : max e rows = some m) : a ≤ m := by
  obtain ⟨hne, rfl⟩ := avg_eq_some_iff.1 ha
  exact mean_le hne (max_eq_some_iff.1 hm).2

theorem min_le_avg (ha : avg e rows = some a) (hm : min e rows = some m) : m ≤ a := by
  obtain ⟨hne, rfl⟩ := avg_eq_some_iff.1 ha
  exact le_mean hne (min_eq_some_iff.1 hm).2

end

/-! ## Expressions -/

/-- A `CASE` without `ELSE` leaves the rows of its condition. -/
theorem values_caseWhen (p : α → Bool) (x : α → Option β) (rows : List α) :
    values (fun r => caseWhen (p r && (x r).isSome) (x r)) rows = values x (rows.filter p) := by
  unfold values
  rw [List.filterMap_filter]
  refine List.filterMap_congr fun r _ => ?_
  cases hp : p r with
  | false => simp [caseWhen]
  | true => cases hx : x r <;> simp [caseWhen]

theorem values_map {γ : Type*} (f : β → γ) (x : α → Option β) (rows : List α) :
    values (fun r => (x r).map f) rows = (values x rows).map f := by
  unfold values
  rw [List.map_filterMap]

/-- A monotone function of the values has its maximum at theirs. -/
theorem max_map {γ : Type*} [LinearOrder β] [LinearOrder γ] {f : β → γ} (hf : Monotone f)
    (e : α → Option β) (rows : List α) :
    max (fun r => (e r).map f) rows = (max e rows).map f := by
  cases hm : max e rows with
  | none =>
    refine max_eq_none_iff.2 ?_
    rw [values_map, max_eq_none_iff.1 hm]
    rfl
  | some m =>
    obtain ⟨hmem, hle⟩ := max_eq_some_iff.1 hm
    refine max_eq_some_iff.2 ⟨?_, fun v hv => ?_⟩
    · rw [values_map]
      exact List.mem_map_of_mem hmem
    · rw [values_map] at hv
      obtain ⟨w, hw, rfl⟩ := List.mem_map.1 hv
      exact hf (hle w hw)

theorem sum_indicator (l : List Bool) : (l.map indicator).sum = (l.count true : ℚ) := by
  induction l with
  | nil => rfl
  | cons b l ih => cases b <;> simp [indicator, ih, add_comm]

theorem length_values (x : α → Option β) (rows : List α) :
    (values x rows).length = rows.countP fun r => (x r).isSome := by
  unfold values
  rw [List.length_filterMap_eq_countP]

theorem count_values [DecidableEq β] (x : α → Option β) (v : β) (rows : List α) :
    (values x rows).count v = rows.countP fun r => x r = some v := by
  unfold values
  induction rows with
  | nil => rfl
  | cons r rows ih =>
    cases hx : x r with
    | none => simp [hx, ih]
    | some w =>
      by_cases hw : w = v
      · simp [hx, hw, ih]
      · simp [hx, hw, ih]

/-- The average of an indicator is a share. -/
theorem avg_indicator (x : α → Option Bool) (rows : List α) :
    avg (fun r => (x r).map indicator) rows =
      if rows.countP (fun r => (x r).isSome) = 0 then none
      else some ((rows.countP fun r => x r = some true : ℚ) /
        (rows.countP fun r => (x r).isSome)) := by
  have hnil : (values x rows).map indicator = [] ↔ rows.countP (fun r => (x r).isSome) = 0 := by
    rw [List.map_eq_nil_iff, ← List.length_eq_zero_iff, length_values]
  unfold avg mean
  rw [values_map]
  simp only [hnil, sum_indicator, count_values, List.length_map, length_values]

/-! ## Groups -/

theorem groupCount_nodup [DecidableEq κ] (e : α → Option κ) (rows : List α) :
    ((groupCount e rows).map Prod.fst).Nodup := by
  unfold groupCount
  rw [List.map_map]
  exact (List.map_id _).symm ▸ List.nodup_dedup _

theorem mem_groupCount_iff [DecidableEq κ] {e : α → Option κ} {rows : List α} {k : κ} {n : Nat} :
    (k, n) ∈ groupCount e rows ↔
      (∃ r ∈ rows, e r = some k) ∧ n = rows.countP fun r => e r = some k := by
  unfold groupCount values
  rw [List.mem_map]
  constructor
  · rintro ⟨k', hk, hkn⟩
    obtain ⟨rfl, rfl⟩ := Prod.mk.inj hkn
    exact ⟨List.mem_filterMap.1 (List.mem_dedup.1 hk), rfl⟩
  · rintro ⟨hk, rfl⟩
    exact ⟨k, List.mem_dedup.2 (List.mem_filterMap.2 hk), rfl⟩

end Sql
