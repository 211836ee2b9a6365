import Mathlib.Algebra.GroupWithZero.Nat
import Mathlib.Data.List.Basic
import Mathlib.Data.Nat.Basic

/-!
# Passes over windows of time

Rows of several streams arrive with a time, and passes collect the rows of one window
`[start, stop)` of one stream.  Windows have one width `w` and start at multiples of it, so two
windows of a stream are equal or disjoint; a pass over a window that was collected before
replaces the earlier one.

`Covered`: a row that some pass of its stream has left behind is in exactly one pass.

    rows are written → (still Covered ↔ none of them has been passed)        (write_covered_iff)
    a window is collected → (still Covered ↔ every row of the stream before its end is in this
      pass or lies before the window and has been passed)                     (pass_covered_iff)
    different windows between two times count no row between them twice   (sum_countP_window_le)
-/

namespace Tumbling

/-! ## Rows, passes and histories -/

structure Row (κ : Type*) where
  stream : κ
  id : Nat
  time : Nat
deriving DecidableEq, Repr

structure Pass (κ : Type*) where
  stream : κ
  start : Nat
  stop : Nat
  ids : List Nat
deriving DecidableEq, Repr

/-- All rows written so far, and the latest pass over each window. -/
structure History (κ : Type*) where
  written : List (Row κ)
  passes : List (Pass κ)
deriving DecidableEq, Repr

variable {κ : Type*} [DecidableEq κ]

namespace Pass

def contains (p : Pass κ) (x : Row κ) : Bool := p.stream = x.stream && p.ids.contains x.id

/-- The pass has left the row behind, in its window or before it. -/
def spans (p : Pass κ) (x : Row κ) : Bool := p.stream = x.stream && x.time < p.stop

def sameWindow (p q : Pass κ) : Bool :=
  p.stream = q.stream && (p.start = q.start && p.stop = q.stop)

end Pass

namespace History

def passed (h : History κ) (x : Row κ) : Bool := h.passes.any (·.spans x)

def write (h : History κ) (rows : List (Row κ)) : History κ :=
  { h with written := h.written ++ rows }

/-- The latest pass over a window counts. -/
def pass (h : History κ) (p : Pass κ) : History κ :=
  { h with passes := h.passes.filter (fun q => !q.sameWindow p) ++ [p] }

/-- What has been passed is in exactly one pass. -/
def Covered (h : History κ) : Prop :=
  ∀ x ∈ h.written, h.passed x = true → h.passes.countP (·.contains x) = 1

/-- Windows of width `w`; a row is known by its stream and id. -/
structure WellFormed (w : Nat) (h : History κ) : Prop where
  aligned : ∀ p ∈ h.passes, w ∣ p.start ∧ p.stop = p.start + w
  within : ∀ p ∈ h.passes, ∀ i ∈ p.ids, ∃ x ∈ h.written, x.stream = p.stream ∧ x.id = i ∧
    p.start ≤ x.time ∧ x.time < p.stop
  unique : ∀ x ∈ h.written, ∀ y ∈ h.written, x.stream = y.stream → x.id = y.id → x = y

end History

/-! ## Lemmas -/

theorem Pass.contains_iff (p : Pass κ) (x : Row κ) :
    p.contains x = true ↔ p.stream = x.stream ∧ x.id ∈ p.ids := by
  simp [Pass.contains]

theorem Pass.spans_iff (p : Pass κ) (x : Row κ) :
    p.spans x = true ↔ p.stream = x.stream ∧ x.time < p.stop := by
  simp [Pass.spans]

theorem Pass.sameWindow_iff (p q : Pass κ) :
    p.sameWindow q = true ↔ p.stream = q.stream ∧ p.start = q.start ∧ p.stop = q.stop := by
  simp [Pass.sameWindow]

/-- Two aligned windows that share a time are one window. -/
theorem window_unique {w a b t : Nat} (ha : w ∣ a) (hb : w ∣ b) (hat : a ≤ t) (hta : t < a + w)
    (hbt : b ≤ t) (htb : t < b + w) : a = b := by
  obtain ⟨m, rfl⟩ := ha
  obtain ⟨n, rfl⟩ := hb
  have hw : 0 < w := by omega
  have hm : t / w = m := by
    rw [Nat.div_eq_iff hw]
    constructor
    · rw [Nat.mul_comm]
      exact hat
    · rw [Nat.mul_comm]
      omega
  have hn : t / w = n := by
    rw [Nat.div_eq_iff hw]
    constructor
    · rw [Nat.mul_comm]
      exact hbt
    · rw [Nat.mul_comm]
      omega
  rw [← hm, hn]

namespace History

theorem passed_iff (h : History κ) (x : Row κ) :
    h.passed x = true ↔ ∃ p ∈ h.passes, p.stream = x.stream ∧ x.time < p.stop := by
  simp [passed, Pass.spans_iff]

variable {w : Nat} {h : History κ}

/-- A pass contains rows of its window only. -/
theorem WellFormed.time_of_contains (hw : h.WellFormed w) {p : Pass κ} (hp : p ∈ h.passes)
    {x : Row κ} (hx : x ∈ h.written) (hc : p.contains x = true) :
    p.start ≤ x.time ∧ x.time < p.stop := by
  obtain ⟨hs, hi⟩ := (p.contains_iff x).1 hc
  obtain ⟨y, hy, hys, hyi, htime⟩ := hw.within p hp x.id hi
  have : y = x := hw.unique y hy x hx (hys.trans hs) hyi
  rwa [this] at htime

theorem WellFormed.passed_of_contains (hw : h.WellFormed w) {p : Pass κ} (hp : p ∈ h.passes)
    {x : Row κ} (hx : x ∈ h.written) (hc : p.contains x = true) : h.passed x = true := by
  rw [passed_iff]
  exact ⟨p, hp, ((p.contains_iff x).1 hc).1, (hw.time_of_contains hp hx hc).2⟩

/-! ## Writing -/

omit [DecidableEq κ] in
theorem WellFormed.write (hw : h.WellFormed w) {rows : List (Row κ)}
    (hnew : ∀ x ∈ rows, ∀ y ∈ h.written ++ rows, x.stream = y.stream → x.id = y.id → x = y) :
    (h.write rows).WellFormed w where
  aligned := hw.aligned
  within := by
    intro p hp i hi
    obtain ⟨x, hx, hrest⟩ := hw.within p hp i hi
    exact ⟨x, List.mem_append_left _ hx, hrest⟩
  unique := by
    intro x hx y hy hs hi
    rcases List.mem_append.1 hx with hx' | hx'
    · rcases List.mem_append.1 hy with hy' | hy'
      · exact hw.unique x hx' y hy' hs hi
      · exact (hnew y hy' x hx hs.symm hi.symm).symm
    · exact hnew x hx' y hy hs hi

/-- **Late rows**: new rows leave everything covered exactly when none of them is late. -/
theorem write_covered_iff (hw : h.WellFormed w) (hc : h.Covered) {rows : List (Row κ)}
    (hfresh : ∀ x ∈ rows, ∀ y ∈ h.written, x.stream = y.stream → x.id ≠ y.id) :
    (h.write rows).Covered ↔ ∀ x ∈ rows, h.passed x = false := by
  have hzero : ∀ x ∈ rows, h.passes.countP (·.contains x) = 0 := by
    intro x hx
    rw [List.countP_eq_zero]
    intro p hp hcon
    obtain ⟨hs, hi⟩ := (p.contains_iff x).1 hcon
    obtain ⟨y, hy, hys, hyi, -⟩ := hw.within p hp x.id hi
    exact hfresh x hx y hy (hs.symm.trans hys.symm) hyi.symm
  constructor
  · intro hcov x hx
    by_contra hne
    rw [Bool.not_eq_false] at hne
    have hone : h.passes.countP (·.contains x) = 1 := hcov x (List.mem_append_right _ hx) hne
    rw [hzero x hx] at hone
    cases hone
  · intro hlate x hx hp
    have hp' : h.passed x = true := hp
    rcases List.mem_append.1 hx with hx' | hx'
    · exact hc x hx' hp'
    · rw [hlate x hx'] at hp'
      cases hp'

/-! ## Passing -/

theorem passed_pass_iff (h : History κ) (p : Pass κ) (x : Row κ) :
    (h.pass p).passed x = true ↔ h.passed x = true ∨ p.spans x = true := by
  simp only [passed_iff, Pass.spans_iff]
  constructor
  · rintro ⟨q, hq, hover⟩
    rcases List.mem_append.1 hq with hq | hq
    · exact .inl ⟨q, List.mem_of_mem_filter hq, hover⟩
    · rw [List.mem_singleton] at hq
      rw [hq] at hover
      exact .inr hover
  · rintro (⟨q, hq, hover⟩ | hover)
    · by_cases hsame : q.sameWindow p = true
      · obtain ⟨hs, -, hstop⟩ := (q.sameWindow_iff p).1 hsame
        refine ⟨p, List.mem_append_right _ (List.mem_singleton_self p), ?_⟩
        rw [← hs, ← hstop]
        exact hover
      · refine ⟨q, List.mem_append_left _ (List.mem_filter.2 ⟨hq, ?_⟩), hover⟩
        simpa using hsame
    · exact ⟨p, List.mem_append_right _ (List.mem_singleton_self p), hover⟩

theorem WellFormed.pass (hw : h.WellFormed w) {p : Pass κ} (ha : w ∣ p.start)
    (hstop : p.stop = p.start + w)
    (hids : ∀ i ∈ p.ids, ∃ x ∈ h.written, x.stream = p.stream ∧ x.id = i ∧
      p.start ≤ x.time ∧ x.time < p.stop) : (h.pass p).WellFormed w where
  aligned := by
    intro q hq
    rcases List.mem_append.1 hq with hq | hq
    · exact hw.aligned q (List.mem_of_mem_filter hq)
    · rw [List.mem_singleton] at hq
      rw [hq]
      exact ⟨ha, hstop⟩
  within := by
    intro q hq
    rcases List.mem_append.1 hq with hq | hq
    · exact hw.within q (List.mem_of_mem_filter hq)
    · rw [List.mem_singleton] at hq
      rw [hq]
      exact hids
  unique := hw.unique

theorem countP_pass (h : History κ) (p : Pass κ) (x : Row κ) :
    (h.pass p).passes.countP (·.contains x) =
      (h.passes.filter fun q => !q.sameWindow p).countP (·.contains x) +
        if p.contains x = true then 1 else 0 := by
  show List.countP _ (_ ++ [p]) = _
  rw [List.countP_append, List.countP_singleton]

/-- Inside its window, a pass is the only one that can contain a row. -/
theorem countP_pass_inside (hw : h.WellFormed w) {p : Pass κ} (ha : w ∣ p.start)
    (hstop : p.stop = p.start + w) {x : Row κ} (hx : x ∈ h.written)
    (hs : p.stream = x.stream) (hstart : p.start ≤ x.time) (hend : x.time < p.stop) :
    (h.pass p).passes.countP (·.contains x) = if x.id ∈ p.ids then 1 else 0 := by
  have hzero : (h.passes.filter fun q => !q.sameWindow p).countP (·.contains x) = 0 := by
    rw [List.countP_eq_zero]
    intro q hq hcon
    obtain ⟨hq, hdiff⟩ := List.mem_filter.1 hq
    obtain ⟨hqs, -⟩ := (q.contains_iff x).1 hcon
    obtain ⟨hqa, hqstop⟩ := hw.aligned q hq
    obtain ⟨h1, h2⟩ := hw.time_of_contains hq hx hcon
    have hsame : q.start = p.start :=
      window_unique hqa ha h1 (by omega) hstart (by omega)
    have : q.sameWindow p = true :=
      (q.sameWindow_iff p).2 ⟨hqs.trans hs.symm, hsame, by omega⟩
    rw [this] at hdiff
    cases hdiff
  rw [countP_pass, hzero, Nat.zero_add]
  by_cases hi : x.id ∈ p.ids
  · rw [if_pos hi, if_pos ((p.contains_iff x).2 ⟨hs, hi⟩)]
  · rw [if_neg hi, if_neg (fun hc => hi ((p.contains_iff x).1 hc).2)]

/-- Outside its window, a pass changes nothing. -/
theorem countP_pass_outside (hw : h.WellFormed w) {p : Pass κ}
    (hids : ∀ i ∈ p.ids, ∃ x ∈ h.written, x.stream = p.stream ∧ x.id = i ∧
      p.start ≤ x.time ∧ x.time < p.stop) {x : Row κ} (hx : x ∈ h.written)
    (hout : ¬ (p.stream = x.stream ∧ p.start ≤ x.time ∧ x.time < p.stop)) :
    (h.pass p).passes.countP (·.contains x) = h.passes.countP (·.contains x) := by
  have hp : p.contains x = false := by
    by_contra hc
    rw [Bool.not_eq_false] at hc
    obtain ⟨hs, hi⟩ := (p.contains_iff x).1 hc
    obtain ⟨y, hy, hys, hyi, htime⟩ := hids x.id hi
    have : y = x := hw.unique y hy x hx (hys.trans hs) hyi
    rw [this] at htime
    exact hout ⟨hs, htime⟩
  rw [countP_pass, hp, List.countP_filter]
  simp only [Bool.false_eq_true, if_false, Nat.add_zero]
  refine List.countP_congr fun q hq => ?_
  rw [Bool.and_eq_true, and_iff_left_iff_imp]
  intro hc
  by_contra hsame
  have hsame : q.sameWindow p = true := by simpa using hsame
  obtain ⟨hs, hstart, hstop⟩ := (q.sameWindow_iff p).1 hsame
  obtain ⟨h1, h2⟩ := hw.time_of_contains hq hx hc
  refine hout ⟨hs ▸ ((q.contains_iff x).1 hc).1, ?_, ?_⟩ <;> omega

/-- **Passes**: a pass leaves everything covered exactly when it takes every row of its window,
and leaves none behind that no earlier pass has left behind. -/
theorem pass_covered_iff (hw : h.WellFormed w) (hc : h.Covered) {p : Pass κ} (ha : w ∣ p.start)
    (hstop : p.stop = p.start + w)
    (hids : ∀ i ∈ p.ids, ∃ x ∈ h.written, x.stream = p.stream ∧ x.id = i ∧
      p.start ≤ x.time ∧ x.time < p.stop) :
    (h.pass p).Covered ↔ ∀ x ∈ h.written, p.stream = x.stream → x.time < p.stop →
      if p.start ≤ x.time then x.id ∈ p.ids else h.passed x = true := by
  constructor
  · intro hcov x hx hs hend
    have hpassed : (h.pass p).passed x = true :=
      (passed_pass_iff h p x).2 (.inr ((p.spans_iff x).2 ⟨hs, hend⟩))
    have hone := hcov x hx hpassed
    by_cases hstart : p.start ≤ x.time
    · rw [if_pos hstart]
      rw [countP_pass_inside hw ha hstop hx hs hstart hend] at hone
      by_contra hi
      rw [if_neg hi] at hone
      cases hone
    · rw [if_neg hstart]
      rw [countP_pass_outside hw hids hx (fun hin => hstart hin.2.1)] at hone
      obtain ⟨q, hq, hcon⟩ := List.countP_pos_iff.1 (by omega : 0 < h.passes.countP (·.contains x))
      exact hw.passed_of_contains hq hx hcon
  · intro hall x hx hpassed
    by_cases hover : p.stream = x.stream ∧ x.time < p.stop
    · have hrow := hall x hx hover.1 hover.2
      by_cases hstart : p.start ≤ x.time
      · rw [if_pos hstart] at hrow
        rw [countP_pass_inside hw ha hstop hx hover.1 hstart hover.2, if_pos hrow]
      · rw [if_neg hstart] at hrow
        rw [countP_pass_outside hw hids hx (fun hin => hstart hin.2.1)]
        exact hc x hx hrow
    · rw [countP_pass_outside hw hids hx (fun hin => hover ⟨hin.1, hin.2.2⟩)]
      refine hc x hx ?_
      rcases (passed_pass_iff h p x).1 hpassed with hold | hnew
      · exact hold
      · exact absurd ((p.spans_iff x).1 hnew) hover

end History

/-! ## Counting -/

/-- Classes of which no two share an element count each element once. -/
theorem sum_countP_le {ι α : Type*} {p : ι → α → Bool} {q : α → Bool} {classes : List ι}
    (hdisj : classes.Pairwise fun i j => ∀ x, p i x = true → p j x = false)
    (hq : ∀ i ∈ classes, ∀ x, p i x = true → q x = true) (xs : List α) :
    (classes.map fun i => xs.countP (p i)).sum ≤ xs.countP q := by
  induction classes generalizing q with
  | nil => exact Nat.zero_le _
  | cons i classes ih =>
    obtain ⟨hi, hrest⟩ := List.pairwise_cons.1 hdisj
    -- the other classes are within what is left of `q`
    have hother := ih (q := fun x => q x && !p i x) hrest fun j hj x hx => by
      have hnot : p i x = false := by
        by_contra hp
        have := hi j hj x (by simpa using hp)
        rw [hx] at this
        cases this
      rw [hq j (List.mem_cons_of_mem _ hj) x hx, hnot]
      rfl
    have hsplit : xs.countP q = xs.countP (p i) + xs.countP fun x => q x && !p i x := by
      have hin : xs.countP (fun x => q x && p i x) = xs.countP (p i) := by
        refine List.countP_congr fun x _ => ?_
        rw [Bool.and_eq_true]
        exact ⟨fun h => h.2, fun h => ⟨hq i List.mem_cons_self x h, h⟩⟩
      rw [List.countP_eq_countP_filter_add xs q (p i), List.countP_filter, List.countP_filter, hin]
    rw [List.map_cons, List.sum_cons, hsplit]
    exact Nat.add_le_add_left hother _

/-- Aligned windows that start at different times, between `lo` and `hi`. -/
theorem sum_countP_window_le {α : Type*} (time : α → Nat) {w lo hi : Nat} {starts : List Nat}
    (hn : starts.Nodup) (hw : ∀ a ∈ starts, w ∣ a ∧ lo ≤ a ∧ a + w ≤ hi) (xs : List α) :
    (starts.map fun a => xs.countP fun x => a ≤ time x && time x < a + w).sum ≤
      xs.countP fun x => lo ≤ time x && time x < hi := by
  refine sum_countP_le ?_ ?_ xs
  · refine List.Pairwise.imp_of_mem ?_ hn
    intro a b ha hb hne x hx
    rw [Bool.and_eq_true, decide_eq_true_eq, decide_eq_true_eq] at hx
    rw [← Bool.not_eq_true, Bool.and_eq_true, decide_eq_true_eq, decide_eq_true_eq]
    exact fun hx' => hne (window_unique (hw a ha).1 (hw b hb).1 hx.1 hx.2 hx'.1 hx'.2)
  · intro a ha x hx
    have := hw a ha
    rw [Bool.and_eq_true, decide_eq_true_eq, decide_eq_true_eq] at hx ⊢
    omega

end Tumbling
