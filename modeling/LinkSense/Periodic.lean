import Mathlib.Data.List.Nodup
import Mathlib.Data.List.Perm.Subperm
import Mathlib.Data.Nat.ModEq

/-!
# Periodic runs in buckets of time

A job runs every `period`, at the times that are `phase` modulo it, and time is cut into buckets
of width `w`.  How many of `n` buckets in a row see a run:

    period ≤ w → all of them                                            (length_hits_of_le)
    w ≤ period → at least `n * w / period`, whatever the phase          (le_length_hits)
    and no more for the phase that runs as late as it can               (length_hits_late)
-/

namespace Periodic

/-! ## Runs and buckets -/

def RunsAt (period phase t : Nat) : Prop := t % period = phase % period

instance (period phase t : Nat) : Decidable (RunsAt period phase t) :=
  inferInstanceAs (Decidable (_ = _))

/-- The job runs in the bucket from `start` on. -/
def hit (w period phase start : Nat) : Bool :=
  (List.range w).any fun i => RunsAt period phase (start + i)

/-- The starts of those of the `n` buckets from `a` on in which the job runs. -/
def hits (w period phase a n : Nat) : List Nat :=
  ((List.range n).map fun j => a + w * j).filter (hit w period phase)

/-! ## Lemmas -/

variable {w period phase a n : Nat}

/-- Any stretch of one period has a run. -/
theorem exists_runsAt (hperiod : 0 < period) (phase a : Nat) :
    ∃ d, d < period ∧ RunsAt period phase (a + d) := by
  refine ⟨(phase + (period - a % period)) % period, Nat.mod_lt _ hperiod, ?_⟩
  have ha := Nat.div_add_mod a period
  have hlt := Nat.mod_lt a hperiod
  have hsum : a + (phase + (period - a % period)) = phase + period * (a / period + 1) := by
    rw [Nat.mul_add, Nat.mul_one]
    omega
  unfold RunsAt
  rw [Nat.add_mod_mod, hsum, Nat.add_mul_mod_self_left]

theorem runsAt_add_mul {t : Nat} (h : RunsAt period phase t) (k : Nat) :
    RunsAt period phase (t + k * period) := by
  unfold RunsAt at h ⊢
  rw [Nat.add_mul_mod_self_right, h]

theorem hit_iff {start : Nat} :
    hit w period phase start = true ↔ ∃ t, start ≤ t ∧ t < start + w ∧ RunsAt period phase t := by
  unfold hit
  simp only [List.any_eq_true, List.mem_range, decide_eq_true_eq]
  constructor
  · rintro ⟨i, hi, hrun⟩
    exact ⟨start + i, by omega, by omega, hrun⟩
  · rintro ⟨t, hle, hlt, hrun⟩
    refine ⟨t - start, by omega, ?_⟩
    rwa [Nat.add_sub_cancel' hle]

theorem mem_hits_iff {start : Nat} :
    start ∈ hits w period phase a n ↔
      (∃ j, j < n ∧ a + w * j = start) ∧ hit w period phase start = true := by
  unfold hits
  simp only [List.mem_filter, List.mem_map, List.mem_range]

theorem nodup_hits (hw : 0 < w) (period phase a n : Nat) : (hits w period phase a n).Nodup := by
  refine List.Nodup.filter _ (List.Nodup.map (fun i j hij => ?_) List.nodup_range)
  exact Nat.eq_of_mul_eq_mul_left hw (Nat.add_left_cancel hij)

theorem length_hits_le (w period phase a n : Nat) : (hits w period phase a n).length ≤ n := by
  have h := List.length_filter_le (hit w period phase) ((List.range n).map fun j => a + w * j)
  rwa [List.length_map, List.length_range] at h

/-- A job that runs at least once a bucket hits every bucket. -/
theorem length_hits_of_le (hperiod : 0 < period) (hle : period ≤ w) (phase a n : Nat) :
    (hits w period phase a n).length = n := by
  unfold hits
  rw [List.filter_eq_self.2, List.length_map, List.length_range]
  intro start _
  obtain ⟨d, hd, hrun⟩ := exists_runsAt hperiod phase start
  exact hit_iff.2 ⟨start + d, by omega, by omega, hrun⟩

/-- **Slow jobs** hit as many buckets as the periods that fit in: their runs are in different
buckets. -/
theorem le_length_hits (hw : 0 < w) (hle : w ≤ period) (phase a n : Nat) :
    n * w / period ≤ (hits w period phase a n).length := by
  have hperiod : 0 < period := Nat.lt_of_lt_of_le hw hle
  obtain ⟨d, hd, hrun⟩ := exists_runsAt hperiod phase a
  let bucket := fun k => a + w * ((d + k * period) / w)
  have hstep : ∀ i k, i < k → bucket i < bucket k := by
    intro i k hik
    have hmul : i * period + w ≤ k * period := by
      calc i * period + w ≤ (i + 1) * period := by rw [Nat.add_mul, Nat.one_mul]; omega
        _ ≤ k * period := Nat.mul_le_mul_right period hik
    have hdiv : (d + i * period) / w + 1 ≤ (d + k * period) / w := by
      rw [← Nat.add_div_right _ hw]
      exact Nat.div_le_div_right (by omega)
    have := Nat.mul_lt_mul_of_pos_left (Nat.lt_of_succ_le hdiv) hw
    show a + _ < a + _
    omega
  have hnodup : ((List.range (n * w / period)).map bucket).Nodup := by
    refine List.Nodup.map (fun i k hik => ?_) List.nodup_range
    rcases Nat.lt_trichotomy i k with h | h | h
    · exact absurd hik (Nat.ne_of_lt (hstep i k h))
    · exact h
    · exact absurd hik.symm (Nat.ne_of_lt (hstep k i h))
  have hsub : (List.range (n * w / period)).map bucket ⊆ hits w period phase a n := by
    intro start hstart
    obtain ⟨k, hk, rfl⟩ := List.mem_map.1 hstart
    have hfit : (k + 1) * period ≤ n * w :=
      (Nat.le_div_iff_mul_le hperiod).1 (List.mem_range.1 hk)
    rw [Nat.add_mul, Nat.one_mul] at hfit
    have hdm := Nat.div_add_mod (d + k * period) w
    have hmod := Nat.mod_lt (d + k * period) hw
    refine mem_hits_iff.2 ⟨⟨(d + k * period) / w, ?_, rfl⟩, hit_iff.2 ⟨a + d + k * period, ?_, ?_,
      runsAt_add_mul hrun k⟩⟩
    · exact (Nat.div_lt_iff_lt_mul hw).2 (by omega)
    · show a + _ ≤ _
      omega
    · show _ < a + _ + w
      omega
  have hlength := (hnodup.subperm hsub).length_le
  rwa [List.length_map, List.length_range] at hlength

/-- **The latest phase**: runs at the end of each period from `a` on hit no more than that. -/
theorem length_hits_late (hw : 0 < w) (hperiod : 0 < period) (a n : Nat) :
    (hits w period (a + period - 1) a n).length ≤ n * w / period := by
  have hsub : hits w period (a + period - 1) a n ⊆
      (List.range (n * w / period)).map fun q => a + w * (((q + 1) * period - 1) / w) := by
    intro start hstart
    obtain ⟨⟨j, hj, rfl⟩, hhit⟩ := mem_hits_iff.1 hstart
    obtain ⟨t, hle, hlt, hrun⟩ := hit_iff.1 hhit
    -- the run ends a period
    have hmod : a + period ≡ t + 1 [MOD period] := by
      have hsucc := Nat.ModEq.add_right 1 (show t ≡ a + period - 1 [MOD period] from hrun)
      rw [Nat.sub_add_cancel (by omega)] at hsucc
      exact hsucc.symm
    have hend : a ≡ t + 1 [MOD period] := (Nat.add_modEq_right (a := a)).symm.trans hmod
    obtain ⟨q, hq⟩ := (Nat.modEq_iff_dvd' (by omega)).1 hend
    have hpos : 0 < q := by
      rcases Nat.eq_zero_or_pos q with rfl | h
      · omega
      · exact h
    have hlast : w * j + w ≤ n * w := by
      calc w * j + w = (j + 1) * w := by rw [Nat.add_mul, Nat.one_mul, Nat.mul_comm]
        _ ≤ n * w := Nat.mul_le_mul_right w hj
    refine List.mem_map.2 ⟨q - 1, List.mem_range.2 ?_, ?_⟩
    · have hle' : q * period ≤ n * w := by
        rw [Nat.mul_comm, ← hq]
        omega
      have := (Nat.le_div_iff_mul_le hperiod).2 hle'
      omega
    · have hq' : (q - 1 + 1) * period - 1 = t - a := by
        rw [Nat.sub_add_cancel hpos, Nat.mul_comm, ← hq]
        omega
      have hdiv : (t - a) / w = j := by
        rw [Nat.div_eq_iff hw, Nat.mul_comm]
        omega
      show a + w * (((q - 1 + 1) * period - 1) / w) = a + w * j
      rw [hq', hdiv]
  have hlength := ((nodup_hits hw _ _ a n).subperm hsub).length_le
  rwa [List.length_map, List.length_range] at hlength

end Periodic
