import Mathlib.Order.Bounds.Basic
import Mathlib.Order.Interval.Set.Defs

/-!
# Bisection

The last number at which a predicate holds, between two bounds, where it holds up to some number and
not from there on.  The middle is rounded up, so that the interval shrinks either way.

    p holds at low and fails above wherever it fails →
      lastTrue p low high is the greatest number in [low, high] at which p holds
                                                                         (isGreatest_lastTrue)
-/

namespace Bisection

def middle (low high : Nat) : Nat := (low + high + 1) / 2

theorem middle_le {low high : Nat} (h : low < high) : middle low high ≤ high := by
  unfold middle
  omega

theorem lt_middle {low high : Nat} (h : low < high) : low < middle low high := by
  unfold middle
  omega

/-- The loop `while low < high`. -/
def lastTrue (p : Nat → Bool) (low high : Nat) : Nat :=
  if h : low < high then
    if p (middle low high) then lastTrue p (middle low high) high
    else lastTrue p low (middle low high - 1)
  else low
termination_by high - low
decreasing_by
  · have := lt_middle h
    omega
  · have := middle_le h
    have := lt_middle h
    omega

theorem lastTrue_le (p : Nat → Bool) {low high : Nat} (hle : low ≤ high) :
    lastTrue p low high ≤ high := by
  fun_induction lastTrue p low high with
  | case1 low high h hmid ih => exact ih (middle_le h)
  | case2 low high h hmid ih =>
    have hlt := lt_middle h
    have hmle := middle_le h
    exact (ih (by omega)).trans (by omega)
  | case3 low high h => exact hle

/-- **Bisection finds the last one**: where `p` fails, it fails from there on. -/
theorem isGreatest_lastTrue {p : Nat → Bool} {low high : Nat} (hle : low ≤ high)
    (hlow : p low = true)
    (hmono : ∀ i j, low ≤ i → i ≤ j → j ≤ high → p j = true → p i = true) :
    IsGreatest {k | k ∈ Set.Icc low high ∧ p k = true} (lastTrue p low high) := by
  fun_induction lastTrue p low high with
  | case1 low high h hmid ih =>
    have hlt := lt_middle h
    have hmle := middle_le h
    obtain ⟨⟨⟨hl, hh⟩, hk⟩, hub⟩ := ih hmle hmid fun i j hi => hmono i j (hlt.le.trans hi)
    refine ⟨⟨⟨hlt.le.trans hl, hh⟩, hk⟩, ?_⟩
    rintro k ⟨⟨hkl, hkh⟩, hpk⟩
    -- at the middle it holds, so the last one is not below it
    rcases Nat.lt_or_ge k (middle low high) with hlow' | hge
    · exact hlow'.le.trans hl
    · exact hub ⟨⟨hge, hkh⟩, hpk⟩
  | case2 low high h hmid ih =>
    have hlt := lt_middle h
    have hmle := middle_le h
    obtain ⟨⟨⟨hl, hh⟩, hk⟩, hub⟩ :=
      ih (by omega) hlow fun i j hi hij hj => hmono i j hi hij (by omega)
    refine ⟨⟨⟨hl, by omega⟩, hk⟩, ?_⟩
    rintro k ⟨⟨hkl, hkh⟩, hpk⟩
    -- at the middle it fails, so it fails from there on
    rcases Nat.lt_or_ge k (middle low high) with hlow' | hge
    · exact hub ⟨⟨hkl, by omega⟩, hpk⟩
    · exact absurd (hmono _ _ hlt.le hge hkh hpk) hmid
  | case3 low high h =>
    refine ⟨⟨⟨le_refl _, hle⟩, hlow⟩, ?_⟩
    rintro k ⟨⟨-, hkh⟩, -⟩
    omega

end Bisection
