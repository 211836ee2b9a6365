import LinkSense.Agent.Aggregation
import LinkSense.Agent.Queue

/-!
# Backing off after a failed attempt

`mark_as_failed` counts in an `i32`, raises two to a power before it takes the minimum, and compares
with a bound that is a `usize` cast to an `i32`.  Here it is computed as a build with overflow
checks does, which panics, and as one without does, which wraps; `SendQueue.markAsFailed` is the
build without (markAsFailedIn_false).

    with n the count of this attempt, the entry is what unbounded integers make of it ↔
      0 ≤ n < 2 ^ 31, and the budget is used up, or n ≤ 30, n is below the bound as an i32 and the
      time of the next attempt fits into an i64                                    (backsOff_iff)
    a budget of at most 31 attempts → it is, for every count but the last
                                                                    (withinWidths_of_budget_le)
-/

namespace LinkSense

open Labelled Sql

/-! ## Fixed-width integers -/

/-- The exact result `x` as an `i32`; a build with overflow checks panics if it is none. -/
def i32 (overflowChecks : Bool) (x : Int) : Option Int :=
  if -2 ^ 31 ≤ x ∧ x < 2 ^ 31 then some x
  else if overflowChecks then none else some (x.bmod (2 ^ 32))

/-- The same for a `u64`. -/
def u64 (overflowChecks : Bool) (x : Int) : Option Int :=
  if 0 ≤ x ∧ x < 2 ^ 64 then some x else if overflowChecks then none else some (x % 2 ^ 64)

/-- `2_i32.pow(n)`. -/
def pow2In (overflowChecks : Bool) (n : Nat) : Option Int :=
  if n < 31 then some (2 ^ n) else if overflowChecks then none else some (SendQueue.pow2 n)

namespace SendQueue

/-! ## Marking as failed -/

/-- `failedEntry`, in a build with overflow checks or without; `none` is a panic. -/
def failedEntryIn (overflowChecks : Bool) (now : Nat) (errorMsg : String) (maxRetries : Int)
    (r : QueueRow) : Option QueueRow := do
  let newRetryCount ← i32 overflowChecks (r.retryCount + 1)
  if newRetryCount ≥ maxRetries then
    some { r with
      status := .failed
      retryCount := newRetryCount
      lastRetryAt := some now
      lastError := some errorMsg }
  else
    let power ← pow2In overflowChecks (newRetryCount % 2 ^ 32).toNat
    let backoffMinutes := min power 60
    let pause ← u64 overflowChecks (backoffMinutes % 2 ^ 64 * 60)
    let nextRetryAt ← u64 overflowChecks (now + pause)
    some { r with
      status := .pending
      retryCount := newRetryCount
      lastRetryAt := some now
      nextRetryAt := some (nextRetryAt.bmod (2 ^ 64))
      lastError := some errorMsg }

theorem key_failedEntryIn {overflowChecks : Bool} {now : Nat} {errorMsg : String}
    {maxRetries : Int} {r r' : QueueRow}
    (h : failedEntryIn overflowChecks now errorMsg maxRetries r = some r') : r'.key = r.key := by
  unfold failedEntryIn at h
  obtain ⟨n, -, h⟩ := Option.bind_eq_some_iff.1 h
  split at h
  · obtain rfl := Option.some.inj h
    rfl
  · obtain ⟨power, -, h⟩ := Option.bind_eq_some_iff.1 h
    obtain ⟨pause, -, h⟩ := Option.bind_eq_some_iff.1 h
    obtain ⟨nextRetryAt, -, h⟩ := Option.bind_eq_some_iff.1 h
    obtain rfl := Option.some.inj h
    rfl

/-- `markAsFailed`, in a build with overflow checks or without. -/
def markAsFailedIn (overflowChecks : Bool) (q : SendQueue) (now : Nat) (queueId : Nat)
    (errorMsg : String) (maxRetries : Int) : Option (Except String SendQueue) :=
  match q.get queueId with
  | none => some (.error "Query returned no rows")
  | some r =>
    if r.retryCount < -2 ^ 31 ∨ 2 ^ 31 ≤ r.retryCount then
      some (.error s!"Integer {r.retryCount} out of range at index 0")
    else
      match failedEntryIn overflowChecks now errorMsg maxRetries r with
      | none => none
      | some _ =>
        some (.ok (q.update (fun id r => if id = queueId then
          (failedEntryIn overflowChecks now errorMsg maxRetries r).getD r else r) fun _ r => by
            split
            · cases h' : failedEntryIn overflowChecks now errorMsg maxRetries r with
              | none => rfl
              | some r' => exact key_failedEntryIn h'
            · rfl))

end SendQueue

/-! ## What backing off means -/

/-- Two to the power of the number of attempts in minutes, and an hour at most. -/
def retryPause (n : Int) : Int := 60 * min (2 ^ n.toNat) 60

/-- What a failed attempt makes of an entry in unbounded integers: it has failed for good when the
attempts are used up, and is pending until the pause is over when they are not. -/
structure QueueRow.BacksOff (maxRetries : Nat) (now : Nat) (r r' : QueueRow) : Prop where
  retryCount : r'.retryCount = r.retryCount + 1
  failed : r'.status = .failed ↔ maxRetries ≤ r.retryCount + 1
  pending : r.retryCount + 1 < maxRetries →
    r'.status = .pending ∧ r'.nextRetryAt = some (now + retryPause (r.retryCount + 1))

/-- The attempt is one of those for which the fixed widths suffice. -/
def WithinWidths (maxRetries : Nat) (now : Nat) (retryCount : Int) : Prop :=
  let n := retryCount + 1
  0 ≤ n ∧ n < 2 ^ 31 ∧
    (maxRetries ≤ n ∨
      n ≤ 30 ∧ n < (maxRetries : Int).bmod (2 ^ 32) ∧ now + retryPause n < 2 ^ 63)

theorem retryPause_bounds (n : Int) : 60 ≤ retryPause n ∧ retryPause n ≤ 3600 := by
  have hpos : (0 : Int) < 2 ^ n.toNat := Int.pow_pos (by decide)
  unfold retryPause
  omega

/-- An entry that is pending again is not due at once. -/
theorem QueueRow.BacksOff.later {maxRetries now : Nat} {r r' : QueueRow}
    (h : r.BacksOff maxRetries now r') (hp : r'.status = .pending) :
    ∃ t, r'.nextRetryAt = some t ∧ (now : Int) < t := by
  have hlt : r.retryCount + 1 < maxRetries := by
    by_contra hge
    have hfailed := h.failed.2 (by omega)
    rw [hp] at hfailed
    cases hfailed
  have := retryPause_bounds (r.retryCount + 1)
  exact ⟨_, (h.pending hlt).2, by omega⟩

/-! ## Lemmas -/

theorem bmod_eq_self_iff (x : Int) : x.bmod (2 ^ 32) = x ↔ -2 ^ 31 ≤ x ∧ x < 2 ^ 31 := by
  have hle := Int.le_bmod (x := x) (m := 2 ^ 32) (by decide)
  have hlt := Int.bmod_lt (x := x) (m := 2 ^ 32) (by decide)
  constructor
  · intro h
    rw [h] at hle hlt
    omega
  · intro h
    exact Int.bmod_eq_of_le (by omega) (by omega)

theorem i32_of_range (overflowChecks : Bool) {x : Int} (h : -2 ^ 31 ≤ x ∧ x < 2 ^ 31) :
    i32 overflowChecks x = some x := if_pos h

theorem u64_of_range (overflowChecks : Bool) {x : Int} (h : 0 ≤ x ∧ x < 2 ^ 64) :
    u64 overflowChecks x = some x := if_pos h

@[simp] theorem i32_false (x : Int) : i32 false x = some (x.bmod (2 ^ 32)) := by
  unfold i32
  split
  · next h => rw [(bmod_eq_self_iff x).2 h]
  · rfl

@[simp] theorem u64_false (x : Int) : u64 false x = some (x % 2 ^ 64) := by
  unfold u64
  split
  · next h => rw [Int.emod_eq_of_lt h.1 h.2]
  · rfl

/-- What does not panic is not wrapped. -/
theorem i32_true {x y : Int} (h : i32 true x = some y) : i32 false x = some y := by
  unfold i32 at h ⊢
  split at h
  · next hx => rwa [if_pos hx]
  · cases h

theorem u64_true {x y : Int} (h : u64 true x = some y) : u64 false x = some y := by
  unfold u64 at h ⊢
  split at h
  · next hx => rwa [if_pos hx]
  · cases h

namespace SendQueue

variable {now : Nat} {errorMsg : String} {maxRetries : Int} {r r' : QueueRow}

theorem pow2_eq_bmod (n : Nat) : pow2 n = ((2 : Int) ^ n).bmod (2 ^ 32) := by
  unfold pow2
  split
  · next hn =>
    have hlt : (2 : Int) ^ n < 2 ^ 31 := by
      exact_mod_cast Nat.pow_lt_pow_right (by decide) hn
    have hpos : (0 : Int) < 2 ^ n := Int.pow_pos (by decide)
    exact ((bmod_eq_self_iff _).2 ⟨by omega, hlt⟩).symm
  · split
    · next hn =>
      rw [hn]
      rfl
    · -- a higher power is a multiple of the modulus
      have hsplit : (2 : Int) ^ n = 2 ^ 32 * 2 ^ (n - 32) := by
        rw [← pow_add]
        congr 1
        omega
      have hdvd : ((2 ^ 32 : Nat) : Int) ∣ 2 ^ n := ⟨2 ^ (n - 32), by rw [hsplit]; rfl⟩
      exact (Int.bmod_eq_zero_of_dvd hdvd).symm

/-- The power is the `i32` of the exact one. -/
theorem pow2In_eq (overflowChecks : Bool) (n : Nat) :
    pow2In overflowChecks n = i32 overflowChecks (2 ^ n) := by
  have hpos : (0 : Int) < 2 ^ n := Int.pow_pos (by decide)
  have hlt : (2 : Int) ^ n < 2 ^ 31 ↔ n < 31 := by
    exact_mod_cast Nat.pow_lt_pow_iff_right (by decide : 1 < 2)
  unfold pow2In i32
  by_cases hn : n < 31
  · have hrange : -2 ^ 31 ≤ (2 : Int) ^ n ∧ (2 : Int) ^ n < 2 ^ 31 := ⟨by omega, hlt.2 hn⟩
    rw [if_pos hn, if_pos hrange]
  · have hrange : ¬ (-2 ^ 31 ≤ (2 : Int) ^ n ∧ (2 : Int) ^ n < 2 ^ 31) := fun h => hn (hlt.1 h.2)
    rw [if_neg hn, if_neg hrange, pow2_eq_bmod]

/-- The build without overflow checks is the one that the queue runs. -/
theorem failedEntryIn_false (now : Nat) (errorMsg : String) (maxRetries : Int) (r : QueueRow) :
    failedEntryIn false now errorMsg maxRetries r =
      some (failedEntry now errorMsg maxRetries r) := by
  unfold failedEntryIn failedEntry
  simp only [i32_false, u64_false, pow2In_eq, ← pow2_eq_bmod, Option.bind_eq_bind,
    Option.bind_some]
  split
  · rfl
  · generalize min (pow2 _) 60 = backoffMinutes
    have hwrap : (now + backoffMinutes % 2 ^ 64 * 60 % 2 ^ 64) % 2 ^ 64 =
        (now + backoffMinutes * 60) % 2 ^ 64 := by omega
    have hbmod := Int.emod_bmod (now + backoffMinutes * 60) (2 ^ 64)
    rw [hwrap]
    congr 3

theorem failedEntryIn_true (h : failedEntryIn true now errorMsg maxRetries r = some r') :
    failedEntryIn false now errorMsg maxRetries r = some r' := by
  unfold failedEntryIn at h ⊢
  obtain ⟨n, hn, h⟩ := Option.bind_eq_some_iff.1 h
  refine Option.bind_eq_some_iff.2 ⟨n, i32_true hn, ?_⟩
  split at h
  · next hm => rwa [if_pos hm]
  · next hm =>
    obtain ⟨power, hpower, h⟩ := Option.bind_eq_some_iff.1 h
    obtain ⟨pause, hpause, h⟩ := Option.bind_eq_some_iff.1 h
    obtain ⟨nextRetryAt, hnext, h⟩ := Option.bind_eq_some_iff.1 h
    rw [pow2In_eq] at hpower
    rw [if_neg hm, pow2In_eq]
    refine Option.bind_eq_some_iff.2 ⟨power, i32_true hpower, ?_⟩
    refine Option.bind_eq_some_iff.2 ⟨pause, u64_true hpause, ?_⟩
    exact Option.bind_eq_some_iff.2 ⟨nextRetryAt, u64_true hnext, h⟩

/-- The time of the next attempt is right for the first thirty attempts, as long as it fits. -/
theorem nextRetryAt_eq_iff (now : Nat) {n : Int} (h : -2 ^ 31 ≤ n ∧ n < 2 ^ 31) :
    (now + min (pow2 (n % 2 ^ 32).toNat) 60 * 60).bmod (2 ^ 64) = now + retryPause n ↔
      0 ≤ n ∧ n ≤ 30 ∧ now + retryPause n < 2 ^ 63 := by
  have hpause := retryPause_bounds n
  by_cases hn : 0 ≤ n ∧ n ≤ 30
  · have hpow : pow2 (n % 2 ^ 32).toNat = 2 ^ n.toNat := by
      rw [Int.emod_eq_of_lt hn.1 (by omega)]
      exact if_pos (by omega)
    have hsame : min (pow2 (n % 2 ^ 32).toNat) 60 * 60 = retryPause n := by
      rw [hpow, retryPause, Int.mul_comm]
    rw [hsame]
    constructor
    · intro heq
      have hlt := Int.bmod_lt (x := now + retryPause n) (m := 2 ^ 64) (by decide)
      exact ⟨hn.1, hn.2, by omega⟩
    · rintro ⟨-, -, hlt⟩
      exact Int.bmod_eq_of_le (by omega) (by omega)
  · -- the power has wrapped to the least `i32`, or to zero
    have hpow : pow2 (n % 2 ^ 32).toNat = -2 ^ 31 ∨ pow2 (n % 2 ^ 32).toNat = 0 := by
      unfold pow2
      rw [if_neg (by omega)]
      split
      · exact .inl rfl
      · exact .inr rfl
    have hdvd := Int.dvd_bmod_sub_self (x := now + min (pow2 (n % 2 ^ 32).toNat) 60 * 60)
      (m := 2 ^ 64)
    constructor
    · intro heq
      rw [heq] at hdvd
      rcases hpow with hpow | hpow
      · rw [hpow] at hdvd
        omega
      · rw [hpow] at hdvd
        omega
    · rintro ⟨h0, h30, -⟩
      exact absurd ⟨h0, h30⟩ hn

/-- **The wrapping build**: an attempt backs off exactly within the widths. -/
theorem failedEntry_backsOff_iff (maxRetries now : Nat) (errorMsg : String) (r : QueueRow) :
    r.BacksOff maxRetries now
        (failedEntry now errorMsg ((maxRetries : Int).bmod (2 ^ 32)) r) ↔
      WithinWidths maxRetries now r.retryCount := by
  have hcast := Int.le_bmod (x := (maxRetries : Int)) (m := 2 ^ 32) (by decide)
  have hself := bmod_eq_self_iff maxRetries
  unfold failedEntry WithinWidths
  dsimp only
  generalize hn : r.retryCount + 1 = n
  generalize (maxRetries : Int).bmod (2 ^ 32) = bound at hcast hself ⊢
  by_cases hrange : -2 ^ 31 ≤ n ∧ n < 2 ^ 31
  · rw [(bmod_eq_self_iff n).2 hrange]
    by_cases hbound : n ≥ bound
    · rw [if_pos hbound]
      constructor
      · intro h
        have hle := h.failed.1 rfl
        rw [hn] at hle
        exact ⟨by omega, hrange.2, .inl hle⟩
      · rintro ⟨-, -, hle | ⟨-, hlt, -⟩⟩
        · refine ⟨hn.symm, ?_, ?_⟩
          · rw [hn]
            exact ⟨fun _ => hle, fun _ => rfl⟩
          · intro hlt
            omega
        · omega
    · rw [if_neg hbound]
      have hnext := nextRetryAt_eq_iff now hrange
      constructor
      · intro h
        have hlt : n < maxRetries := by
          by_contra hge
          have hfailed := h.failed.2 (by omega)
          cases hfailed
        have hp := (h.pending (by omega)).2
        rw [hn] at hp
        obtain ⟨h0, h30, htime⟩ := hnext.1 (Option.some.inj hp)
        exact ⟨h0, hrange.2, .inr ⟨h30, by omega, htime⟩⟩
      · rintro ⟨h0, -, hle | ⟨h30, hlt, htime⟩⟩
        · -- a bound of at most `n` is its own cast
          have := hself.2 ⟨by omega, by omega⟩
          omega
        · have hbudget : n < maxRetries := by
            by_contra hge
            have := hself.2 ⟨by omega, by omega⟩
            omega
          refine ⟨hn.symm, ?_, ?_⟩
          · rw [hn]
            constructor
            · intro hstatus
              cases hstatus
            · intro hle
              omega
          · intro _
            rw [hn]
            exact ⟨rfl, congrArg some (hnext.2 ⟨h0, h30, htime⟩)⟩
  · have hwrap : ¬ n.bmod (2 ^ 32) = n := fun h => hrange ((bmod_eq_self_iff n).1 h)
    constructor
    · intro h
      have hcount := h.retryCount
      rw [hn] at hcount
      split at hcount
      · exact absurd hcount hwrap
      · exact absurd hcount hwrap
    · rintro ⟨h0, hlt, -⟩
      exact absurd ⟨by omega, hlt⟩ hrange

/-- Within the widths nothing panics. -/
theorem failedEntryIn_isSome {maxRetries now : Nat} (overflowChecks : Bool) (errorMsg : String)
    (h : WithinWidths maxRetries now r.retryCount) :
    ∃ r', failedEntryIn overflowChecks now errorMsg ((maxRetries : Int).bmod (2 ^ 32)) r =
      some r' := by
  have hself := bmod_eq_self_iff maxRetries
  obtain ⟨h0, hlt, hbudget⟩ := h
  unfold failedEntryIn
  rw [i32_of_range overflowChecks ⟨by omega, hlt⟩]
  simp only [Option.bind_eq_bind, Option.bind_some]
  generalize hn : r.retryCount + 1 = n at *
  by_cases hbound : n ≥ (maxRetries : Int).bmod (2 ^ 32)
  · rw [if_pos hbound]
    exact ⟨_, rfl⟩
  · rw [if_neg hbound]
    obtain hle | ⟨h30, -, htime⟩ := hbudget
    · have := hself.2 ⟨by omega, by omega⟩
      omega
    · have hpow : pow2In overflowChecks (n % 2 ^ 32).toNat = some (2 ^ n.toNat) := by
        rw [Int.emod_eq_of_lt h0 (by omega)]
        exact if_pos (by omega)
      have hpos : (0 : Int) < 2 ^ n.toNat := Int.pow_pos (by decide)
      unfold retryPause at htime
      rw [hpow]
      simp only [Option.bind_some]
      rw [u64_of_range overflowChecks (by omega)]
      simp only [Option.bind_some]
      rw [u64_of_range overflowChecks (by omega)]
      exact ⟨_, rfl⟩

/-- An attempt backs off exactly within the widths, in either build. -/
theorem failedEntryIn_backsOff_iff (overflowChecks : Bool) (maxRetries now : Nat)
    (errorMsg : String) (r : QueueRow) :
    (∃ r', failedEntryIn overflowChecks now errorMsg ((maxRetries : Int).bmod (2 ^ 32)) r =
        some r' ∧ r.BacksOff maxRetries now r') ↔ WithinWidths maxRetries now r.retryCount := by
  have heq : ∀ r', failedEntryIn overflowChecks now errorMsg ((maxRetries : Int).bmod (2 ^ 32)) r =
      some r' → r' = failedEntry now errorMsg ((maxRetries : Int).bmod (2 ^ 32)) r := by
    intro r' h
    have hfalse : failedEntryIn false now errorMsg ((maxRetries : Int).bmod (2 ^ 32)) r =
        some r' := by
      cases overflowChecks with
      | true => exact failedEntryIn_true h
      | false => exact h
    rw [failedEntryIn_false] at hfalse
    exact (Option.some.inj hfalse).symm
  rw [← failedEntry_backsOff_iff maxRetries now errorMsg r]
  constructor
  · rintro ⟨r', h, hback⟩
    rwa [heq r' h] at hback
  · intro hback
    obtain ⟨r', h⟩ := failedEntryIn_isSome overflowChecks errorMsg
      ((failedEntry_backsOff_iff maxRetries now errorMsg r).1 hback)
    refine ⟨r', h, ?_⟩
    rwa [heq r' h]

/-! ## In the queue -/

/-- The build without overflow checks marks as the queue does. -/
theorem markAsFailedIn_false (q : SendQueue) (now queueId : Nat) (errorMsg : String)
    (maxRetries : Int) :
    markAsFailedIn false q now queueId errorMsg maxRetries =
      some (q.markAsFailed now queueId errorMsg maxRetries) := by
  unfold markAsFailedIn markAsFailed
  cases q.get queueId with
  | none => rfl
  | some r =>
    dsimp only
    split
    · rfl
    · split
      · next h =>
        rw [failedEntryIn_false] at h
        cases h
      · simp only [failedEntryIn_false, Option.getD_some]

/-- Marking an entry as failed does to it what a failed attempt does, unless its count is no
`i32`. -/
theorem markAsFailedIn_get_iff {overflowChecks : Bool} {q : SendQueue} {queueId : Nat}
    (hr : q.get queueId = some r) (P : QueueRow → Prop) :
    (∃ q' r', q.markAsFailedIn overflowChecks now queueId errorMsg maxRetries = some (.ok q') ∧
        q'.get queueId = some r' ∧ P r') ↔
      (-2 ^ 31 ≤ r.retryCount ∧ r.retryCount < 2 ^ 31) ∧
        ∃ r', failedEntryIn overflowChecks now errorMsg maxRetries r = some r' ∧ P r' := by
  unfold markAsFailedIn
  rw [hr]
  dsimp only
  by_cases hrange : r.retryCount < -2 ^ 31 ∨ 2 ^ 31 ≤ r.retryCount
  · rw [if_pos hrange]
    constructor
    · rintro ⟨q', r', h, -⟩
      cases h
    · rintro ⟨hcount, -⟩
      omega
  · rw [if_neg hrange]
    have hcount : -2 ^ 31 ≤ r.retryCount ∧ r.retryCount < 2 ^ 31 := by omega
    cases hentry : failedEntryIn overflowChecks now errorMsg maxRetries r with
    | none =>
      constructor
      · rintro ⟨q', r', h, -⟩
        cases h
      · rintro ⟨-, r', h, -⟩
        cases h
    | some r₁ =>
      constructor
      · rintro ⟨q', r', h, hget, hP⟩
        refine ⟨hcount, r₁, rfl, ?_⟩
        obtain rfl := Except.ok.inj (Option.some.inj h)
        rw [Table.get_update, hr, Option.map_some, if_pos rfl, hentry] at hget
        obtain rfl := Option.some.inj hget
        exact hP
      · rintro ⟨-, r', h, hP⟩
        obtain rfl := Option.some.inj h
        refine ⟨_, r₁, rfl, ?_, hP⟩
        rw [Table.get_update, hr, Option.map_some, if_pos rfl, hentry]
        rfl

/-- **An entry backs off exactly within the widths.** -/
theorem markAsFailedIn_backsOff_iff (overflowChecks : Bool) (maxRetries : Nat) {q : SendQueue}
    {queueId : Nat} (hr : q.get queueId = some r) (now : Nat) (errorMsg : String) :
    (∃ q' r', q.markAsFailedIn overflowChecks now queueId errorMsg
        ((maxRetries : Int).bmod (2 ^ 32)) = some (.ok q') ∧
        q'.get queueId = some r' ∧ r.BacksOff maxRetries now r') ↔
      WithinWidths maxRetries now r.retryCount := by
  rw [markAsFailedIn_get_iff hr, failedEntryIn_backsOff_iff]
  constructor
  · intro h
    exact h.2
  · intro h
    exact ⟨⟨by have := h.1; omega, by have := h.2.1; omega⟩, h⟩

end SendQueue

/-! ## Results -/

/-- The retry counts for which a budget of at most 31 attempts suffices: all but the last `i32`. -/
theorem withinWidths_of_budget_le {maxRetries now : Nat} {retryCount : Int}
    (hbudget : maxRetries ≤ 31) (h0 : 0 ≤ retryCount) (hcount : retryCount < 2 ^ 31 - 1)
    (hnow : now + 3600 < 2 ^ 63) : WithinWidths maxRetries now retryCount := by
  have hself := (bmod_eq_self_iff maxRetries).2 ⟨by omega, by omega⟩
  have hpause := retryPause_bounds (retryCount + 1)
  refine ⟨by omega, by omega, ?_⟩
  by_cases hle : (maxRetries : Int) ≤ retryCount + 1
  · exact .inl hle
  · rw [hself]
    exact .inr ⟨by omega, by omega, by omega⟩

/-- **When backing off is well defined**: whatever the settings, the entry, the time and the build
are, `mark_as_failed` does what unbounded integers do exactly within the widths. -/
theorem backsOff_iff (config : AgentConfig) (overflowChecks : Bool) {q : SendQueue} {queueId : Nat}
    {r : QueueRow} (hr : q.get queueId = some r) (now : Nat) (errorMsg : String) :
    (∃ q' r', q.markAsFailedIn overflowChecks now queueId errorMsg (Agent.maxRetries config) =
        some (.ok q') ∧ q'.get queueId = some r' ∧
        r.BacksOff config.metricsMaxRetries.toNat now r') ↔
      WithinWidths config.metricsMaxRetries.toNat now r.retryCount :=
  SendQueue.markAsFailedIn_backsOff_iff overflowChecks _ hr now errorMsg

/-! ## The thirty-first attempt -/

/-- A queue with the entry of one aggregate. -/
def exampleQueue : SendQueue :=
  (Table.empty _).insertOrIgnore
    (SendQueue.newEntry 60 .ping ⟨"ping", .ping, 0, 60, 1, .ping default⟩ 1)

theorem backsOff_iff_first :
    ∃ q' r' r, exampleQueue.get 1 = some r ∧
      exampleQueue.markAsFailedIn true 100 1 "timeout" (Agent.maxRetries exampleAgentConfig) =
        some (.ok q') ∧ q'.get 1 = some r' ∧ r.BacksOff 2 100 r' := by
  obtain ⟨r, hr, hcount⟩ : ∃ r, exampleQueue.get 1 = some r ∧ r.retryCount = 0 := ⟨_, rfl, rfl⟩
  have hwidths : WithinWidths exampleAgentConfig.metricsMaxRetries.toNat 100 r.retryCount :=
    withinWidths_of_budget_le (by decide) (by omega) (by omega) (by decide)
  obtain ⟨q', r', hmark, hget, hback⟩ :=
    (backsOff_iff exampleAgentConfig true hr 100 "timeout").2 hwidths
  exact ⟨q', r', r, hr, hmark, hget, hback⟩

/-- The agent of the examples, with more attempts. -/
def patientAgentConfig : AgentConfig := { exampleAgentConfig with metricsMaxRetries := 40 }

/-- An attempt to send that fails, and the iteration that leads to the next one, an hour later. -/
def failedAttempt (now : Nat) : List (Nat × AgentAction) :=
  [(now, .fetch true), (now, .reply (.error "timeout") true []), (now, .dataCleanup 18),
    (now + 3600, .ready "web"), (now + 3600, .aggregationCheck none), (now + 3600, .aggregate),
    (now + 3600, .aggregationDone), (now + 3600, .flush none),
    (now + 3600, .queueCleanup false false)]

/-- The minute of the first row is aggregated at 125, and `n` attempts to send it fail. -/
def outage (n : Nat) : List (Nat × AgentAction) :=
  firstMinute (taskEvery 60) ++ wokenAt 125 ++
    [(125, .enqueue), (125, .aggregationDone), (125, .flush none),
      (125, .queueCleanup false false)] ++
    (List.range n).flatMap fun i => failedAttempt (125 + 3600 * i)

def patientMachine : Machine (Nat × Agent) (Nat × AgentAction) Unit :=
  agentMachine patientAgentConfig exampleSummary ⟨[taskEvery 60]⟩ 60

set_option maxRecDepth 10000 in
theorem outage_exec :
    ((patientMachine.exec (outage 30)).bind fun r => r.2.2.db.queue.get 1).map
      QueueRow.retryCount = some 30 := by
  decide +kernel

/-- The queue after thirty attempts that failed. -/
theorem exists_outage :
    ∃ tr s r, Run patientMachine tr s ∧ s.2.db.queue.get 1 = some r ∧ r.retryCount = 30 := by
  obtain ⟨r, hr, hcount⟩ := Option.map_eq_some_iff.1 outage_exec
  obtain ⟨⟨tr, s⟩, he, hget⟩ := Option.bind_eq_some_iff.1 hr
  exact ⟨tr, s, r, .of_exec he, hget, hcount⟩

/-- Settings that validate, and an entry that they lead to: its next attempt does not back off. -/
theorem not_backsOff_thirtyFirst :
    patientAgentConfig.validate exampleExternals = .ok () ∧
    ∃ tr s r, Run patientMachine tr s ∧ s.2.db.queue.get 1 = some r ∧ r.retryCount = 30 ∧
      ∀ (overflowChecks : Bool) (now : Nat) (errorMsg : String),
        ¬ ∃ q' r', s.2.db.queue.markAsFailedIn overflowChecks now 1 errorMsg
            (Agent.maxRetries patientAgentConfig) = some (.ok q') ∧
          q'.get 1 = some r' ∧ r.BacksOff patientAgentConfig.metricsMaxRetries.toNat now r' := by
  refine ⟨by rfl, ?_⟩
  obtain ⟨tr, s, r, hrun, hget, hcount⟩ := exists_outage
  refine ⟨tr, s, r, hrun, hget, hcount, ?_⟩
  intro overflowChecks now errorMsg hback
  have hiff := SendQueue.markAsFailedIn_backsOff_iff overflowChecks
    patientAgentConfig.metricsMaxRetries.toNat hget now errorMsg
  obtain ⟨-, -, hused | ⟨hfirst, -⟩⟩ := hiff.1 hback
  · have hforty : patientAgentConfig.metricsMaxRetries.toNat = 40 := by rfl
    omega
  · omega

end LinkSense
