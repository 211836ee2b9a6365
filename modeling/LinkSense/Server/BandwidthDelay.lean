import LinkSense.Server.BandwidthState
import LinkSense.Shared.ServerConfig

/-!
# The suggested delay in machine integers

`calculate_delay` of `server/src/bandwidth_state.rs` casts 64-bit settings to `u32` before it
multiplies and adds them, and `cleanup_expired_tests` takes the longest delay off the clock.  No
check of the configuration bounds any of them.

    every manager of a configuration has that configuration's settings     (run_bandwidthManager)
    nothing is lost in u32 ↔ the settings, the queue and their total fit   (exactArithmetic_iff)
    an agent is told the configured delay, and nothing wraps or panics ↔ the cutoff is an instant
      and, where the agent has to wait, everything fits                    (delaysExactly_iff)
-/

namespace LinkSense

/-! ## The manager of a configuration -/

/-- The manager as `Server::run` makes it. -/
def FullServerConfig.bandwidthManager (config : FullServerConfig) : BandwidthTestState :=
  .new config.bandwidthTestTimeoutSeconds config.bandwidthMaxDelaySeconds
    config.bandwidthQueueBaseDelaySeconds config.bandwidthQueueCurrentTestDelaySeconds
    config.bandwidthQueuePositionMultiplierSeconds

/-- The same manager later, with this test running and these agents waiting. -/
def FullServerConfig.bandwidthManagerWith (config : FullServerConfig)
    (test : Option (String × Instant)) (queue : List (String × Instant)) : BandwidthTestState :=
  { config.bandwidthManager with currentTest := test, waitingQueue := queue }

/-- The delay for a queue of this length, in unbounded integers. -/
def FullServerConfig.exactDelay (config : FullServerConfig) (length : Nat) : Nat :=
  min (config.bandwidthQueueCurrentTestDelaySeconds.toNat +
    length * config.bandwidthQueuePositionMultiplierSeconds.toNat)
    config.bandwidthMaxDelaySeconds.toNat

/-- Settings and queue that `u32` has room for. -/
structure FullServerConfig.FitsU32 (config : FullServerConfig) (length : Nat) : Prop where
  queue : length < 2 ^ 32
  multiplier : config.bandwidthQueuePositionMultiplierSeconds.toNat < 2 ^ 32
  total : config.bandwidthQueueCurrentTestDelaySeconds.toNat +
    length * config.bandwidthQueuePositionMultiplierSeconds.toNat < 2 ^ 32
  maximum : config.bandwidthMaxDelaySeconds.toNat < 2 ^ 32

namespace BandwidthTestState

def baseDelay (s : BandwidthTestState) : UInt64 :=
  if s.currentTest.isSome then s.currentTestDelaySeconds else s.baseDelaySeconds

def queueDelay (s : BandwidthTestState) : UInt32 :=
  UInt32.ofNat s.waitingQueue.length * s.positionMultiplierSeconds.toUInt32

/-- No cast, product or sum of `calculate_delay` loses anything. -/
structure ExactArithmetic (s : BandwidthTestState) : Prop where
  base : s.baseDelay.toUInt32.toNat = s.baseDelay.toNat
  length : (UInt32.ofNat s.waitingQueue.length).toNat = s.waitingQueue.length
  multiplier : s.positionMultiplierSeconds.toUInt32.toNat = s.positionMultiplierSeconds.toNat
  product : s.queueDelay.toNat =
    (UInt32.ofNat s.waitingQueue.length).toNat * s.positionMultiplierSeconds.toUInt32.toNat
  total : (s.baseDelay.toUInt32 + s.queueDelay).toNat =
    s.baseDelay.toUInt32.toNat + s.queueDelay.toNat
  maximum : (UInt32.ofNat (asSecs s.maxDelay)).toNat = asSecs s.maxDelay

/-- A request at `now` does not panic, and an agent that has to wait is told the exact delay for
the queue as it is then. -/
def DelaysExactly (earliest now : Instant) (agentId : String) (dataSizeBytes : UInt64)
    (exactDelay : Nat → Nat) (s : BandwidthTestState) : Prop :=
  ∃ cleaned s' r, s.cleanupExpiredTests earliest now = some cleaned ∧
    s.requestTest earliest now agentId dataSizeBytes = some (s', r) ∧
    (r.action = .delay → (cleaned.dequeue agentId).ExactArithmetic ∧
      ∃ d, r.delaySeconds = some d ∧
        d.toNat = exactDelay (cleaned.dequeue agentId).waitingQueue.length)

/-! ## Lemmas -/

theorem calculateDelay_eq (s : BandwidthTestState) : s.calculateDelay =
    min (s.baseDelay.toUInt32 + s.queueDelay) (UInt32.ofNat (asSecs s.maxDelay)) := by
  unfold calculateDelay baseDelay queueDelay
  split <;> rfl

end BandwidthTestState

theorem toNat_min_u32 (a b : UInt32) : (min a b).toNat = min a.toNat b.toNat := by
  show (if a ≤ b then a else b).toNat = _
  by_cases h : a ≤ b
  · have := UInt32.le_iff_toNat_le.1 h
    rw [if_pos h]
    omega
  · have := mt UInt32.le_iff_toNat_le.2 h
    rw [if_neg h]
    omega

@[simp] theorem asSecs_fromSecs (secs : UInt64) : asSecs (fromSecs secs) = secs.toNat := by
  unfold asSecs fromSecs
  omega

namespace BandwidthTestState

variable {config : FullServerConfig} {test : Option (String × Instant)}
  {queue : List (String × Instant)}

theorem exactArithmetic_iff (htest : test.isSome) :
    (config.bandwidthManagerWith test queue).ExactArithmetic ↔ config.FitsU32 queue.length := by
  have hbase : (config.bandwidthManagerWith test queue).baseDelay =
      config.bandwidthQueueCurrentTestDelaySeconds := if_pos htest
  have hmax : asSecs (config.bandwidthManagerWith test queue).maxDelay =
      config.bandwidthMaxDelaySeconds.toNat := asSecs_fromSecs _
  constructor
  · rintro ⟨hb, hl, hm, hp, ht, hx⟩
    rw [hl, hm] at hp
    rw [hb, hp, hbase] at ht
    rw [hmax] at hx
    exact ⟨hl ▸ UInt32.toNat_lt _, hm ▸ UInt32.toNat_lt _, ht ▸ UInt32.toNat_lt _,
      hx ▸ UInt32.toNat_lt _⟩
  · rintro ⟨hl, hm, ht, hx⟩
    have hl' : (UInt32.ofNat queue.length).toNat = queue.length := UInt32.toNat_ofNat_of_lt' hl
    have hm' : config.bandwidthQueuePositionMultiplierSeconds.toUInt32.toNat =
        config.bandwidthQueuePositionMultiplierSeconds.toNat := by
      rw [UInt64.toNat_toUInt32, Nat.mod_eq_of_lt hm]
    have hb' : config.bandwidthQueueCurrentTestDelaySeconds.toUInt32.toNat =
        config.bandwidthQueueCurrentTestDelaySeconds.toNat := by
      rw [UInt64.toNat_toUInt32, Nat.mod_eq_of_lt (lt_of_le_of_lt (Nat.le_add_right _ _) ht)]
    have hp' : (config.bandwidthManagerWith test queue).queueDelay.toNat =
        (UInt32.ofNat queue.length).toNat *
          config.bandwidthQueuePositionMultiplierSeconds.toUInt32.toNat := by
      have hlt : (UInt32.ofNat queue.length).toNat *
          config.bandwidthQueuePositionMultiplierSeconds.toUInt32.toNat < 2 ^ 32 := by
        rw [hl', hm']
        exact lt_of_le_of_lt (Nat.le_add_left _ _) ht
      exact (UInt32.toNat_mul _ _).trans (Nat.mod_eq_of_lt hlt)
    refine ⟨by rw [hbase]; exact hb', hl', hm', hp', ?_, ?_⟩
    · rw [hbase, UInt32.toNat_add, Nat.mod_eq_of_lt]
      rw [hp', hb', hl', hm']
      exact ht
    · rw [hmax]
      exact UInt32.toNat_ofNat_of_lt' hx

theorem toNat_calculateDelay (htest : test.isSome)
    (h : (config.bandwidthManagerWith test queue).ExactArithmetic) :
    (config.bandwidthManagerWith test queue).calculateDelay.toNat =
      config.exactDelay queue.length := by
  have hbase : (config.bandwidthManagerWith test queue).baseDelay =
      config.bandwidthQueueCurrentTestDelaySeconds := if_pos htest
  have hmax : asSecs (config.bandwidthManagerWith test queue).maxDelay =
      config.bandwidthMaxDelaySeconds.toNat := asSecs_fromSecs _
  rw [calculateDelay_eq, toNat_min_u32, h.total, h.base, h.product, h.length, h.multiplier,
    h.maximum, hbase, hmax]
  rfl

/-- The cleanup keeps the settings, drops a test past its time, and agents who asked before the
cutoff. -/
theorem cleanupExpiredTests_managerWith_iff {earliest now : Instant} {s' : BandwidthTestState} :
    (config.bandwidthManagerWith test queue).cleanupExpiredTests earliest now = some s' ↔
      earliest ≤ now - fromSecs config.bandwidthMaxDelaySeconds ∧
        s' = config.bandwidthManagerWith
          ((config.bandwidthManagerWith test queue).unexpiredTest now)
          (queue.filter fun e =>
            decide (e.2 > now - fromSecs config.bandwidthMaxDelaySeconds)) :=
  cleanupExpiredTests_eq_some_iff _ _ _ _

/-- Someone else's test is running: the caller is told to wait. -/
theorem requestTest_delay {earliest now : Instant} {s s₁ : BandwidthTestState} {a b : String}
    {start : Instant} {n : UInt64} (hc : s.cleanupExpiredTests earliest now = some s₁)
    (hb : s₁.currentTest = some (b, start)) (hne : b ≠ a) :
    s.requestTest earliest now a n =
      some ({ s₁ with waitingQueue := (s₁.dequeue a).waitingQueue ++ [(a, now)] },
        delayResponse (s₁.dequeue a).calculateDelay) := by
  unfold requestTest
  rw [hc]
  rcases requestUnexpired_cases now s₁ a n with ⟨hh, -⟩ | ⟨hn, -⟩ | ⟨c, -, -, h⟩
  · refine absurd ?_ hne
    simpa [holder, hb] using hh
  · rw [hb] at hn
    cases hn
  · exact congrArg some h

theorem call_settings {earliest : Instant} {c : Instant × Call} {s' : BandwidthTestState}
    {r : Option BandwidthTestResponse}
    (hc : (config.bandwidthManagerWith test queue).call earliest c = some (s', r)) :
    ∃ test' queue', s' = config.bandwidthManagerWith test' queue' := by
  obtain ⟨now, c⟩ := c
  cases c with
  | request a n =>
    simp only [call] at hc
    cases hr : (config.bandwidthManagerWith test queue).requestTest earliest now a n with
    | none => simp [hr] at hc
    | some q =>
      simp only [hr, Option.some.injEq, Prod.mk.injEq] at hc
      obtain ⟨rfl, -⟩ := hc
      obtain ⟨s₁, hs₁, he⟩ := (requestTest_eq_some_iff _ _ _ _ _ _ _).1 hr
      obtain ⟨-, rfl⟩ := cleanupExpiredTests_managerWith_iff.1 hs₁
      rw [← congrArg Prod.fst he]
      rcases requestUnexpired_cases now (config.bandwidthManagerWith _ _) a n with
        ⟨-, h⟩ | ⟨-, h⟩ | ⟨b, -, -, h⟩
      all_goals
        rw [h]
        exact ⟨_, _, rfl⟩
  | complete a =>
    simp only [call, Option.some.injEq, Prod.mk.injEq] at hc
    obtain ⟨rfl, -⟩ := hc
    unfold completeTest
    split
    · split
      · exact ⟨_, _, rfl⟩
      · exact ⟨_, _, rfl⟩
    · exact ⟨_, _, rfl⟩

/-- The test that is left after the cleanup is the one that ran, if it is still in time. -/
theorem unexpiredTest_managerWith_iff {now : Instant} {other : String} {start : Instant} :
    (config.bandwidthManagerWith test queue).unexpiredTest now = some (other, start) ↔
      test = some (other, start) ∧
        elapsed start now ≤ fromSecs config.bandwidthTestTimeoutSeconds := by
  cases test with
  | none => simp [unexpiredTest, FullServerConfig.bandwidthManagerWith]
  | some t =>
    show (if _ > fromSecs config.bandwidthTestTimeoutSeconds then none else some (t.1, t.2)) = _ ↔ _
    split
    · next h =>
      constructor
      · intro hn
        cases hn
      · rintro ⟨he, hle⟩
        cases he
        exact absurd h (not_lt.2 hle)
    · next h =>
      constructor
      · intro he
        cases he
        exact ⟨rfl, not_lt.1 h⟩
      · rintro ⟨he, -⟩
        cases he
        rfl

end BandwidthTestState

/-- Every manager of a configuration has its settings. -/
theorem run_bandwidthManager (config : FullServerConfig) (earliest t₀ : Instant)
    {tr : List (Labelled.Taken (Instant × BandwidthTestState) (Instant × Call)
      (Option BandwidthTestResponse))} {s : Instant × BandwidthTestState}
    (hrun : Labelled.Run (managerMachine earliest t₀ config.bandwidthManager) tr s) :
    ∃ test queue, s.2 = config.bandwidthManagerWith test queue := by
  refine hrun.invariant (I := fun s => ∃ test queue, s.2 = config.bandwidthManagerWith test queue)
    ⟨_, _, rfl⟩ fun s a s' b hI hs => ?_
  obtain ⟨test, queue, hI⟩ := hI
  obtain ⟨-, hs, -⟩ := (Labelled.Machine.clocked_step_iff _ _ _ _ _ _).1 hs
  rw [hI] at hs
  exact BandwidthTestState.call_settings hs

/-! ## Top theorems -/

open BandwidthTestState in
/-- **Exactly when the suggested delay is the configured one**, with nothing lost on the way and
no panic: the cutoff has to be an instant and, where another agent's test is running in time, the
settings and the queue of the others in time have to fit `u32`. -/
theorem delaysExactly_iff (config : ValidServerConfig) (test : Option (String × Instant))
    (queue : List (String × Instant)) (earliest now : Instant) (agentId : String)
    (dataSizeBytes : UInt64) :
    (config.bandwidthManagerWith test queue).DelaysExactly earliest now agentId dataSizeBytes
        config.exactDelay ↔
      earliest ≤ now - fromSecs config.bandwidthMaxDelaySeconds ∧
        ∀ other start, test = some (other, start) → other ≠ agentId →
          elapsed start now ≤ fromSecs config.bandwidthTestTimeoutSeconds →
          config.FitsU32 (queue.filter fun e => e.1 != agentId &&
            decide (e.2 > now - fromSecs config.bandwidthMaxDelaySeconds)).length := by
  rw [← List.filter_filter]
  constructor
  · rintro ⟨cleaned, s', r, hc, hr, hd⟩
    obtain ⟨hle, rfl⟩ := cleanupExpiredTests_managerWith_iff.1 hc
    refine ⟨hle, fun other start htest hne htime => ?_⟩
    have hrun : (config.bandwidthManagerWith test queue).unexpiredTest now = some (other, start) :=
      unexpiredTest_managerWith_iff.2 ⟨htest, htime⟩
    rw [requestTest_delay hc hrun hne] at hr
    obtain ⟨-, rfl⟩ := Prod.mk.inj (Option.some.inj hr)
    exact (exactArithmetic_iff (by rw [hrun]; rfl)).1 (hd rfl).1
  · rintro ⟨hle, hfits⟩
    obtain ⟨cleaned, hc⟩ : ∃ cleaned, (config.bandwidthManagerWith test queue).cleanupExpiredTests
        earliest now = some cleaned := ⟨_, cleanupExpiredTests_managerWith_iff.2 ⟨hle, rfl⟩⟩
    have hanswer {q} (hq : cleaned.requestUnexpired now agentId dataSizeBytes = q) :
        (config.bandwidthManagerWith test queue).requestTest earliest now agentId dataSizeBytes =
          some q :=
      (requestTest_eq_some_iff _ _ _ _ _ _ _).2 ⟨cleaned, hc, hq⟩
    rcases requestUnexpired_cases now cleaned agentId dataSizeBytes with
      ⟨-, h⟩ | ⟨-, h⟩ | ⟨other, hother, hne, h⟩
    · exact ⟨cleaned, _, _, hc, hanswer h, nofun⟩
    · exact ⟨cleaned, _, _, hc, hanswer h, nofun⟩
    · -- the only answer with a delay: someone else's test is still in time
      obtain ⟨⟨_, start⟩, hrun, rfl⟩ := Option.map_eq_some_iff.1 hother
      obtain ⟨-, rfl⟩ := cleanupExpiredTests_managerWith_iff.1 hc
      obtain ⟨htest, htime⟩ := unexpiredTest_managerWith_iff.1 hrun
      have hsome := Option.isSome_of_eq_some hrun
      have hexact := (exactArithmetic_iff hsome).2 (hfits _ start htest hne htime)
      exact ⟨_, _, _, hc, hanswer h, fun _ =>
        ⟨hexact, _, rfl, toNat_calculateDelay hsome hexact⟩⟩

/-! ## A delay that wraps -/

/-- One second more than `u32` has, for a test that is running. -/
def wrappingConfig : ValidServerConfig where
  toFullServerConfig :=
    { FullServerConfig.withDefaults "0.0.0.0:8787" "key" 30 with
      bandwidthQueueCurrentTestDelaySeconds := 4294967297 }
  valid := (FullServerConfig.withDefaults_validate_iff "0.0.0.0:8787" "key" 30).2 (by decide)

/-- The second agent is told to come back after one second, not after the longest delay. -/
theorem wrappingConfig_answers_one :
    (∃ s', (wrappingConfig.bandwidthManagerWith (some ("a", 0)) []).requestTest
      (-1000000000000) 5 "b" 10 = some (s', BandwidthTestState.delayResponse 1)) ∧
    wrappingConfig.exactDelay 0 = 300 ∧
    ¬ (wrappingConfig.bandwidthManagerWith (some ("a", 0)) []).DelaysExactly
      (-1000000000000) 5 "b" 10 wrappingConfig.exactDelay := by
  have hanswer : (wrappingConfig.bandwidthManagerWith (some ("a", 0)) []).requestTest
      (-1000000000000) 5 "b" 10 =
        some (wrappingConfig.bandwidthManagerWith (some ("a", 0)) [("b", 5)],
          BandwidthTestState.delayResponse 1) := by
    decide
  refine ⟨⟨_, hanswer⟩, by decide, ?_⟩
  rintro ⟨cleaned, s', r, -, hr, hd⟩
  rw [hanswer] at hr
  obtain ⟨-, rfl⟩ := Prod.mk.inj (Option.some.inj hr)
  obtain ⟨-, d, hd, hexact⟩ := hd rfl
  obtain rfl := Option.some.inj hd
  have hexact : 1 = min (4294967297 + _ * 30) 300 := hexact
  omega

end LinkSense
