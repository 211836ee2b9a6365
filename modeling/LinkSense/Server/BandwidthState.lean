import LinkSense.Machine
import LinkSense.Shared.Api
import LinkSense.Shared.Time

/-!
# Bandwidth test state

The manager of `server/src/bandwidth_state.rs`: one slot for the running test and a queue of
waiting agents, each entry with the time it was put there.  A call reads the clock once, so it
carries its time; `none` is a call that panics (the cutoff lies before the earliest instant).

    WellFormed now s → requestTest … = some (s', r) → WellFormed now' s'   (requestTest_wellFormed)
    WellFormed now s → WellFormed now' (completeTest … s)                  (completeTest_wellFormed)
    requestTest … a … = some (s', r) → (r is Proceed ↔ a holds the slot of s')
                                                                           (requestTest_proceed_iff)
    after every call of every run the manager is well formed               (manager_wellFormed)
-/

namespace LinkSense

/-! ## Algorithm -/

structure BandwidthTestState where
  currentTest : Option (String × Instant)
  waitingQueue : List (String × Instant)
  testTimeout : Duration
  maxDelay : Duration
  baseDelaySeconds : UInt64
  currentTestDelaySeconds : UInt64
  positionMultiplierSeconds : UInt64
deriving DecidableEq, Repr

namespace BandwidthTestState

/-- `BandwidthTestManager::new`: free slot, empty queue. -/
def new (testTimeoutSeconds maxDelaySeconds baseDelaySeconds currentTestDelaySeconds
    positionMultiplierSeconds : UInt64) : BandwidthTestState where
  currentTest := none
  waitingQueue := []
  testTimeout := fromSecs testTimeoutSeconds
  maxDelay := fromSecs maxDelaySeconds
  baseDelaySeconds := baseDelaySeconds
  currentTestDelaySeconds := currentTestDelaySeconds
  positionMultiplierSeconds := positionMultiplierSeconds

def holder (s : BandwidthTestState) : Option String := s.currentTest.map Prod.fst

def queued (s : BandwidthTestState) : List String := s.waitingQueue.map Prod.fst

/-- The slot at `now`, emptied when its test ran longer than the timeout. -/
def unexpiredTest (now : Instant) (s : BandwidthTestState) : Option (String × Instant) :=
  match s.currentTest with
  | none => none
  | some (agent, startTime) =>
    if elapsed startTime now > s.testTimeout then none else some (agent, startTime)

def unexpiredQueue (cutoff : Instant) (s : BandwidthTestState) : List (String × Instant) :=
  s.waitingQueue.filter fun e => decide (e.2 > cutoff)

/-- Drop a timed-out test and the queue entries older than `max_delay`. -/
def cleanupExpiredTests (earliest now : Instant) (s : BandwidthTestState) :
    Option BandwidthTestState :=
  match instantSub earliest now s.maxDelay with
  | none => none
  | some cutoff =>
    some { s with currentTest := s.unexpiredTest now, waitingQueue := s.unexpiredQueue cutoff }

/-- Suggested delay, in `u32` arithmetic that wraps, capped at `max_delay`. -/
def calculateDelay (s : BandwidthTestState) : UInt32 :=
  let baseDelay : UInt32 :=
    if s.currentTest.isSome then s.currentTestDelaySeconds.toUInt32
    else s.baseDelaySeconds.toUInt32
  let queueDelay : UInt32 :=
    UInt32.ofNat s.waitingQueue.length * s.positionMultiplierSeconds.toUInt32
  let totalDelay := baseDelay + queueDelay
  min totalDelay (UInt32.ofNat (asSecs s.maxDelay))

def proceedResponse (dataSizeBytes : UInt64) : BandwidthTestResponse where
  status := "success"
  action := .proceed
  delaySeconds := none
  dataSizeBytes := some dataSizeBytes

def delayResponse (delaySeconds : UInt32) : BandwidthTestResponse where
  status := "success"
  action := .delay
  delaySeconds := some delaySeconds
  dataSizeBytes := none

def dequeue (agentId : String) (s : BandwidthTestState) : BandwidthTestState :=
  { s with waitingQueue := s.waitingQueue.filter fun e => e.1 != agentId }

/-- What `request_test` does once the expired entries are gone. -/
def requestUnexpired (now : Instant) (s : BandwidthTestState) (agentId : String)
    (dataSizeBytes : UInt64) : BandwidthTestState × BandwidthTestResponse :=
  if s.holder = some agentId then
    (s, proceedResponse dataSizeBytes)
  else
    let s := s.dequeue agentId
    match s.currentTest with
    | none => ({ s with currentTest := some (agentId, now) }, proceedResponse dataSizeBytes)
    | some _ =>
      ({ s with waitingQueue := s.waitingQueue ++ [(agentId, now)] },
        delayResponse s.calculateDelay)

/-- `request_test` at time `now`. -/
def requestTest (earliest now : Instant) (s : BandwidthTestState) (agentId : String)
    (dataSizeBytes : UInt64) : Option (BandwidthTestState × BandwidthTestResponse) :=
  match s.cleanupExpiredTests earliest now with
  | none => none
  | some s => some (s.requestUnexpired now agentId dataSizeBytes)

/-- `complete_test` at time `now`: the holder leaves and the front of the queue takes over. -/
def completeTest (now : Instant) (s : BandwidthTestState) (agentId : String) :
    BandwidthTestState :=
  if s.holder = some agentId then
    match s.waitingQueue with
    | [] => { s with currentTest := none }
    | (nextAgent, _) :: rest =>
      { s with currentTest := some (nextAgent, now), waitingQueue := rest }
  else s

/-- `get_status`: the agent in the slot and the whole seconds since it took it. -/
def getStatus (now : Instant) (s : BandwidthTestState) : Option (String × Nat) :=
  s.currentTest.map fun (agent, start) => (agent, asSecs (elapsed start now))

end BandwidthTestState

/-! ## Lemmas -/

namespace BandwidthTestState

theorem currentTest_ne_none {s : BandwidthTestState} {a : String} (h : s.holder = some a) :
    s.currentTest ≠ none := by
  intro hn
  simp [holder, hn] at h

theorem queued_dequeue (a : String) (s : BandwidthTestState) :
    (s.dequeue a).queued = s.queued.filter (· != a) := by
  simp only [queued, dequeue, List.filter_map]
  rfl

/-- What holds of slot and queue at `now` even while a slot is free with agents waiting. -/
structure Ordered (now : Instant) (s : BandwidthTestState) : Prop where
  queued_nodup : s.queued.Nodup
  holder_not_queued : ∀ a, s.holder = some a → a ∉ s.queued
  times_sorted : (s.waitingQueue.map Prod.snd).Pairwise (· ≤ ·)
  times_past : ∀ e ∈ s.waitingQueue, e.2 ≤ now

/-- **The manager's invariant**, with the clock at `now`. -/
structure WellFormed (now : Instant) (s : BandwidthTestState) : Prop
    extends Ordered now s where
  slot_occupied : s.waitingQueue ≠ [] → s.currentTest ≠ none

theorem new_wellFormed (now : Instant) (a b c d e : UInt64) : WellFormed now (new a b c d e) where
  queued_nodup := by simp [queued, new]
  holder_not_queued := by simp [holder, new]
  times_sorted := by simp [new]
  times_past := by simp [new]
  slot_occupied := by simp [new]

/-- Fewer entries, and a slot that is free or as before, keep the order. -/
theorem Ordered.of_sublist {now now' : Instant} {s s' : BandwidthTestState}
    (h : Ordered now s) (hnow : now ≤ now')
    (hq : s'.waitingQueue.Sublist s.waitingQueue)
    (hc : ∀ a, s'.holder = some a → s.holder = some a) : Ordered now' s' where
  queued_nodup := h.queued_nodup.sublist (hq.map _)
  holder_not_queued := by
    intro a ha hm
    exact h.holder_not_queued a (hc a ha) ((hq.map _).subset hm)
  times_sorted := h.times_sorted.sublist (hq.map _)
  times_past := fun e he => le_trans (h.times_past e (hq.subset he)) hnow

theorem cleanupExpiredTests_eq_some_iff (earliest now : Instant) (s s' : BandwidthTestState) :
    s.cleanupExpiredTests earliest now = some s' ↔
      earliest ≤ now - s.maxDelay ∧
        s' = { s with
          currentTest := s.unexpiredTest now
          waitingQueue := s.unexpiredQueue (now - s.maxDelay) } := by
  unfold cleanupExpiredTests
  cases h : instantSub earliest now s.maxDelay with
  | none =>
    have : ¬ earliest ≤ now - s.maxDelay := by
      intro hle
      have := (instantSub_eq_some_iff earliest now s.maxDelay _).2 ⟨hle, rfl⟩
      rw [h] at this
      cases this
    simp [this]
  | some c =>
    obtain ⟨hle, rfl⟩ := (instantSub_eq_some_iff _ _ _ _).1 h
    simp [hle, eq_comm]

theorem unexpiredTest_eq_some (now : Instant) (s : BandwidthTestState) (c : String × Instant)
    (h : s.unexpiredTest now = some c) : s.currentTest = some c := by
  unfold unexpiredTest at h
  split at h
  · cases h
  · next hs =>
    split at h
    · cases h
    · rw [hs, h]

theorem cleanupExpiredTests_ordered {earliest now now' : Instant} {s s' : BandwidthTestState}
    (h : Ordered now s) (hnow : now ≤ now')
    (hc : s.cleanupExpiredTests earliest now' = some s') : Ordered now' s' := by
  obtain ⟨-, rfl⟩ := (cleanupExpiredTests_eq_some_iff _ _ _ _).1 hc
  refine h.of_sublist hnow List.filter_sublist (fun a ha => ?_)
  simp only [holder, Option.map_eq_some_iff] at ha ⊢
  obtain ⟨c, hc, rfl⟩ := ha
  exact ⟨c, unexpiredTest_eq_some now' s c hc, rfl⟩

/-- What `request_test` can do after the cleanup: the holder goes on, a free slot is taken,
or the caller is put at the back of the queue. -/
theorem requestUnexpired_cases (now : Instant) (s : BandwidthTestState) (a : String)
    (n : UInt64) :
    (s.holder = some a ∧ s.requestUnexpired now a n = (s, proceedResponse n)) ∨
    (s.currentTest = none ∧ s.requestUnexpired now a n =
      ({ s.dequeue a with currentTest := some (a, now) }, proceedResponse n)) ∨
    (∃ b, s.holder = some b ∧ b ≠ a ∧ s.requestUnexpired now a n =
      ({ s with waitingQueue := (s.dequeue a).waitingQueue ++ [(a, now)] },
        delayResponse (s.dequeue a).calculateDelay)) := by
  unfold requestUnexpired
  by_cases h : s.holder = some a
  · left
    exact ⟨h, by rw [if_pos h]⟩
  · right
    rw [if_neg h]
    cases hc : s.currentTest with
    | none => exact .inl ⟨rfl, by simp [dequeue, hc]⟩
    | some c =>
      refine .inr ⟨c.1, by simp [holder, hc], ?_, by simp [dequeue, hc]⟩
      rintro rfl
      exact h (by simp [holder, hc])

theorem requestTest_eq_some_iff (earliest now : Instant) (s s' : BandwidthTestState)
    (a : String) (n : UInt64) (r : BandwidthTestResponse) :
    s.requestTest earliest now a n = some (s', r) ↔
      ∃ s₁, s.cleanupExpiredTests earliest now = some s₁ ∧
        s₁.requestUnexpired now a n = (s', r) := by
  unfold requestTest
  cases s.cleanupExpiredTests earliest now with
  | none => simp
  | some s₁ => simp

theorem requestUnexpired_wellFormed {now : Instant} {s : BandwidthTestState} (a : String)
    (n : UInt64) (h : Ordered now s) (hbusy : s.holder = some a → WellFormed now s) :
    WellFormed now (s.requestUnexpired now a n).1 := by
  have hsub : (s.dequeue a).waitingQueue.Sublist s.waitingQueue := List.filter_sublist
  have hnot : a ∉ (s.dequeue a).queued := by simp [queued_dequeue]
  rcases requestUnexpired_cases now s a n with ⟨hh, he⟩ | ⟨hn, he⟩ | ⟨b, hb, hne, he⟩
  · rw [he]
    exact hbusy hh
  · rw [he]
    refine ⟨⟨h.queued_nodup.sublist (hsub.map _), fun b hb => ?_,
      h.times_sorted.sublist (hsub.map _), fun e he => h.times_past e (hsub.subset he)⟩, ?_⟩
    · have : b = a := by simpa [holder, eq_comm] using hb
      subst this
      exact hnot
    · simp
  · rw [he]
    have hd : Ordered now (s.dequeue a) := h.of_sublist (le_refl _) hsub (fun _ => id)
    refine ⟨⟨?_, fun c hc => ?_, ?_, ?_⟩, ?_⟩
    · show (((s.dequeue a).waitingQueue ++ [(a, now)]).map Prod.fst).Nodup
      rw [List.map_append, List.nodup_append]
      refine ⟨hd.queued_nodup, by simp, fun x hx y hy => ?_⟩
      have hy : y = a := by simpa using hy
      subst hy
      rintro rfl
      exact hnot hx
    · -- the holder is someone else, and was not queued
      have hcb : c = b := by
        have : s.holder = some c := hc
        rw [hb] at this
        exact (Option.some.inj this).symm
      subst hcb
      show c ∉ ((s.dequeue a).waitingQueue ++ [(a, now)]).map Prod.fst
      rw [List.map_append, List.mem_append]
      rintro (hm | hm)
      · exact hd.holder_not_queued c hb hm
      · exact hne (by simpa using hm)
    · show (((s.dequeue a).waitingQueue ++ [(a, now)]).map Prod.snd).Pairwise (· ≤ ·)
      rw [List.map_append, List.pairwise_append]
      refine ⟨hd.times_sorted, by simp, fun x hx y hy => ?_⟩
      obtain ⟨e, he, rfl⟩ := List.mem_map.1 hx
      have hy : y = now := by simpa using hy
      rw [hy]
      exact hd.times_past e he
    · intro e he
      rcases List.mem_append.1 he with he | he
      · exact hd.times_past e he
      · rw [List.mem_singleton] at he
        rw [he]
    · exact fun _ => currentTest_ne_none hb

theorem requestTest_wellFormed {earliest now now' : Instant} {s s' : BandwidthTestState}
    {a : String} {n : UInt64} {r : BandwidthTestResponse} (h : WellFormed now s)
    (hnow : now ≤ now') (hr : s.requestTest earliest now' a n = some (s', r)) :
    WellFormed now' s' := by
  obtain ⟨s₁, hc, he⟩ := (requestTest_eq_some_iff _ _ _ _ _ _ _).1 hr
  have ho : Ordered now' s₁ := cleanupExpiredTests_ordered h.toOrdered hnow hc
  have := requestUnexpired_wellFormed a n ho
    (fun ha => ⟨ho, fun _ => currentTest_ne_none ha⟩)
  rwa [he] at this

/-- `request_test` answers Proceed exactly when the caller holds the slot afterwards. -/
theorem requestTest_proceed_iff {earliest now : Instant} {s s' : BandwidthTestState}
    {a : String} {n : UInt64} {r : BandwidthTestResponse}
    (hr : s.requestTest earliest now a n = some (s', r)) :
    r.action = .proceed ↔ s'.holder = some a := by
  obtain ⟨s₁, -, he⟩ := (requestTest_eq_some_iff _ _ _ _ _ _ _).1 hr
  rcases requestUnexpired_cases now s₁ a n with ⟨hh, h⟩ | ⟨-, h⟩ | ⟨b, hb, hne, h⟩
  all_goals
    rw [he, Prod.mk.injEq] at h
    obtain ⟨rfl, rfl⟩ := h
  · simp [proceedResponse, hh]
  · simp [proceedResponse, holder]
  · have hb : s₁.currentTest.map Prod.fst = some b := hb
    simp [delayResponse, holder, hb, hne]

theorem completeTest_wellFormed {now now' : Instant} {s : BandwidthTestState} (a : String)
    (h : WellFormed now s) (hnow : now ≤ now') : WellFormed now' (s.completeTest now' a) := by
  unfold completeTest
  split
  · split
    · next hq =>
      refine ⟨h.toOrdered.of_sublist hnow (by simp) (by simp [holder]), ?_⟩
      simp [hq]
    · next b t rest hq =>
      have hn : (b :: rest.map Prod.fst).Nodup := by
        simpa [queued, hq] using h.queued_nodup
      have hs : rest.Sublist s.waitingQueue := by
        rw [hq]
        exact List.sublist_cons_self _ _
      refine ⟨⟨h.queued_nodup.sublist (hs.map _), fun c hc => ?_,
        h.times_sorted.sublist (hs.map _),
        fun e he => le_trans (h.times_past e (hs.subset he)) hnow⟩, by simp⟩
      have : b = c := by simpa [holder] using hc
      subst this
      exact (List.nodup_cons.1 hn).1
  · exact ⟨h.toOrdered.of_sublist hnow (List.Sublist.refl _) (fun _ => id), h.slot_occupied⟩

end BandwidthTestState

/-! ## The manager as a machine -/

inductive Call where
  | request (agentId : String) (dataSizeBytes : UInt64)
  | complete (agentId : String)
deriving DecidableEq, Repr

/-- One call; only `request_test` has an answer. -/
def BandwidthTestState.call (earliest : Instant) (s : BandwidthTestState) :
    Instant × Call → Option (BandwidthTestState × Option BandwidthTestResponse)
  | (now, .request agentId dataSizeBytes) =>
    match s.requestTest earliest now agentId dataSizeBytes with
    | none => none
    | some (s', r) => some (s', some r)
  | (now, .complete agentId) => some (s.completeTest now agentId, none)

/-- The calls at nondecreasing times on a manager that starts as `s₀` at time `t₀`. -/
def managerMachine (earliest t₀ : Instant) (s₀ : BandwidthTestState) :
    Labelled.Machine (Instant × BandwidthTestState) (Instant × Call)
      (Option BandwidthTestResponse) :=
  Labelled.Machine.clocked ⟨s₀, BandwidthTestState.call earliest⟩ t₀

namespace BandwidthTestState

/-- One call keeps the invariant. -/
theorem call_wellFormed {earliest now : Instant} {s s' : BandwidthTestState}
    {c : Instant × Call} {r : Option BandwidthTestResponse} (h : WellFormed now s)
    (hnow : now ≤ c.1) (hc : s.call earliest c = some (s', r)) : WellFormed c.1 s' := by
  obtain ⟨now', c⟩ := c
  cases c with
  | request a n =>
    simp only [call] at hc
    cases hr : s.requestTest earliest now' a n with
    | none => simp [hr] at hc
    | some q =>
      simp only [hr, Option.some.injEq, Prod.mk.injEq] at hc
      obtain ⟨rfl, -⟩ := hc
      exact requestTest_wellFormed h hnow hr
  | complete a =>
    simp only [call, Option.some.injEq, Prod.mk.injEq] at hc
    obtain ⟨rfl, -⟩ := hc
    exact completeTest_wellFormed a h hnow

/-- The answer of a call says whether its caller holds the slot. -/
theorem call_proceed_iff {earliest : Instant} {s s' : BandwidthTestState} {now : Instant}
    {a : String} {n : UInt64} {r : BandwidthTestResponse}
    (hc : s.call earliest (now, .request a n) = some (s', some r)) :
    r.action = .proceed ↔ s'.holder = some a := by
  simp only [call] at hc
  cases hr : s.requestTest earliest now a n with
  | none => simp [hr] at hc
  | some q =>
    simp only [hr, Option.some.injEq, Prod.mk.injEq] at hc
    obtain ⟨rfl, rfl⟩ := hc
    exact requestTest_proceed_iff hr

end BandwidthTestState

/-! ## Top theorems -/

/-- **The manager is well formed after every call**, and a request is answered Proceed exactly
when its caller then holds the slot. -/
theorem manager_wellFormed (earliest t₀ : Instant)
    (testTimeout maxDelay baseDelay currentTestDelay positionMultiplier : UInt64)
    {tr : List (Labelled.Taken (Instant × BandwidthTestState) (Instant × Call)
      (Option BandwidthTestResponse))} {s : Instant × BandwidthTestState}
    (hrun : Labelled.Run (managerMachine earliest t₀ (.new testTimeout maxDelay baseDelay
      currentTestDelay positionMultiplier)) tr s) :
    ∀ t ∈ tr, t.post.2.WellFormed t.post.1 ∧
      ∀ a n r, t.label.2 = .request a n → t.answer = some r →
        (r.action = .proceed ↔ t.post.2.holder = some a) := by
  refine (hrun.invariant_taken (I := fun s => s.2.WellFormed s.1)
    (BandwidthTestState.new_wellFormed _ _ _ _ _ _) fun s a s' b hI hs => ?_).2
  obtain ⟨hle, hs, ht⟩ := (Labelled.Machine.clocked_step_iff _ _ _ _ _ _).1 hs
  have hw : s'.2.WellFormed s'.1 := ht ▸ BandwidthTestState.call_wellFormed hI hle hs
  refine ⟨hw, hw, fun a' n r ha hb => ?_⟩
  obtain ⟨now, c⟩ := a
  subst ha hb
  exact BandwidthTestState.call_proceed_iff hs

/-- An agent starts, another waits and asks again, and gets the slot when the first is done. -/
theorem manager_wellFormed_handover :
    ∃ tr s, (managerMachine (-300000000000) 0 (.new 120 300 30 60 30)).exec
        [(0, .request "a" 1), (5, .request "b" 1), (7, .request "b" 1), (9, .complete "a"),
          (9, .request "b" 1)] = some (tr, s) ∧
      ∀ t ∈ tr, t.post.2.WellFormed t.post.1 := by
  obtain ⟨tr, s, he, hrun⟩ := Labelled.Run.exists_of_exec
    (managerMachine (-300000000000) 0 (.new 120 300 30 60 30))
    [(0, .request "a" 1), (5, .request "b" 1), (7, .request "b" 1), (9, .complete "a"),
      (9, .request "b" 1)] (by decide)
  exact ⟨tr, s, he, fun t ht => (manager_wellFormed _ _ _ _ _ _ _ hrun t ht).1⟩

end LinkSense
