import Mathlib
import LinkSense.Machine
import LinkSense.Server.Api
import LinkSense.SlidingWindow

/-!
# The rate limiter

`AgentRateLimiter` of `server/src/api.rs`, with the cleanup that runs in the background.  Calls
are taken in the order of their times; other agents and cleanups come in between.

    the handlers' checkRateLimit is the limiter's                              (checkRateLimit_eq)
    a request is accepted ↔ fewer than the limit of the agent's accepted requests lie in the window
    the answers to an agent depend on its own requests alone
    at most the limit is accepted in any interval of the window's length     (rateLimiter_exact)
-/

namespace LinkSense

open Labelled SlidingWindow

/-! ## The limiter -/

structure AgentRateLimiter where
  limits : String → Option (List Instant)
  window : Duration
  maxRequests : Nat

namespace AgentRateLimiter

def new (window : Duration) (maxRequests : Nat) : AgentRateLimiter :=
  ⟨fun _ => none, window, maxRequests⟩

/-- `check_rate_limit`. -/
def checkRateLimit (now : Instant) (agentId : String) (l : AgentRateLimiter) :
    Except ApiError Unit × AgentRateLimiter :=
  let requests := ((l.limits agentId).getD []).filter fun time => elapsed time now < l.window
  if requests.length ≥ l.maxRequests then
    (.error .tooManyRequests,
      { l with limits := Function.update l.limits agentId (some requests) })
  else
    (.ok (), { l with limits := Function.update l.limits agentId (some (requests ++ [now])) })

/-- `cleanup_stale_entries`. -/
def cleanupStaleEntries (now : Instant) (l : AgentRateLimiter) : AgentRateLimiter :=
  { l with
    limits := fun agentId =>
      match l.limits agentId with
      | none => none
      | some timestamps =>
        let timestamps := timestamps.filter fun time => elapsed time now < l.window
        if timestamps.isEmpty then none else some timestamps }

end AgentRateLimiter

/-- The check that the handlers make is the limiter's. -/
theorem checkRateLimit_eq (window : Duration) (maxRequests : Nat) (now : Instant)
    (agentId : String) (s : ServerState) :
    checkRateLimit window maxRequests now agentId s =
      let (r, l) := AgentRateLimiter.checkRateLimit now agentId ⟨s.rateLimits, window, maxRequests⟩
      some (r, { s with rateLimits := l.limits }) := by
  unfold checkRateLimit AgentRateLimiter.checkRateLimit
  dsimp only
  split
  all_goals rfl

/-! ## Calls -/

inductive LimiterCall where
  | checkRateLimit (agentId : String)
  | cleanupStaleEntries
deriving DecidableEq, Repr

/-- Calls at times that do not go back, on a new limiter. -/
def rateLimiter (window : Duration) (maxRequests : Nat) (start : Instant) :
    Machine (Instant × AgentRateLimiter) (Instant × LimiterCall) (Except ApiError Unit) :=
  Machine.clocked
    { init := AgentRateLimiter.new window maxRequests
      step := fun l call =>
        match call.2 with
        | .checkRateLimit agentId =>
          let (r, l) := l.checkRateLimit call.1 agentId
          some (l, r)
        | .cleanupStaleEntries => some (l.cleanupStaleEntries call.1, .ok ()) } start

abbrev LimiterStep :=
  Taken (Instant × AgentRateLimiter) (Instant × LimiterCall) (Except ApiError Unit)

def requestsOf (agentId : String) (tr : List LimiterStep) : List Instant :=
  tr.filterMap fun x => if x.label.2 = .checkRateLimit agentId then some x.label.1 else none

/-- Which of the agent's requests were accepted. -/
def answersTo (agentId : String) (tr : List LimiterStep) : List Bool :=
  tr.filterMap fun x => if x.label.2 = .checkRateLimit agentId then some x.answer.isOk else none

/-- The accepted requests of all agents, with their times. -/
def accepted (tr : List LimiterStep) : History String Instant :=
  tr.filterMap fun x =>
    match x.label.2 with
    | .checkRateLimit agentId => if x.answer.isOk then some (agentId, x.label.1) else none
    | .cleanupStaleEntries => none

/-! ## Lemmas -/

/-- A request counts for less than `window`. -/
def durationWindow (window : Duration) : Window Instant where
  counts s t := elapsed s t < window
  fades := by
    intro s t t' h hs
    have hle : elapsed s t ≤ elapsed s t' := Int.toNat_le_toNat (Int.sub_le_sub_right h s)
    exact decide_eq_true (hle.trans_lt (of_decide_eq_true hs))

/-- The limiter runs as a sliding window of its duration. -/
theorem checkRateLimit_eq_request (now : Instant) (agentId : String) (l : AgentRateLimiter) :
    let r := (durationWindow l.window).request l.maxRequests agentId now l.limits
    (l.checkRateLimit now agentId).1.isOk = r.1 ∧
      (l.checkRateLimit now agentId).2 = { l with limits := r.2 } := by
  unfold AgentRateLimiter.checkRateLimit Window.request Window.fresh durationWindow
  dsimp only
  split
  · next hge =>
    rw [if_neg (Nat.not_lt.2 hge)]
    exact ⟨rfl, rfl⟩
  · next hge =>
    rw [if_pos (Nat.lt_of_not_ge hge)]
    exact ⟨rfl, rfl⟩

theorem cleanupStaleEntries_eq (now : Instant) (l : AgentRateLimiter) :
    l.cleanupStaleEntries now =
      { l with limits := (durationWindow l.window).cleanup now l.limits } := by
  unfold AgentRateLimiter.cleanupStaleEntries Window.cleanup
  congr 1
  funext agentId
  cases l.limits agentId with
  | none => rfl
  | some timestamps => rfl

/-- What holds between a run of the limiter and the state it ends in. -/
structure LimitedBy (window : Duration) (maxRequests : Nat) (tr : List LimiterStep)
    (s : Instant × AgentRateLimiter) : Prop where
  window_eq : s.2.window = window
  maxRequests_eq : s.2.maxRequests = maxRequests
  remembers : (durationWindow window).Remembers s.1 (accepted tr) s.2.limits
  sorted : (accepted tr).Pairwise fun a b => a.2 ≤ b.2
  past : ∀ e ∈ accepted tr, e.2 ≤ s.1
  admitted : (durationWindow window).Admitted maxRequests (accepted tr)
  alone : ∀ agentId, (times agentId (accepted tr), answersTo agentId tr) =
    (durationWindow window).alone maxRequests (requestsOf agentId tr)

/-! ## Steps -/

theorem accepted_snoc_request (tr : List LimiterStep) {x : LimiterStep} {agentId : String}
    (hx : x.label.2 = .checkRateLimit agentId) :
    accepted (tr ++ [x]) = if x.answer.isOk then accepted tr ++ [(agentId, x.label.1)]
      else accepted tr := by
  unfold accepted
  rw [List.filterMap_append, List.filterMap_cons, List.filterMap_nil, hx]
  cases x.answer.isOk with
  | true => rfl
  | false => exact List.append_nil _

theorem accepted_snoc_cleanup (tr : List LimiterStep) {x : LimiterStep}
    (hx : x.label.2 = .cleanupStaleEntries) : accepted (tr ++ [x]) = accepted tr := by
  unfold accepted
  rw [List.filterMap_append, List.filterMap_cons, List.filterMap_nil, hx]
  exact List.append_nil _

theorem requestsOf_snoc (agentId : String) (tr : List LimiterStep) (x : LimiterStep) :
    requestsOf agentId (tr ++ [x]) = requestsOf agentId tr ++
      if x.label.2 = .checkRateLimit agentId then [x.label.1] else [] := by
  unfold requestsOf
  rw [List.filterMap_append]
  split
  · next h => simp [h]
  · next h => simp [h]

theorem answersTo_snoc (agentId : String) (tr : List LimiterStep) (x : LimiterStep) :
    answersTo agentId (tr ++ [x]) = answersTo agentId tr ++
      if x.label.2 = .checkRateLimit agentId then [x.answer.isOk] else [] := by
  unfold answersTo
  rw [List.filterMap_append]
  split
  · next h => simp [h]
  · next h => simp [h]

section

variable {window : Duration} {maxRequests : Nat} {start : Instant} {tr : List LimiterStep}
  {s s' : Instant × AgentRateLimiter} {now : Instant} {r : Except ApiError Unit}

/-- An agent's answers with its requests alone, after one request more. -/
theorem alone_snoc_request {tr : List LimiterStep} {x : LimiterStep} {agentId : String}
    (halone : ∀ other, (times other (accepted tr), answersTo other tr) =
      (durationWindow window).alone maxRequests (requestsOf other tr))
    (hx : x.label.2 = .checkRateLimit agentId)
    (hanswer : x.answer.isOk = (durationWindow window).admits maxRequests
      (times agentId (accepted tr)) x.label.1) (other : String) :
    (times other (accepted (tr ++ [x])), answersTo other (tr ++ [x])) =
      (durationWindow window).alone maxRequests (requestsOf other (tr ++ [x])) := by
  rw [accepted_snoc_request tr hx, answersTo_snoc, requestsOf_snoc, hx]
  by_cases ho : agentId = other
  · subst ho
    rw [if_pos rfl, if_pos rfl, Window.alone_snoc, ← halone agentId]
    dsimp only
    rw [← hanswer]
    split
    · rw [times_snoc, if_pos rfl]
    · rfl
  · have hne : LimiterCall.checkRateLimit agentId ≠ .checkRateLimit other :=
      fun he => ho (LimiterCall.checkRateLimit.inj he)
    rw [if_neg hne, if_neg hne, List.append_nil, List.append_nil, ← halone other]
    split
    · rw [times_snoc, if_neg ho, List.append_nil]
    · rfl

theorem limitedBy_request {agentId : String} (h : LimitedBy window maxRequests tr s)
    (hs : (rateLimiter window maxRequests start).step s (now, .checkRateLimit agentId) =
      some (s', r)) :
    (r.isOk = (durationWindow window).admits maxRequests (times agentId (accepted tr)) now) ∧
      LimitedBy window maxRequests (tr ++ [⟨s, (now, .checkRateLimit agentId), r, s'⟩]) s' := by
  obtain ⟨hle, hstep, hnow⟩ := (Machine.clocked_step_iff _ start s s' _ r).1 hs
  have hcall : s.2.checkRateLimit now agentId = (r, s'.2) :=
    Prod.ext (Prod.mk.inj (Option.some.inj hstep)).2 (Prod.mk.inj (Option.some.inj hstep)).1
  dsimp only at hle hnow
  obtain ⟨hanswer, hpost⟩ := checkRateLimit_eq_request now agentId s.2
  rw [hcall, h.window_eq, h.maxRequests_eq] at hanswer hpost
  dsimp only at hanswer hpost
  rw [Window.request_fst h.remembers hle] at hanswer
  refine ⟨hanswer, ?_⟩
  have hacc := accepted_snoc_request tr (x := ⟨s, (now, .checkRateLimit agentId), r, s'⟩) rfl
  dsimp only at hacc
  have hpast : ∀ e ∈ accepted tr, e.2 ≤ now := fun e he => (h.past e he).trans hle
  constructor
  · rw [hpost]
  · rw [hpost]
  · rw [hnow, hpost, hacc, hanswer]
    exact Window.remembers_request h.remembers hle agentId
  · rw [hacc]
    split
    · refine List.pairwise_append.2 ⟨h.sorted, List.pairwise_singleton _ _, fun a ha b hb => ?_⟩
      rw [List.mem_singleton.1 hb]
      exact hpast a ha
    · exact h.sorted
  · rw [hacc, hnow]
    intro e he
    split at he
    · rcases List.mem_append.1 he with he | he
      · exact hpast e he
      · rw [List.mem_singleton.1 he]
    · exact hpast e he
  · rw [hacc]
    split
    · next hok => exact Window.admitted_snoc h.admitted (hanswer.symm.trans hok)
    · exact h.admitted
  · exact alone_snoc_request h.alone rfl hanswer

theorem limitedBy_cleanup (h : LimitedBy window maxRequests tr s)
    (hs : (rateLimiter window maxRequests start).step s (now, .cleanupStaleEntries) =
      some (s', r)) :
    LimitedBy window maxRequests (tr ++ [⟨s, (now, .cleanupStaleEntries), r, s'⟩]) s' := by
  obtain ⟨hle, hstep, hnow⟩ := (Machine.clocked_step_iff _ start s s' _ r).1 hs
  obtain ⟨hl, -⟩ := Prod.mk.inj (Option.some.inj hstep)
  dsimp only at hle hnow hl
  have hpost := cleanupStaleEntries_eq now s.2
  rw [hl, h.window_eq] at hpost
  have hacc := accepted_snoc_cleanup tr (x := ⟨s, (now, .cleanupStaleEntries), r, s'⟩) rfl
  constructor
  · rw [hpost]
  · rw [hpost]
    exact h.maxRequests_eq
  · rw [hnow, hpost, hacc]
    exact Window.remembers_cleanup h.remembers hle
  · rw [hacc]
    exact h.sorted
  · rw [hacc, hnow]
    exact fun e he => (h.past e he).trans hle
  · rw [hacc]
    exact h.admitted
  · intro agentId
    rw [hacc, answersTo_snoc, requestsOf_snoc]
    simpa using h.alone agentId

theorem limitedBy_init (window : Duration) (maxRequests : Nat) (start : Instant) :
    LimitedBy window maxRequests [] (rateLimiter window maxRequests start).init where
  window_eq := rfl
  maxRequests_eq := rfl
  remembers _ _ _ := rfl
  sorted := List.Pairwise.nil
  past := by simp [accepted]
  admitted := Window.admitted_nil _ _
  alone _ := rfl

theorem limitedBy_of_run (hr : Run (rateLimiter window maxRequests start) tr s) :
    LimitedBy window maxRequests tr s := by
  induction hr with
  | nil => exact limitedBy_init window maxRequests start
  | @snoc tr s a s' r _ hs ih =>
    obtain ⟨now, call⟩ := a
    cases call with
    | checkRateLimit agentId => exact (limitedBy_request ih hs).2
    | cleanupStaleEntries => exact limitedBy_cleanup ih hs

theorem elapsed_lt_iff {s t : Instant} (h : s ≤ t) (d : Duration) :
    elapsed s t < d ↔ t - s < (d : Int) := Int.toNat_lt (Int.sub_nonneg_of_le h)

theorem admits_iff {l : List Instant} (hpast : ∀ s ∈ l, s ≤ now) :
    (durationWindow window).admits maxRequests l now = true ↔
      l.countP (fun s => now - s < (window : Int)) < maxRequests := by
  have hcount : ((durationWindow window).fresh now l).length =
      l.countP fun s => now - s < (window : Int) := by
    unfold Window.fresh
    rw [← List.countP_eq_length_filter]
    refine List.countP_congr fun s hs => ?_
    have hle : s ≤ now := hpast s hs
    show decide (elapsed s now < window) = true ↔ decide (now - s < (window : Int)) = true
    rw [decide_eq_true_iff, decide_eq_true_iff, elapsed_lt_iff hle]
  unfold Window.admits
  rw [hcount, decide_eq_true_iff]

theorem mem_times {agentId : String} {t : Instant} {h : History String Instant}
    (ht : t ∈ times agentId h) : (agentId, t) ∈ h := by
  obtain ⟨e, he, hsome⟩ := List.mem_filterMap.1 ht
  split at hsome
  · next hk =>
    rw [← hk, ← Option.some.inj hsome]
    exact he
  · cases hsome

end

/-- **The limiter is an exact sliding window.** -/
theorem rateLimiter_exact (window : Duration) (maxRequests : Nat) (start : Instant)
    {tr : List LimiterStep} {s : Instant × AgentRateLimiter}
    (hr : Run (rateLimiter window maxRequests start) tr s) :
    (∀ before x after, tr = before ++ x :: after →
        ∀ agentId, x.label.2 = .checkRateLimit agentId →
          (x.answer = .ok () ↔ (times agentId (accepted before)).countP
            (fun s => x.label.1 - s < (window : Int)) < maxRequests)) ∧
      (∀ agentId start' tr' s', Run (rateLimiter window maxRequests start') tr' s' →
        requestsOf agentId tr' = requestsOf agentId tr →
          answersTo agentId tr' = answersTo agentId tr) ∧
      ∀ agentId first,
        (times agentId (accepted tr)).countP (fun s => first ≤ s ∧ s < first + (window : Int)) ≤
            maxRequests ∧
          (times agentId (accepted tr)).countP (fun s => first < s ∧ s ≤ first + (window : Int)) ≤
            maxRequests := by
  have hall := limitedBy_of_run hr
  refine ⟨?_, ?_, ?_⟩
  · rintro before ⟨pre, ⟨now, call⟩, r, post⟩ after htr agentId hcall
    dsimp only at hcall ⊢
    subst hcall htr
    have hbefore := limitedBy_of_run hr.before
    have hs := hr.step_of_mem (List.mem_append_right before List.mem_cons_self)
    have hle := ((Machine.clocked_step_iff _ start _ _ _ _).1 hs).1
    rw [← admits_iff fun s hs => (hbefore.past _ (mem_times hs)).trans hle,
      ← (limitedBy_request hbefore hs).1]
    cases r with
    | error e => simp [Except.isOk, Except.toBool]
    | ok _ => simp [Except.isOk, Except.toBool]
  · intro agentId start' tr' s' hr' hsame
    have h := hall.alone agentId
    have h' := (limitedBy_of_run hr').alone agentId
    rw [hsame, ← h] at h'
    exact (Prod.mk.inj h').2
  · intro agentId first
    have hbound := Window.countP_le_limit hall.admitted hall.sorted
    refine ⟨hbound _ (fun (s t : Int) hst hs ht => ?_) agentId,
      hbound _ (fun (s t : Int) hst hs ht => ?_) agentId⟩
    all_goals
      rw [decide_eq_true_iff] at hs ht
      have hshort : t - s < window := by omega
      exact decide_eq_true ((elapsed_lt_iff hst window).2 hshort)

/-! ## A window of two requests -/

/-- Three requests of one agent, one of another, and a cleanup in between. -/
def limiterCalls : List (Instant × LimiterCall) :=
  [(0, .checkRateLimit "agent1"), (10, .checkRateLimit "agent2"), (20, .checkRateLimit "agent1"),
    (30, .checkRateLimit "agent1"), (40, .cleanupStaleEntries), (100, .checkRateLimit "agent1")]

theorem rateLimiter_exact_twoRequests :
    ∃ tr s, Run (rateLimiter 100 2 0) tr s ∧ answersTo "agent1" tr = [true, true, false, true] ∧
      ∀ agentId first,
        (times agentId (accepted tr)).countP (fun s => first ≤ s ∧ s < first + (100 : Int)) ≤ 2 := by
  obtain ⟨tr, s, he, hrun⟩ := Run.exists_of_exec (rateLimiter 100 2 0) limiterCalls (by rfl)
  have hend : ((rateLimiter 100 2 0).exec limiterCalls).map (fun r => answersTo "agent1" r.1) =
      some [true, true, false, true] := by rfl
  rw [he] at hend
  exact ⟨tr, s, hrun, Option.some.inj hend, fun agentId first =>
    ((rateLimiter_exact 100 2 0 hrun).2.2 agentId first).1⟩

end LinkSense
