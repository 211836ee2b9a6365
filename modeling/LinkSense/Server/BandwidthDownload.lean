import LinkSense.Server.Api

/-!
# Bandwidth downloads in progress

A download is admitted when its agent holds the slot, then calls `complete_test`, and only then
streams its body.  So the slot is free, or with the next agent, while the stream runs.  A stream
is live while chunks remain and its test is within the timeout.

A run keeps to one live stream when its calls are coordinated: nobody asks for a test while
another agent's stream is live and the slot is free, timed out or its own, and no download is
admitted beside another admitted download or a live stream.

    every call of a run coordinated → one live stream at most, no Proceed to another agent
      while it is live, and none started beside it                         (exclusive_of_coordinated)
    the download handler checks and starts, the test handler requests
                                   (handleBandwidthDownload_steps, handleBandwidthTest_step)
-/

namespace LinkSense

open Labelled

/-! ## Downloads -/

/-- A download: its agent, the start of the test it was admitted for, the chunks not yet sent. -/
structure Download where
  agentId : String
  testStart : Instant
  chunks : List Nat
deriving DecidableEq, Repr

/-- The manager, the downloads that passed the check, and the bodies being streamed. -/
structure DownloadSystem where
  manager : BandwidthTestState
  admitted : List Download
  streams : List Download
deriving DecidableEq, Repr

/-- `check` and `start` are the two times that the download handler locks the manager. -/
inductive DownloadCall where
  | request (agentId : String)
  | check (agentId : String)
  | start (i : Nat)
  | abandon (i : Nat)
  | chunk (i : Nat)
  | disconnect (i : Nat)
deriving DecidableEq, Repr

/-- One step of the manager, of a handler or of a body. -/
def DownloadSystem.call (earliest : Instant) (sizeMb : UInt32) (s : DownloadSystem) :
    Instant × DownloadCall → Option (DownloadSystem × Option BandwidthTestResponse)
  | (now, .request agentId) =>
    match s.manager.requestTest earliest now agentId (sizeMb.toUInt64 * 1024 * 1024) with
    | none => none
    | some (manager, r) => some ({ s with manager := manager }, some r)
  | (now, .check agentId) =>
    match admitDownload (s.manager.getStatus now) agentId, s.manager.currentTest with
    | .ok (), some (_, testStart) =>
      let d : Download := ⟨agentId, testStart, downloadChunks (downloadSize sizeMb)⟩
      some ({ s with admitted := s.admitted ++ [d] }, none)
    | _, _ => some (s, none)
  | (now, .start i) =>
    match s.admitted[i]? with
    | none => none
    | some d =>
      some (⟨s.manager.completeTest now d.agentId, s.admitted.eraseIdx i, s.streams ++ [d]⟩, none)
  | (_, .abandon i) => some ({ s with admitted := s.admitted.eraseIdx i }, none)
  | (_, .chunk i) =>
    match s.streams[i]? with
    | none => none
    | some d => some ({ s with streams := s.streams.set i { d with chunks := d.chunks.tail } }, none)
  | (_, .disconnect i) => some ({ s with streams := s.streams.eraseIdx i }, none)

def downloadMachine (earliest t₀ : Instant) (sizeMb : UInt32) (s₀ : BandwidthTestState) :
    Machine (Instant × DownloadSystem) (Instant × DownloadCall) (Option BandwidthTestResponse) :=
  Machine.clocked ⟨⟨s₀, [], []⟩, DownloadSystem.call earliest sizeMb⟩ t₀

abbrev DownloadStep :=
  Taken (Instant × DownloadSystem) (Instant × DownloadCall) (Option BandwidthTestResponse)

/-! ## Exclusion -/

/-- Chunks remain, and the test is within its timeout. -/
def Download.live (timeout : Duration) (now : Instant) (d : Download) : Bool :=
  !d.chunks.isEmpty && decide (elapsed d.testStart now ≤ timeout)

namespace DownloadSystem

def isLive (now : Instant) (s : DownloadSystem) (d : Download) : Bool :=
  d.live s.manager.testTimeout now

/-- How many streams are live at `now`. -/
def liveStreams (now : Instant) (s : DownloadSystem) : Nat := s.streams.countP (s.isLive now)

/-- Another agent's stream is live. -/
def OthersLive (now : Instant) (s : DownloadSystem) (agentId : String) : Prop :=
  ∃ d ∈ s.streams, s.isLive now d = true ∧ d.agentId ≠ agentId

/-- What a call needs, for the tests to exclude each other. -/
def Coordinated (s : DownloadSystem) : Instant × DownloadCall → Prop
  | (now, .request agentId) =>
    s.OthersLive now agentId → ∃ e ∈ s.manager.unexpiredTest now, e.1 ≠ agentId
  | (now, .check agentId) =>
    s.manager.holder = some agentId → s.admitted = [] ∧ s.liveStreams now = 0
  | _ => True

end DownloadSystem

/-- No Proceed while another agent's stream is live, and no start while any is. -/
def Exclusive (t : DownloadStep) : Prop :=
  match t.label.2 with
  | .request agentId =>
    ∀ r, t.answer = some r → r.action = .proceed → ¬ t.pre.2.OthersLive t.label.1 agentId
  | .start _ => t.pre.2.liveStreams t.label.1 = 0
  | _ => True

instance (now : Instant) (s : DownloadSystem) (a : String) : Decidable (s.OthersLive now a) :=
  inferInstanceAs (Decidable (∃ d ∈ s.streams, s.isLive now d = true ∧ d.agentId ≠ a))

instance (s : DownloadSystem) (c : Instant × DownloadCall) : Decidable (s.Coordinated c) :=
  match c with
  | (now, .request a) => inferInstanceAs (Decidable
      (s.OthersLive now a → ∃ e ∈ s.manager.unexpiredTest now, e.1 ≠ a))
  | (now, .check a) => inferInstanceAs (Decidable
      (s.manager.holder = some a → s.admitted = [] ∧ s.liveStreams now = 0))
  | (_, .start _) => .isTrue trivial
  | (_, .abandon _) => .isTrue trivial
  | (_, .chunk _) => .isTrue trivial
  | (_, .disconnect _) => .isTrue trivial

instance : DecidablePred Exclusive
  | ⟨s, (now, .request a), answer, _⟩ => inferInstanceAs (Decidable
      (∀ r ∈ answer, r.action = .proceed → ¬ s.2.OthersLive now a))
  | ⟨s, (now, .start _), _, _⟩ => inferInstanceAs (Decidable (s.2.liveStreams now = 0))
  | ⟨_, (_, .check _), _, _⟩ => .isTrue trivial
  | ⟨_, (_, .abandon _), _, _⟩ => .isTrue trivial
  | ⟨_, (_, .chunk _), _, _⟩ => .isTrue trivial
  | ⟨_, (_, .disconnect _), _, _⟩ => .isTrue trivial

/-! ## Lemmas -/

theorem elapsed_mono (start : Instant) {now now' : Instant} (h : now ≤ now') :
    elapsed start now ≤ elapsed start now' := by
  unfold elapsed
  exact Int.toNat_le_toNat (Int.sub_le_sub_right h start)

theorem Download.live_of_later {timeout : Duration} {now now' : Instant} {d : Download}
    (hle : now ≤ now') (h : d.live timeout now' = true) : d.live timeout now = true := by
  unfold Download.live at h ⊢
  rw [Bool.and_eq_true, decide_eq_true_eq] at h ⊢
  exact ⟨h.1, le_trans (elapsed_mono d.testStart hle) h.2⟩

theorem Download.live_tail {timeout : Duration} {now : Instant} {d : Download}
    (h : ({ d with chunks := d.chunks.tail } : Download).live timeout now = true) :
    d.live timeout now = true := by
  unfold Download.live at h ⊢
  cases hc : d.chunks with
  | nil => simp [hc] at h
  | cons n rest =>
    simp only [Bool.and_eq_true] at h
    simpa using h.2

namespace BandwidthTestState

@[simp] theorem testTimeout_completeTest (now : Instant) (s : BandwidthTestState) (a : String) :
    (s.completeTest now a).testTimeout = s.testTimeout := by
  unfold completeTest
  split
  · split <;> rfl
  · rfl

theorem testTimeout_requestTest {earliest now : Instant} {s s' : BandwidthTestState} {a : String}
    {n : UInt64} {r : BandwidthTestResponse} (h : s.requestTest earliest now a n = some (s', r)) :
    s'.testTimeout = s.testTimeout := by
  obtain ⟨s₁, hc, hr⟩ := (requestTest_eq_some_iff _ _ _ _ _ _ _).1 h
  obtain ⟨-, rfl⟩ := (cleanupExpiredTests_eq_some_iff _ _ _ _).1 hc
  rcases requestUnexpired_cases now _ a n with ⟨-, he⟩ | ⟨-, he⟩ | ⟨b, -, -, he⟩
  all_goals
    rw [he, Prod.mk.injEq] at hr
    exact (congrArg testTimeout hr.1).symm

/-- A request is answered Proceed unless another agent's test runs within its timeout. -/
theorem requestTest_proceed_iff_unexpired {earliest now : Instant} {s s' : BandwidthTestState}
    {a : String} {n : UInt64} {r : BandwidthTestResponse}
    (h : s.requestTest earliest now a n = some (s', r)) :
    r.action = .proceed ↔ ¬ ∃ e ∈ s.unexpiredTest now, e.1 ≠ a := by
  obtain ⟨s₁, hc, hr⟩ := (requestTest_eq_some_iff _ _ _ _ _ _ _).1 h
  obtain ⟨-, rfl⟩ := (cleanupExpiredTests_eq_some_iff _ _ _ _).1 hc
  rcases requestUnexpired_cases now _ a n with ⟨hh, he⟩ | ⟨hn, he⟩ | ⟨b, hb, hne, he⟩
  all_goals
    rw [he, Prod.mk.injEq] at hr
    obtain ⟨-, rfl⟩ := hr
  · have hh : (s.unexpiredTest now).map Prod.fst = some a := hh
    obtain ⟨e, hunexp, rfl⟩ := Option.map_eq_some_iff.1 hh
    simp [proceedResponse, hunexp]
  · have hn : s.unexpiredTest now = none := hn
    simp [proceedResponse, hn]
  · have hb : (s.unexpiredTest now).map Prod.fst = some b := hb
    obtain ⟨e, hunexp, rfl⟩ := Option.map_eq_some_iff.1 hb
    simp only [delayResponse, reduceCtorEq, false_iff, not_not]
    exact ⟨e, hunexp, hne⟩

end BandwidthTestState

theorem admitDownload_eq_ok_iff (now : Instant) (s : BandwidthTestState) (a : String) :
    admitDownload (s.getStatus now) a = .ok () ↔ s.holder = some a := by
  unfold BandwidthTestState.getStatus BandwidthTestState.holder
  cases s.currentTest with
  | none => simp [admitDownload]
  | some e => simp [admitDownload]

namespace DownloadSystem

/-- One stream at most is live, and none while a download is admitted. -/
structure OneLive (now : Instant) (s : DownloadSystem) : Prop where
  admitted_le : s.admitted.length ≤ 1
  live_le : s.liveStreams now ≤ 1
  none_live : s.admitted ≠ [] → s.liveStreams now = 0

theorem liveStreams_mono {now now' : Instant} (s : DownloadSystem) (hle : now ≤ now') :
    s.liveStreams now' ≤ s.liveStreams now :=
  List.countP_mono_left fun _ _ h => Download.live_of_later hle h

theorem OneLive.later {now now' : Instant} {s : DownloadSystem} (h : OneLive now s)
    (hle : now ≤ now') : OneLive now' s where
  admitted_le := h.admitted_le
  live_le := le_trans (s.liveStreams_mono hle) h.live_le
  none_live ha := by
    have := s.liveStreams_mono hle
    rw [h.none_live ha] at this
    omega

/-- Neither admitted downloads nor live streams were added. -/
theorem OneLive.of_le {now : Instant} {s s' : DownloadSystem} (h : OneLive now s)
    (ha : s'.admitted.Sublist s.admitted) (hl : s'.liveStreams now ≤ s.liveStreams now) :
    OneLive now s' where
  admitted_le := le_trans ha.length_le h.admitted_le
  live_le := le_trans hl h.live_le
  none_live hne := by
    have : s.admitted ≠ [] := by
      intro hnil
      rw [hnil] at ha
      exact hne (List.sublist_nil.1 ha)
    have := h.none_live this
    omega

theorem request_oneLive {earliest now : Instant} {sizeMb : UInt32} {s s' : DownloadSystem}
    {a : String} {r : Option BandwidthTestResponse} (h : OneLive now s)
    (hs : s.call earliest sizeMb (now, .request a) = some (s', r)) : OneLive now s' := by
  simp only [call] at hs
  cases hr : s.manager.requestTest earliest now a (sizeMb.toUInt64 * 1024 * 1024) with
  | none => simp [hr] at hs
  | some q =>
    simp only [hr, Option.some.injEq, Prod.mk.injEq] at hs
    obtain ⟨rfl, -⟩ := hs
    refine h.of_le (List.Sublist.refl _) (le_of_eq ?_)
    unfold liveStreams isLive
    rw [BandwidthTestState.testTimeout_requestTest hr]

theorem check_oneLive {earliest now : Instant} {sizeMb : UInt32} {s s' : DownloadSystem}
    {a : String} {r : Option BandwidthTestResponse} (h : OneLive now s)
    (hc : s.Coordinated (now, .check a))
    (hs : s.call earliest sizeMb (now, .check a) = some (s', r)) : OneLive now s' := by
  simp only [call] at hs
  split at hs
  · next testStart hadm _ =>
    rw [admitDownload_eq_ok_iff] at hadm
    obtain ⟨hnil, hnone⟩ := hc hadm
    simp only [Option.some.injEq, Prod.mk.injEq] at hs
    obtain ⟨rfl, -⟩ := hs
    have hlive : liveStreams now { s with admitted := s.admitted ++
        [⟨a, testStart, downloadChunks (downloadSize sizeMb)⟩] } = 0 := hnone
    exact ⟨by simp [hnil], by rw [hlive]; omega, fun _ => hlive⟩
  · simp only [Option.some.injEq, Prod.mk.injEq] at hs
    rwa [← hs.1]

/-- The one admitted download becomes the one live stream. -/
theorem start_oneLive {earliest now : Instant} {sizeMb : UInt32} {s s' : DownloadSystem}
    {i : Nat} {r : Option BandwidthTestResponse} (h : OneLive now s)
    (hs : s.call earliest sizeMb (now, .start i) = some (s', r)) :
    s.liveStreams now = 0 ∧ OneLive now s' := by
  simp only [call] at hs
  cases hd : s.admitted[i]? with
  | none => simp [hd] at hs
  | some d =>
    simp only [hd, Option.some.injEq, Prod.mk.injEq] at hs
    obtain ⟨rfl, -⟩ := hs
    obtain ⟨hi, -⟩ := List.getElem?_eq_some_iff.1 hd
    have hone := h.admitted_le
    have hnone : s.liveStreams now = 0 := h.none_live (List.ne_nil_of_length_pos (by omega))
    have herase : (s.admitted.eraseIdx i).length = 0 := by
      rw [List.length_eraseIdx_of_lt hi]
      omega
    refine ⟨hnone, le_trans (le_of_eq herase) (by omega), ?_,
      fun hne => absurd (List.length_eq_zero_iff.1 herase) hne⟩
    unfold liveStreams isLive at hnone ⊢
    rw [BandwidthTestState.testTimeout_completeTest, List.countP_append, hnone]
    exact le_trans (Nat.add_le_add_left List.countP_le_length _) (by simp)

theorem chunk_oneLive {earliest now : Instant} {sizeMb : UInt32} {s s' : DownloadSystem}
    {i : Nat} {r : Option BandwidthTestResponse} (h : OneLive now s)
    (hs : s.call earliest sizeMb (now, .chunk i) = some (s', r)) : OneLive now s' := by
  simp only [call] at hs
  cases hd : s.streams[i]? with
  | none => simp [hd] at hs
  | some d =>
    simp only [hd, Option.some.injEq, Prod.mk.injEq] at hs
    obtain ⟨rfl, -⟩ := hs
    obtain ⟨hi, rfl⟩ := List.getElem?_eq_some_iff.1 hd
    refine h.of_le (List.Sublist.refl _) ?_
    show (s.streams.set i _).countP (s.isLive now) ≤ s.streams.countP (s.isLive now)
    rw [List.countP_set hi]
    by_cases hl : s.isLive now { s.streams[i] with chunks := s.streams[i].chunks.tail } = true
    · have hpre : s.isLive now s.streams[i] = true := Download.live_tail hl
      have hpos : 0 < s.streams.countP (s.isLive now) :=
        List.countP_pos_iff.2 ⟨_, List.getElem_mem hi, hpre⟩
      rw [if_pos hl, if_pos hpre]
      omega
    · rw [if_neg hl]
      omega

/-- A coordinated step keeps one live stream at most, and excludes. -/
theorem call_oneLive {earliest now now' : Instant} {sizeMb : UInt32} {s s' : DownloadSystem}
    {c : DownloadCall} {r : Option BandwidthTestResponse} (h : OneLive now s) (hle : now ≤ now')
    (hc : s.Coordinated (now', c)) (hs : s.call earliest sizeMb (now', c) = some (s', r)) :
    OneLive now' s' ∧ Exclusive ⟨(now, s), (now', c), r, (now', s')⟩ := by
  have h := h.later hle
  cases c with
  | request a =>
    refine ⟨request_oneLive h hs, fun resp hresp hproceed hothers => ?_⟩
    simp only [call] at hs
    cases hr : s.manager.requestTest earliest now' a (sizeMb.toUInt64 * 1024 * 1024) with
    | none => simp [hr] at hs
    | some q =>
      simp only [hr, Option.some.injEq, Prod.mk.injEq] at hs
      have hq : q.2 = resp := Option.some.inj (hs.2.trans hresp)
      subst hq
      exact (BandwidthTestState.requestTest_proceed_iff_unexpired hr).1 hproceed (hc hothers)
  | check a => exact ⟨check_oneLive h hc hs, trivial⟩
  | start i => exact (start_oneLive h hs).symm
  | abandon i =>
    simp only [call, Option.some.injEq, Prod.mk.injEq] at hs
    rw [← hs.1]
    exact ⟨h.of_le (List.eraseIdx_sublist _ _) (le_refl _), trivial⟩
  | chunk i => exact ⟨chunk_oneLive h hs, trivial⟩
  | disconnect i =>
    simp only [call, Option.some.injEq, Prod.mk.injEq] at hs
    rw [← hs.1]
    exact ⟨h.of_le (List.Sublist.refl _) (List.eraseIdx_sublist _ _).countP_le, trivial⟩

end DownloadSystem

/-! ## The handlers -/

/-- The download handler is a check and a start. -/
theorem handleBandwidthDownload_steps {server : Server} {m : Moment}
    {params : String → Option String} {s s' : ServerState} {chunks : List Nat}
    (h : handleBandwidthDownload server m params s = some (.ok chunks, s'))
    (earliest : Instant) (streams : List Download) :
    ∃ testStart s₁,
      DownloadSystem.call earliest server.config.bandwidthTestSizeMb ⟨s.bandwidth, [], streams⟩
        (m.now, .check ((params "agent_id").getD "")) = some (s₁, none) ∧
      s₁.call earliest server.config.bandwidthTestSizeMb (m.now, .start 0) =
        some (⟨s'.bandwidth, [],
          streams ++ [⟨(params "agent_id").getD "", testStart, chunks⟩]⟩, none) := by
  obtain ⟨_, -, h⟩ := Handler.check_andThen_eq_ok h
  obtain ⟨_, -, h⟩ := Handler.check_andThen_eq_ok h
  obtain ⟨_, s₁, hadm, h⟩ := Handler.andThen_eq_ok h
  simp only [Handler.check, Option.some.injEq, Prod.mk.injEq] at hadm
  obtain ⟨hadm, rfl⟩ := hadm
  simp only [Option.some.injEq, Prod.mk.injEq, Except.ok.injEq] at h
  obtain ⟨rfl, rfl⟩ := h
  generalize (params "agent_id").getD "" = a at hadm ⊢
  have hh : s.bandwidth.currentTest.map Prod.fst = some a :=
    (admitDownload_eq_ok_iff _ _ _).1 hadm
  obtain ⟨e, hcur, rfl⟩ := Option.map_eq_some_iff.1 hh
  refine ⟨e.2, ⟨s.bandwidth, [⟨e.1, e.2, downloadChunks (downloadSize
    server.config.bandwidthTestSizeMb)⟩], streams⟩, ?_, rfl⟩
  simp only [DownloadSystem.call, hadm, hcur]
  rfl

/-- The test handler, once its checks let the agent through, is a request. -/
theorem handleBandwidthTest_step {server : Server} {m : Moment} {headers : HeaderMap}
    {request : BandwidthTestRequest} {s s' : ServerState} {r : BandwidthTestResponse}
    (h : handleBandwidthTest server m headers request s = some (.ok r, s'))
    (admitted streams : List Download) :
    DownloadSystem.call server.earliest server.config.bandwidthTestSizeMb
        ⟨s.bandwidth, admitted, streams⟩ (m.now, .request request.agentId) =
      some (⟨s'.bandwidth, admitted, streams⟩, some r) := by
  obtain ⟨_, s₁, hl, h⟩ := Handler.andThen_eq_ok (checked_eq_ok h)
  have hsame : s₁.bandwidth = s.bandwidth := by rw [limitRate_frame hl]
  simp only [hsame] at h
  cases hr : s.bandwidth.requestTest server.earliest m.now request.agentId
      (server.config.bandwidthTestSizeMb.toUInt64 * 1024 * 1024) with
  | none => simp [hr] at h
  | some p =>
    simp only [hr, Option.some.injEq, Prod.mk.injEq, Except.ok.injEq] at h
    obtain ⟨rfl, rfl⟩ := h
    simp only [DownloadSystem.call, hr]

/-! ## Top theorems -/

/-- **Coordinated tests exclude each other**: no Proceed to another agent while a stream is live,
no start beside it, and one live stream at most in the state reached. -/
theorem exclusive_of_coordinated (earliest t₀ : Instant) (sizeMb : UInt32)
    (testTimeout maxDelay baseDelay currentTestDelay positionMultiplier : UInt64)
    {tr : List DownloadStep} {s : Instant × DownloadSystem}
    (hrun : Run (downloadMachine earliest t₀ sizeMb (.new testTimeout maxDelay baseDelay
      currentTestDelay positionMultiplier)) tr s)
    (hcoord : ∀ t ∈ tr, t.pre.2.Coordinated t.label) :
    (∀ t ∈ tr, Exclusive t) ∧ s.2.liveStreams s.1 ≤ 1 := by
  have hguard := hrun.guarded (I := fun s => s.2.OneLive s.1)
    (C := fun s c => s.2.Coordinated c) (P := Exclusive)
    ⟨by simp [downloadMachine, Machine.clocked],
      by simp [downloadMachine, Machine.clocked, DownloadSystem.liveStreams],
      fun h => absurd rfl h⟩
    (fun s c s' r hI hC hs => ?_) hcoord
  · exact ⟨hguard.2, hguard.1.live_le⟩
  · obtain ⟨hle, hs, ht⟩ := (Machine.clocked_step_iff _ _ _ _ _ _).1 hs
    obtain ⟨now', s'⟩ := s'
    obtain rfl : now' = c.1 := ht
    exact DownloadSystem.call_oneLive hI hle hC hs

/-- One agent after the other: `b` asks while `a` still streams, but queues behind `c`. -/
theorem exclusive_of_coordinated_queue :
    ∃ tr s, (downloadMachine (-300000000000) 0 1 (.new 120 300 30 60 30)).exec
        [(0, .request "a"), (1, .request "c"), (2, .check "a"), (3, .start 0), (4, .request "b"),
          (5, .chunk 0), (6, .disconnect 0), (7, .check "c"), (8, .start 0)] = some (tr, s) ∧
      (∀ t ∈ tr, Exclusive t) ∧ s.2.liveStreams s.1 ≤ 1 := by
  obtain ⟨tr, s, he, hrun⟩ := Run.exists_of_exec
    (downloadMachine (-300000000000) 0 1 (.new 120 300 30 60 30))
    [(0, .request "a"), (1, .request "c"), (2, .check "a"), (3, .start 0), (4, .request "b"),
      (5, .chunk 0), (6, .disconnect 0), (7, .check "c"), (8, .start 0)] (by decide)
  refine ⟨tr, s, he, exclusive_of_coordinated _ _ _ _ _ _ _ _ hrun ?_⟩
  have hcoord : ((downloadMachine (-300000000000) 0 1 (.new 120 300 30 60 30)).exec
      [(0, .request "a"), (1, .request "c"), (2, .check "a"), (3, .start 0), (4, .request "b"),
        (5, .chunk 0), (6, .disconnect 0), (7, .check "c"), (8, .start 0)]).map
      (fun p => decide (∀ t ∈ p.1, t.pre.2.Coordinated t.label)) = some true := by decide
  rw [he] at hcoord
  simpa using hcoord

/-- `a` downloads; a second later `b` asks, is answered Proceed and downloads too. -/
theorem not_exclusive_download :
    ∃ tr s, Run (downloadMachine (-300000000000) 0 1 (.new 120 300 30 60 30)) tr s ∧
      tr.map Taken.label = [(0, .request "a"), (0, .check "a"), (0, .start 0), (0, .chunk 0),
        (1000000000, .request "b"), (1000000000, .check "b"), (1000000000, .start 0)] ∧
      (¬ ∀ t ∈ tr, Exclusive t) ∧ s.2.liveStreams s.1 = 2 := by
  obtain ⟨tr, s, he, hrun⟩ := Run.exists_of_exec
    (downloadMachine (-300000000000) 0 1 (.new 120 300 30 60 30))
    [(0, .request "a"), (0, .check "a"), (0, .start 0), (0, .chunk 0),
      (1000000000, .request "b"), (1000000000, .check "b"), (1000000000, .start 0)] (by decide)
  have hbad : ((downloadMachine (-300000000000) 0 1 (.new 120 300 30 60 30)).exec
      [(0, .request "a"), (0, .check "a"), (0, .start 0), (0, .chunk 0),
        (1000000000, .request "b"), (1000000000, .check "b"), (1000000000, .start 0)]).map
      (fun p => (decide (∀ t ∈ p.1, Exclusive t), p.2.2.liveStreams p.2.1)) =
      some (false, 2) := by decide
  rw [he] at hbad
  simp only [Option.map_some, Option.some.injEq, Prod.mk.injEq, decide_eq_false_iff_not] at hbad
  exact ⟨tr, s, hrun, Machine.execFrom_labels he, hbad.1, hbad.2⟩

end LinkSense
