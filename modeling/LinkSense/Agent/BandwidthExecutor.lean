import LinkSense.Agent.Tasks
import LinkSense.Shared.Api

/-!
# The bandwidth executor

`execute_bandwidth_task` of `agent/src/task_bandwidth.rs`: ask the server for permission until it
says Proceed, sleeping as long as it says in between, then download.  The outside chooses every
reply and lets time pass on a clock that never goes back; a sleep lasts its delay at least.

    one execution asks max_retries times at most, downloads once at most and right after a Proceed,
      and sleeps less than timeout_seconds unless that is zero          (executeBandwidth_bounded)
-/

namespace LinkSense

/-! ## The outside -/

inductive PermissionReply where
  | sendFailed (error : String)
  | rejected (status : String)
  | unparsable (error : String)
  | answered (response : BandwidthTestResponse)
deriving DecidableEq, Repr

/-- One round of the loop: the reply, and what passes on the clock. -/
structure PermissionRound where
  reply : PermissionReply
  /-- From the check at the top of the loop until the reply is there. -/
  requestTime : Duration
  /-- From there until a refusal to wait is put into words. -/
  refusalTime : Duration
  /-- What the sleep lasts beyond its delay, until the next check. -/
  oversleep : Duration
deriving DecidableEq, Repr

inductive DownloadReply where
  | sendFailed (error : String)
  | rejected (status : String)
  /-- The lengths of the chunks, or where the stream fails, and the time that they take. -/
  | streamed (chunks : List (Except String Nat)) (duration : Duration)

/-- All that one execution meets; the rounds are numbered by `retry_count`. -/
structure BandwidthEnv where
  setupTime : Duration
  rounds : Nat → PermissionRound
  /-- From the Proceed to the reading for the rest of the timeout. -/
  proceedTime : Duration
  download : DownloadReply

inductive BandwidthEvent where
  | request (reply : PermissionReply)
  | sleep (seconds : UInt32)
  | download (timeoutSeconds : Nat)
deriving DecidableEq, Repr

/-! ## Algorithm -/

/-- The loop; the result is the time elapsed at the Proceed.  `as_secs() + delay` fits `u64`, since
an instant has its seconds in an `i64` and the delay in a `u32`. -/
def permissionLoop (params : BandwidthParams) (rounds : Nat → PermissionRound)
    (elapsed : Duration) (retryCount : Nat) : List BandwidthEvent × Except String Duration :=
  if asSecs elapsed ≥ params.timeoutSeconds.toNat then
    ([], .error
      s!"Bandwidth test timed out after {retryCount} retry attempts ({asSecs elapsed} seconds elapsed)")
  else if retryCount ≥ params.maxRetries.toNat then
    ([], .error
      s!"Exceeded maximum retry attempts ({params.maxRetries}) waiting for bandwidth test slot")
  else
    let round := rounds retryCount
    let request := BandwidthEvent.request round.reply
    let replied := elapsed + round.requestTime
    match round.reply with
    | .sendFailed e => ([request], .error s!"Failed to request bandwidth test: {e}")
    | .rejected status => ([request], .error s!"Server rejected bandwidth test request: {status}")
    | .unparsable e => ([request], .error s!"Failed to parse bandwidth test response: {e}")
    | .answered response =>
      match response.action with
      | .proceed => ([request], .ok replied)
      | .delay =>
        let delaySeconds := response.delaySeconds.getD 60
        if asSecs replied + delaySeconds.toNat ≥ params.timeoutSeconds.toNat then
          ([request], .error
            s!"Cannot wait {delaySeconds} seconds - would exceed task timeout ({params.timeoutSeconds.toNat - asSecs (replied + round.refusalTime)} seconds remaining)")
        else
          let woken := replied + fromSecs delaySeconds.toUInt64 + round.oversleep
          let (events, result) := permissionLoop params rounds woken (retryCount + 1)
          (request :: .sleep delaySeconds :: events, result)
  termination_by params.maxRetries.toNat - retryCount

/-- The loop over the stream of the download. -/
def countBytes (bytesDownloaded : UInt64) : List (Except String Nat) → Except String UInt64
  | [] => .ok bytesDownloaded
  | .error e :: _ => .error s!"Failed to download bandwidth test data: {e}"
  | .ok length :: chunks => countBytes (bytesDownloaded + UInt64.ofNat length) chunks

def downloadResult : DownloadReply → Except String (UInt64 × Duration)
  | .sendFailed e => .error s!"Failed to start bandwidth download: {e}"
  | .rejected status => .error s!"Bandwidth download failed: {status}"
  | .streamed chunks duration => (countBytes 0 chunks).map fun bytes => (bytes, duration)

/-- `execute_bandwidth_task`, up to the metric that is made of the result. -/
def executeBandwidth (params : BandwidthParams) (env : BandwidthEnv) :
    List BandwidthEvent × Except String (UInt64 × Duration) :=
  match permissionLoop params env.rounds env.setupTime 0 with
  | (events, .error e) => (events, .error e)
  | (events, .ok elapsed) =>
    let remaining := params.timeoutSeconds.toNat - asSecs (elapsed + env.proceedTime)
    (events ++ [.download remaining], downloadResult env.download)

namespace BandwidthEvent

def isRequest : BandwidthEvent → Bool
  | .request _ => true
  | _ => false

def isDownload : BandwidthEvent → Bool
  | .download _ => true
  | _ => false

def slept : BandwidthEvent → Nat
  | .sleep seconds => seconds.toNat
  | _ => 0

def proceeds : BandwidthEvent → Bool
  | .request (.answered response) => response.action = .proceed
  | _ => false

end BandwidthEvent

def sleptSeconds (events : List BandwidthEvent) : Nat := (events.map BandwidthEvent.slept).sum

/-- The bounds of one execution. -/
structure BoundedExecution (params : BandwidthParams) (events : List BandwidthEvent) : Prop where
  requests : events.countP BandwidthEvent.isRequest ≤ params.maxRetries.toNat
  downloads : events.countP BandwidthEvent.isDownload ≤ 1
  afterProceed : ∀ before seconds after, events = before ++ .download seconds :: after →
    ∃ earlier event, before = earlier ++ [event] ∧ event.proceeds
  slept : sleptSeconds events < params.timeoutSeconds.toNat ∨
    params.timeoutSeconds = 0 ∧ events = []

/-! ## Lemmas -/

variable {params : BandwidthParams} {rounds : Nat → PermissionRound} {elapsed : Duration}
  {retryCount : Nat}

theorem asSecs_add_le (elapsed oversleep : Nat) (seconds : UInt32) :
    asSecs elapsed + seconds.toNat ≤
      asSecs (elapsed + fromSecs seconds.toUInt64 + oversleep) := by
  unfold asSecs fromSecs
  rw [UInt32.toNat_toUInt64]
  omega

theorem asSecs_le_add (elapsed passed : Nat) : asSecs elapsed ≤ asSecs (elapsed + passed) :=
  Nat.div_le_div_right (Nat.le_add_right _ _)

/-- What one round of the loop can do: stop, end with a request, or sleep before the next round. -/
theorem permissionLoop_cases (params : BandwidthParams) (rounds : Nat → PermissionRound)
    (elapsed : Duration) (retryCount : Nat) :
    ((permissionLoop params rounds elapsed retryCount).1 = [] ∧
      ∀ t, (permissionLoop params rounds elapsed retryCount).2 ≠ .ok t) ∨
    (asSecs elapsed < params.timeoutSeconds.toNat ∧ retryCount < params.maxRetries.toNat ∧
      ∃ event, (permissionLoop params rounds elapsed retryCount).1 = [event] ∧ event.isRequest ∧
        (event.proceeds ∨ ∀ t, (permissionLoop params rounds elapsed retryCount).2 ≠ .ok t)) ∨
    (retryCount < params.maxRetries.toNat ∧ ∃ reply seconds woken,
      permissionLoop params rounds elapsed retryCount =
        (.request reply :: .sleep seconds ::
            (permissionLoop params rounds woken (retryCount + 1)).1,
          (permissionLoop params rounds woken (retryCount + 1)).2) ∧
      asSecs elapsed + seconds.toNat < params.timeoutSeconds.toNat ∧
      asSecs elapsed + seconds.toNat ≤ asSecs woken) := by
  generalize hr : permissionLoop params rounds elapsed retryCount = r
  rw [permissionLoop] at hr
  split_ifs at hr with htime hcount
  · subst hr
    exact .inl ⟨rfl, nofun⟩
  · subst hr
    exact .inl ⟨rfl, nofun⟩
  have htime := not_le.1 htime
  have hcount := not_le.1 hcount
  cases hreply : (rounds retryCount).reply with
  | sendFailed e =>
    simp only [hreply] at hr
    subst hr
    exact .inr (.inl ⟨htime, hcount, _, rfl, rfl, .inr nofun⟩)
  | rejected status =>
    simp only [hreply] at hr
    subst hr
    exact .inr (.inl ⟨htime, hcount, _, rfl, rfl, .inr nofun⟩)
  | unparsable e =>
    simp only [hreply] at hr
    subst hr
    exact .inr (.inl ⟨htime, hcount, _, rfl, rfl, .inr nofun⟩)
  | answered response =>
    cases haction : response.action with
    | proceed =>
      simp only [hreply, haction] at hr
      subst hr
      exact .inr (.inl ⟨htime, hcount, _, rfl, rfl, .inl (decide_eq_true haction)⟩)
    | delay =>
      simp only [hreply, haction] at hr
      split at hr
      · subst hr
        exact .inr (.inl ⟨htime, hcount, _, rfl, rfl, .inr nofun⟩)
      · next hfits =>
        subst hr
        have hfits := not_le.1 hfits
        have hlate := asSecs_le_add elapsed (rounds retryCount).requestTime
        refine .inr (.inr ⟨hcount, _, _, _, rfl, by omega, ?_⟩)
        exact le_trans (Nat.add_le_add_right hlate _) (asSecs_add_le _ _ _)

/-- What the loop has done when it ends, entered with this time and count. -/
structure LoopBounded (params : BandwidthParams) (elapsed : Duration) (retryCount : Nat)
    (r : List BandwidthEvent × Except String Duration) : Prop where
  requests : r.1.countP BandwidthEvent.isRequest + retryCount ≤ params.maxRetries.toNat ∨ r.1 = []
  downloads : ∀ event ∈ r.1, event.isDownload = false
  slept : asSecs elapsed + sleptSeconds r.1 < params.timeoutSeconds.toNat ∨ r.1 = []
  proceeds : ∀ t, r.2 = .ok t → ∃ earlier event, r.1 = earlier ++ [event] ∧ event.proceeds

theorem isDownload_of_isRequest {event : BandwidthEvent} (h : event.isRequest) :
    event.isDownload = false ∧ event.slept = 0 := by
  cases event with
  | request reply => exact ⟨rfl, rfl⟩
  | sleep seconds => cases h
  | download seconds => cases h

/-- **The loop invariant**: the count and the time at the entry bound what is left to do. -/
theorem permissionLoop_bounded (params : BandwidthParams) (rounds : Nat → PermissionRound)
    (elapsed : Duration) (retryCount : Nat) :
    LoopBounded params elapsed retryCount (permissionLoop params rounds elapsed retryCount) := by
  induction hn : params.maxRetries.toNat - retryCount using Nat.strong_induction_on
    generalizing elapsed retryCount with
  | _ n ih =>
    rcases permissionLoop_cases params rounds elapsed retryCount with
      ⟨hnil, herror⟩ | ⟨htime, hcount, event, hone, hrequest, hend⟩ |
      ⟨hcount, reply, seconds, woken, heq, hfits, hwoken⟩
    · exact ⟨.inr hnil, by simp [hnil], .inr hnil, fun t ht => absurd ht (herror t)⟩
    · obtain ⟨hdownload, hslept⟩ := isDownload_of_isRequest hrequest
      refine ⟨.inl ?_, ?_, .inl ?_, fun t ht => ⟨[], event, hone, ?_⟩⟩
      · rw [hone, List.countP_singleton, if_pos hrequest]
        omega
      · simp [hone, hdownload]
      · rw [hone]
        simpa [sleptSeconds, hslept] using htime
      · exact hend.resolve_right fun herror => herror t ht
    · have hrest := ih _ (by omega) woken (retryCount + 1) rfl
      rw [heq]
      refine ⟨.inl ?_, ?_, .inl ?_, fun t ht => ?_⟩
      · -- the request of this round is counted, the sleep is not
        show List.countP _ (_ :: _ :: _) + _ ≤ _
        rw [List.countP_cons_of_pos rfl,
          List.countP_cons_of_neg (by simp [BandwidthEvent.isRequest])]
        rcases hrest.requests with h | h
        · omega
        · rw [h, List.countP_nil]
          omega
      · simp only [List.forall_mem_cons]
        exact ⟨rfl, rfl, hrest.downloads⟩
      · show _ + (0 + (seconds.toNat + sleptSeconds _)) < _
        rcases hrest.slept with h | h
        · omega
        · rw [h]
          have : sleptSeconds [] = 0 := rfl
          omega
      · obtain ⟨earlier, event, he, hp⟩ := hrest.proceeds t ht
        refine ⟨.request reply :: .sleep seconds :: earlier, event, ?_, hp⟩
        simp only [he, List.cons_append]

theorem sleptSeconds_append (before after : List BandwidthEvent) :
    sleptSeconds (before ++ after) = sleptSeconds before + sleptSeconds after := by
  unfold sleptSeconds
  rw [List.map_append, List.sum_append]

theorem eq_of_append_download {events before after : List BandwidthEvent} {n m : Nat}
    (h : ∀ event ∈ events, event.isDownload = false)
    (heq : events ++ [.download n] = before ++ .download m :: after) : before = events := by
  induction events generalizing before with
  | nil =>
    cases before with
    | nil => rfl
    | cons event before => simp at heq
  | cons event events ih =>
    rw [List.forall_mem_cons] at h
    cases before with
    | nil =>
      obtain ⟨rfl, -⟩ := List.cons.inj heq
      exact absurd h.1 nofun
    | cons event' before =>
      obtain ⟨rfl, hrest⟩ := List.cons.inj heq
      rw [ih h.2 hrest]

/-! ## Top theorems -/

/-- **One execution is bounded**, whatever the server answers and however time passes. -/
theorem executeBandwidth_bounded (params : BandwidthParams) (env : BandwidthEnv) :
    BoundedExecution params (executeBandwidth params env).1 := by
  have hloop := permissionLoop_bounded params env.rounds env.setupTime 0
  unfold executeBandwidth
  cases h : permissionLoop params env.rounds env.setupTime 0 with
  | mk events result =>
    rw [h] at hloop
    obtain ⟨hrequests, hdownloads, hslept, hproceeds⟩ := hloop
    have hcount : events.countP BandwidthEvent.isRequest ≤ params.maxRetries.toNat := by
      rcases hrequests with hr | hr
      · exact hr
      · simp [show events = [] from hr]
    have hnone : events.countP BandwidthEvent.isDownload = 0 :=
      List.countP_eq_zero.2 fun event he => by simp [hdownloads event he]
    cases result with
    | error e =>
      refine ⟨hcount, by rw [hnone]; omega, fun before seconds after he => ?_, ?_⟩
      · have hmem : BandwidthEvent.download seconds ∈ events := by
          rw [show events = _ from he]
          simp
        exact absurd (hdownloads _ hmem) nofun
      · rcases hslept with hs | hs
        · exact .inl (lt_of_le_of_lt (Nat.le_add_left _ _) hs)
        · -- nothing is done, which is less than any other timeout
          have hs : events = [] := hs
          subst hs
          by_cases hzero : params.timeoutSeconds = 0
          · exact .inr ⟨hzero, rfl⟩
          · exact .inl (Nat.pos_of_ne_zero fun h0 => hzero (UInt32.toNat_inj.1 h0))
    | ok elapsed =>
      obtain ⟨earlier, event, he, hp⟩ := hproceeds elapsed rfl
      have he : events = earlier ++ [event] := he
      refine ⟨?_, ?_, fun before seconds after hsplit => ?_, .inl ?_⟩
      · rw [List.countP_append]
        exact hcount
      · rw [List.countP_append, hnone]
        exact le_refl 1
      · obtain rfl := eq_of_append_download hdownloads hsplit
        exact ⟨earlier, event, he, hp⟩
      · rw [sleptSeconds_append]
        rcases hslept with hs | hs
        · exact lt_of_le_of_lt (Nat.le_add_left _ _) hs
        · rw [he] at hs
          simp at hs

/-- With a timeout of zero nothing is slept, which is not less than the timeout. -/
theorem executeBandwidth_zero_timeout :
    ¬ ∀ (params : BandwidthParams) (env : BandwidthEnv),
      sleptSeconds (executeBandwidth params env).1 < params.timeoutSeconds.toNat := by
  intro h
  exact absurd (h ⟨0, 10, none⟩ ⟨0, fun _ => ⟨.sendFailed "", 0, 0, 0⟩, 0, .sendFailed ""⟩) nofun

end LinkSense
