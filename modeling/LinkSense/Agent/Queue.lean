import LinkSense.Shared.Metrics
import LinkSense.Table
import Mathlib.Algebra.Group.Int.Defs
import Mathlib.Algebra.Group.Nat.Defs
import Mathlib.Data.List.Sort

/-!
# The send queue

The table `metric_send_queue` of `agent/src/database/db_queue.rs`: one entry for each stored
aggregate, with its status and what is known of earlier attempts to send it.  An operation reads
the clock once, so it carries its time in Unix seconds.

    every operation but enqueueMetricForSend keeps what an entry says of its aggregate, and changes
    the status of some entries to one value                    (evolves_markAsSent and its siblings)
-/

namespace LinkSense

open Sql

/-! ## Entries -/

/-- Status of a metric in the send queue. -/
inductive QueueStatus where
  | pending
  | sending
  | sent
  | failed
deriving DecidableEq, Repr

structure QueueRow where
  metricType : String
  metricRowId : Nat
  taskName : String
  periodStart : Nat
  periodEnd : Nat
  status : QueueStatus
  createdAt : Nat
  sentAt : Option Nat
  retryCount : Int
  lastRetryAt : Option Nat
  lastError : Option String
  nextRetryAt : Option Int
deriving DecidableEq, Repr

/-- `UNIQUE(metric_type, metric_row_id)`. -/
def QueueRow.key (r : QueueRow) : Option (String × Nat) := some (r.metricType, r.metricRowId)

abbrev SendQueue := Table QueueRow.key

/-- The count of attempts, a 64 bit integer of the table, is read as an `i32`. -/
def QueueRow.CountFits (r : QueueRow) : Prop := -2 ^ 31 ≤ r.retryCount ∧ r.retryCount < 2 ^ 31

instance (r : QueueRow) : Decidable r.CountFits := inferInstanceAs (Decidable (_ ∧ _))

/-- The `metric_type` of a kind. -/
def MetricKind.queueType : MetricKind → String
  | .ping => "ping"
  | .tcp => "tcp"
  | .http => "http"
  | .tls => "tls"
  | .httpContent => "http_content"
  | .dns => "dns"
  | .bandwidth => "bandwidth"
  | .snmp => "snmp"
  | .sqlQuery => "sql_query"

/-- The match of `fetch_metric_by_type_and_id`. -/
def kindOfQueueType (metricType : String) : Option MetricKind :=
  if metricType = "ping" then some .ping
  else if metricType = "tcp" then some .tcp
  else if metricType = "http" then some .http
  else if metricType = "tls" then some .tls
  else if metricType = "http_content" then some .httpContent
  else if metricType = "dns" then some .dns
  else if metricType = "bandwidth" then some .bandwidth
  else if metricType = "snmp" then some .snmp
  else if metricType = "sql_query" then some .sqlQuery
  else none

@[simp] theorem kindOfQueueType_queueType (kind : MetricKind) :
    kindOfQueueType kind.queueType = some kind := by
  cases kind <;> decide

theorem queueType_injective {k l : MetricKind} (h : k.queueType = l.queueType) : k = l := by
  have := congrArg kindOfQueueType h
  simpa using this

namespace SendQueue

/-! ## Operations -/

/-- The row that `enqueue_metric_for_send` inserts. -/
def newEntry (now : Nat) (kind : MetricKind) (metric : AggregatedMetrics) (metricRowId : Nat) :
    QueueRow where
  metricType := kind.queueType
  metricRowId := metricRowId
  taskName := metric.taskName
  periodStart := metric.periodStart
  periodEnd := metric.periodEnd
  status := .pending
  createdAt := now
  sentAt := none
  retryCount := 0
  lastRetryAt := none
  lastError := none
  nextRetryAt := some now

/-- `enqueue_metric_for_send`. -/
def enqueueMetricForSend (q : SendQueue) (now : Nat) (metric : AggregatedMetrics)
    (metricRowId : Nat) : Except String SendQueue :=
  match metric.data.kind with
  | none => .error "Cannot enqueue unknown metric type"
  | some kind => .ok (q.insertOrIgnore (newEntry now kind metric metricRowId))

def recovered (now : Nat) (r : QueueRow) : QueueRow :=
  { r with
    status := .pending
    nextRetryAt := some now
    retryCount := r.retryCount + 1
    lastError := some "Recovered after agent restart (was stuck in sending state)" }

/-- `recover_sending_entries`. -/
def recoverSendingEntries (q : SendQueue) (now : Nat) : SendQueue :=
  q.update (fun _ r => if r.status = .sending then recovered now r else r) fun _ r => by
    split <;> rfl

/-- The rows that `get_pending_queue_entries` selects. -/
def readyEntries (q : SendQueue) (now batchSize : Nat) : List (Nat × QueueRow) :=
  ((q.rows.filter fun e => e.2.status = .pending && e.2.nextRetryAt.any (· ≤ (now : Int)))
    |>.insertionSort fun e f => e.2.createdAt ≤ f.2.createdAt).take batchSize

/-- `get_pending_queue_entries`; it fails on the first selected row whose count is no `i32`. -/
def getPendingQueueEntries (q : SendQueue) (now batchSize : Nat) :
    Except String (List (Nat × QueueRow)) :=
  (q.readyEntries now batchSize).mapM fun e =>
    if e.2.CountFits then .ok e else .error s!"Integer {e.2.retryCount} out of range at index 6"

/-- `mark_as_sending`. -/
def markAsSending (q : SendQueue) (now : Nat) (queueIds : List Nat) : SendQueue :=
  q.update (fun id r => if id ∈ queueIds then
    { r with status := .sending, lastRetryAt := some now } else r) fun _ r => by split <;> rfl

/-- `mark_as_sent`. -/
def markAsSent (q : SendQueue) (now : Nat) (queueIds : List Nat) : SendQueue :=
  q.update (fun id r => if id ∈ queueIds then
    { r with status := .sent, sentAt := some now } else r) fun _ r => by split <;> rfl

/-- A 32 bit power of two, as the release build computes it. -/
def pow2 (n : Nat) : Int := if n < 31 then 2 ^ n else if n = 31 then -(2 ^ 31) else 0

/-- What a failed attempt makes of an entry: failed for good, or pending after a pause.  The count
is an `i32`, and the time of the next attempt is computed as a `u64` and stored as an `i64`. -/
def failedEntry (now : Nat) (errorMsg : String) (maxRetries : Int) (r : QueueRow) : QueueRow :=
  let newRetryCount := (r.retryCount + 1).bmod (2 ^ 32)
  if newRetryCount ≥ maxRetries then
    { r with
      status := .failed
      retryCount := newRetryCount
      lastRetryAt := some now
      lastError := some errorMsg }
  else
    let backoffMinutes := min (pow2 (newRetryCount % 2 ^ 32).toNat) 60
    { r with
      status := .pending
      retryCount := newRetryCount
      lastRetryAt := some now
      nextRetryAt := some ((now + backoffMinutes * 60).bmod (2 ^ 64))
      lastError := some errorMsg }

theorem key_failedEntry (now : Nat) (errorMsg : String) (maxRetries : Int) (r : QueueRow) :
    (failedEntry now errorMsg maxRetries r).key = r.key := by
  unfold failedEntry
  dsimp only
  split <;> rfl

/-- `mark_as_failed`; it fails on an id that is not in the queue, and on a count that is no
`i32`. -/
def markAsFailed (q : SendQueue) (now : Nat) (queueId : Nat) (errorMsg : String)
    (maxRetries : Int) : Except String SendQueue :=
  match q.get queueId with
  | none => .error "Query returned no rows"
  | some r =>
    if r.retryCount < -2 ^ 31 ∨ 2 ^ 31 ≤ r.retryCount then
      .error s!"Integer {r.retryCount} out of range at index 0"
    else
      .ok (q.update (fun id r =>
        if id = queueId then failedEntry now errorMsg maxRetries r else r) fun _ r => by
          split
          · exact key_failedEntry _ _ _ r
          · rfl)

/-- The loop over a batch that could not be sent: an error is logged, and the loop goes on. -/
def markAllAsFailed (q : SendQueue) (now : Nat) (errorMsg : String) (maxRetries : Int) :
    List Nat → SendQueue
  | [] => q
  | id :: ids =>
    match q.markAsFailed now id errorMsg maxRetries with
    | .error _ => markAllAsFailed q now errorMsg maxRetries ids
    | .ok q => markAllAsFailed q now errorMsg maxRetries ids

/-- `remove_from_queue`. -/
def removeFromQueue (q : SendQueue) (queueId : Nat) : SendQueue :=
  q.delete fun id _ => id == queueId

/-- `cleanup_sent_queue_entries`. -/
def cleanupSentQueueEntries (q : SendQueue) (now : Nat) (olderThanHours : Nat) : SendQueue :=
  let cutoff : Int := now - olderThanHours * 3600
  q.delete fun _ r => r.status = .sent && r.sentAt.any fun t => (t : Int) < cutoff

/-- `cleanup_failed_queue_entries`. -/
def cleanupFailedQueueEntries (q : SendQueue) (now : Nat) (olderThanDays : Nat) : SendQueue :=
  let cutoff : Int := now - olderThanDays * 24 * 3600
  q.delete fun _ r => r.status = .failed && r.lastRetryAt.any fun t => (t : Int) < cutoff

end SendQueue

/-! ## Lemmas -/

/-- An attempt to send the entry is due or under way. -/
def QueueStatus.live : QueueStatus → Bool
  | .pending => true
  | .sending => true
  | .sent => false
  | .failed => false

/-- What an entry says of its aggregate. -/
structure QueueRow.SameMetric (r r' : QueueRow) : Prop where
  metricType : r'.metricType = r.metricType
  metricRowId : r'.metricRowId = r.metricRowId
  taskName : r'.taskName = r.taskName
  periodStart : r'.periodStart = r.periodStart
  periodEnd : r'.periodEnd = r.periodEnd

theorem QueueRow.SameMetric.refl (r : QueueRow) : r.SameMetric r := ⟨rfl, rfl, rfl, rfl, rfl⟩

theorem QueueRow.SameMetric.trans {r₁ r₂ r₃ : QueueRow} (h : r₁.SameMetric r₂)
    (h' : r₂.SameMetric r₃) : r₁.SameMetric r₃ :=
  ⟨h'.1.trans h.1, h'.2.trans h.2, h'.3.trans h.3, h'.4.trans h.4, h'.5.trans h.5⟩

namespace SendQueue

/-- The entries of `q'` are entries of `q`, and their statuses are related to those before. -/
def Evolves (R : Nat → QueueStatus → QueueStatus → Prop) (q q' : SendQueue) : Prop :=
  ∀ e' ∈ q'.rows, ∃ e ∈ q.rows,
    e.1 = e'.1 ∧ e.2.SameMetric e'.2 ∧ R e.1 e.2.status e'.2.status

theorem Evolves.mono {R S : Nat → QueueStatus → QueueStatus → Prop} {q q' : SendQueue}
    (h : Evolves R q q') (hRS : ∀ id s s', R id s s' → S id s s') : Evolves S q q' := by
  intro e' he'
  obtain ⟨e, he, hid, hsame, hR⟩ := h e' he'
  exact ⟨e, he, hid, hsame, hRS _ _ _ hR⟩

theorem Evolves.trans {R : Nat → QueueStatus → QueueStatus → Prop} {q q₁ q' : SendQueue}
    (h : Evolves R q q₁) (h' : Evolves R q₁ q')
    (hR : ∀ id s₁ s₂ s₃, R id s₁ s₂ → R id s₂ s₃ → R id s₁ s₃) : Evolves R q q' := by
  intro e' he'
  obtain ⟨e₁, he₁, hid₁, hsame₁, hR₁⟩ := h' e' he'
  obtain ⟨e, he, hid, hsame, hR₀⟩ := h e₁ he₁
  refine ⟨e, he, hid.trans hid₁, hsame.trans hsame₁, hR _ _ _ _ hR₀ ?_⟩
  rw [hid]
  exact hR₁

/-- Entries are only taken away. -/
theorem Evolves.of_subset {q q' : SendQueue} (h : ∀ e ∈ q'.rows, e ∈ q.rows) :
    Evolves (fun _ s s' => s' = s) q q' :=
  fun e he => ⟨e, h e he, rfl, .refl _, rfl⟩

/-- An update of single entries that leaves their metric alone. -/
theorem Evolves.of_update {q : SendQueue} {f : Nat → QueueRow → QueueRow} (hf)
    {R : Nat → QueueStatus → QueueStatus → Prop}
    (h : ∀ id r, r.SameMetric (f id r) ∧ R id r.status (f id r).status) :
    Evolves R q (q.update f hf) := by
  intro e' he'
  obtain ⟨e, he, rfl⟩ := List.mem_map.1 he'
  exact ⟨e, he, rfl, h e.1 e.2⟩

theorem evolves_recoverSendingEntries (q : SendQueue) (now : Nat) :
    Evolves (fun _ s s' => s' = s ∨ s = .sending ∧ s' = .pending) q
      (q.recoverSendingEntries now) := by
  refine .of_update _ fun id r => ?_
  by_cases hs : r.status = .sending
  · rw [if_pos hs]
    exact ⟨⟨rfl, rfl, rfl, rfl, rfl⟩, .inr ⟨hs, rfl⟩⟩
  · rw [if_neg hs]
    exact ⟨.refl _, .inl rfl⟩

theorem evolves_markAsSending (q : SendQueue) (now : Nat) (ids : List Nat) :
    Evolves (fun id s s' => s' = s ∨ id ∈ ids ∧ s' = .sending) q (q.markAsSending now ids) := by
  refine .of_update _ fun id r => ?_
  by_cases hi : id ∈ ids
  · rw [if_pos hi]
    exact ⟨⟨rfl, rfl, rfl, rfl, rfl⟩, .inr ⟨hi, rfl⟩⟩
  · rw [if_neg hi]
    exact ⟨.refl _, .inl rfl⟩

theorem evolves_markAsSent (q : SendQueue) (now : Nat) (ids : List Nat) :
    Evolves (fun id s s' => s' = s ∨ id ∈ ids ∧ s' = .sent) q (q.markAsSent now ids) := by
  refine .of_update _ fun id r => ?_
  by_cases hi : id ∈ ids
  · rw [if_pos hi]
    exact ⟨⟨rfl, rfl, rfl, rfl, rfl⟩, .inr ⟨hi, rfl⟩⟩
  · rw [if_neg hi]
    exact ⟨.refl _, .inl rfl⟩

theorem evolves_markAllAsFailed (q : SendQueue) (now : Nat) (errorMsg : String) (maxRetries : Int)
    (ids : List Nat) :
    Evolves (fun id s s' => s' = s ∨ id ∈ ids ∧ (s' = .failed ∨ s' = .pending)) q
      (q.markAllAsFailed now errorMsg maxRetries ids) := by
  induction ids generalizing q with
  | nil => exact (Evolves.of_subset fun e he => he).mono fun _ _ _ h => .inl h
  | cons id ids ih =>
    unfold markAllAsFailed
    have hrest : ∀ q : SendQueue, Evolves
        (fun i s s' => s' = s ∨ i ∈ id :: ids ∧ (s' = .failed ∨ s' = .pending)) q
        (q.markAllAsFailed now errorMsg maxRetries ids) := fun q =>
      (ih q).mono fun i s s' h => h.imp_right (And.imp_left (List.mem_cons_of_mem _))
    cases hm : q.markAsFailed now id errorMsg maxRetries with
    | error e => exact hrest q
    | ok q₁ =>
      refine Evolves.trans ?_ (hrest q₁) fun i s₁ s₂ s₃ h h' => ?_
      · unfold markAsFailed at hm
        split at hm
        · cases hm
        · split at hm
          · cases hm
          · obtain rfl := Except.ok.inj hm
            refine .of_update _ fun i r => ?_
            by_cases hi : i = id
            · rw [if_pos hi]
              unfold failedEntry
              dsimp only
              split
              · exact ⟨⟨rfl, rfl, rfl, rfl, rfl⟩, .inr ⟨by simp [hi], .inl rfl⟩⟩
              · exact ⟨⟨rfl, rfl, rfl, rfl, rfl⟩, .inr ⟨by simp [hi], .inr rfl⟩⟩
            · rw [if_neg hi]
              exact ⟨.refl _, .inl rfl⟩
      · rcases h' with rfl | h'
        · exact h
        · exact .inr h'

/-- What is selected: pending entries whose next attempt is due. -/
theorem mem_readyEntries_due {q : SendQueue} {now batchSize : Nat} {e : Nat × QueueRow}
    (h : e ∈ q.readyEntries now batchSize) :
    e ∈ q.rows ∧ e.2.status = .pending ∧
      ∃ nextRetryAt, e.2.nextRetryAt = some nextRetryAt ∧ nextRetryAt ≤ (now : Int) := by
  unfold readyEntries at h
  have h := List.mem_of_mem_take h
  rw [List.mem_insertionSort] at h
  obtain ⟨he, hp⟩ := List.mem_filter.1 h
  simp only [Bool.and_eq_true, decide_eq_true_eq, Option.any_eq_true] at hp
  exact ⟨he, hp.1, hp.2⟩

/-- A selected entry is a pending entry of the queue. -/
theorem mem_readyEntries {q : SendQueue} {now batchSize : Nat} {e : Nat × QueueRow}
    (h : e ∈ q.readyEntries now batchSize) : e ∈ q.rows ∧ e.2.status = .pending :=
  ⟨(mem_readyEntries_due h).1, (mem_readyEntries_due h).2.1⟩

theorem nodup_readyEntries (q : SendQueue) (now batchSize : Nat) :
    ((q.readyEntries now batchSize).map Prod.fst).Nodup := by
  unfold readyEntries
  have hready := q.ids_nodup.sublist
    ((List.filter_sublist (p := fun e => e.2.status = .pending &&
      e.2.nextRetryAt.any (· ≤ (now : Int)))).map Prod.fst)
  have hsorted := ((List.perm_insertionSort (fun e f : Nat × QueueRow =>
    e.2.createdAt ≤ f.2.createdAt) _).map Prod.fst).nodup_iff.2 hready
  exact hsorted.sublist ((List.take_sublist _ _).map _)

/-- The whole selection is read, or nothing. -/
theorem getPendingQueueEntries_eq (q : SendQueue) (now batchSize : Nat) :
    (∀ e ∈ q.readyEntries now batchSize, e.2.CountFits) ∧
        q.getPendingQueueEntries now batchSize = .ok (q.readyEntries now batchSize) ∨
      (¬ ∀ e ∈ q.readyEntries now batchSize, e.2.CountFits) ∧
        ∃ error, q.getPendingQueueEntries now batchSize = .error error := by
  unfold getPendingQueueEntries
  generalize q.readyEntries now batchSize = ready
  induction ready with
  | nil => exact .inl ⟨by simp, rfl⟩
  | cons e ready ih =>
    rw [List.mapM_cons, List.forall_mem_cons]
    by_cases he : e.2.CountFits
    · rw [if_pos he]
      rcases ih with ⟨hfit, hok⟩ | ⟨hfit, error, herror⟩
      · rw [hok]
        exact .inl ⟨⟨he, hfit⟩, rfl⟩
      · rw [herror]
        exact .inr ⟨fun h => hfit h.2, error, rfl⟩
    · rw [if_neg he]
      exact .inr ⟨fun h => he h.1, _, rfl⟩

/-- Marking a batch as failed gives each of its entries one failed attempt, but for those whose
count is no `i32`. -/
theorem mem_markAllAsFailed {q : SendQueue} {now : Nat} {errorMsg : String} {maxRetries : Int}
    {ids : List Nat} (hids : ids.Nodup) {e' : Nat × QueueRow}
    (he' : e' ∈ (q.markAllAsFailed now errorMsg maxRetries ids).rows) :
    ∃ e ∈ q.rows, e.1 = e'.1 ∧
      (e' = e ∧ (e.1 ∈ ids → e.2.retryCount < -2 ^ 31 ∨ 2 ^ 31 ≤ e.2.retryCount) ∨
        e.1 ∈ ids ∧ e'.2 = failedEntry now errorMsg maxRetries e.2) := by
  induction ids generalizing q with
  | nil => exact ⟨e', he', rfl, .inl ⟨rfl, fun h => by cases h⟩⟩
  | cons id ids ih =>
    obtain ⟨hid, hrest⟩ := List.nodup_cons.1 hids
    unfold markAllAsFailed markAsFailed at he'
    cases hget : q.get id with
    | none =>
      rw [hget] at he'
      obtain ⟨e, he, heq, hcase⟩ := ih hrest he'
      refine ⟨e, he, heq, ?_⟩
      rcases hcase with ⟨hsame, hout⟩ | ⟨hmem, hfailed⟩
      · refine .inl ⟨hsame, fun hmem => ?_⟩
        rcases List.mem_cons.1 hmem with hme | hmem
        · have hsome := (q.get_eq_some_iff e.1 e.2).2 he
          rw [hme, hget] at hsome
          cases hsome
        · exact hout hmem
      · exact .inr ⟨List.mem_cons_of_mem _ hmem, hfailed⟩
    | some r =>
      rw [hget] at he'
      dsimp only at he'
      have hself : ∀ e ∈ q.rows, e.1 = id → e.2 = r := by
        intro e he hme
        have hsome := (q.get_eq_some_iff e.1 e.2).2 he
        rw [hme, hget] at hsome
        exact (Option.some.inj hsome).symm
      by_cases hrange : r.retryCount < -2 ^ 31 ∨ 2 ^ 31 ≤ r.retryCount
      · rw [if_pos hrange] at he'
        obtain ⟨e, he, heq, hcase⟩ := ih hrest he'
        refine ⟨e, he, heq, ?_⟩
        rcases hcase with ⟨hsame, hout⟩ | ⟨hmem, hfailed⟩
        · refine .inl ⟨hsame, fun hmem => ?_⟩
          rcases List.mem_cons.1 hmem with hme | hmem
          · rw [hself e he hme]
            exact hrange
          · exact hout hmem
        · exact .inr ⟨List.mem_cons_of_mem _ hmem, hfailed⟩
      · rw [if_neg hrange] at he'
        obtain ⟨e₁, he₁, heq, hcase⟩ := ih hrest he'
        obtain ⟨e, he, rfl⟩ := List.mem_map.1 he₁
        refine ⟨e, he, heq, ?_⟩
        dsimp only at heq hcase
        by_cases hme : e.1 = id
        · rw [if_pos hme] at hcase
          -- the rest of the batch does not come to this entry again
          rcases hcase with ⟨hsame, -⟩ | ⟨hmem, -⟩
          · refine .inr ⟨by rw [hme]; exact List.mem_cons_self, ?_⟩
            rw [hsame]
          · rw [hme] at hmem
            exact absurd hmem hid
        · rw [if_neg hme] at hcase
          rcases hcase with ⟨hsame, hout⟩ | ⟨hmem, hfailed⟩
          · refine .inl ⟨hsame, fun hmem => hout ?_⟩
            exact (List.mem_cons.1 hmem).resolve_left hme
          · exact .inr ⟨List.mem_cons_of_mem _ hmem, hfailed⟩

theorem nextId_markAllAsFailed (q : SendQueue) (now : Nat) (errorMsg : String) (maxRetries : Int)
    (ids : List Nat) : (q.markAllAsFailed now errorMsg maxRetries ids).nextId = q.nextId := by
  induction ids generalizing q with
  | nil => rfl
  | cons id ids ih =>
    unfold markAllAsFailed markAsFailed
    cases q.get id with
    | none => exact ih q
    | some r =>
      dsimp only
      split
      · next h =>
        split at h
        · exact ih q
        · cases h
      · next h =>
        split at h
        · cases h
        · obtain rfl := Except.ok.inj h
          exact ih _

end SendQueue

end LinkSense
