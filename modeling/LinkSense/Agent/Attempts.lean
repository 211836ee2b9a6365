import LinkSense.Agent.Backoff
import LinkSense.Agent.Delivery

/-!
# Attempts to send an entry

A status that is settled stays, and an entry is handed to the network when it is due.  Every attempt
is counted: by `mark_as_failed`, which compares the count with the budget, or by the recovery of the
next start, which does not.

    in every run a `sent` or `failed` entry keeps its status, and an entry is handed to the network
      at its next_retry_at or later                                    (settled_stays, handed_onTime)
    no step of a run leaves an attempt uncounted or recovers an entry that has used its budget up →
      no entry is handed to the network more often than the budget allows    (attempts_of_accounted)
-/

namespace LinkSense

open Labelled Sql

/-! ## Attempts -/

/-- The entries that a step hands to the network. -/
def AgentStep.handed (t : AgentStep) : List Nat :=
  match t.label.2 with
  | .fetch _ => t.post.2.point.batchIds
  | _ => []

def attempts (tr : List AgentStep) (id : Nat) : Nat := tr.countP fun t => id ∈ AgentStep.handed t

/-- How often an entry may be handed to the network. -/
def AgentConfig.budget (config : AgentConfig) : Int := max (Agent.maxRetries config) 1

/-- The entries of a batch to which an action writes what has come of them. -/
def AgentAction.settles (batch : List Nat) : AgentAction → List Nat
  | .reply (.ok _) marked _ => if marked then batch else []
  | .reply (.error _) _ failing => batch.filter fun id => !failing.contains id
  | .replyKilled _ n => batch.take n
  | _ => []

/-- An attempt that is given up is counted later: an entry whose request is left as it is is
`sending`, and a start recovers such an entry while the budget allows one more attempt. -/
structure Agent.Accounted (config : AgentConfig) (s : Agent) (a : AgentAction) : Prop where
  batch : ∀ e ∈ s.db.queue.rows, e.1 ∈ s.point.batchIds →
    e.1 ∈ a.settles s.point.batchIds ∨ e.2.status = .sending
  restart : ∀ tasksConfig, a = .restart tasksConfig → ∀ e ∈ s.db.queue.rows,
    e.2.status = .sending → e.2.retryCount + 1 < config.budget

/-- A settled entry keeps its status for good; an entry is handed to the network while it is pending
and due; and no entry more often than the budget allows. -/
structure Disciplined (config : AgentConfig) (tr : List AgentStep) (s : Nat × Agent) : Prop where
  settled : ∀ t ∈ tr, ∀ e ∈ t.post.2.db.queue.rows, e.2.status.live = false →
    ∀ e' ∈ s.2.db.queue.rows, e'.1 = e.1 → e'.2.status = e.2.status
  onTime : ∀ t ∈ tr, ∀ id ∈ AgentStep.handed t, ∃ r, (id, r) ∈ t.pre.2.db.queue.rows ∧
    r.status = .pending ∧ ∃ nextRetryAt, r.nextRetryAt = some nextRetryAt ∧
      nextRetryAt ≤ (t.label.1 : Int)
  attempts : ∀ id, (attempts tr id : Int) ≤ config.budget

/-! ## What a step does to an entry -/

namespace AgentDatabase

theorem loadEntries_sublist (db : AgentDatabase) (entries : List (Nat × QueueRow))
    {batch : List (Nat × AggregatedMetrics)} (h : (db.loadEntries entries).2 = .ok batch) :
    (batch.map Prod.fst).Sublist (entries.map Prod.fst) := by
  induction entries generalizing db batch with
  | nil =>
    obtain rfl := Except.ok.inj h
    exact .refl _
  | cons e entries ih =>
    unfold loadEntries at h
    split at h
    · cases h
    · split at h
      · exact (ih _ h).cons _
      · split at h
        · cases h
        · next metrics he =>
          obtain rfl := Except.ok.inj h
          have hrest : (metrics.map Prod.fst).Sublist (entries.map Prod.fst) := ih db (by rw [he])
          exact hrest.cons_cons _

theorem loadEntries_nextId (db : AgentDatabase) (entries : List (Nat × QueueRow)) :
    (db.loadEntries entries).1.queue.nextId = db.queue.nextId := by
  induction entries generalizing db with
  | nil => rfl
  | cons e entries ih =>
    unfold loadEntries
    split
    · rfl
    · split
      · exact ih _
      · have hrest := ih db
        split
        · next he =>
          rw [he] at hrest
          exact hrest
        · next he =>
          rw [he] at hrest
          exact hrest

theorem loadSomeEntries_nextId (db : AgentDatabase) (now batchSize n : Nat) :
    (db.loadSomeEntries now batchSize n).queue.nextId = db.queue.nextId := by
  obtain ⟨m, hm⟩ := db.loadSomeEntries_eq now batchSize n
  rw [hm]
  exact db.loadEntries_nextId _

end AgentDatabase

/-- What a step makes of an entry that it does not delete. -/
inductive Agent.EntryStep (config : AgentConfig) (s s' : Agent) (now : Nat) (a : AgentAction)
    (id : Nat) (r : QueueRow) : QueueRow → Prop where
  | kept (h : id ∈ a.settles s.point.batchIds → r.retryCount < -2 ^ 31 ∨ 2 ^ 31 ≤ r.retryCount)
      (hrestart : ∀ tasksConfig, a = .restart tasksConfig → r.status ≠ .sending) :
      EntryStep config s s' now a id r r
  | marked (h : id ∈ s'.point.batchIds) (hp : r.status = .pending) :
      EntryStep config s s' now a id r { r with status := .sending, lastRetryAt := some now }
  | sent (h : id ∈ a.settles s.point.batchIds) :
      EntryStep config s s' now a id r { r with status := .sent, sentAt := some now }
  | failed (h : id ∈ a.settles s.point.batchIds) (errorMsg : String) :
      EntryStep config s s' now a id r (SendQueue.failedEntry now errorMsg (maxRetries config) r)
  | recovered (tasksConfig : TasksConfig) (h : a = .restart tasksConfig)
      (hs : r.status = .sending) : EntryStep config s s' now a id r (SendQueue.recovered now r)

namespace Agent

variable {config : AgentConfig} {summary : Summary} {s s' : Agent} {now : Nat} {a : AgentAction}

theorem next_of_sending (h : s.next config summary now a = some s') {t : Nat}
    {batch : List (Nat × AggregatedMetrics)} (hp : s.point = .sending t batch) :
    (∃ outcome marked failing, a = .reply outcome marked failing) ∨
      (∃ e n, a = .replyKilled e n) ∨ (∃ tasksConfig, a = .restart tasksConfig) ∨
        a = .shutdown := by
  cases a with
  | reply outcome marked failing => exact .inl ⟨outcome, marked, failing, rfl⟩
  | replyKilled e n => exact .inr (.inl ⟨e, n, rfl⟩)
  | restart tasksConfig => exact .inr (.inr (.inl ⟨tasksConfig, rfl⟩))
  | shutdown => exact .inr (.inr (.inr rfl))
  | _ =>
    simp only [next, hp, Point.stops] at h
    simp at h

theorem settles_nil (a : AgentAction) : a.settles [] = [] := by
  unfold AgentAction.settles
  split
  · split <;> rfl
  · rfl
  · exact List.take_nil
  · rfl

theorem settles_subset (a : AgentAction) (batch : List Nat) : a.settles batch ⊆ batch := by
  intro id hid
  unfold AgentAction.settles at hid
  split at hid
  · split at hid
    · exact hid
    · cases hid
  · exact List.mem_of_mem_filter hid
  · exact List.mem_of_mem_take hid
  · cases hid

theorem EntryStep.of_subset (hnone : a.settles s.point.batchIds = [])
    (hno : ∀ tasksConfig, a ≠ .restart tasksConfig)
    (hsub : ∀ e ∈ s'.db.queue.rows, e ∈ s.db.queue.rows) {e' : Nat × QueueRow}
    (he' : e' ∈ s'.db.queue.rows) :
    ∃ e ∈ s.db.queue.rows, e.1 = e'.1 ∧ EntryStep config s s' now a e.1 e.2 e'.2 := by
  refine ⟨e', hsub e' he', rfl, .kept ?_ fun c hc => absurd hc (hno c)⟩
  rw [hnone]
  intro hid
  cases hid

theorem entry_restart {tasksConfig : TasksConfig}
    (h : s.next config summary now (.restart tasksConfig) = some s') {e' : Nat × QueueRow}
    (he' : e' ∈ s'.db.queue.rows) : ∃ e ∈ s.db.queue.rows, e.1 = e'.1 ∧
      EntryStep config s s' now (.restart tasksConfig) e.1 e.2 e'.2 := by
  cases h
  obtain ⟨e, he, rfl⟩ := List.mem_map.1 he'
  refine ⟨e, he, rfl, ?_⟩
  dsimp only
  by_cases hs : e.2.status = .sending
  · rw [if_pos hs]
    exact .recovered tasksConfig rfl hs
  · rw [if_neg hs]
    exact .kept (fun hid => by cases hid) fun _ _ => hs

theorem entry_markAllAsFailed {errorMsg : String} (hnodup : (a.settles s.point.batchIds).Nodup)
    (ha : ∀ tasksConfig, a ≠ .restart tasksConfig) {e' : Nat × QueueRow}
    (he' : e' ∈ (s.db.queue.markAllAsFailed now errorMsg (maxRetries config)
      (a.settles s.point.batchIds)).rows) :
    ∃ e ∈ s.db.queue.rows, e.1 = e'.1 ∧ EntryStep config s s' now a e.1 e.2 e'.2 := by
  obtain ⟨e, he, heq, hcase⟩ := SendQueue.mem_markAllAsFailed hnodup he'
  refine ⟨e, he, heq, ?_⟩
  rcases hcase with ⟨rfl, hout⟩ | ⟨hmem, hfailed⟩
  · exact .kept hout fun tasksConfig hrestart => absurd hrestart (ha tasksConfig)
  · rw [hfailed]
    exact .failed hmem errorMsg

theorem entry_reply {outcome : Except String ConfigStatus} {marked : Bool} {failing : List Nat}
    (h : s.next config summary now (.reply outcome marked failing) = some s')
    (hnodup : s.point.batchIds.Nodup) {e' : Nat × QueueRow} (he' : e' ∈ s'.db.queue.rows) :
    ∃ e ∈ s.db.queue.rows, e.1 = e'.1 ∧
      EntryStep config s s' now (.reply outcome marked failing) e.1 e.2 e'.2 := by
  dsimp only [next] at h
  split at h
  · next t batch hp =>
    have hids : s.point.batchIds = batch.map Prod.fst := by rw [hp]; rfl
    cases outcome with
    | ok status =>
      have hrows : s'.db.queue = if marked = true then
          SendQueue.markAsSent s.db.queue now (batch.map Prod.fst) else s.db.queue := by
        dsimp only at h
        split at h
        · rw [← Option.some.inj h]
        · rw [← Option.some.inj h]
      rw [hrows] at he'
      cases marked with
      | true =>
        obtain ⟨e, he, rfl⟩ := List.mem_map.1 he'
        refine ⟨e, he, rfl, ?_⟩
        dsimp only
        by_cases hid : e.1 ∈ batch.map Prod.fst
        · rw [if_pos hid]
          refine .sent ?_
          rw [hids]
          exact hid
        · rw [if_neg hid]
          refine .kept (fun hset => absurd ?_ hid) fun c hc => by cases hc
          rw [← hids]
          exact hset
      | false => exact ⟨e', he', rfl, .kept (fun hid => by cases hid) fun c hc => by cases hc⟩
    | error errorMsg =>
      cases h
      rw [← hids] at he'
      refine entry_markAllAsFailed (a := .reply (.error errorMsg) marked failing) ?_ nofun he'
      exact hnodup.filter _
  · cases h

theorem entry_replyKilled {errorMsg : String} {n : Nat}
    (h : s.next config summary now (.replyKilled errorMsg n) = some s')
    (hnodup : s.point.batchIds.Nodup) {e' : Nat × QueueRow} (he' : e' ∈ s'.db.queue.rows) :
    ∃ e ∈ s.db.queue.rows, e.1 = e'.1 ∧
      EntryStep config s s' now (.replyKilled errorMsg n) e.1 e.2 e'.2 := by
  dsimp only [next] at h
  split at h
  · next t batch hp =>
    have hids : s.point.batchIds = batch.map Prod.fst := by rw [hp]; rfl
    cases h
    rw [← hids] at he'
    refine entry_markAllAsFailed (a := .replyKilled errorMsg n) ?_ nofun he'
    exact hnodup.sublist (List.take_sublist _ _)
  · cases h

theorem entry_fetch {marked : Bool} (h : s.next config summary now (.fetch marked) = some s')
    {e' : Nat × QueueRow} (he' : e' ∈ s'.db.queue.rows) :
    ∃ e ∈ s.db.queue.rows, e.1 = e'.1 ∧
      EntryStep config s s' now (.fetch marked) e.1 e.2 e'.2 := by
  have hqueue : ∀ e ∈ (s.db.getQueuedMetrics now config.metricsBatchSize.toNat).1.queue.rows,
      e ∈ s.db.queue.rows := s.db.getQueuedMetrics_queue now _
  have hkept : e' ∈ s.db.queue.rows → ∃ e ∈ s.db.queue.rows, e.1 = e'.1 ∧
      EntryStep config s s' now (.fetch marked) e.1 e.2 e'.2 := by
    intro he
    exact ⟨e', he, rfl, .kept (fun hid => by cases hid) fun c hc => by cases hc⟩
  rcases next_fetch_cases h with ⟨-, hdb | hdb⟩ | ⟨batch, hbatch, hp, hdb⟩
  · rw [hdb] at he'
    exact hkept he'
  · rw [hdb] at he'
    exact hkept (hqueue e' he')
  · rw [hdb] at he'
    cases marked with
    | false => exact hkept (hqueue e' he')
    | true =>
      obtain ⟨e, he, rfl⟩ := List.mem_map.1 he'
      refine ⟨e, hqueue e he, rfl, ?_⟩
      dsimp only
      by_cases hid : e.1 ∈ batch.map Prod.fst
      · rw [if_pos hid]
        refine .marked ?_ (pending_of_fetched hbatch (hqueue e he) hid).1
        rw [hp]
        exact hid
      · rw [if_neg hid]
        exact .kept (fun hset => by cases hset) fun c hc => by cases hc

/-- Without a request on its way a step but an enqueuing, fetching or first one only takes entries
away. -/
theorem next_rows_subset (h : s.next config summary now a = some s') (ha : a ≠ .enqueue)
    (hno : ∀ tasksConfig, a ≠ .restart tasksConfig) (hfetch : ∀ marked, a ≠ .fetch marked)
    (hp : ∀ t batch, s.point ≠ .sending t batch) :
    ∀ e ∈ s'.db.queue.rows, e ∈ s.db.queue.rows := by
  have hwrites := next_writes h
  generalize s'.db = db at hwrites ⊢
  cases hwrites with
  | enqueues metric kind id => exact absurd rfl ha
  | fetches marked _ _ => exact absurd rfl (hfetch marked)
  | recovers tasksConfig => exact absurd rfl (hno tasksConfig)
  | marksSent _ hs => exact absurd hs (hp _ _)
  | marksFailed _ hs _ _ => exact absurd hs (hp _ _)
  | nothing _ => exact fun e he => he
  | stores metric kind _ => exact fun e he => he
  | flushes failAt _ =>
    rw [(s.scheduler.flushMetricsNow_frame s.db now failAt).2]
    exact fun e he => he
  | handles failAt result _ =>
    rw [(s.scheduler.handleTaskResult_frame s.db now failAt result).2]
    exact fun e he => he
  | cleansQueue sentFails failedFails =>
    exact (s.scheduler.cleanupSentQueueIfNeeded_frame s.db now sentFails failedFails).2.2.2
  | loads _ _ n => exact s.db.loadSomeEntries_queue now _ n
  | cleansData done _ =>
    rw [(s.db.cleanupOldData_agg now config.localDataRetentionDays done).1]
    exact fun e he => he

/-- **What a step does to an entry of the queue.** -/
theorem next_entry (h : s.next config summary now a = some s') (ha : a ≠ .enqueue)
    (hnodup : s.point.batchIds.Nodup) {e' : Nat × QueueRow} (he' : e' ∈ s'.db.queue.rows) :
    ∃ e ∈ s.db.queue.rows, e.1 = e'.1 ∧ EntryStep config s s' now a e.1 e.2 e'.2 := by
  by_cases hr : ∃ tasksConfig, a = .restart tasksConfig
  · obtain ⟨tasksConfig, rfl⟩ := hr
    exact entry_restart h he'
  by_cases hf : ∃ marked, a = .fetch marked
  · obtain ⟨marked, rfl⟩ := hf
    exact entry_fetch h he'
  have hno : ∀ tasksConfig, a ≠ .restart tasksConfig := fun c hc => hr ⟨c, hc⟩
  by_cases hp : ∃ t batch, s.point = .sending t batch
  · obtain ⟨t, batch, hp⟩ := hp
    rcases next_of_sending h hp with ⟨outcome, marked, failing, rfl⟩ | ⟨e, n, rfl⟩ | hc | rfl
    · exact entry_reply h hnodup he'
    · exact entry_replyKilled h hnodup he'
    · exact absurd hc hr
    · refine EntryStep.of_subset rfl hno ?_ he'
      cases h
      exact fun e he => he
  · have hp' : ∀ t batch, s.point ≠ .sending t batch := fun t b hb => hp ⟨t, b, hb⟩
    refine EntryStep.of_subset ?_ hno
      (next_rows_subset h ha hno (fun marked hm => hf ⟨marked, hm⟩) hp') he'
    rw [Point.batchIds_of_not_sending hp']
    exact settles_nil a

theorem next_queue_nextId (h : s.next config summary now a = some s') :
    s.db.queue.nextId ≤ s'.db.queue.nextId := by
  have hwrites := next_writes h
  generalize s'.db = db at hwrites ⊢
  cases hwrites with
  | enqueues metric kind id =>
    rcases s.db.queue.insertOrIgnore_eq (SendQueue.newEntry now kind metric id) with
      ⟨key, -, -, heq⟩ | ⟨hnew, heq⟩
    · rw [heq]
    · rw [heq]
      exact Nat.le_succ _
  | fetches marked _ _ =>
    rw [s.db.getQueuedMetrics_fst]
    exact le_of_eq (s.db.loadSomeEntries_nextId now _ _).symm
  | marksFailed _ _ e _ => exact le_of_eq (SendQueue.nextId_markAllAsFailed ..).symm
  | flushes failAt _ => rw [(s.scheduler.flushMetricsNow_frame s.db now failAt).2]
  | handles failAt result _ => rw [(s.scheduler.handleTaskResult_frame s.db now failAt result).2]
  | cleansQueue sentFails failedFails =>
    unfold TaskScheduler.cleanupSentQueueIfNeeded
    cases sentFails <;> cases failedFails <;> split <;> exact le_refl _
  | loads _ _ n => exact le_of_eq (s.db.loadSomeEntries_nextId now _ n).symm
  | cleansData done _ =>
    rw [(s.db.cleanupOldData_agg now config.localDataRetentionDays done).1]
  | nothing _ => exact le_refl _
  | stores metric kind _ => exact le_refl _
  | marksSent _ _ => exact le_refl _
  | recovers tasksConfig => exact le_refl _

theorem next_handed {marked : Bool} (h : s.next config summary now (.fetch marked) = some s') :
    s'.point.batchIds.Nodup ∧ ∀ id ∈ s'.point.batchIds, ∃ r, (id, r) ∈ s.db.queue.rows ∧
      r.status = .pending ∧ ∃ nextRetryAt, r.nextRetryAt = some nextRetryAt ∧
        nextRetryAt ≤ (now : Int) := by
  rcases next_fetch_cases h with ⟨hp, -⟩ | ⟨batch, hbatch, hp, -⟩
  · rw [hp]
    refine ⟨List.nodup_nil, ?_⟩
    intro id hid
    cases hid
  · rw [hp]
    rw [AgentDatabase.getQueuedMetrics_of_ok hbatch] at hbatch
    have hsub := s.db.loadEntries_sublist _ hbatch
    refine ⟨(SendQueue.nodup_readyEntries ..).sublist hsub, ?_⟩
    intro id hid
    obtain ⟨e, he, rfl⟩ := List.mem_map.1 (hsub.subset hid)
    obtain ⟨hmem, hdue⟩ := SendQueue.mem_readyEntries_due he
    exact ⟨e.2, hmem, hdue⟩

end Agent

/-! ## Counting attempts -/

/-- What is counted of the attempts so far: an entry that can be sent has budget left, and its count
is behind by the attempt that is under way only. -/
structure Counted (config : AgentConfig) (s : Agent) (handed : Nat → Nat) : Prop where
  nodup : s.point.batchIds.Nodup
  entry : ∀ e ∈ s.db.queue.rows, e.2.status.live = true →
    0 ≤ e.2.retryCount ∧ e.2.retryCount < config.budget ∧
      (handed e.1 : Int) ≤ e.2.retryCount + 1 ∧
      (e.2.status = .pending → e.1 ∉ s.point.batchIds → (handed e.1 : Int) ≤ e.2.retryCount)
  bound : ∀ id, (handed id : Int) ≤ config.budget
  fresh : ∀ id, s.db.queue.nextId ≤ id → handed id = 0

theorem AgentConfig.budget_lt (config : AgentConfig) : config.budget < 2 ^ 31 := by
  have hM : Agent.maxRetries config < 2 ^ 31 := by
    unfold Agent.maxRetries
    have := Int.bmod_lt (x := (config.metricsMaxRetries.toNat : Int)) (m := 2 ^ 32) (by omega)
    omega
  unfold AgentConfig.budget
  omega

/-- One failed attempt, of an entry that has budget left. -/
theorem failedEntry_counted {config : AgentConfig} (now : Nat) (errorMsg : String) {r : QueueRow}
    (h0 : 0 ≤ r.retryCount) (hlt : r.retryCount < config.budget) :
    let r' := SendQueue.failedEntry now errorMsg (Agent.maxRetries config) r
    r'.retryCount = r.retryCount + 1 ∧
      (r'.status.live = true → r'.retryCount < config.budget) := by
  have hbudget := config.budget_lt
  have hself : (r.retryCount + 1).bmod (2 ^ 32) = r.retryCount + 1 :=
    Int.bmod_eq_of_le (by omega) (by omega)
  unfold SendQueue.failedEntry
  dsimp only
  rw [hself]
  split
  · refine ⟨rfl, ?_⟩
    intro hlive
    cases hlive
  · next hM =>
    refine ⟨rfl, fun _ => ?_⟩
    show r.retryCount + 1 < max (Agent.maxRetries config) 1
    omega

theorem QueueMatches.live_of_batch {s : Agent} (hM : QueueMatches s) {e : Nat × QueueRow}
    (he : e ∈ s.db.queue.rows) (hid : e.1 ∈ s.point.batchIds) : e.2.status.live = true :=
  ((AgentDatabase.delivers_iff _ _).1 (hM.batch e he hid)).1

section Counted

variable {config : AgentConfig} {summary : Summary} {s s' : Agent} {now : Nat} {a : AgentAction}
  {handed : Nat → Nat}

theorem Counted.batch (hI : Counted config s handed) {marked : Bool}
    (h : s.next config summary now (.fetch marked) = some s') (hnone : s.point.batchIds = []) :
    ∀ id ∈ s'.point.batchIds, ∃ r, (id, r) ∈ s.db.queue.rows ∧
      r.retryCount < config.budget ∧ (handed id : Int) ≤ r.retryCount := by
  intro id hid
  obtain ⟨r, hr, hpending, -⟩ := (Agent.next_handed h).2 id hid
  obtain ⟨-, hlt, -, hcount⟩ := hI.entry (id, r) hr (by rw [hpending]; rfl)
  exact ⟨r, hr, hlt, hcount hpending (by rw [hnone]; exact List.not_mem_nil)⟩

theorem Counted.entry_fetch (hI : Counted config s handed) {marked : Bool}
    (h : s.next config summary now (.fetch marked) = some s') (hnone : s.point.batchIds = [])
    {e : Nat × QueueRow} (he : e ∈ s.db.queue.rows) (hlive : e.2.status.live = true) :
    0 ≤ e.2.retryCount ∧ e.2.retryCount < config.budget ∧
      ((handed e.1 + if e.1 ∈ s'.point.batchIds then 1 else 0 : Nat) : Int) ≤
        e.2.retryCount + 1 ∧
      (e.2.status = .pending → e.1 ∉ s'.point.batchIds →
        ((handed e.1 + if e.1 ∈ s'.point.batchIds then 1 else 0 : Nat) : Int) ≤
          e.2.retryCount) := by
  obtain ⟨h0, hlt, hle, hpend⟩ := hI.entry e he hlive
  refine ⟨h0, hlt, ?_, ?_⟩
  · by_cases hmem : e.1 ∈ s'.point.batchIds
    · obtain ⟨r, hr, -, hle⟩ := hI.batch h hnone e.1 hmem
      have hrow : r = e.2 := congrArg Prod.snd (s.db.queue.id_injective hr he rfl)
      rw [hrow] at hle
      rw [if_pos hmem]
      push_cast
      omega
    · rw [if_neg hmem]
      simpa using hle
  · intro hpending hmem
    rw [if_neg hmem]
    exact hpend hpending (by rw [hnone]; exact List.not_mem_nil)

theorem Counted.fetch (hI : Counted config s handed) {marked : Bool}
    (h : s.next config summary now (.fetch marked) = some s') :
    Counted config s' fun id => handed id + if id ∈ s'.point.batchIds then 1 else 0 := by
  have hnone : s.point.batchIds = [] := by
    dsimp only [Agent.next] at h
    split at h
    · next hp =>
      rw [hp]
      rfl
    · cases h
  refine ⟨(Agent.next_handed h).1, ?_, ?_, ?_⟩
  · intro e' he' hlive
    obtain ⟨e, he, hid, hstep⟩ :=
      Agent.next_entry h (by simp) (by rw [hnone]; exact List.nodup_nil) he'
    have hcount := hI.entry_fetch h hnone he
    rw [← hid]
    generalize e'.2 = r' at hstep hlive
    cases hstep with
    | kept _ _ => exact hcount hlive
    | marked hmem hp =>
      obtain ⟨h0, hlt, hle, -⟩ := hcount (by rw [hp]; rfl)
      exact ⟨h0, hlt, hle, fun hs => by cases hs⟩
    | sent hset => cases hset
    | failed hset e => cases hset
    | recovered c hc _ => cases hc
  · intro id
    by_cases hmem : id ∈ s'.point.batchIds
    · obtain ⟨r, -, hlt, hle⟩ := hI.batch h hnone id hmem
      rw [if_pos hmem]
      push_cast
      omega
    · rw [if_neg hmem]
      exact hI.bound id
  · intro id hid
    have hle := Agent.next_queue_nextId h
    have hfresh := hI.fresh id (le_trans hle hid)
    have hmem : id ∉ s'.point.batchIds := by
      intro hmem
      obtain ⟨r, hr, -⟩ := hI.batch h hnone id hmem
      have hlt := s.db.queue.ids_lt _ hr
      dsimp only at hlt
      omega
    rw [if_neg hmem, hfresh]

/-- Every other step counts the attempt that was under way, if it is accounted for. -/
theorem Counted.step (hI : Counted config s handed) (hM : QueueMatches s)
    (hacc : s.Accounted config a) (h : s.next config summary now a = some s') (ha : a ≠ .enqueue)
    (hfetch : ∀ marked, a ≠ .fetch marked) : Counted config s' handed := by
  have hnone : s'.point.batchIds = [] := by
    refine Point.batchIds_of_not_sending ?_
    rcases (Agent.next_point h).1 with ⟨marked, hm⟩ | hno
    · exact absurd hm (hfetch marked)
    · exact hno
  have hbudget := config.budget_lt
  refine ⟨by rw [hnone]; exact List.nodup_nil, ?_, hI.bound, ?_⟩
  · intro e' he' hlive
    obtain ⟨e, he, hid, hstep⟩ := Agent.next_entry h ha hI.nodup he'
    rw [← hid, hnone]
    generalize e'.2 = r' at hstep hlive
    cases hstep with
    | kept hout _ =>
      obtain ⟨h0, hlt, hle, hpend⟩ := hI.entry e he hlive
      refine ⟨h0, hlt, hle, ?_⟩
      intro hpending _
      by_cases hmem : e.1 ∈ s.point.batchIds
      · rcases hacc.batch e he hmem with hset | hsending
        · have := hout hset
          omega
        · rw [hpending] at hsending
          cases hsending
      · exact hpend hpending hmem
    | marked hmem _ =>
      rw [hnone] at hmem
      cases hmem
    | sent _ => cases hlive
    | failed hset errorMsg =>
      have hbefore := hM.live_of_batch he (Agent.settles_subset a _ hset)
      obtain ⟨h0, hlt, hle, -⟩ := hI.entry e he hbefore
      obtain ⟨hcount, hlt'⟩ := failedEntry_counted now errorMsg h0 hlt
      have hlt' := hlt' hlive
      refine ⟨by omega, hlt', by omega, fun _ _ => by omega⟩
    | recovered c hc hs =>
      obtain ⟨h0, hlt, hle, -⟩ := hI.entry e he (by rw [hs]; rfl)
      have hleft := hacc.restart c hc e he hs
      have hcount : (SendQueue.recovered now e.2).retryCount = e.2.retryCount + 1 := rfl
      rw [hcount]
      exact ⟨by omega, hleft, by omega, fun _ _ => by omega⟩
  · intro id hid
    exact hI.fresh id (le_trans (Agent.next_queue_nextId h) hid)

theorem Counted.enqueue (hI : Counted config s handed) (hM : QueueMatches s)
    (h : s.next config summary now .enqueue = some s') : Counted config s' handed := by
  obtain ⟨periodEnd, todo, metric, id, kind, row, hp, -, -, -, hp', -, hrows⟩ :=
    hM.enqueue_appends h
  have hnone : s.point.batchIds = [] := by rw [hp]; rfl
  have hnone' : s'.point.batchIds = [] := by rw [hp']; rfl
  refine ⟨by rw [hnone']; exact List.nodup_nil, ?_, hI.bound, ?_⟩
  · intro e he hlive
    rw [hrows, List.mem_append, List.mem_singleton] at he
    rw [hnone']
    rcases he with he | rfl
    · obtain ⟨h0, hlt, hle, hpend⟩ := hI.entry e he hlive
      exact ⟨h0, hlt, hle, fun hs _ => hpend hs (by rw [hnone]; exact List.not_mem_nil)⟩
    · have hzero := hI.fresh _ (le_refl s.db.queue.nextId)
      have hcount : (SendQueue.newEntry now kind metric id).retryCount = 0 := rfl
      have hbudget : 0 < config.budget := lt_of_lt_of_le Int.zero_lt_one (le_max_right _ _)
      dsimp only
      rw [hzero, hcount]
      exact ⟨le_refl _, hbudget, by omega, fun _ _ => le_refl _⟩
  · intro id hid
    exact hI.fresh id (le_trans (Agent.next_queue_nextId h) hid)

end Counted

theorem Agent.next_settled {config : AgentConfig} {summary : Summary} {s s' : Agent} {now : Nat}
    {a : AgentAction} (hM : QueueMatches s) (h : s.next config summary now a = some s')
    {e' : Nat × QueueRow} (he' : e' ∈ s'.db.queue.rows) (hlt : e'.1 < s.db.queue.nextId) :
    ∃ e ∈ s.db.queue.rows, e.1 = e'.1 ∧
      (e.2.status.live = false → e'.2.status = e.2.status) := by
  by_cases ha : a = .enqueue
  · subst ha
    obtain ⟨_, _, _, _, _, _, -, -, -, -, -, -, hrows⟩ := hM.enqueue_appends h
    rw [hrows, List.mem_append, List.mem_singleton] at he'
    rcases he' with he' | rfl
    · exact ⟨e', he', rfl, fun _ => rfl⟩
    · exact absurd hlt (lt_irrefl _)
  · obtain ⟨e, he, hid, -, hst⟩ := (Agent.next_queueStep h ha).queue e' he'
    refine ⟨e, he, hid, fun hsettled => ?_⟩
    rcases hst with hst | ⟨hlive, -⟩ | hmem
    · exact hst
    · rw [hsettled] at hlive
      cases hlive
    · have hlive := hM.live_of_batch he hmem
      rw [hsettled] at hlive
      cases hlive

/-! ## Results -/

section Results

variable {config : AgentConfig} {summary : Summary} {tasksConfig : TasksConfig} {t₀ : Nat}
  {tr : List AgentStep} {s : Nat × Agent}

/-- **A settled entry stays as it is**, in every run. -/
theorem settled_stays (hr : Run (agentMachine config summary tasksConfig t₀) tr s) :
    ∀ t ∈ tr, ∀ e ∈ t.post.2.db.queue.rows, e.2.status.live = false →
      e.1 < s.2.db.queue.nextId ∧
        ∀ e' ∈ s.2.db.queue.rows, e'.1 = e.1 → e'.2.status = e.2.status := by
  induction hr with
  | nil => simp
  | @snoc tr s a s' b hr hs ih =>
    obtain ⟨-, hnext, -⟩ := agentMachine_step hs
    have hM := queueMatches_run hr
    intro t ht e he hsettled
    rcases List.mem_append.1 ht with ht | ht
    · obtain ⟨hlt, hsame⟩ := ih t ht e he hsettled
      refine ⟨lt_of_lt_of_le hlt (Agent.next_queue_nextId hnext), ?_⟩
      intro e' he' hid
      obtain ⟨e₀, he₀, hid₀, hstay⟩ := Agent.next_settled hM hnext he' (by rw [hid]; exact hlt)
      have hst₀ := hsame e₀ he₀ (hid₀.trans hid)
      rw [hstay (by rw [hst₀]; exact hsettled), hst₀]
    · rw [List.mem_singleton] at ht
      subst ht
      refine ⟨s'.2.db.queue.ids_lt e he, ?_⟩
      intro e' he' hid
      rw [s'.2.db.queue.id_injective he' he hid]

/-- **An entry is handed to the network when it is due**, in every run. -/
theorem handed_onTime (hr : Run (agentMachine config summary tasksConfig t₀) tr s) :
    ∀ t ∈ tr, ∀ id ∈ AgentStep.handed t, ∃ r, (id, r) ∈ t.pre.2.db.queue.rows ∧
      r.status = .pending ∧ ∃ nextRetryAt, r.nextRetryAt = some nextRetryAt ∧
        nextRetryAt ≤ (t.label.1 : Int) := by
  refine (Run.invariant_taken (I := fun _ => True) trivial ?_ hr).2
  rintro s ⟨now, a⟩ s' b - hs
  refine ⟨trivial, ?_⟩
  obtain ⟨-, hnext, -⟩ := agentMachine_step hs
  intro id hid
  cases a with
  | fetch marked => exact (Agent.next_handed hnext).2 id hid
  | _ => cases hid

/-- The counts are right after a run whose attempts are accounted for. -/
theorem counted_run (hr : Run (agentMachine config summary tasksConfig t₀) tr s)
    (hacc : ∀ t ∈ tr, t.pre.2.Accounted config t.label.2) :
    Counted config s.2 (attempts tr) := by
  induction hr with
  | nil =>
    have hbudget : 0 < config.budget := lt_of_lt_of_le Int.zero_lt_one (le_max_right _ _)
    refine ⟨List.nodup_nil, ?_, fun id => le_of_lt hbudget, fun _ _ => rfl⟩
    intro e he
    cases he
  | @snoc tr s a s' b hr hs ih =>
    obtain ⟨-, hnext, -⟩ := agentMachine_step hs
    have hI := ih fun t ht => hacc t (List.mem_append_left _ ht)
    have hlast := hacc ⟨s, a, b, s'⟩ (by simp)
    have hM := queueMatches_run hr
    have hcount : attempts (tr ++ [⟨s, a, b, s'⟩]) = fun id =>
        attempts tr id + if id ∈ AgentStep.handed ⟨s, a, b, s'⟩ then 1 else 0 := by
      funext id
      unfold attempts
      rw [List.countP_append, List.countP_singleton]
      simp
    rw [hcount]
    obtain ⟨now, a⟩ := a
    dsimp only at hnext
    by_cases hf : ∃ marked, a = .fetch marked
    · obtain ⟨marked, rfl⟩ := hf
      exact hI.fetch hnext
    · have hnone : AgentStep.handed ⟨s, (now, a), b, s'⟩ = [] := by
        unfold AgentStep.handed
        split
        · next marked ha => exact absurd ⟨marked, ha⟩ hf
        · rfl
      simp only [hnone, List.not_mem_nil, if_false, Nat.add_zero]
      by_cases ha : a = .enqueue
      · subst ha
        exact hI.enqueue hM hnext
      · exact hI.step hM hlast hnext ha fun marked hm => hf ⟨marked, hm⟩

/-- **The queue is disciplined** in every run whose attempts are all accounted for. -/
theorem attempts_of_accounted (hr : Run (agentMachine config summary tasksConfig t₀) tr s)
    (hacc : ∀ t ∈ tr, t.pre.2.Accounted config t.label.2) : Disciplined config tr s where
  settled t ht e he hsettled := (settled_stays hr t ht e he hsettled).2
  onTime := handed_onTime hr
  attempts := (counted_run hr hacc).bound

end Results

/-! ## A process that is killed while it sends -/

def AgentAction.restarts : AgentAction → Bool
  | .restart _ => true
  | _ => false

instance (config : AgentConfig) (s : Agent) (a : AgentAction) : Decidable (s.Accounted config a) :=
  decidable_of_iff
    ((∀ e ∈ s.db.queue.rows, e.1 ∈ s.point.batchIds →
        e.1 ∈ a.settles s.point.batchIds ∨ e.2.status = .sending) ∧
      (a.restarts = true → ∀ e ∈ s.db.queue.rows,
        e.2.status = .sending → e.2.retryCount + 1 < config.budget)) <| by
    constructor
    · rintro ⟨hbatch, hrestart⟩
      refine ⟨hbatch, ?_⟩
      rintro tasksConfig rfl
      exact hrestart rfl
    · rintro ⟨hbatch, hrestart⟩
      refine ⟨hbatch, fun hr => ?_⟩
      cases a with
      | restart tasksConfig => exact hrestart tasksConfig rfl
      | _ => cases hr

def exampleAgentMachine : Machine (Nat × Agent) (Nat × AgentAction) Unit :=
  agentMachine exampleAgentConfig exampleSummary ⟨[taskEvery 60]⟩ 60

/-- Two attempts that fail use the budget up. -/
theorem attempts_of_accounted_outage :
    ∃ tr s, Run exampleAgentMachine tr s ∧ attempts tr 1 = 2 ∧
      Disciplined exampleAgentConfig tr s := by
  obtain ⟨tr, s, he, hr⟩ := Run.exists_of_exec exampleAgentMachine (outage 2) (by decide +kernel)
  have hrun : (exampleAgentMachine.exec (outage 2)).map (fun r => (attempts r.1 1,
      r.1.all fun t => decide (t.pre.2.Accounted exampleAgentConfig t.label.2))) =
        some (2, true) := by decide +kernel
  rw [he] at hrun
  obtain ⟨hcount, hall⟩ := Prod.mk.inj (Option.some.inj hrun)
  refine ⟨tr, s, hr, hcount, attempts_of_accounted hr fun t ht => ?_⟩
  simpa using List.all_eq_true.1 hall t ht

/-- The process is started at `now`, and has a request on its way again at `now + 200`. -/
def restartedAt (now : Nat) : List (Nat × AgentAction) :=
  [(now, .restart ⟨[taskEvery 60]⟩), (now + 200, .aggregationCheck none), (now + 200, .aggregate),
    (now + 200, .aggregationDone), (now + 200, .flush none), (now + 200, .queueCleanup false false),
    (now + 200, .fetch true)]

/-- The entry of the first minute is sent at 125; the process is killed and started twice. -/
def killedTwice : List (Nat × AgentAction) :=
  firstMinute (taskEvery 60) ++ wokenAt 125 ++
    [(125, .enqueue), (125, .aggregationDone), (125, .flush none),
      (125, .queueCleanup false false), (125, .fetch true)] ++ restartedAt 126 ++ restartedAt 400

/-- A third attempt, where two are allowed. -/
theorem not_disciplined_killedTwice :
    ∃ tr s, Run exampleAgentMachine tr s ∧ exampleAgentConfig.budget = 2 ∧ attempts tr 1 = 3 ∧
      ¬ Disciplined exampleAgentConfig tr s := by
  obtain ⟨tr, s, he, hr⟩ := Run.exists_of_exec exampleAgentMachine killedTwice (by rfl)
  have hrun : (exampleAgentMachine.exec killedTwice).map (fun r => attempts r.1 1) = some 3 := by rfl
  rw [he] at hrun
  have hcount : attempts tr 1 = 3 := Option.some.inj hrun
  have hbudget : exampleAgentConfig.budget = 2 := by decide +kernel
  refine ⟨tr, s, hr, hbudget, hcount, fun hd => ?_⟩
  have hle := hd.attempts 1
  rw [hcount, hbudget] at hle
  exact absurd hle (by decide)

end LinkSense
