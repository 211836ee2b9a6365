import LinkSense.Agent.Scheduler
import LinkSense.Machine
import LinkSense.Shared.Api

/-!
# The main loop of the agent

`Agent::run` of `agent/src/main.rs` with the scheduler calls it makes, split at every point where
the process can be killed: a pass over the tasks stores and enqueues one aggregate at a time, and
a batch is marked, sent and settled in steps of their own.  A step reads the clock once.

What the executions send, what the server answers and which tasks a reload brings is left to the
outside.  An error that leaves the loop ends the process; it can be restarted at any point.

    a step adds the rows of the metrics it flushes to the raw tables, or is the cleanup of
    old data                                                                       (next_stores)
    a step starts a scheduler with the tasks it is given, or the tasks stay   (next_tasksConfig)
    a pass is begun by the check, and goes on at the points of a pass           (next_periodEnd)
-/

namespace LinkSense

open Labelled Sql

/-! ## State -/

/-- Where in an iteration of the loop the agent is. -/
inductive Point where
  | aggregationCheck
  /-- The tasks that this pass has not come to. -/
  | aggregating (periodEnd : Nat) (todo : List TaskConfig)
  /-- An aggregate is stored, and not yet in the queue. -/
  | enqueuing (periodEnd : Nat) (todo : List TaskConfig) (metric : AggregatedMetrics)
      (metricRowId : Nat)
  | flush
  | queueCleanup
  | send
  /-- A request is on its way. -/
  | sending (currentTime : Nat) (batch : List (Nat × AggregatedMetrics))
  /-- The server has said that the configuration is stale. -/
  | updating (currentTime : Nat)
  /-- `stop` has returned, the new scheduler is not yet there. -/
  | restarting (currentTime : Nat)
  /-- A signal was received, and `stop` is waiting. -/
  | shuttingDown
  | dataCleanup
  | select
  | exited
deriving DecidableEq, Repr

structure Agent where
  scheduler : TaskScheduler
  db : AgentDatabase
  lastMetricsSend : Nat
  lastDataCleanup : Nat
  point : Point

inductive AgentAction where
  /-- The top of the loop, and `check_and_perform_aggregation` up to its first task. -/
  | aggregationCheck (failAt : Option Nat)
  /-- The next task of the pass: generate its aggregate, and store it. -/
  | aggregate
  | enqueue
  | aggregationDone
  | flush (failAt : Option Nat)
  | queueCleanup (sentFails failedFails : Bool)
  /-- Fetch a batch, and mark it as being sent if that works. -/
  | fetch (marked : Bool)
  /-- No batch can be fetched; `n` entries had been loaded. -/
  | fetchFails (n : Nat)
  /-- What comes of the request; a batch that was sent is marked if that works, and one that was not
  but for the entries whose update fails. -/
  | reply (outcome : Except String ConfigStatus) (marked : Bool) (failing : List Nat)
  /-- The process is killed after it has loaded `n` entries of a batch. -/
  | fetchKilled (n : Nat)
  /-- The process is killed after it has marked `n` entries as failed. -/
  | replyKilled (e : String) (n : Nat)
  /-- `stop` takes a result. -/
  | drain (failAt : Option Nat) (result : TaskResult)
  /-- `stop` comes to its end. -/
  | stop (failAt : Option Nat)
  /-- A new scheduler is started. -/
  | reload (tasksConfig : TasksConfig)
  /-- The new scheduler cannot be made, and the one that has stopped stays. -/
  | reloadFails
  /-- The update is not made, or fails before it stops the scheduler. -/
  | keep
  /-- `cleanup_old_data`, which ends after `done` of its statements. -/
  | dataCleanup (done : Nat)
  | result (failAt : Option Nat) (result : TaskResult)
  | ready (taskName : String)
  /-- A signal ends the loop, wherever it is. -/
  | shutdown
  /-- The process has ended or is killed, and is started again. -/
  | restart (tasksConfig : TasksConfig)

namespace TaskScheduler

/-- The minute that `check_and_perform_aggregation` would close, if it is a new one. -/
def dueMinute (s : TaskScheduler) (now : Nat) : Option Nat :=
  let currentMinute := now / 60 * 60
  if currentMinute > s.lastAggregation then some currentMinute else none

def cleanupSentQueueIfNeeded (s : TaskScheduler) (db : AgentDatabase) (now : Nat)
    (sentFails failedFails : Bool) : TaskScheduler × AgentDatabase :=
  if now ≥ s.lastQueueCleanup + s.queueCleanupIntervalSeconds then
    let q := if sentFails then db.queue else SendQueue.cleanupSentQueueEntries db.queue now 24
    let q := if failedFails then q else SendQueue.cleanupFailedQueueEntries q now 7
    ({ s with lastQueueCleanup := now }, { db with queue := q })
  else (s, db)

end TaskScheduler

/-- A scheduler with the agent's settings, started. -/
def AgentConfig.newScheduler (config : AgentConfig) (tasksConfig : TasksConfig) : TaskScheduler :=
  .start (.new tasksConfig config.metricsFlushIntervalSeconds.toNat
    config.gracefulShutdownTimeoutSeconds.toNat config.channelBufferSize.toNat
    config.queueCleanupIntervalSeconds.toNat)

namespace Point

def stops : Point → Bool
  | .updating _ => true
  | .shuttingDown => true
  | _ => false

def stopped : Point → Point
  | .updating currentTime => .restarting currentTime
  | _ => .exited

end Point

namespace Agent

/-- `Agent::new`, up to its database. -/
def new (config : AgentConfig) (tasksConfig : TasksConfig) (db : AgentDatabase) : Agent :=
  ⟨config.newScheduler tasksConfig, db, 0, 0, .aggregationCheck⟩

/-- `AgentDatabase::initialize` at the time of the start. -/
def start (config : AgentConfig) (tasksConfig : TasksConfig) (db : AgentDatabase) (now : Nat) :
    Agent :=
  .new config tasksConfig { db with queue := SendQueue.recoverSendingEntries db.queue now }

/-- `metrics_max_retries as i32`. -/
def maxRetries (config : AgentConfig) : Int := (config.metricsMaxRetries.toNat : Int).bmod (2 ^ 32)

/-! ## Steps -/

/-- One step at the time `now`; `none` when it cannot be taken at this point. -/
def next (config : AgentConfig) (summary : Summary) (s : Agent) (now : Nat) :
    AgentAction → Option Agent
  | .aggregationCheck failAt =>
    if s.point = .aggregationCheck then
      if s.scheduler.state = .stopped then some { s with point := .exited }
      else match s.scheduler.dueMinute now with
      | none => some { s with point := .flush }
      | some minute =>
        match s.scheduler.flushMetricsNow s.db now failAt with
        | (scheduler, db, .error _) =>
          some { s with scheduler := scheduler, db := db, point := .exited }
        | (scheduler, db, .ok ()) =>
          some { s with
            scheduler := scheduler
            db := db
            point := .aggregating minute scheduler.tasksConfig.tasks }
    else none
  | .aggregate =>
    match s.point with
    | .aggregating periodEnd (task :: todo) =>
      match s.db.generateAggregatedMetrics summary task.name task.taskType (periodEnd - 60)
          periodEnd with
      | none => some { s with point := .aggregating periodEnd todo }
      | some metric =>
        match s.db.storeAggregatedMetric metric with
        | .error _ => some { s with point := .exited }
        | .ok (db, _, id) => some { s with db := db, point := .enqueuing periodEnd todo metric id }
    | _ => none
  | .enqueue =>
    match s.point with
    | .enqueuing periodEnd todo metric id =>
      match s.db.enqueueMetricForSend now metric id with
      | .error _ => some { s with point := .exited }
      | .ok db => some { s with db := db, point := .aggregating periodEnd todo }
    | _ => none
  | .aggregationDone =>
    match s.point with
    | .aggregating periodEnd [] =>
      some { s with
        scheduler := { s.scheduler with lastAggregation := periodEnd }
        point := .flush }
    | _ => none
  | .flush failAt =>
    if s.point = .flush then
      match s.scheduler.flushMetricsIfNeeded s.db now failAt with
      | (scheduler, db, .error _) =>
        some { s with scheduler := scheduler, db := db, point := .exited }
      | (scheduler, db, .ok ()) =>
        some { s with scheduler := scheduler, db := db, point := .queueCleanup }
    else none
  | .queueCleanup sentFails failedFails =>
    if s.point = .queueCleanup then
      let (scheduler, db) :=
        s.scheduler.cleanupSentQueueIfNeeded s.db now sentFails failedFails
      some { s with scheduler := scheduler, db := db, point := .send }
    else none
  | .fetch marked =>
    if s.point = .send then
      if config.localOnly then some { s with point := .dataCleanup }
      else if now ≥ s.lastMetricsSend + config.metricsSendIntervalSeconds.toNat then
        match s.db.getQueuedMetrics now config.metricsBatchSize.toNat with
        | (db, .error _) =>
          some { s with db := db, lastMetricsSend := now, point := .dataCleanup }
        | (db, .ok []) =>
          some { s with db := db, lastMetricsSend := now, point := .dataCleanup }
        | (db, .ok batch) =>
          let queue :=
            if marked then SendQueue.markAsSending db.queue now (batch.map Prod.fst)
            else db.queue
          some { s with db := { db with queue := queue }, point := .sending now batch }
      else some { s with point := .dataCleanup }
    else none
  | .fetchFails n =>
    if s.point = .send ∧ config.localOnly = false ∧
        now ≥ s.lastMetricsSend + config.metricsSendIntervalSeconds.toNat then
      some { s with
        db := s.db.loadSomeEntries now config.metricsBatchSize.toNat n
        lastMetricsSend := now
        point := .dataCleanup }
    else none
  | .reply outcome marked failing =>
    match s.point with
    | .sending currentTime batch =>
      match outcome with
      | .ok status =>
        let queue :=
          if marked then SendQueue.markAsSent s.db.queue now (batch.map Prod.fst) else s.db.queue
        let s := { s with db := { s.db with queue := queue } }
        if status = .stale ∧ config.autoUpdateTasks = true then
          some { s with point := .updating currentTime }
        else some { s with lastMetricsSend := currentTime, point := .dataCleanup }
      | .error e =>
        let queue := SendQueue.markAllAsFailed s.db.queue now e (maxRetries config)
          ((batch.map Prod.fst).filter fun id => !failing.contains id)
        some { s with
          db := { s.db with queue := queue }
          lastMetricsSend := currentTime
          point := .dataCleanup }
    | _ => none
  | .fetchKilled n =>
    if s.point = .send ∧ config.localOnly = false ∧
        now ≥ s.lastMetricsSend + config.metricsSendIntervalSeconds.toNat then
      some { s with
        db := s.db.loadSomeEntries now config.metricsBatchSize.toNat n
        point := .exited }
    else none
  | .replyKilled e n =>
    match s.point with
    | .sending _ batch =>
      let queue := SendQueue.markAllAsFailed s.db.queue now e (maxRetries config)
        ((batch.map Prod.fst).take n)
      some { s with db := { s.db with queue := queue }, point := .exited }
    | _ => none
  | .drain failAt result =>
    if s.point.stops then
      let (scheduler, db) := s.scheduler.handleTaskResult s.db now failAt result
      some { s with scheduler := scheduler, db := db }
    else none
  | .stop failAt =>
    if s.point.stops then
      let (scheduler, db, _) := s.scheduler.flushMetricsNow s.db now failAt
      some { s with
        scheduler := { scheduler with runningTasks := [], state := .stopped }
        db := db
        point := s.point.stopped }
    else none
  | .reload tasksConfig =>
    match s.point with
    | .restarting currentTime =>
      some { s with
        scheduler := config.newScheduler tasksConfig
        lastMetricsSend := currentTime
        point := .dataCleanup }
    | _ => none
  | .reloadFails =>
    match s.point with
    | .restarting currentTime =>
      some { s with lastMetricsSend := currentTime, point := .dataCleanup }
    | _ => none
  | .keep =>
    match s.point with
    | .updating currentTime =>
      some { s with lastMetricsSend := currentTime, point := .dataCleanup }
    | _ => none
  | .dataCleanup done =>
    if s.point = .dataCleanup then
      if now ≥ s.lastDataCleanup + config.dataCleanupIntervalSeconds.toNat then
        some { s with
          db := s.db.cleanupOldData now config.localDataRetentionDays done
          lastDataCleanup := now
          point := .select }
      else some { s with point := .select }
    else none
  | .result failAt result =>
    if s.point = .select then
      let (scheduler, db) := s.scheduler.handleTaskResult s.db now failAt result
      some { s with scheduler := scheduler, db := db, point := .aggregationCheck }
    else none
  | .ready taskName =>
    if s.point = .select then
      some { s with
        scheduler := (s.scheduler.executeSingleTask taskName).1
        point := .aggregationCheck }
    else none
  | .shutdown => some { s with point := .shuttingDown }
  | .restart tasksConfig => some (.start config tasksConfig s.db now)

end Agent

/-- An agent with a new database from its start at `t₀`, under a clock that does not go back. -/
def agentMachine (config : AgentConfig) (summary : Summary) (tasksConfig : TasksConfig) (t₀ : Nat) :
    Machine (Nat × Agent) (Nat × AgentAction) Unit :=
  Machine.clocked ⟨.start config tasksConfig .initial t₀,
    fun s a => (s.next config summary a.1 a.2).map (·, ())⟩ t₀

abbrev AgentStep := Taken (Nat × Agent) (Nat × AgentAction) Unit

/-! ## What a step stores -/

def MetricData.row (metric : MetricData) : RawRow :=
  ⟨metric.taskName, metric.timestamp, metric.data⟩

/-- What a flush of these metrics stores before its first error. -/
def storedMetrics (failAt : Option Nat) (metrics : List MetricData) : List MetricData :=
  (failAt.elim metrics metrics.take).takeWhile (·.data.kind.isSome)

/-- The metrics that handling a result stores, when it makes the buffer overflow. -/
def TaskScheduler.overflow (s : TaskScheduler) (failAt : Option Nat) (result : TaskResult) :
    List MetricData :=
  match result.metricData with
  | none => []
  | some metric =>
    if (s.metricsBuffer ++ [metric]).length ≥ s.maxMetricsBufferSize then
      storedMetrics failAt (s.metricsBuffer ++ [metric])
    else []

/-- The metrics that an action stores in the raw tables. -/
def Agent.flushed (s : Agent) (now : Nat) : AgentAction → List MetricData
  | .aggregationCheck failAt =>
    if s.scheduler.state = .stopped then []
    else match s.scheduler.dueMinute now with
    | none => []
    | some _ => storedMetrics failAt s.scheduler.metricsBuffer
  | .flush failAt =>
    if now ≥ s.scheduler.lastDbWrite + s.scheduler.flushIntervalSeconds then
      storedMetrics failAt s.scheduler.metricsBuffer
    else []
  | .drain failAt result => s.scheduler.overflow failAt result
  | .stop failAt => storedMetrics failAt s.scheduler.metricsBuffer
  | .result failAt result => s.scheduler.overflow failAt result
  | _ => []

/-- `db'` has the rows of `metrics` besides those of `db`, under new ids. -/
structure AgentDatabase.Stores (db db' : AgentDatabase) (metrics : List MetricData) : Prop where
  raw : ∀ kind, ∃ rows, (db'.raw kind).rows = (db.raw kind).rows ++ rows ∧
    rows.map Prod.snd = (metrics.filter (·.data.kind = some kind)).map MetricData.row ∧
    (∀ x ∈ rows, (db.raw kind).nextId ≤ x.1) ∧ (db.raw kind).nextId ≤ (db'.raw kind).nextId

/-! ## Lemmas -/

namespace AgentDatabase

theorem Stores.of_raw_eq {db db' : AgentDatabase} (h : db'.raw = db.raw) :
    db.Stores db' [] where
  raw := by
    intro kind
    rw [h]
    exact ⟨[], (List.append_nil _).symm, rfl, by simp, le_refl _⟩

theorem Stores.cons {db db₁ db₂ : AgentDatabase} {metric : MetricData} {metrics : List MetricData}
    (h₁ : db.storeRawMetric metric = .ok db₁) (h₂ : db₁.Stores db₂ metrics) :
    db.Stores db₂ (metric :: metrics) where
  raw := by
    intro kind
    unfold storeRawMetric at h₁
    cases hk : metric.data.kind with
    | none =>
      rw [hk] at h₁
      cases h₁
    | some k =>
      rw [hk] at h₁
      obtain rfl := Except.ok.inj h₁
      obtain ⟨rows, hrows, hmap, hids, hnext⟩ := h₂.raw kind
      by_cases hkind : k = kind
      · subst hkind
        -- a table of raw rows has no key, so the row is always new
        have hnew : ∃ h,
            (db.raw k).insertOrIgnore metric.row = (db.raw k).append metric.row h := by
          rcases (db.raw k).insertOrIgnore_eq metric.row with ⟨key, hkey, -⟩ | h
          · cases hkey
          · exact h
        obtain ⟨h, happ⟩ := hnew
        have happ' : (Function.update db.raw k ((db.raw k).insertOrIgnore
            ⟨metric.taskName, metric.timestamp, metric.data⟩)) k =
            (db.raw k).append metric.row h := by
          rw [Function.update_self]
          exact happ
        simp only [happ'] at hrows hids hnext
        refine ⟨((db.raw k).nextId, metric.row) :: rows, ?_, ?_, ?_, ?_⟩
        · rw [hrows, Table.rows_append, List.append_assoc]
          rfl
        · rw [List.map_cons, hmap, List.filter_cons, hk]
          simp
        · intro x hx
          rcases List.mem_cons.1 hx with rfl | hx
          · exact le_refl _
          · exact le_trans (Nat.le_succ _) (hids x hx)
        · exact le_trans (Nat.le_succ _) hnext
      · have hother : (Function.update db.raw k ((db.raw k).insertOrIgnore
            ⟨metric.taskName, metric.timestamp, metric.data⟩)) kind = db.raw kind :=
          Function.update_of_ne (Ne.symm hkind) _ _
        simp only [hother] at hrows hids hnext
        refine ⟨rows, hrows, ?_, hids, hnext⟩
        rw [hmap, List.filter_cons, hk]
        simp [hkind]

theorem storeAll_stores (db : AgentDatabase) (metrics : List MetricData) :
    db.Stores (db.storeAll metrics).1 (metrics.takeWhile (·.data.kind.isSome)) := by
  induction metrics generalizing db with
  | nil => exact .of_raw_eq rfl
  | cons metric metrics ih =>
    unfold storeAll
    cases hk : metric.data.kind with
    | none =>
      have herr : db.storeRawMetric metric = .error "Unknown metric type cannot be stored" := by
        unfold storeRawMetric
        rw [hk]
      rw [herr, List.takeWhile_cons, hk]
      exact .of_raw_eq rfl
    | some kind =>
      obtain ⟨db₁, hok⟩ : ∃ db₁, db.storeRawMetric metric = .ok db₁ := by
        unfold storeRawMetric
        rw [hk]
        exact ⟨_, rfl⟩
      rw [hok, List.takeWhile_cons, hk]
      exact .cons hok (ih db₁)

theorem storeAll_frame (db : AgentDatabase) (metrics : List MetricData) :
    (db.storeAll metrics).1.agg = db.agg ∧ (db.storeAll metrics).1.queue = db.queue := by
  induction metrics generalizing db with
  | nil => exact ⟨rfl, rfl⟩
  | cons metric metrics ih =>
    unfold storeAll storeRawMetric
    cases metric.data.kind with
    | none => exact ⟨rfl, rfl⟩
    | some kind => exact ih _

theorem storeSome_fst (db : AgentDatabase) (failAt : Option Nat) (metrics : List MetricData) :
    (db.storeSome failAt metrics).1 = (db.storeAll (failAt.elim metrics metrics.take)).1 := by
  unfold storeSome
  cases failAt with
  | none => rfl
  | some n =>
    dsimp only [Option.elim]
    rcases db.storeAll (metrics.take n) with ⟨db', e | u⟩
    · rfl
    · dsimp only
      split <;> rfl

theorem storeSome_stores (db : AgentDatabase) (failAt : Option Nat) (metrics : List MetricData) :
    db.Stores (db.storeSome failAt metrics).1 (storedMetrics failAt metrics) := by
  rw [storeSome_fst]
  exact db.storeAll_stores _

theorem storeSome_frame (db : AgentDatabase) (failAt : Option Nat) (metrics : List MetricData) :
    (db.storeSome failAt metrics).1.agg = db.agg ∧
      (db.storeSome failAt metrics).1.queue = db.queue := by
  rw [storeSome_fst]
  exact db.storeAll_frame _

end AgentDatabase

namespace TaskScheduler

theorem flushMetricsNow_db (s : TaskScheduler) (db : AgentDatabase) (now : Nat)
    (failAt : Option Nat) :
    (s.flushMetricsNow db now failAt).2.1 = (db.storeSome failAt s.metricsBuffer).1 := by
  unfold flushMetricsNow
  by_cases hb : s.metricsBuffer = []
  · rw [if_pos hb, hb, AgentDatabase.storeSome_fst]
    cases failAt with
    | none => rfl
    | some n =>
      show db = (db.storeAll (List.take n [])).1
      rw [List.take_nil]
      rfl
  · rw [if_neg hb]
    dsimp only
    rcases db.storeSome failAt s.metricsBuffer with ⟨db', e | u⟩
    · rfl
    · rfl

theorem flushMetricsNow_stores (s : TaskScheduler) (db : AgentDatabase) (now : Nat)
    (failAt : Option Nat) :
    db.Stores (s.flushMetricsNow db now failAt).2.1 (storedMetrics failAt s.metricsBuffer) := by
  rw [s.flushMetricsNow_db db now failAt]
  exact db.storeSome_stores failAt s.metricsBuffer

theorem handleTaskResult_db (s : TaskScheduler) (db : AgentDatabase) (now : Nat)
    (failAt : Option Nat) (result : TaskResult) :
    (s.handleTaskResult db now failAt result).2 = db ∧ s.overflow failAt result = [] ∨
      ∃ metrics, (s.handleTaskResult db now failAt result).2 = (db.storeSome failAt metrics).1 ∧
        s.overflow failAt result = storedMetrics failAt metrics := by
  unfold handleTaskResult overflow
  dsimp only
  cases result.metricData with
  | none => exact .inl ⟨rfl, rfl⟩
  | some metric =>
    dsimp only
    by_cases hlen : (s.metricsBuffer ++ [metric]).length ≥ s.maxMetricsBufferSize
    · right
      refine ⟨s.metricsBuffer ++ [metric], ?_, if_pos hlen⟩
      have hlen' : ((s.setRunning result.taskName false).metricsBuffer ++ [metric]).length ≥
          (s.setRunning result.taskName false).maxMetricsBufferSize := hlen
      rw [if_pos hlen']
      generalize hs : TaskScheduler.mk _ _ _ _ _ _ _ _ _ _ _ _ _ _ = s₁
      have hbuf : s₁.metricsBuffer = s.metricsBuffer ++ [metric] := by
        rw [← hs]
        rfl
      have hdb := s₁.flushMetricsNow_db db now failAt
      rw [hbuf] at hdb
      rw [← hdb]
      rcases s₁.flushMetricsNow db now failAt with ⟨s₂, db', e | u⟩
      · rfl
      · rfl
    · left
      have hlen' : ¬ ((s.setRunning result.taskName false).metricsBuffer ++ [metric]).length ≥
          (s.setRunning result.taskName false).maxMetricsBufferSize := hlen
      rw [if_neg hlen', if_neg hlen]
      exact ⟨rfl, rfl⟩

theorem handleTaskResult_stores (s : TaskScheduler) (db : AgentDatabase) (now : Nat)
    (failAt : Option Nat) (result : TaskResult) :
    db.Stores (s.handleTaskResult db now failAt result).2 (s.overflow failAt result) := by
  rcases s.handleTaskResult_db db now failAt result with ⟨hdb, hm⟩ | ⟨metrics, hdb, hm⟩
  · rw [hdb, hm]
    exact .of_raw_eq rfl
  · rw [hdb, hm]
    exact db.storeSome_stores failAt metrics

end TaskScheduler

theorem TaskScheduler.cleanupSentQueueIfNeeded_frame (s : TaskScheduler) (db : AgentDatabase)
    (now : Nat) (sentFails failedFails : Bool) :
    (s.cleanupSentQueueIfNeeded db now sentFails failedFails).1.tasksConfig = s.tasksConfig ∧
      (s.cleanupSentQueueIfNeeded db now sentFails failedFails).2.raw = db.raw ∧
      (s.cleanupSentQueueIfNeeded db now sentFails failedFails).2.agg = db.agg ∧
      ∀ e ∈ (s.cleanupSentQueueIfNeeded db now sentFails failedFails).2.queue.rows,
        e ∈ db.queue.rows := by
  unfold cleanupSentQueueIfNeeded
  by_cases hdue : now ≥ s.lastQueueCleanup + s.queueCleanupIntervalSeconds
  · rw [if_pos hdue]
    refine ⟨rfl, rfl, rfl, ?_⟩
    intro e he
    dsimp only at he
    have hsent : e ∈ (if sentFails = true then db.queue
        else SendQueue.cleanupSentQueueEntries db.queue now 24).rows := by
      split at he
      · exact he
      · exact List.mem_of_mem_filter he
    split at hsent
    · exact hsent
    · exact List.mem_of_mem_filter hsent
  · rw [if_neg hdue]
    exact ⟨rfl, rfl, rfl, fun e he => he⟩

theorem AgentDatabase.loadEntries_frame (db : AgentDatabase) (entries : List (Nat × QueueRow)) :
    (db.loadEntries entries).1.raw = db.raw ∧ (db.loadEntries entries).1.agg = db.agg := by
  induction entries generalizing db with
  | nil => exact ⟨rfl, rfl⟩
  | cons entry entries ih =>
    unfold loadEntries
    split
    · exact ⟨rfl, rfl⟩
    · split
      · exact ih _
      · have hrest := ih db
        split
        · next he =>
          rw [he] at hrest
          exact hrest
        · next he =>
          rw [he] at hrest
          exact hrest

theorem AgentDatabase.loadSomeEntries_frame (db : AgentDatabase) (now batchSize n : Nat) :
    (db.loadSomeEntries now batchSize n).raw = db.raw ∧
      (db.loadSomeEntries now batchSize n).agg = db.agg := by
  obtain ⟨m, hm⟩ := db.loadSomeEntries_eq now batchSize n
  rw [hm]
  exact db.loadEntries_frame _

theorem AgentDatabase.getQueuedMetrics_frame (db : AgentDatabase) (now batchSize : Nat) :
    (db.getQueuedMetrics now batchSize).1.raw = db.raw ∧
      (db.getQueuedMetrics now batchSize).1.agg = db.agg := by
  rw [db.getQueuedMetrics_fst]
  exact db.loadSomeEntries_frame now batchSize _

namespace Agent

variable {config : AgentConfig} {summary : Summary} {s s' : Agent} {now : Nat}

/-- A stopped scheduler ends the loop.  The check begins no pass, or flushes and begins one unless the
flush fails. -/
theorem next_aggregationCheck {failAt : Option Nat}
    (h : s.next config summary now (.aggregationCheck failAt) = some s') :
    s.scheduler.state = .stopped ∧ s' = { s with point := .exited } ∨
      s.scheduler.state ≠ .stopped ∧
        (s.scheduler.dueMinute now = none ∧ s' = { s with point := .flush } ∨
          ∃ minute point, s.scheduler.dueMinute now = some minute ∧
            (point = .exited ∨ ∃ todo, point = .aggregating minute todo) ∧
            s' = { s with
              scheduler := (s.scheduler.flushMetricsNow s.db now failAt).1
              db := (s.scheduler.flushMetricsNow s.db now failAt).2.1
              point := point }) := by
  dsimp only [next] at h
  split at h
  · split at h
    · next hstopped => exact .inl ⟨hstopped, (Option.some.inj h).symm⟩
    · next hrunning =>
      refine .inr ⟨hrunning, ?_⟩
      cases hd : s.scheduler.dueMinute now with
      | none =>
        rw [hd] at h
        exact .inl ⟨rfl, (Option.some.inj h).symm⟩
      | some minute =>
        right
        rw [hd] at h
        dsimp only at h
        split at h
        · next he =>
          rw [he]
          exact ⟨minute, .exited, rfl, .inl rfl, (Option.some.inj h).symm⟩
        · next he =>
          rw [he]
          exact ⟨minute, _, rfl, .inr ⟨_, rfl⟩, (Option.some.inj h).symm⟩
  · cases h

theorem next_flush {failAt : Option Nat}
    (h : s.next config summary now (.flush failAt) = some s') :
    ∃ point, (point = .exited ∨ point = .queueCleanup) ∧
      s' = { s with
        scheduler := (s.scheduler.flushMetricsIfNeeded s.db now failAt).1
        db := (s.scheduler.flushMetricsIfNeeded s.db now failAt).2.1
        point := point } := by
  dsimp only [next] at h
  split at h
  · split at h
    · next he =>
      rw [he]
      exact ⟨.exited, .inl rfl, (Option.some.inj h).symm⟩
    · next he =>
      rw [he]
      exact ⟨.queueCleanup, .inr rfl, (Option.some.inj h).symm⟩
  · cases h

/-- What a fetch does: nothing is fetched, or nothing that can be sent, or a request goes on its
way. -/
theorem next_fetch_cases {marked : Bool}
    (h : s.next config summary now (.fetch marked) = some s') :
    (s'.point = .dataCleanup ∧
      (s'.db = s.db ∨ s'.db = (s.db.getQueuedMetrics now config.metricsBatchSize.toNat).1)) ∨
    ∃ batch, (s.db.getQueuedMetrics now config.metricsBatchSize.toNat).2 = .ok batch ∧
      s'.point = .sending now batch ∧
      s'.db = { (s.db.getQueuedMetrics now config.metricsBatchSize.toNat).1 with
        queue :=
          if marked then
            SendQueue.markAsSending (s.db.getQueuedMetrics now config.metricsBatchSize.toNat).1.queue
              now (batch.map Prod.fst)
          else (s.db.getQueuedMetrics now config.metricsBatchSize.toNat).1.queue } := by
  dsimp only [next] at h
  generalize s.db.getQueuedMetrics now config.metricsBatchSize.toNat = fetched at h ⊢
  split at h
  · split at h
    · cases h
      exact .inl ⟨rfl, .inl rfl⟩
    · split at h
      · obtain ⟨db, e | _ | ⟨metric, batch⟩⟩ := fetched
        · cases h
          exact .inl ⟨rfl, .inr rfl⟩
        · cases h
          exact .inl ⟨rfl, .inr rfl⟩
        · cases h
          exact .inr ⟨metric :: batch, rfl, rfl, rfl⟩
      · cases h
        exact .inl ⟨rfl, .inl rfl⟩
  · cases h

theorem next_aggregate (h : s.next config summary now .aggregate = some s') :
    ∃ periodEnd task todo, s.point = .aggregating periodEnd (task :: todo) ∧
      (s' = { s with point := .aggregating periodEnd todo } ∨ s' = { s with point := .exited } ∨
        ∃ metric kind, metric.data.kind = some kind ∧
          s' = { s with
            db := { s.db with
              agg := Function.update s.db.agg kind ((s.db.agg kind).insertOrReplace
                ⟨metric.taskName, metric.periodStart, metric.periodEnd, metric.sampleCount,
                  metric.data⟩).1 }
            point := .enqueuing periodEnd todo metric (s.db.agg kind).nextId }) := by
  dsimp only [next] at h
  split at h
  · next periodEnd task todo hp =>
    refine ⟨periodEnd, task, todo, hp, ?_⟩
    split at h
    · cases h
      exact .inl rfl
    · next metric _ =>
      unfold AgentDatabase.storeAggregatedMetric at h
      cases hk : metric.data.kind with
      | none =>
        rw [hk] at h
        cases h
        exact .inr (.inl rfl)
      | some kind =>
        rw [hk] at h
        cases h
        exact .inr (.inr ⟨metric, kind, hk, rfl⟩)
  · cases h

theorem next_enqueue (h : s.next config summary now .enqueue = some s') :
    ∃ periodEnd todo metric id, s.point = .enqueuing periodEnd todo metric id ∧
      (metric.data.kind = none ∧ s' = { s with point := .exited } ∨
        ∃ kind, metric.data.kind = some kind ∧
          s' = { s with
            db := { s.db with
              queue := s.db.queue.insertOrIgnore (SendQueue.newEntry now kind metric id) }
            point := .aggregating periodEnd todo }) := by
  dsimp only [next] at h
  split at h
  · next periodEnd todo metric id hp =>
    unfold AgentDatabase.enqueueMetricForSend SendQueue.enqueueMetricForSend at h
    refine ⟨periodEnd, todo, metric, id, hp, ?_⟩
    cases hk : metric.data.kind with
    | none =>
      rw [hk] at h
      cases h
      exact .inl ⟨rfl, rfl⟩
    | some kind =>
      rw [hk] at h
      cases h
      exact .inr ⟨kind, rfl, rfl⟩
  · cases h

/-- The two steps of a task that has an aggregate, taken one after the other, are
`store_and_enqueue_aggregated_metrics`. -/
theorem next_storeAndEnqueue {periodEnd : Nat} {task : TaskConfig} {todo : List TaskConfig}
    {metric : AggregatedMetrics} (hp : s.point = .aggregating periodEnd (task :: todo))
    (hm : s.db.generateAggregatedMetrics summary task.name task.taskType (periodEnd - 60) periodEnd =
      some metric) :
    ((s.next config summary now .aggregate).bind fun s₁ => s₁.next config summary now .enqueue) =
      (s.db.storeAndEnqueueAggregatedMetrics now metric).toOption.map fun db =>
        { s with db := db, point := .aggregating periodEnd todo } := by
  simp only [next, hp, hm]
  unfold AgentDatabase.storeAndEnqueueAggregatedMetrics AgentDatabase.storeAggregatedMetric
    AgentDatabase.enqueueMetricForSend SendQueue.enqueueMetricForSend
  cases hk : metric.data.kind with
  | none => rfl
  | some kind =>
    dsimp only [Option.bind_some]
    rw [hk]
    rfl

end Agent

/-- What a step can make of the database: nothing, or the work of one call of the scheduler or of
the database's own functions. -/
inductive Agent.Writes (config : AgentConfig) (s : Agent) (now : Nat) :
    AgentAction → AgentDatabase → Prop where
  | nothing {a : AgentAction} (h : s.flushed now a = []) : Writes config s now a s.db
  | flushes {a : AgentAction} (failAt : Option Nat)
      (h : s.flushed now a = storedMetrics failAt s.scheduler.metricsBuffer) :
      Writes config s now a (s.scheduler.flushMetricsNow s.db now failAt).2.1
  | handles {a : AgentAction} (failAt : Option Nat) (result : TaskResult)
      (h : s.flushed now a = s.scheduler.overflow failAt result) :
      Writes config s now a (s.scheduler.handleTaskResult s.db now failAt result).2
  | stores (metric : AggregatedMetrics) (kind : MetricKind) (h : metric.data.kind = some kind) :
      Writes config s now .aggregate { s.db with
        agg := Function.update s.db.agg kind ((s.db.agg kind).insertOrReplace
          ⟨metric.taskName, metric.periodStart, metric.periodEnd, metric.sampleCount,
            metric.data⟩).1 }
  | enqueues (metric : AggregatedMetrics) (kind : MetricKind) (id : Nat) :
      Writes config s now .enqueue { s.db with
        queue := s.db.queue.insertOrIgnore (SendQueue.newEntry now kind metric id) }
  | cleansQueue (sentFails failedFails : Bool) :
      Writes config s now (.queueCleanup sentFails failedFails)
        (s.scheduler.cleanupSentQueueIfNeeded s.db now sentFails failedFails).2
  | loads {a : AgentAction} (h : s.flushed now a = []) (hlocal : config.localOnly = false) (n : Nat) :
      Writes config s now a (s.db.loadSomeEntries now config.metricsBatchSize.toNat n)
  | fetches (marked : Bool) (hlocal : config.localOnly = false)
      {batch : List (Nat × AggregatedMetrics)}
      (h : (s.db.getQueuedMetrics now config.metricsBatchSize.toNat).2 = .ok batch) :
      Writes config s now (.fetch marked)
        { (s.db.getQueuedMetrics now config.metricsBatchSize.toNat).1 with
          queue := SendQueue.markAsSending
            (s.db.getQueuedMetrics now config.metricsBatchSize.toNat).1.queue now
              (batch.map Prod.fst) }
  | marksSent {a : AgentAction} (h : s.flushed now a = []) {t : Nat}
      {batch : List (Nat × AggregatedMetrics)} (hp : s.point = .sending t batch) :
      Writes config s now a
        { s.db with queue := SendQueue.markAsSent s.db.queue now (batch.map Prod.fst) }
  | marksFailed {a : AgentAction} (h : s.flushed now a = []) {t : Nat}
      {batch : List (Nat × AggregatedMetrics)} (hp : s.point = .sending t batch) (e : String)
      {ids : List Nat} (hids : ∀ id ∈ ids, id ∈ batch.map Prod.fst) :
      Writes config s now a { s.db with
        queue := SendQueue.markAllAsFailed s.db.queue now e (maxRetries config) ids }
  | cleansData (done : Nat) (hp : s.point = .dataCleanup) :
      Writes config s now (.dataCleanup done)
        (s.db.cleanupOldData now config.localDataRetentionDays done)
  | recovers (tasksConfig : TasksConfig) :
      Writes config s now (.restart tasksConfig)
        { s.db with queue := SendQueue.recoverSendingEntries s.db.queue now }

theorem Agent.fetch_writes {config : AgentConfig} {summary : Summary} {s s' : Agent} {now : Nat}
    {marked : Bool} (h : s.next config summary now (.fetch marked) = some s') :
    s.Writes config now (.fetch marked) s'.db := by
  have hload : ∀ hlocal : config.localOnly = false,
      s.Writes config now (.fetch marked)
        (s.db.getQueuedMetrics now config.metricsBatchSize.toNat).1 := by
    intro hlocal
    rw [s.db.getQueuedMetrics_fst]
    exact .loads rfl hlocal _
  dsimp only [next] at h
  split at h
  · split at h
    · cases h
      exact .nothing rfl
    · next hlocal =>
      have hlocal : config.localOnly = false := by simpa using hlocal
      split at h
      · split at h
        · next he =>
          cases h
          have hwrites := hload hlocal
          rwa [he] at hwrites
        · next he =>
          cases h
          have hwrites := hload hlocal
          rwa [he] at hwrites
        · next db batch _ he =>
          cases h
          cases marked with
          | false =>
            have hwrites := hload hlocal
            rwa [he] at hwrites
          | true =>
            have hbatch : (s.db.getQueuedMetrics now config.metricsBatchSize.toNat).2 =
                .ok batch := by rw [he]
            have hwrites := Agent.Writes.fetches true hlocal hbatch
            rwa [he] at hwrites
      · cases h
        exact .nothing rfl
  · cases h

/-- **What a step does to the database.** -/
theorem Agent.next_writes {config : AgentConfig} {summary : Summary} {s s' : Agent} {now : Nat}
    {a : AgentAction} (h : s.next config summary now a = some s') :
    s.Writes config now a s'.db := by
  cases a with
  | aggregationCheck failAt =>
    rcases next_aggregationCheck h with
      ⟨hstopped, rfl⟩ | ⟨hrunning, ⟨hd, rfl⟩ | ⟨minute, point, hd, -, rfl⟩⟩
    · exact .nothing (if_pos hstopped)
    · exact .nothing (by simp only [flushed, if_neg hrunning, hd])
    · exact .flushes failAt (by simp only [flushed, if_neg hrunning, hd])
  | aggregate =>
    obtain ⟨e, task, todo, -, rfl | rfl | ⟨metric, kind, hk, rfl⟩⟩ := next_aggregate h
    · exact .nothing rfl
    · exact .nothing rfl
    · exact .stores metric kind hk
  | enqueue =>
    obtain ⟨e, todo, metric, id, -, ⟨-, rfl⟩ | ⟨kind, -, rfl⟩⟩ := next_enqueue h
    · exact .nothing rfl
    · exact .enqueues metric kind id
  | flush failAt =>
    obtain ⟨point, -, rfl⟩ := next_flush h
    dsimp only
    unfold TaskScheduler.flushMetricsIfNeeded
    by_cases hdue : now ≥ s.scheduler.lastDbWrite + s.scheduler.flushIntervalSeconds
    · rw [if_pos hdue]
      exact .flushes failAt (if_pos hdue)
    · rw [if_neg hdue]
      exact .nothing (if_neg hdue)
  | queueCleanup sentFails failedFails =>
    dsimp only [next] at h
    split at h
    · cases h
      exact .cleansQueue sentFails failedFails
    · cases h
  | fetch marked => exact fetch_writes h
  | fetchFails n =>
    dsimp only [next] at h
    split at h
    · next hc =>
      cases h
      exact .loads rfl hc.2.1 n
    · cases h
  | fetchKilled n =>
    dsimp only [next] at h
    split at h
    · next hc =>
      cases h
      exact .loads rfl hc.2.1 n
    · cases h
  | reply outcome marked failing =>
    dsimp only [next] at h
    split at h
    · next t batch hp =>
      have hmark : s.Writes config now (.reply outcome marked failing) { s.db with
          queue := if marked = true then SendQueue.markAsSent s.db.queue now (batch.map Prod.fst)
            else s.db.queue } := by
        cases marked with
        | false => exact .nothing rfl
        | true => exact .marksSent rfl hp
      split at h
      · split at h
        · cases h
          exact hmark
        · cases h
          exact hmark
      · cases h
        exact .marksFailed rfl hp _ fun id hid => List.mem_of_mem_filter hid
    · cases h
  | replyKilled e n =>
    dsimp only [next] at h
    split at h
    · next t batch hp =>
      cases h
      exact .marksFailed rfl hp e fun id hid => List.mem_of_mem_take hid
    · cases h
  | drain failAt result =>
    dsimp only [next] at h
    split at h
    · cases h
      exact .handles failAt result rfl
    · cases h
  | result failAt result =>
    dsimp only [next] at h
    split at h
    · cases h
      exact .handles failAt result rfl
    · cases h
  | stop failAt =>
    dsimp only [next] at h
    split at h
    · cases h
      exact .flushes failAt rfl
    · cases h
  | dataCleanup done =>
    dsimp only [next] at h
    split at h
    · next hp =>
      split at h
      · cases h
        exact .cleansData done hp
      · cases h
        exact .nothing rfl
    · cases h
  | restart tasksConfig =>
    cases h
    exact .recovers tasksConfig
  | _ =>
    dsimp only [next] at h
    repeat' split at h
    all_goals
      cases h
      try exact .nothing rfl

/-- **What a step does to the raw tables**: it adds the rows of the metrics it flushes, or it is
the cleanup of old data. -/
theorem Agent.next_stores {config : AgentConfig} {summary : Summary} {s s' : Agent} {now : Nat}
    {a : AgentAction} (h : s.next config summary now a = some s') :
    s.db.Stores s'.db (s.flushed now a) ∨
      ∃ done, a = .dataCleanup done ∧ s.point = .dataCleanup ∧
        s'.db = s.db.cleanupOldData now config.localDataRetentionDays done := by
  have hwrites := next_writes h
  generalize s'.db = db at hwrites ⊢
  cases hwrites with
  | cleansData done hp => exact .inr ⟨done, rfl, hp, rfl⟩
  | flushes failAt hf =>
    left
    rw [hf]
    exact s.scheduler.flushMetricsNow_stores s.db now failAt
  | handles failAt result hf =>
    left
    rw [hf]
    exact s.scheduler.handleTaskResult_stores s.db now failAt result
  | nothing hf =>
    left
    rw [hf]
    exact .of_raw_eq rfl
  | marksSent hf _ =>
    left
    rw [hf]
    exact .of_raw_eq rfl
  | marksFailed hf _ e _ =>
    left
    rw [hf]
    exact .of_raw_eq rfl
  | loads hf _ n =>
    left
    rw [hf]
    exact .of_raw_eq (s.db.loadSomeEntries_frame now _ n).1
  | fetches marked _ _ => exact .inl (.of_raw_eq (s.db.getQueuedMetrics_frame now _).1)
  | stores metric kind _ => exact .inl (.of_raw_eq rfl)
  | enqueues metric kind id => exact .inl (.of_raw_eq rfl)
  | cleansQueue sentFails failedFails =>
    exact .inl (.of_raw_eq (s.scheduler.cleanupSentQueueIfNeeded_frame s.db now _ _).2.1)
  | recovers tasksConfig => exact .inl (.of_raw_eq rfl)

namespace TaskScheduler

theorem flushMetricsNow_tasksConfig (s : TaskScheduler) (db : AgentDatabase) (now : Nat)
    (failAt : Option Nat) : (s.flushMetricsNow db now failAt).1.tasksConfig = s.tasksConfig := by
  unfold flushMetricsNow
  split
  · rfl
  · dsimp only
    split <;> rfl

theorem handleTaskResult_tasksConfig (s : TaskScheduler) (db : AgentDatabase) (now : Nat)
    (failAt : Option Nat) (result : TaskResult) :
    (s.handleTaskResult db now failAt result).1.tasksConfig = s.tasksConfig := by
  unfold handleTaskResult
  dsimp only
  split
  · rfl
  · split
    · generalize hs : TaskScheduler.mk _ _ _ _ _ _ _ _ _ _ _ _ _ _ = s₁
      have htasks : s₁.tasksConfig = s.tasksConfig := by
        rw [← hs]
        rfl
      rw [← htasks, ← s₁.flushMetricsNow_tasksConfig db now failAt]
      rcases s₁.flushMetricsNow db now failAt with ⟨s₂, db', e | u⟩
      · rfl
      · rfl
    · rfl

theorem start_tasksConfig (s : TaskScheduler) : s.start.tasksConfig = s.tasksConfig := by
  have hfold : ∀ (tasks : List TaskConfig) (s : TaskScheduler),
      (tasks.foldl spawnTickerTask s).tasksConfig = s.tasksConfig := by
    intro tasks
    induction tasks with
    | nil =>
      intro s
      rfl
    | cons task tasks ih =>
      intro s
      rw [List.foldl_cons, ih]
      rfl
  exact hfold _ s

end TaskScheduler

theorem Agent.next_tasksConfig {config : AgentConfig} {summary : Summary} {s s' : Agent} {now : Nat}
    {a : AgentAction} (h : s.next config summary now a = some s') :
    (a = .reload s'.scheduler.tasksConfig ∨ a = .restart s'.scheduler.tasksConfig) ∨
      (∀ tasksConfig, a ≠ .reload tasksConfig ∧ a ≠ .restart tasksConfig) ∧
        s'.scheduler.tasksConfig = s.scheduler.tasksConfig := by
  cases a with
  | reload tasksConfig =>
    left
    left
    dsimp only [next] at h
    split at h
    · cases h
      have hstart : (config.newScheduler tasksConfig).tasksConfig = tasksConfig :=
        TaskScheduler.start_tasksConfig _
      rw [hstart]
    · cases h
  | restart tasksConfig =>
    left
    right
    cases h
    have hstart : (config.newScheduler tasksConfig).tasksConfig = tasksConfig :=
      TaskScheduler.start_tasksConfig _
    show AgentAction.restart tasksConfig = .restart (config.newScheduler tasksConfig).tasksConfig
    rw [hstart]
  | aggregationCheck failAt =>
    refine .inr ⟨by simp, ?_⟩
    rcases next_aggregationCheck h with ⟨-, rfl⟩ | ⟨-, ⟨-, rfl⟩ | ⟨minute, point, -, -, rfl⟩⟩
    · rfl
    · rfl
    · exact s.scheduler.flushMetricsNow_tasksConfig s.db now failAt
  | flush failAt =>
    refine .inr ⟨by simp, ?_⟩
    obtain ⟨point, -, rfl⟩ := next_flush h
    dsimp only
    unfold TaskScheduler.flushMetricsIfNeeded
    split
    · exact s.scheduler.flushMetricsNow_tasksConfig s.db now failAt
    · rfl
  | queueCleanup sentFails failedFails =>
    refine .inr ⟨by simp, ?_⟩
    dsimp only [next] at h
    split at h
    · cases h
      exact (s.scheduler.cleanupSentQueueIfNeeded_frame s.db now _ _).1
    · cases h
  | drain failAt result =>
    refine .inr ⟨by simp, ?_⟩
    dsimp only [next] at h
    split at h
    · cases h
      exact s.scheduler.handleTaskResult_tasksConfig s.db now failAt result
    · cases h
  | result failAt result =>
    refine .inr ⟨by simp, ?_⟩
    dsimp only [next] at h
    split at h
    · cases h
      exact s.scheduler.handleTaskResult_tasksConfig s.db now failAt result
    · cases h
  | stop failAt =>
    refine .inr ⟨by simp, ?_⟩
    dsimp only [next] at h
    split at h
    · cases h
      exact s.scheduler.flushMetricsNow_tasksConfig s.db now failAt
    · cases h
  | ready taskName =>
    refine .inr ⟨by simp, ?_⟩
    dsimp only [next] at h
    split at h
    · cases h
      show (s.scheduler.executeSingleTask taskName).1.tasksConfig = _
      unfold TaskScheduler.executeSingleTask
      repeat' split
      all_goals rfl
    · cases h
  | _ =>
    refine .inr ⟨by simp, ?_⟩
    simp only [next] at h
    repeat' split at h
    all_goals
      first
      | cases h; done
      | cases h
        rfl

/-- The period that a pass is in the middle of. -/
def Point.periodEnd : Point → Option Nat
  | .aggregating periodEnd _ => some periodEnd
  | .enqueuing periodEnd _ _ _ => some periodEnd
  | _ => none

theorem TaskScheduler.dueMinute_spec {s : TaskScheduler} {now minute : Nat}
    (h : s.dueMinute now = some minute) :
    60 ∣ minute ∧ 60 ≤ minute ∧ now < minute + 60 ∧ s.lastAggregation < minute := by
  unfold TaskScheduler.dueMinute at h
  dsimp only at h
  split at h
  · obtain rfl := Option.some.inj h
    have := Nat.div_add_mod now 60
    have := Nat.mod_lt now (by omega : 60 > 0)
    exact ⟨Dvd.intro_left _ rfl, by omega, by omega, by omega⟩
  · cases h

/-- A pass is begun by the check, and goes on at the points of a pass. -/
theorem Agent.next_periodEnd {config : AgentConfig} {summary : Summary} {s s' : Agent} {now : Nat}
    {a : AgentAction} (h : s.next config summary now a = some s') {periodEnd : Nat}
    (he : s'.point.periodEnd = some periodEnd) :
    s.point.periodEnd = some periodEnd ∨ s.scheduler.dueMinute now = some periodEnd := by
  cases a with
  | aggregationCheck failAt =>
    rcases next_aggregationCheck h with
      ⟨-, rfl⟩ | ⟨-, ⟨-, rfl⟩ | ⟨minute, point, hd, rfl | ⟨todo, rfl⟩, rfl⟩⟩
    · cases he
    · cases he
    · cases he
    · exact .inr (hd.trans he)
  | aggregate =>
    left
    obtain ⟨e, task, todo, hp, rfl | rfl | ⟨metric, kind, -, rfl⟩⟩ := next_aggregate h
    · rw [hp]
      exact he
    · cases he
    · rw [hp]
      exact he
  | enqueue =>
    left
    obtain ⟨e, todo, metric, id, hp, ⟨-, rfl⟩ | ⟨kind, -, rfl⟩⟩ := next_enqueue h
    · cases he
    · rw [hp]
      exact he
  | reply outcome marked failing =>
    dsimp only [next] at h
    repeat' split at h
    all_goals
      first
      | cases h; done
      | obtain rfl := Option.some.inj h
        cases he
  | drain failAt result =>
    dsimp only [next] at h
    split at h
    · obtain rfl := Option.some.inj h
      exact .inl he
    · cases h
  | stop failAt =>
    dsimp only [next] at h
    split at h
    · obtain rfl := Option.some.inj h
      have he' : s.point.stopped.periodEnd = some periodEnd := he
      cases hp : s.point <;> rw [hp] at he' <;> cases he'
    · cases h
  | fetch marked =>
    rcases next_fetch_cases h with ⟨hp, -⟩ | ⟨batch, -, hp, -⟩
    · rw [hp] at he
      cases he
    · rw [hp] at he
      cases he
  | _ =>
    simp only [next] at h
    repeat' split at h
    all_goals
      first
      | cases h; done
      | obtain rfl := Option.some.inj h
        cases he

theorem agentMachine_step {config : AgentConfig} {summary : Summary} {tasksConfig : TasksConfig}
    {t₀ : Nat} {s s' : Nat × Agent} {a : Nat × AgentAction} {b : Unit}
    (h : (agentMachine config summary tasksConfig t₀).step s a = some (s', b)) :
    s.1 ≤ a.1 ∧ s.2.next config summary a.1 a.2 = some s'.2 ∧ s'.1 = a.1 := by
  obtain ⟨hle, hs, hclock⟩ := (Machine.clocked_step_iff _ _ _ _ _ _).1 h
  obtain ⟨s₁, hs₁, he⟩ := Option.map_eq_some_iff.1 hs
  rw [(Prod.mk.inj he).1] at hs₁
  exact ⟨hle, hs₁, hclock⟩

end LinkSense
