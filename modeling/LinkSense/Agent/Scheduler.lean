import LinkSense.Agent.Database
import LinkSense.Agent.Tasks

/-!
# The task scheduler

`TaskScheduler` of `agent/src/scheduler.rs`: the handles of the tasks with their `is_running`
flags, the two channels, the buffer of metrics not yet in the database, and the bookkeeping of
flushes and aggregations.  A flush can fail at any position: `failAt` is the number of metrics
that are stored before the error.

    a started scheduler has one handle for a name, and all are idle           (start_new)
    executeSingleTask does nothing, or sets a clear flag and spawns    (executeSingleTask_cases)
    a handled result's metric goes to the buffer, or with it to the database
                                                                    (handleTaskResult_handsOver)
-/

namespace LinkSense

/-! ## Types -/

/-- Represents a handle to an individual scheduled task. -/
structure TaskHandle where
  name : String
  config : TaskConfig
  isRunning : Bool
deriving DecidableEq, Repr

inductive SchedulerState where
  | stopped
  | running
deriving DecidableEq, Repr

/-- The channels hold at most `channelBufferSize` messages each; times are in Unix seconds. -/
structure TaskScheduler where
  tasksConfig : TasksConfig
  runningTasks : List TaskHandle
  resultReceiver : List TaskResult
  readyReceiver : List String
  channelBufferSize : Nat
  state : SchedulerState
  lastAggregation : Nat
  metricsBuffer : List MetricData
  lastDbWrite : Nat
  flushIntervalSeconds : Nat
  maxMetricsBufferSize : Nat
  gracefulShutdownTimeoutSecs : Nat
  lastQueueCleanup : Nat
  queueCleanupIntervalSeconds : Nat
deriving DecidableEq, Repr

/-! ## Storing metrics -/

/-- The loop of a flush, up to the first error. -/
def AgentDatabase.storeAll (db : AgentDatabase) :
    List MetricData → AgentDatabase × Except String Unit
  | [] => (db, .ok ())
  | metric :: metrics =>
    match db.storeRawMetric metric with
    | .error e => (db, .error e)
    | .ok db => db.storeAll metrics

/-- The same, when the database fails on its own after `failAt` metrics. -/
def AgentDatabase.storeSome (db : AgentDatabase) (failAt : Option Nat)
    (metrics : List MetricData) : AgentDatabase × Except String Unit :=
  match failAt with
  | none => db.storeAll metrics
  | some n =>
    match db.storeAll (metrics.take n) with
    | (db, .error e) => (db, .error e)
    | (db, .ok ()) =>
      if n < metrics.length then (db, .error "Failed to store raw metric") else (db, .ok ())

namespace TaskScheduler

/-! ## Construction -/

/-- `TaskScheduler::new`. -/
def new (tasksConfig : TasksConfig) (flushIntervalSeconds gracefulShutdownTimeoutSecs
    channelBufferSize queueCleanupIntervalSeconds : Nat) : TaskScheduler where
  tasksConfig := tasksConfig
  runningTasks := []
  resultReceiver := []
  readyReceiver := []
  channelBufferSize := channelBufferSize
  state := .stopped
  lastAggregation := 0
  metricsBuffer := []
  lastDbWrite := 0
  flushIntervalSeconds := flushIntervalSeconds
  maxMetricsBufferSize := 10000
  gracefulShutdownTimeoutSecs := gracefulShutdownTimeoutSecs
  lastQueueCleanup := 0
  queueCleanupIntervalSeconds := queueCleanupIntervalSeconds

/-- `HashMap::insert`: a handle of the same name goes. -/
def insertHandle (handles : List TaskHandle) (handle : TaskHandle) : List TaskHandle :=
  handles.filter (fun h => h.name != handle.name) ++ [handle]

/-- `spawn_ticker_task`. -/
def spawnTickerTask (s : TaskScheduler) (task : TaskConfig) : TaskScheduler :=
  { s with runningTasks := insertHandle s.runningTasks ⟨task.name, task, false⟩ }

/-- `start`. -/
def start (s : TaskScheduler) : TaskScheduler :=
  { s.tasksConfig.tasks.foldl spawnTickerTask s with state := .running }

/-! ## Running tasks -/

def setRunning (s : TaskScheduler) (taskName : String) (isRunning : Bool) : TaskScheduler :=
  { s with
    runningTasks := s.runningTasks.map fun h =>
      if h.name = taskName then { h with isRunning := isRunning } else h }

/-- `execute_single_task`: with the task whose execution is spawned, if one is. -/
def executeSingleTask (s : TaskScheduler) (taskName : String) :
    TaskScheduler × Option TaskConfig :=
  match s.runningTasks.find? fun h => h.name == taskName with
  | none => (s, none)
  | some handle =>
    if handle.isRunning then (s, none)
    else (s.setRunning taskName true, some handle.config)

/-! ## Flushing -/

/-- `flush_metrics_now`: the buffer is emptied first, whatever becomes of its metrics. -/
def flushMetricsNow (s : TaskScheduler) (db : AgentDatabase) (now : Nat) (failAt : Option Nat) :
    TaskScheduler × AgentDatabase × Except String Unit :=
  if s.metricsBuffer = [] then (s, db, .ok ())
  else
    let metricsToWrite := s.metricsBuffer
    let s := { s with metricsBuffer := [] }
    match db.storeSome failAt metricsToWrite with
    | (db, .error e) => (s, db, .error e)
    | (db, .ok ()) => ({ s with lastDbWrite := now }, db, .ok ())

/-- `flush_metrics_if_needed`. -/
def flushMetricsIfNeeded (s : TaskScheduler) (db : AgentDatabase) (now : Nat)
    (failAt : Option Nat) : TaskScheduler × AgentDatabase × Except String Unit :=
  if now ≥ s.lastDbWrite + s.flushIntervalSeconds then s.flushMetricsNow db now failAt
  else (s, db, .ok ())

/-! ## Results -/

/-- `handle_task_result`. -/
def handleTaskResult (s : TaskScheduler) (db : AgentDatabase) (now : Nat) (failAt : Option Nat)
    (result : TaskResult) : TaskScheduler × AgentDatabase :=
  let s := s.setRunning result.taskName false
  match result.metricData with
  | none => (s, db)
  | some metricData =>
    let s := { s with metricsBuffer := s.metricsBuffer ++ [metricData] }
    if s.metricsBuffer.length ≥ s.maxMetricsBufferSize then
      match s.flushMetricsNow db now failAt with
      | (s, db, .ok ()) => (s, db)
      | (s, db, .error _) =>
        -- drop the oldest metrics beyond half the size
        let keepSize := s.maxMetricsBufferSize / 2
        ({ s with metricsBuffer := s.metricsBuffer.drop (s.metricsBuffer.length - keepSize) }, db)
    else (s, db)

/-! ## Lemmas -/

def names (s : TaskScheduler) : List String := s.runningTasks.map TaskHandle.name

/-- The task has a handle, and its flag is set. -/
def isRunning (s : TaskScheduler) (taskName : String) : Bool :=
  s.runningTasks.any fun h => h.name = taskName && h.isRunning

/-- One handle for a name, named after its task. -/
structure WellFormed (s : TaskScheduler) : Prop where
  names_nodup : s.names.Nodup
  config_name : ∀ h ∈ s.runningTasks, h.config.name = h.name

theorem mem_insertHandle_iff (handles : List TaskHandle) (handle h : TaskHandle) :
    h ∈ insertHandle handles handle ↔ (h ∈ handles ∧ h.name ≠ handle.name) ∨ h = handle := by
  simp [insertHandle]

theorem names_insertHandle (handles : List TaskHandle) (handle : TaskHandle) :
    (insertHandle handles handle).map TaskHandle.name =
      (handles.map TaskHandle.name).filter (· != handle.name) ++ [handle.name] := by
  rw [insertHandle, List.map_append, List.filter_map]
  rfl

theorem spawnTickerTask_wellFormed {s : TaskScheduler} (task : TaskConfig)
    (h : s.WellFormed) : (s.spawnTickerTask task).WellFormed where
  names_nodup := by
    show ((insertHandle s.runningTasks ⟨task.name, task, false⟩).map TaskHandle.name).Nodup
    rw [names_insertHandle, List.nodup_append]
    refine ⟨h.names_nodup.filter _, by simp, fun a ha b hb => ?_⟩
    rw [List.mem_singleton] at hb
    rw [hb]
    simpa using (List.mem_filter.1 ha).2
  config_name := by
    intro x hx
    rcases (mem_insertHandle_iff _ _ _).1 hx with ⟨hx, -⟩ | rfl
    · exact h.config_name x hx
    · rfl

/-- Every handle of a started scheduler is idle. -/
theorem start_new (config : TasksConfig) (a b c d : Nat) :
    (start (.new config a b c d)).WellFormed ∧
      (∀ h ∈ (start (.new config a b c d)).runningTasks, h.isRunning = false) ∧
      (start (.new config a b c d)).resultReceiver = [] := by
  have hfold : ∀ (tasks : List TaskConfig) (s : TaskScheduler),
      s.WellFormed ∧ (∀ h ∈ s.runningTasks, h.isRunning = false) ∧ s.resultReceiver = [] →
      (tasks.foldl spawnTickerTask s).WellFormed ∧
        (∀ h ∈ (tasks.foldl spawnTickerTask s).runningTasks, h.isRunning = false) ∧
        (tasks.foldl spawnTickerTask s).resultReceiver = [] := by
    intro tasks
    induction tasks with
    | nil => exact fun s hs => hs
    | cons task tasks ih =>
      intro s hs
      refine ih _ ⟨spawnTickerTask_wellFormed task hs.1, fun h hh => ?_, hs.2.2⟩
      rcases (mem_insertHandle_iff _ _ _).1 hh with ⟨hh, -⟩ | rfl
      · exact hs.2.1 h hh
      · rfl
  have hnew : (TaskScheduler.new config a b c d).WellFormed :=
    ⟨by simp [names, new], by simp [new]⟩
  have hstart := hfold config.tasks (.new config a b c d) ⟨hnew, by simp [new], rfl⟩
  exact ⟨⟨hstart.1.names_nodup, hstart.1.config_name⟩, hstart.2⟩

@[simp] theorem names_setRunning (s : TaskScheduler) (name : String) (b : Bool) :
    (s.setRunning name b).names = s.names := by
  unfold names setRunning
  rw [List.map_map]
  refine List.map_congr_left fun h _ => ?_
  show TaskHandle.name (if h.name = name then _ else h) = h.name
  split <;> rfl

theorem setRunning_wellFormed {s : TaskScheduler} (name : String) (b : Bool)
    (h : s.WellFormed) : (s.setRunning name b).WellFormed where
  names_nodup := by
    rw [names_setRunning]
    exact h.names_nodup
  config_name := by
    intro x hx
    obtain ⟨x₀, hx₀, rfl⟩ := List.mem_map.1 hx
    have := h.config_name x₀ hx₀
    split <;> exact this

theorem isRunning_setRunning_of_ne (s : TaskScheduler) {name n : String} (b : Bool)
    (h : n ≠ name) : (s.setRunning name b).isRunning n = s.isRunning n := by
  unfold isRunning setRunning
  rw [List.any_map]
  refine congrArg (fun p => s.runningTasks.any p) (funext fun x => ?_)
  show (decide (TaskHandle.name (if x.name = name then _ else x) = n) && _) = _
  by_cases hx : x.name = name
  · have hxn : ¬ x.name = n := fun he => h (he.symm.trans hx)
    simp [hx, hx ▸ hxn]
  · simp [hx]

theorem isRunning_setRunning_false (s : TaskScheduler) (name : String) :
    (s.setRunning name false).isRunning name = false := by
  unfold isRunning setRunning
  rw [List.any_map, List.any_eq_false]
  intro x _
  by_cases hx : x.name = name
  · simp [hx]
  · simp [hx]

theorem isRunning_setRunning_true (s : TaskScheduler) {name : String} (h : name ∈ s.names) :
    (s.setRunning name true).isRunning name = true := by
  obtain ⟨x, hx, rfl⟩ := List.mem_map.1 h
  unfold isRunning setRunning
  rw [List.any_map, List.any_eq_true]
  exact ⟨x, hx, by simp⟩

/-- With one handle for a name, the flag of a handle is that of its name. -/
theorem isRunning_handle {s : TaskScheduler} (hs : s.WellFormed) {h : TaskHandle}
    (hh : h ∈ s.runningTasks) : s.isRunning h.name = h.isRunning := by
  unfold isRunning
  cases hb : h.isRunning with
  | true =>
    rw [List.any_eq_true]
    exact ⟨h, hh, by simp [hb]⟩
  | false =>
    rw [List.any_eq_false]
    intro x hx
    by_cases hn : x.name = h.name
    · have : x = h := List.inj_on_of_nodup_map hs.names_nodup hx hh hn
      simp [this, hb]
    · simp [hn]

/-- What `execute_single_task` can do: nothing, or set a flag that is not set and spawn. -/
theorem executeSingleTask_cases (s : TaskScheduler) (taskName : String) :
    s.executeSingleTask taskName = (s, none) ∨
      ∃ h ∈ s.runningTasks, h.name = taskName ∧ h.isRunning = false ∧
        s.executeSingleTask taskName = (s.setRunning taskName true, some h.config) := by
  unfold executeSingleTask
  cases hf : s.runningTasks.find? fun h => h.name == taskName with
  | none => exact .inl rfl
  | some h =>
    have hn : h.name = taskName := by simpa using List.find?_some hf
    cases hb : h.isRunning with
    | true =>
      left
      dsimp only
      rw [hb, if_pos rfl]
    | false =>
      right
      refine ⟨h, List.mem_of_find?_eq_some hf, hn, hb, ?_⟩
      dsimp only
      rw [hb, if_neg Bool.false_ne_true]

/-- A flush changes the buffer and the time of the last write only. -/
theorem flushMetricsNow_fst (s : TaskScheduler) (db : AgentDatabase) (now : Nat)
    (failAt : Option Nat) : ∃ buffer time, (s.flushMetricsNow db now failAt).1 =
      { s with metricsBuffer := buffer, lastDbWrite := time } := by
  unfold flushMetricsNow
  by_cases hb : s.metricsBuffer = []
  · rw [if_pos hb]
    exact ⟨s.metricsBuffer, s.lastDbWrite, rfl⟩
  · rw [if_neg hb]
    dsimp only
    split
    · exact ⟨[], s.lastDbWrite, rfl⟩
    · exact ⟨[], now, rfl⟩

theorem flushMetricsIfNeeded_fst (s : TaskScheduler) (db : AgentDatabase) (now : Nat)
    (failAt : Option Nat) : ∃ buffer time, (s.flushMetricsIfNeeded db now failAt).1 =
      { s with metricsBuffer := buffer, lastDbWrite := time } := by
  unfold flushMetricsIfNeeded
  split
  · exact s.flushMetricsNow_fst db now failAt
  · exact ⟨s.metricsBuffer, s.lastDbWrite, rfl⟩

/-- A handled result clears its task's flag; beyond that the buffer may change. -/
theorem handleTaskResult_fst (s : TaskScheduler) (db : AgentDatabase) (now : Nat)
    (failAt : Option Nat) (result : TaskResult) :
    ∃ buffer time, (s.handleTaskResult db now failAt result).1 =
      { s.setRunning result.taskName false with
        metricsBuffer := buffer, lastDbWrite := time } := by
  unfold handleTaskResult
  dsimp only
  cases result.metricData with
  | none => exact ⟨s.metricsBuffer, s.lastDbWrite, rfl⟩
  | some metric =>
    dsimp only
    split
    · generalize hs : TaskScheduler.mk _ _ _ _ _ _ _ _ _ _ _ _ _ _ = s₁
      obtain ⟨buffer, time, hflush⟩ := s₁.flushMetricsNow_fst db now failAt
      subst hs
      split
      · next he =>
        rw [he] at hflush
        exact ⟨buffer, time, hflush⟩
      · next he =>
        rw [he] at hflush
        dsimp only at hflush
        subst hflush
        exact ⟨_, time, rfl⟩
    · exact ⟨_, s.lastDbWrite, rfl⟩

/-- **A handled metric goes to the buffer, or with it to the database.** -/
theorem handleTaskResult_handsOver (s : TaskScheduler) (db : AgentDatabase) (now : Nat)
    (failAt : Option Nat) {result : TaskResult} {metric : MetricData}
    (h : result.metricData = some metric) :
    (s.handleTaskResult db now failAt result).1.metricsBuffer = s.metricsBuffer ++ [metric] ∨
      (s.handleTaskResult db now failAt result).2 =
        (db.storeSome failAt (s.metricsBuffer ++ [metric])).1 := by
  unfold handleTaskResult
  rw [h]
  dsimp only
  split
  · right
    have hne : ¬ (s.setRunning result.taskName false).metricsBuffer ++ [metric] = [] := by simp
    unfold flushMetricsNow
    rw [if_neg hne]
    dsimp only
    show _ = (db.storeSome failAt ((s.setRunning result.taskName false).metricsBuffer ++
      [metric])).1
    rcases db.storeSome failAt ((s.setRunning result.taskName false).metricsBuffer ++
      [metric]) with ⟨db', e | u⟩
    · rfl
    · rfl
  · exact .inl rfl

end TaskScheduler

end LinkSense
