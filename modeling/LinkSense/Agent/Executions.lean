import LinkSense.Agent.Scheduler
import LinkSense.Machine

/-!
# Executions of one scheduler

The scheduler together with what it spawns: tickers that report a task as due, executions that
probe and then send their result, and the loop that starts executions and handles results.  The
last one is the main loop until `stop` is called, and then the waiting loop of `stop`.

Results arrive while either loop is anywhere between two of its own steps, so `stop` first finds
the channel empty (`empty`) and then counts the flags (`count`).

    Run … tr s → at most one execution of a task is in flight, and its flag says whether;
      when stop finds no flag set, all that was sent is handled;
      a handled metric goes to the buffer or to storage                     (executions_accounted)
-/

namespace LinkSense

open Labelled

/-! ## The machine -/

/-- A spawned execution; the outbox is `none` until the probe has ended. -/
structure Execution where
  task : TaskConfig
  outbox : Option (List TaskResult)
deriving DecidableEq, Repr

/-- Where the agent is: in its main loop, or at a point of `stop`. -/
inductive Phase where
  | mainLoop
  | draining (deadline : Nat)
  | counting (deadline : Nat)
  | waiting (deadline : Nat)
  /-- The waiting loop was left because no task is running. -/
  | drained
  | timedOut
  /-- No task was running when `stop` was called. -/
  | skipped
  | stopped
deriving DecidableEq, Repr

/-- `sent` and `handled` are histories: the results put into the channel, and taken from it. -/
structure ExecutionSystem where
  scheduler : TaskScheduler
  db : AgentDatabase
  executions : List Execution
  phase : Phase
  sent : List TaskResult
  handled : List TaskResult

inductive ExecutionLabel where
  /-- A ticker fires. -/
  | tick (taskName : String)
  /-- The main loop takes a notification. -/
  | ready
  /-- The probe of an execution ends. -/
  | finish (i : Nat) (probe : Probe)
  /-- An execution sends its result. -/
  | send (i : Nat)
  /-- Either loop takes a result. -/
  | recv (now : Nat) (failAt : Option Nat)
  | flush (forced : Bool) (now : Nat) (failAt : Option Nat)
  /-- Aggregation, sending and cleanup change the database. -/
  | storage (db : AgentDatabase)
  | stop (now : Nat)
  | empty
  | count (now : Nat)
  | wake
  /-- The end of `stop`: the last flush, and the tickers are aborted. -/
  | clear (now : Nat) (failAt : Option Nat)

namespace TaskScheduler

def stillRunning (s : TaskScheduler) : Nat := s.runningTasks.countP TaskHandle.isRunning

def clearAndAbortTasks (s : TaskScheduler) : TaskScheduler := { s with runningTasks := [] }

end TaskScheduler

def Phase.receives : Phase → Bool
  | .mainLoop => true
  | .draining _ => true
  | _ => false

namespace ExecutionSystem

/-- `start` on a new scheduler. -/
def initial (config : TasksConfig) (flushIntervalSeconds gracefulShutdownTimeoutSecs
    channelBufferSize queueCleanupIntervalSeconds : Nat) (db : AgentDatabase) :
    ExecutionSystem where
  scheduler := .start (.new config flushIntervalSeconds gracefulShutdownTimeoutSecs
    channelBufferSize queueCleanupIntervalSeconds)
  db := db
  executions := []
  phase := .mainLoop
  sent := []
  handled := []

/-- One step of an agent loop, of an execution or of a ticker; `none` when it cannot be taken. -/
def next (env : Externals) (executor : TaskExecutor) (s : ExecutionSystem) :
    ExecutionLabel → Option ExecutionSystem
  | .tick taskName =>
    if taskName ∈ s.scheduler.names ∧
        s.scheduler.readyReceiver.length < s.scheduler.channelBufferSize then
      some { s with scheduler :=
        { s.scheduler with readyReceiver := s.scheduler.readyReceiver ++ [taskName] } }
    else none
  | .ready =>
    match s.phase, s.scheduler.readyReceiver with
    | .mainLoop, taskName :: rest =>
      let (scheduler, spawned) :=
        { s.scheduler with readyReceiver := rest }.executeSingleTask taskName
      some { s with
        scheduler := scheduler
        executions := s.executions ++ spawned.toList.map fun task => ⟨task, none⟩ }
    | _, _ => none
  | .finish i probe =>
    match s.executions[i]? with
    | some ⟨task, none⟩ =>
      some { s with
        executions := s.executions.set i ⟨task, some (executeTask env executor probe task)⟩ }
    | _ => none
  | .send i =>
    match s.executions[i]? with
    | some ⟨task, some (result :: rest)⟩ =>
      if s.scheduler.resultReceiver.length < s.scheduler.channelBufferSize then
        some { s with
          scheduler :=
            { s.scheduler with resultReceiver := s.scheduler.resultReceiver ++ [result] }
          executions := s.executions.set i ⟨task, some rest⟩
          sent := s.sent ++ [result] }
      else none
    | _ => none
  | .recv now failAt =>
    match s.phase.receives, s.scheduler.resultReceiver with
    | true, result :: rest =>
      let (scheduler, db) :=
        { s.scheduler with resultReceiver := rest }.handleTaskResult s.db now failAt result
      some { s with scheduler := scheduler, db := db, handled := s.handled ++ [result] }
    | _, _ => none
  | .flush forced now failAt =>
    if s.phase = .mainLoop then
      let (scheduler, db, _) :=
        if forced then s.scheduler.flushMetricsNow s.db now failAt
        else s.scheduler.flushMetricsIfNeeded s.db now failAt
      some { s with scheduler := scheduler, db := db }
    else none
  | .storage db => if s.phase = .mainLoop then some { s with db := db } else none
  | .stop now =>
    let scheduler := { s.scheduler with state := .stopped }
    let deadline := now + scheduler.gracefulShutdownTimeoutSecs
    some { s with
      scheduler := scheduler
      phase := if scheduler.stillRunning > 0 then .draining deadline else .skipped }
  | .empty =>
    match s.phase, s.scheduler.resultReceiver with
    | .draining deadline, [] => some { s with phase := .counting deadline }
    | _, _ => none
  | .count now =>
    match s.phase with
    | .counting deadline =>
      some { s with
        phase := if s.scheduler.stillRunning = 0 then .drained
          else if now ≥ deadline then .timedOut
          else .waiting deadline }
    | _ => none
  | .wake =>
    match s.phase with
    | .waiting deadline => some { s with phase := .draining deadline }
    | _ => none
  | .clear now failAt =>
    if s.phase = .drained ∨ s.phase = .timedOut ∨ s.phase = .skipped then
      let (scheduler, db, _) := s.scheduler.flushMetricsNow s.db now failAt
      some { s with scheduler := scheduler.clearAndAbortTasks, db := db, phase := .stopped }
    else none

end ExecutionSystem

def executionMachine (env : Externals) (executor : TaskExecutor) (s₀ : ExecutionSystem) :
    Machine ExecutionSystem ExecutionLabel Unit where
  init := s₀
  step s a := (s.next env executor a).map fun s' => (s', ())

/-! ## In flight -/

/-- The result of this execution has not been sent. -/
def Execution.unsent (e : Execution) : Bool := e.outbox ≠ some []

/-- Executions of a task that are running, or whose result is in the channel. -/
def ExecutionSystem.inFlight (s : ExecutionSystem) (taskName : String) : Nat :=
  s.executions.countP (fun e => e.task.name = taskName && e.unsent) +
    s.scheduler.resultReceiver.countP fun r => r.taskName = taskName

def Phase.waits : Phase → Bool
  | .draining _ => true
  | .counting _ => true
  | .waiting _ => true
  | _ => false

/-- The flags are accurate as long as there are handles that carry them. -/
structure ExecutionSystem.Accounted (s : ExecutionSystem) : Prop where
  wellFormed : s.scheduler.WellFormed
  outbox_name : ∀ e ∈ s.executions, ∀ results, e.outbox = some results →
    results = [] ∨ ∃ r, results = [r] ∧ r.taskName = e.task.name
  flags : s.scheduler.runningTasks ≠ [] →
    ∀ n, s.inFlight n = if s.scheduler.isRunning n then 1 else 0
  inFlight_le : ∀ n, s.inFlight n ≤ 1
  waits_handles : s.phase.waits = true → s.scheduler.runningTasks ≠ []
  drained : s.phase = .drained → ∀ n, s.inFlight n = 0
  in_order : s.sent = s.handled ++ s.scheduler.resultReceiver

/-- This step takes the result from the channel, and its metric is put into the buffer or goes
with the buffer to storage. -/
def HandsOver (result : TaskResult) (t : Taken ExecutionSystem ExecutionLabel Unit) : Prop :=
  ∃ now failAt, t.label = .recv now failAt ∧ t.post.handled = t.pre.handled ++ [result] ∧
    ∀ metric, result.metricData = some metric →
      t.post.scheduler.metricsBuffer = t.pre.scheduler.metricsBuffer ++ [metric] ∨
        t.post.db = (t.pre.db.storeSome failAt (t.pre.scheduler.metricsBuffer ++ [metric])).1

/-! ## Lemmas -/

theorem TaskScheduler.isRunning_congr {s t : TaskScheduler}
    (h : s.runningTasks = t.runningTasks) (n : String) : s.isRunning n = t.isRunning n := by
  unfold TaskScheduler.isRunning
  rw [h]

theorem TaskScheduler.WellFormed.congr {s t : TaskScheduler} (hw : s.WellFormed)
    (h : t.runningTasks = s.runningTasks) : t.WellFormed where
  names_nodup := by
    unfold TaskScheduler.names
    rw [h]
    exact hw.names_nodup
  config_name := by
    rw [h]
    exact hw.config_name

theorem TaskScheduler.isRunning_of_stillRunning {s : TaskScheduler} (h : s.stillRunning = 0)
    (n : String) : s.isRunning n = false := by
  have hall : ∀ x ∈ s.runningTasks, ¬ x.isRunning = true := List.countP_eq_zero.1 h
  unfold TaskScheduler.isRunning
  rw [List.any_eq_false]
  intro x hx
  simp [hall x hx]

theorem TaskScheduler.runningTasks_ne_nil {s : TaskScheduler} (h : s.stillRunning > 0) :
    s.runningTasks ≠ [] := by
  intro hnil
  unfold TaskScheduler.stillRunning at h
  rw [hnil] at h
  exact absurd h (by decide)

theorem TaskScheduler.setRunning_ne_nil {s : TaskScheduler} {name : String} {b : Bool} :
    (s.setRunning name b).runningTasks ≠ [] ↔ s.runningTasks ≠ [] := by
  unfold TaskScheduler.setRunning
  simp

theorem executeTask_name (env : Externals) (executor : TaskExecutor) (probe : Probe)
    (task : TaskConfig) :
    ∃ r, executeTask env executor probe task = [r] ∧ r.taskName = task.name := by
  unfold executeTask
  dsimp only
  split
  · exact ⟨_, rfl, rfl⟩
  · exact ⟨_, rfl, rfl⟩

namespace ExecutionSystem

/-- A step that moves no execution and no result. -/
theorem Accounted.frame {s s' : ExecutionSystem} (h : s.Accounted)
    (htasks : s'.scheduler.runningTasks = s.scheduler.runningTasks)
    (hchannel : s'.scheduler.resultReceiver = s.scheduler.resultReceiver)
    (hexec : s'.executions = s.executions)
    (hsent : s'.sent = s.sent) (hhandled : s'.handled = s.handled)
    (hwaits : s'.phase.waits = true → s.scheduler.runningTasks ≠ [])
    (hdrained : s'.phase = .drained → ∀ n, s.inFlight n = 0) : s'.Accounted := by
  have hin : ∀ n, s'.inFlight n = s.inFlight n := by
    intro n
    unfold inFlight
    rw [hexec, hchannel]
  constructor
  · exact h.wellFormed.congr htasks
  · rw [hexec]
    exact h.outbox_name
  · intro hne n
    rw [hin, TaskScheduler.isRunning_congr htasks]
    rw [htasks] at hne
    exact h.flags hne n
  · intro n
    rw [hin]
    exact h.inFlight_le n
  · rw [htasks]
    exact hwaits
  · intro hp n
    rw [hin]
    exact hdrained hp n
  · rw [hsent, hhandled, hchannel]
    exact h.in_order

/-- A spawned execution is the only one of its task. -/
theorem Accounted.spawn {s : ExecutionSystem} (h : s.Accounted) (hp : s.phase = .mainLoop)
    {scheduler : TaskScheduler} (htasks : scheduler.runningTasks = s.scheduler.runningTasks)
    (hchannel : scheduler.resultReceiver = s.scheduler.resultReceiver)
    {handle : TaskHandle} (hh : handle ∈ s.scheduler.runningTasks)
    (hidle : handle.isRunning = false) :
    ({ s with
      scheduler := scheduler.setRunning handle.name true
      executions := s.executions ++ [⟨handle.config, none⟩] } : ExecutionSystem).Accounted := by
  have hne : s.scheduler.runningTasks ≠ [] := List.ne_nil_of_mem hh
  have hname : handle.config.name = handle.name := h.wellFormed.config_name handle hh
  have hzero : s.inFlight handle.name = 0 := by
    rw [h.flags hne, TaskScheduler.isRunning_handle h.wellFormed hh, hidle]
    rfl
  have hin : ∀ n, ({ s with
      scheduler := scheduler.setRunning handle.name true
      executions := s.executions ++ [⟨handle.config, none⟩] } : ExecutionSystem).inFlight n =
        s.inFlight n + if handle.name = n then 1 else 0 := by
    intro n
    show List.countP _ (s.executions ++ [⟨handle.config, none⟩]) +
      List.countP _ scheduler.resultReceiver = _
    rw [List.countP_append, List.countP_singleton, hchannel]
    unfold inFlight
    by_cases hn : handle.name = n
    · simp only [Execution.unsent, hname, hn]
      simp only [ne_eq, reduceCtorEq, not_false_eq_true, decide_true, Bool.and_self, if_true]
      omega
    · simp only [hname, hn]
      simp
  have hflag : ∀ n, s.inFlight n + (if handle.name = n then 1 else 0) =
      if (scheduler.setRunning handle.name true).isRunning n then 1 else 0 := by
    intro n
    by_cases hn : handle.name = n
    · subst hn
      have hmem : handle.name ∈ scheduler.names := by
        unfold TaskScheduler.names
        rw [htasks]
        exact List.mem_map_of_mem hh
      rw [TaskScheduler.isRunning_setRunning_true _ hmem, hzero]
      simp
    · rw [TaskScheduler.isRunning_setRunning_of_ne _ _ (Ne.symm hn),
        TaskScheduler.isRunning_congr htasks, h.flags hne n, if_neg hn]
      rfl
  constructor
  · exact TaskScheduler.setRunning_wellFormed _ _ (h.wellFormed.congr htasks)
  · intro e he results hres
    rcases List.mem_append.1 he with he | he
    · exact h.outbox_name e he results hres
    · rw [List.mem_singleton] at he
      rw [he] at hres
      cases hres
  · intro _ n
    rw [hin n]
    exact hflag n
  · intro n
    rw [hin n, hflag n]
    split <;> omega
  · intro hw
    have hp' : s.phase.waits = true := hw
    rw [hp] at hp'
    cases hp'
  · intro hd
    have hd' : s.phase = .drained := hd
    rw [hp] at hd'
    cases hd'
  · show s.sent = s.handled ++ scheduler.resultReceiver
    rw [hchannel]
    exact h.in_order

theorem countP_set_add {α : Type*} (p : α → Bool) {l : List α} {i : Nat} {x : α} (y : α)
    (h : l[i]? = some x) :
    (l.set i y).countP p + (if p x then 1 else 0) = l.countP p + if p y then 1 else 0 := by
  obtain ⟨hi, rfl⟩ := List.getElem?_eq_some_iff.1 h
  have hpos : p l[i] = true → 0 < l.countP p := fun hp =>
    List.countP_pos_iff.2 ⟨l[i], List.getElem_mem hi, hp⟩
  rw [List.countP_set hi]
  by_cases hx : p l[i] = true
  · have := hpos hx
    simp only [hx, if_true]
    omega
  · simp only [hx, Bool.false_eq_true, if_false]
    omega

theorem Accounted.finish {s : ExecutionSystem} (h : s.Accounted) {i : Nat} {task : TaskConfig}
    (hi : s.executions[i]? = some ⟨task, none⟩) {results : List TaskResult}
    (hres : ∃ r, results = [r] ∧ r.taskName = task.name) :
    ({ s with executions := s.executions.set i ⟨task, some results⟩ } :
      ExecutionSystem).Accounted := by
  have hin : ∀ n, ({ s with executions := s.executions.set i ⟨task, some results⟩ } :
      ExecutionSystem).inFlight n = s.inFlight n := by
    intro n
    obtain ⟨r, rfl, -⟩ := hres
    have := countP_set_add (fun e : Execution => e.task.name = n && e.unsent)
      ⟨task, some [r]⟩ hi
    have hp : ∀ o : Option (List TaskResult), o ≠ some [] →
        Execution.unsent ⟨task, o⟩ = true := by
      intro o ho
      simpa [Execution.unsent] using ho
    rw [hp none (by simp), hp (some [r]) (by simp)] at this
    unfold inFlight
    dsimp only at this ⊢
    omega
  constructor
  · exact h.wellFormed
  · intro e he rs hrs
    rcases List.mem_or_eq_of_mem_set he with he | rfl
    · exact h.outbox_name e he rs hrs
    · right
      obtain rfl := Option.some.inj hrs
      exact hres
  · intro hne n
    rw [hin]
    exact h.flags hne n
  · intro n
    rw [hin]
    exact h.inFlight_le n
  · exact h.waits_handles
  · intro hd n
    rw [hin]
    exact h.drained hd n
  · exact h.in_order

theorem Accounted.send {s : ExecutionSystem} (h : s.Accounted) {i : Nat} {task : TaskConfig}
    {result : TaskResult} {rest : List TaskResult}
    (hi : s.executions[i]? = some ⟨task, some (result :: rest)⟩) :
    ({ s with
      scheduler := { s.scheduler with resultReceiver := s.scheduler.resultReceiver ++ [result] }
      executions := s.executions.set i ⟨task, some rest⟩
      sent := s.sent ++ [result] } : ExecutionSystem).Accounted := by
  have hmem : ⟨task, some (result :: rest)⟩ ∈ s.executions := List.mem_of_getElem? hi
  obtain ⟨rfl, hname⟩ : rest = [] ∧ result.taskName = task.name := by
    rcases h.outbox_name _ hmem _ rfl with hnil | ⟨r, hr, hn⟩
    · cases hnil
    · obtain ⟨rfl, rfl⟩ := List.cons.inj hr
      exact ⟨rfl, hn⟩
  have hin : ∀ n, ({ s with
      scheduler := { s.scheduler with resultReceiver := s.scheduler.resultReceiver ++ [result] }
      executions := s.executions.set i ⟨task, some []⟩
      sent := s.sent ++ [result] } : ExecutionSystem).inFlight n = s.inFlight n := by
    intro n
    have := countP_set_add (fun e : Execution => e.task.name = n && e.unsent) ⟨task, some []⟩ hi
    unfold inFlight
    dsimp only at this ⊢
    rw [List.countP_append, List.countP_singleton]
    rw [← hname] at this
    by_cases hn : result.taskName = n
    · simp [hn, Execution.unsent] at this ⊢
      omega
    · simp [hn, Execution.unsent] at this ⊢
      omega
  constructor
  · exact h.wellFormed.congr rfl
  · intro e he rs hrs
    rcases List.mem_or_eq_of_mem_set he with he | rfl
    · exact h.outbox_name e he rs hrs
    · left
      exact (Option.some.inj hrs).symm
  · intro hne n
    rw [hin]
    exact h.flags hne n
  · intro n
    rw [hin]
    exact h.inFlight_le n
  · exact h.waits_handles
  · intro hd n
    rw [hin]
    exact h.drained hd n
  · show s.sent ++ [result] = s.handled ++ (s.scheduler.resultReceiver ++ [result])
    rw [h.in_order, List.append_assoc]

/-- The result at the head of the channel is the one in flight of its task. -/
theorem Accounted.recv {s : ExecutionSystem} (h : s.Accounted) (hp : s.phase.receives = true)
    {result : TaskResult} {rest : List TaskResult}
    (hr : s.scheduler.resultReceiver = result :: rest) {scheduler : TaskScheduler}
    (htasks : scheduler.runningTasks =
      (s.scheduler.setRunning result.taskName false).runningTasks)
    (hchannel : scheduler.resultReceiver = rest) (db : AgentDatabase) :
    ({ s with scheduler := scheduler, db := db, handled := s.handled ++ [result] } :
      ExecutionSystem).Accounted := by
  have hin : ∀ n, ({ s with
      scheduler := scheduler, db := db, handled := s.handled ++ [result] } :
      ExecutionSystem).inFlight n + (if result.taskName = n then 1 else 0) = s.inFlight n := by
    intro n
    show List.countP _ s.executions + List.countP _ scheduler.resultReceiver + _ = _
    unfold inFlight
    rw [hchannel, hr, List.countP_cons]
    simp only [decide_eq_true_eq]
    omega
  constructor
  · exact (TaskScheduler.setRunning_wellFormed _ _ h.wellFormed).congr htasks
  · exact h.outbox_name
  · intro hne n
    rw [htasks, TaskScheduler.setRunning_ne_nil] at hne
    have hstep := hin n
    rw [TaskScheduler.isRunning_congr htasks]
    by_cases hn : n = result.taskName
    · subst hn
      have hle := h.inFlight_le result.taskName
      rw [TaskScheduler.isRunning_setRunning_false]
      rw [if_pos rfl] at hstep
      simp only [Bool.false_eq_true, if_false]
      omega
    · rw [TaskScheduler.isRunning_setRunning_of_ne _ _ hn, ← h.flags hne n]
      rw [if_neg (Ne.symm hn)] at hstep
      exact hstep
  · intro n
    have hstep := hin n
    have hle := h.inFlight_le n
    omega
  · intro hw
    rw [htasks, TaskScheduler.setRunning_ne_nil]
    exact h.waits_handles hw
  · intro hd
    have hd' : s.phase = .drained := hd
    rw [hd'] at hp
    cases hp
  · show s.sent = s.handled ++ [result] ++ scheduler.resultReceiver
    rw [h.in_order, hr, hchannel]
    simp

theorem Accounted.clear {s : ExecutionSystem} (h : s.Accounted) {scheduler : TaskScheduler}
    (htasks : scheduler.runningTasks = [])
    (hchannel : scheduler.resultReceiver = s.scheduler.resultReceiver) (db : AgentDatabase) :
    ({ s with scheduler := scheduler, db := db, phase := .stopped } :
      ExecutionSystem).Accounted := by
  have hin : ∀ n, ({ s with scheduler := scheduler, db := db, phase := .stopped } :
      ExecutionSystem).inFlight n = s.inFlight n := by
    intro n
    show _ + List.countP _ scheduler.resultReceiver = _
    rw [hchannel]
    rfl
  constructor
  · constructor
    · show (scheduler.runningTasks.map TaskHandle.name).Nodup
      rw [htasks]
      exact List.nodup_nil
    · intro x hx
      have hx' : x ∈ scheduler.runningTasks := hx
      rw [htasks] at hx'
      cases hx'
  · exact h.outbox_name
  · intro hne
    exact absurd htasks hne
  · intro n
    rw [hin]
    exact h.inFlight_le n
  · intro hw
    cases hw
  · intro hd
    cases hd
  · show s.sent = s.handled ++ scheduler.resultReceiver
    rw [hchannel]
    exact h.in_order

theorem Accounted.inFlight_zero {s : ExecutionSystem} (h : s.Accounted)
    (hw : s.phase.waits = true) (hzero : s.scheduler.stillRunning = 0) (n : String) :
    s.inFlight n = 0 := by
  rw [h.flags (h.waits_handles hw), TaskScheduler.isRunning_of_stillRunning hzero]
  rfl

theorem Accounted.handled_eq {s : ExecutionSystem} (h : s.Accounted)
    (hzero : ∀ n, s.inFlight n = 0) : s.handled = s.sent := by
  cases hr : s.scheduler.resultReceiver with
  | nil => rw [h.in_order, hr, List.append_nil]
  | cons result rest =>
    have := hzero result.taskName
    unfold inFlight at this
    rw [hr, List.countP_cons] at this
    simp at this

theorem initial_accounted (config : TasksConfig) (a b c d : Nat) (db : AgentDatabase) :
    (initial config a b c d db).Accounted := by
  obtain ⟨hwf, hidle, hempty⟩ := TaskScheduler.start_new config a b c d
  have hin : ∀ n, (initial config a b c d db).inFlight n = 0 := by
    intro n
    unfold inFlight initial
    rw [hempty]
    rfl
  constructor
  · exact hwf
  · intro e he
    cases he
  · intro _ n
    rw [hin n]
    have hfalse : (initial config a b c d db).scheduler.isRunning n = false := by
      unfold TaskScheduler.isRunning
      rw [List.any_eq_false]
      intro x hx
      simp [hidle x hx]
    rw [hfalse]
    rfl
  · intro n
    rw [hin n]
    exact Nat.zero_le 1
  · intro hw
    cases hw
  · intro hd
    cases hd
  · show [] = [] ++ (TaskScheduler.start (.new config a b c d)).resultReceiver
    rw [hempty]
    rfl

theorem Accounted.next_accounted {env : Externals} {executor : TaskExecutor} {s s' : ExecutionSystem}
    {a : ExecutionLabel} (h : s.Accounted) (hs : s.next env executor a = some s') :
    s'.Accounted := by
  cases a with
  | tick taskName =>
    dsimp only [next] at hs
    split at hs
    · obtain rfl := Option.some.inj hs
      exact h.frame rfl rfl rfl rfl rfl h.waits_handles h.drained
    · cases hs
  | ready =>
    dsimp only [next] at hs
    split at hs
    · next taskName rest hp _ =>
      generalize hq : TaskScheduler.mk _ _ _ _ _ _ _ _ _ _ _ _ _ _ = scheduler at hs
      have htasks : scheduler.runningTasks = s.scheduler.runningTasks := by rw [← hq]
      have hchannel : scheduler.resultReceiver = s.scheduler.resultReceiver := by rw [← hq]
      rcases scheduler.executeSingleTask_cases taskName with he | ⟨x, hx, rfl, hidle, he⟩
      · rw [he] at hs
        obtain rfl := Option.some.inj hs
        exact h.frame htasks hchannel (List.append_nil _) rfl rfl h.waits_handles h.drained
      · rw [he] at hs
        obtain rfl := Option.some.inj hs
        rw [htasks] at hx
        exact h.spawn hp htasks hchannel hx hidle
    · cases hs
  | finish i probe =>
    dsimp only [next] at hs
    split at hs
    · next task hi =>
      obtain rfl := Option.some.inj hs
      exact h.finish hi (executeTask_name env executor probe task)
    · cases hs
  | send i =>
    dsimp only [next] at hs
    split at hs
    · next task result rest hi =>
      split at hs
      · obtain rfl := Option.some.inj hs
        exact h.send hi
      · cases hs
    · cases hs
  | recv now failAt =>
    dsimp only [next] at hs
    split at hs
    · next result rest hp hr =>
      obtain rfl := Option.some.inj hs
      generalize hq : TaskScheduler.mk _ _ _ _ _ _ _ _ _ _ _ _ _ _ = scheduler
      have htasks : scheduler.runningTasks = s.scheduler.runningTasks := by rw [← hq]
      have hchannel : scheduler.resultReceiver = rest := by rw [← hq]
      obtain ⟨buffer, time, hfst⟩ := scheduler.handleTaskResult_fst s.db now failAt result
      refine h.recv hp hr ?_ ?_ _
      · rw [hfst]
        unfold TaskScheduler.setRunning
        rw [htasks]
      · rw [hfst]
        exact hchannel
    · cases hs
  | flush forced now failAt =>
    dsimp only [next] at hs
    split at hs
    · obtain rfl := Option.some.inj hs
      have hfst : ∃ buffer time, (if forced = true then s.scheduler.flushMetricsNow s.db now failAt
          else s.scheduler.flushMetricsIfNeeded s.db now failAt).1 =
            { s.scheduler with metricsBuffer := buffer, lastDbWrite := time } := by
        cases forced
        · exact s.scheduler.flushMetricsIfNeeded_fst s.db now failAt
        · exact s.scheduler.flushMetricsNow_fst s.db now failAt
      obtain ⟨buffer, time, hfst⟩ := hfst
      exact h.frame (congrArg (·.runningTasks) hfst) (congrArg (·.resultReceiver) hfst)
        rfl rfl rfl h.waits_handles h.drained
    · cases hs
  | storage db =>
    dsimp only [next] at hs
    split at hs
    · obtain rfl := Option.some.inj hs
      exact h.frame rfl rfl rfl rfl rfl h.waits_handles h.drained
    · cases hs
  | stop now =>
    obtain rfl := Option.some.inj hs
    by_cases hpos : s.scheduler.stillRunning > 0
    · refine h.frame rfl rfl rfl rfl rfl (fun _ => TaskScheduler.runningTasks_ne_nil hpos) ?_
      intro hd
      have hd' : (if s.scheduler.stillRunning > 0 then _ else _) = Phase.drained := hd
      rw [if_pos hpos] at hd'
      cases hd'
    · refine h.frame rfl rfl rfl rfl rfl ?_ ?_
      · intro hw
        have hw' : (if s.scheduler.stillRunning > 0 then _ else _ : Phase).waits = true := hw
        rw [if_neg hpos] at hw'
        cases hw'
      · intro hd
        have hd' : (if s.scheduler.stillRunning > 0 then _ else _) = Phase.drained := hd
        rw [if_neg hpos] at hd'
        cases hd'
  | empty =>
    dsimp only [next] at hs
    split at hs
    · next deadline hp _ =>
      obtain rfl := Option.some.inj hs
      have hw : s.phase.waits = true := by rw [hp]; rfl
      exact h.frame rfl rfl rfl rfl rfl (fun _ => h.waits_handles hw) (fun hd => by cases hd)
    · cases hs
  | count now =>
    dsimp only [next] at hs
    split at hs
    · next deadline hp =>
      obtain rfl := Option.some.inj hs
      have hw : s.phase.waits = true := by rw [hp]; rfl
      refine h.frame rfl rfl rfl rfl rfl (fun _ => h.waits_handles hw) ?_
      intro hd
      by_cases hzero : s.scheduler.stillRunning = 0
      · exact h.inFlight_zero hw hzero
      · have hd' : (if s.scheduler.stillRunning = 0 then _ else _) = Phase.drained := hd
        rw [if_neg hzero] at hd'
        split at hd' <;> cases hd'
    · cases hs
  | wake =>
    dsimp only [next] at hs
    split at hs
    · next deadline hp =>
      obtain rfl := Option.some.inj hs
      have hw : s.phase.waits = true := by rw [hp]; rfl
      exact h.frame rfl rfl rfl rfl rfl (fun _ => h.waits_handles hw) (fun hd => by cases hd)
    · cases hs
  | clear now failAt =>
    dsimp only [next] at hs
    split at hs
    · obtain rfl := Option.some.inj hs
      obtain ⟨buffer, time, hfst⟩ := s.scheduler.flushMetricsNow_fst s.db now failAt
      exact h.clear rfl (congrArg (·.resultReceiver) hfst) _
    · cases hs

theorem next_handled {env : Externals} {executor : TaskExecutor} {s s' : ExecutionSystem}
    {a : ExecutionLabel} (hs : s.next env executor a = some s') :
    s'.handled = s.handled ∨ ∃ result, HandsOver result ⟨s, a, (), s'⟩ := by
  cases a with
  | recv now failAt =>
    right
    dsimp only [next] at hs
    split at hs
    · next result rest _ _ =>
      obtain rfl := Option.some.inj hs
      refine ⟨result, now, failAt, rfl, rfl, fun metric hm => ?_⟩
      exact TaskScheduler.handleTaskResult_handsOver _ s.db now failAt hm
    · cases hs
  | stop now =>
    left
    obtain rfl := Option.some.inj hs
    rfl
  | _ =>
    left
    dsimp only [next] at hs
    repeat' split at hs
    all_goals
      cases hs
      try rfl

end ExecutionSystem

/-! ## Top theorem -/

/-- **No overrun, and no result is lost**: of every task at most one execution is in flight, its
flag says whether, and when `stop` finds no task running, all that was sent is handled. -/
theorem executions_accounted (env : Externals) (executor : TaskExecutor) (config : TasksConfig)
    (flushIntervalSeconds gracefulShutdownTimeoutSecs channelBufferSize
      queueCleanupIntervalSeconds : Nat) (db : AgentDatabase)
    {tr : List (Taken ExecutionSystem ExecutionLabel Unit)} {s : ExecutionSystem}
    (hrun : Run (executionMachine env executor (.initial config flushIntervalSeconds
      gracefulShutdownTimeoutSecs channelBufferSize queueCleanupIntervalSeconds db)) tr s) :
    (∀ n, s.inFlight n ≤ 1) ∧
      (∀ h ∈ s.scheduler.runningTasks, h.isRunning = true ↔ s.inFlight h.name = 1) ∧
      (s.phase = .drained → s.handled = s.sent) ∧
      ∀ result ∈ s.handled, ∃ t ∈ tr, HandsOver result t := by
  have hnext : ∀ {s a s' b}, (executionMachine env executor (.initial config
      flushIntervalSeconds gracefulShutdownTimeoutSecs channelBufferSize
      queueCleanupIntervalSeconds db)).step s a = some (s', b) →
      s.next env executor a = some s' := by
    intro s a s' b hs
    obtain ⟨s₁, hs₁, he⟩ := Option.map_eq_some_iff.1 hs
    rw [hs₁, (Prod.mk.inj he).1]
  have hacc : s.Accounted := by
    refine Run.invariant (ExecutionSystem.initial_accounted config _ _ _ _ db) ?_ hrun
    intro s a s' b hI hs
    exact hI.next_accounted (hnext hs)
  refine ⟨hacc.inFlight_le, fun h hh => ?_, fun hd => hacc.handled_eq (hacc.drained hd), ?_⟩
  · rw [hacc.flags (List.ne_nil_of_mem hh), TaskScheduler.isRunning_handle hacc.wellFormed hh]
    cases h.isRunning <;> simp
  · -- a result that was handled before the last step was handled by an earlier one
    clear hacc
    induction hrun with
    | nil => simp [executionMachine, ExecutionSystem.initial]
    | @snoc tr s a s' b _ hs ih =>
      intro result hres
      rcases ExecutionSystem.next_handled (hnext hs) with hsame | ⟨r, hr⟩
      · rw [hsame] at hres
        obtain ⟨t, ht, hover⟩ := ih result hres
        exact ⟨t, List.mem_append_left _ ht, hover⟩
      · have hgrow : s'.handled = s.handled ++ [r] := by
          obtain ⟨now, failAt, -, hgrow, -⟩ := hr
          exact hgrow
        rw [hgrow, List.mem_append, List.mem_singleton] at hres
        rcases hres with hres | rfl
        · obtain ⟨t, ht, hover⟩ := ih result hres
          exact ⟨t, List.mem_append_left _ ht, hover⟩
        · exact ⟨_, List.mem_append_right _ (List.mem_singleton_self _), hr⟩

/-- A task is due twice, is started once, and ends while `stop` waits for it. -/
def shutdownLabels : List ExecutionLabel :=
  [.tick "web", .tick "web", .ready, .ready, .finish 0 (answeringProbe 200), .stop 100, .empty,
    .count 100, .send 0, .wake, .recv 130 none, .empty, .count 200]

theorem executions_accounted_shutdown :
    ∃ tr s, Run (executionMachine exampleExternals ⟨none, none, none⟩
        (.initial ⟨[exampleTask]⟩ 5 30 100 3600 .initial)) tr s ∧
      (s.phase = .drained ∧ s.handled.length = 1) ∧
      (∀ n, s.inFlight n ≤ 1) ∧
      (∀ h ∈ s.scheduler.runningTasks, h.isRunning = true ↔ s.inFlight h.name = 1) ∧
      (s.phase = .drained → s.handled = s.sent) ∧
      ∀ result ∈ s.handled, ∃ t ∈ tr, HandsOver result t := by
  have hlabels := Run.exists_of_exec (executionMachine exampleExternals ⟨none, none, none⟩
      (.initial ⟨[exampleTask]⟩ 5 30 100 3600 .initial)) shutdownLabels (by rfl)
  obtain ⟨tr, s, he, hrun⟩ := hlabels
  refine ⟨tr, s, hrun, ?_, executions_accounted _ _ _ _ _ _ _ _ hrun⟩
  have hend : ((executionMachine exampleExternals ⟨none, none, none⟩
      (.initial ⟨[exampleTask]⟩ 5 30 100 3600 .initial)).exec shutdownLabels).map
        (fun r => (r.2.phase, r.2.handled.length)) = some (.drained, 1) := by rfl
  rw [he] at hend
  have hend := Option.some.inj hend
  exact ⟨(Prod.mk.inj hend).1, (Prod.mk.inj hend).2⟩

end LinkSense
