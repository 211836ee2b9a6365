import LinkSense.Agent.Aggregation
import LinkSense.Periodic
import LinkSense.Server.Retention
import LinkSense.Shared.ServerConfig
import Mathlib.Algebra.Order.BigOperators.Group.List
import Mathlib.Algebra.Order.Ring.Nat
import Mathlib.Tactic.NormNum

/-!
# What a health check expects of an agent

`calculate_expected_entries` counts what the tasks of an agent should have delivered for the
inspected period, `calculate_received_entries` what is stored of it.  The agent runs each task
every `schedule_seconds`, from any phase on, and the aggregate of every minute with a run is
there.

    no more is expected than is received, and the period does not underflow, for any phases ↔
      the interval fits between the epoch and the check, and no slow task has a multiple of its
      schedule between the interval's whole minutes and its end            (expectsDelivered_iff)
-/

namespace LinkSense

open Periodic Sql

/-! ## Settings -/

/-- The settings of the health monitor in `server.toml`. -/
structure HealthConfig where
  healthCheckIntervalSeconds : UInt64
  healthCheckSuccessRatioThreshold : ℚ
  healthCheckRetentionDays : UInt32
deriving DecidableEq, Repr

/-- The health checks' part of `ServerConfig::validate`. -/
def HealthConfig.validate (config : HealthConfig) : Except String Unit := do
  reject (config.healthCheckIntervalSeconds = 0)
    "health_check_interval_seconds must be greater than 0"
  reject (config.healthCheckSuccessRatioThreshold < 0 ||
      config.healthCheckSuccessRatioThreshold > 1)
    "health_check_success_ratio_threshold must be between 0.0 and 1.0"
  reject (config.healthCheckRetentionDays = 0) "health_check_retention_days must be greater than 0"

def HealthConfig.monitor (config : HealthConfig) (outdated : Option String → Bool) :
    HealthMonitor :=
  ⟨config.healthCheckIntervalSeconds.toNat, config.healthCheckSuccessRatioThreshold, outdated⟩

/-! ## Delivered aggregates -/

/-- The minute is over, and the task has run in it. -/
def RanIn (phase : TaskConfig → Nat) (now : Nat) (task : TaskConfig) (minute : Nat) : Prop :=
  60 ∣ minute ∧ minute + 60 ≤ now ∧ hit 60 task.scheduleSeconds.toNat (phase task) minute = true

/-- The aggregate of every minute with a run has been received. -/
def Delivered (db : ServerDatabase) (agentId : String) (tasks : List TaskConfig)
    (phase : TaskConfig → Nat) (now : Nat) : Prop :=
  ∀ task ∈ tasks, ∀ minute, RanIn phase now task minute →
    ∃ r ∈ (db.metrics task.taskType.kind).values, r.agentId = agentId ∧ r.taskName = task.name ∧
      r.periodStart = minute ∧ r.periodEnd = minute + 60

/-- The period is computed without underflow, and no more is expected than is received, whatever
the phases of the tasks and the other rows of the database. -/
def ExpectsDelivered (monitor : HealthMonitor) (tasks : List TaskConfig) (now : Nat) : Prop :=
  ∀ phase db, ∀ agent ∈ db.agents.values, Delivered db agent.agentId tasks phase now →
    let round := monitor.checkAllAgents db now
    let check :=
      monitor.calculateHealthMetrics db now tasks round.periodStart round.periodEnd agent
    (60 ≤ now / 60 * 60 ∧ monitor.healthCheckIntervalSeconds ≤ now / 60 * 60 - 60) ∧
      check.expectedEntries ≤ check.receivedEntries

/-! ## Lemmas -/

theorem u64Sub_eq {a b : Nat} (h : b ≤ a) (ha : a < 2 ^ 64) : u64Sub a b = a - b := by
  unfold u64Sub
  omega

theorem i64Column_of_lt {time : Nat} (h : time < 2 ^ 63) : i64Column time = time := by
  unfold i64Column
  rw [Int.bmod_def]
  omega

/-- The inspected period ends with the minute before the last whole one. -/
theorem checkAllAgents_period (monitor : HealthMonitor) (db : ServerDatabase) {now : Nat}
    (hnow : now < 2 ^ 63) (hminute : 60 ≤ now / 60 * 60)
    (hinterval : monitor.healthCheckIntervalSeconds ≤ now / 60 * 60 - 60) :
    (monitor.checkAllAgents db now).periodEnd = now / 60 * 60 - 60 ∧
      (monitor.checkAllAgents db now).periodStart =
        now / 60 * 60 - 60 - monitor.healthCheckIntervalSeconds := by
  unfold HealthMonitor.checkAllAgents
  dsimp only
  rw [u64Sub_eq hminute (by omega), u64Sub_eq hinterval (by omega)]
  exact ⟨rfl, rfl⟩

/-! ### Received entries -/

/-- The entries that the aggregates of these buckets make: their tables, tasks and minutes. -/
def entriesOf (tasks : List TaskConfig) (minutes : TaskConfig → List Nat) :
    List (MetricKind × String × Nat) :=
  tasks.flatMap fun task => (minutes task).map fun minute => (task.taskType.kind, task.name, minute)

def receivedRows (db : ServerDatabase) (agentId : String) (periodStart periodEnd : Nat) :
    List (MetricKind × MetricRow) :=
  MetricKind.all.flatMap fun kind =>
    ((db.metrics kind).values.filter fun r => r.agentId = agentId &&
      (i64Column periodStart ≤ i64Column r.periodStart &&
        i64Column r.periodStart < i64Column periodEnd)).map fun r => (kind, r)

def entryOf (e : MetricKind × MetricRow) : MetricKind × String × Nat :=
  (e.1, e.2.taskName, e.2.periodStart)

theorem length_receivedRows (db : ServerDatabase) (agentId : String)
    (periodStart periodEnd : Nat) :
    (receivedRows db agentId periodStart periodEnd).length =
      db.calculateReceivedEntries agentId periodStart periodEnd := by
  unfold receivedRows ServerDatabase.calculateReceivedEntries
  rw [List.length_flatMap]
  refine congrArg List.sum (List.map_congr_left fun kind _ => ?_)
  rw [List.length_map, List.countP_eq_length_filter]

theorem mem_receivedRows_iff {db : ServerDatabase} {agentId : String}
    {periodStart periodEnd : Nat} {kind : MetricKind} {r : MetricRow} :
    (kind, r) ∈ receivedRows db agentId periodStart periodEnd ↔
      r ∈ (db.metrics kind).values ∧ r.agentId = agentId ∧
        i64Column periodStart ≤ i64Column r.periodStart ∧
        i64Column r.periodStart < i64Column periodEnd := by
  unfold receivedRows
  simp [MetricKind.mem_all]

theorem mem_entriesOf_iff {tasks : List TaskConfig} {minutes : TaskConfig → List Nat}
    {e : MetricKind × String × Nat} :
    e ∈ entriesOf tasks minutes ↔
      ∃ task ∈ tasks, ∃ minute ∈ minutes task, (task.taskType.kind, task.name, minute) = e := by
  unfold entriesOf
  simp only [List.mem_flatMap, List.mem_map]

theorem length_entriesOf (tasks : List TaskConfig) (minutes : TaskConfig → List Nat) :
    (entriesOf tasks minutes).length = (tasks.map fun task => (minutes task).length).sum := by
  unfold entriesOf
  rw [List.length_flatMap]
  refine congrArg List.sum (List.map_congr_left fun task _ => ?_)
  rw [List.length_map]

/-- Tasks with different names have different entries. -/
theorem nodup_entriesOf {tasks : List TaskConfig} {minutes : TaskConfig → List Nat}
    (hnames : (tasks.map TaskConfig.name).Nodup) (hminutes : ∀ task ∈ tasks, (minutes task).Nodup) :
    (entriesOf tasks minutes).Nodup := by
  refine List.nodup_flatMap.2 ⟨fun task ht => ?_, ?_⟩
  · refine (hminutes task ht).map fun a b hab => ?_
    exact (Prod.mk.inj (Prod.mk.inj hab).2).2
  · refine (List.pairwise_map.1 hnames).imp fun hne => ?_
    intro e he he'
    obtain ⟨m, -, rfl⟩ := List.mem_map.1 he
    obtain ⟨m', -, heq⟩ := List.mem_map.1 he'
    exact hne (Prod.mk.inj (Prod.mk.inj heq).2).1.symm

/-! ### The inspected minutes -/

/-- The minutes of the inspected period in which the task has run: there are `n` whole ones in it,
up to `periodEnd`. -/
def inspectedMinutes (phase : TaskConfig → Nat) (n periodEnd : Nat) (task : TaskConfig) :
    List Nat :=
  hits 60 task.scheduleSeconds.toNat (phase task) (periodEnd - 60 * n) n

/-- A minute starts in a period that ends with a minute exactly when it is one of its whole ones. -/
theorem minute_iff {interval periodEnd : Nat} (hend : 60 ∣ periodEnd) (hle : interval ≤ periodEnd)
    (minute : Nat) :
    (60 ∣ minute ∧ periodEnd - interval ≤ minute ∧ minute < periodEnd) ↔
      ∃ j, j < interval / 60 ∧ periodEnd - 60 * (interval / 60) + 60 * j = minute := by
  constructor
  · rintro ⟨⟨m, rfl⟩, hstart, hlt⟩
    obtain ⟨e, rfl⟩ := hend
    exact ⟨m - (e - interval / 60), by omega, by omega⟩
  · rintro ⟨j, hj, rfl⟩
    obtain ⟨e, rfl⟩ := hend
    refine ⟨⟨e - interval / 60 + j, by omega⟩, by omega, by omega⟩

section

variable {tasks : List TaskConfig} {phase : TaskConfig → Nat} {db : ServerDatabase}
  {agentId : String} {now interval : Nat}

/-- What has been delivered is received, for the inspected period too. -/
theorem entriesOf_le_received (hnames : (tasks.map TaskConfig.name).Nodup) (hnow : now < 2 ^ 63)
    (hdelivered : Delivered db agentId tasks phase now)
    (hinterval : interval ≤ now / 60 * 60 - 60) :
    (entriesOf tasks (inspectedMinutes phase (interval / 60) (now / 60 * 60 - 60))).length ≤
      db.calculateReceivedEntries agentId (now / 60 * 60 - 60 - interval) (now / 60 * 60 - 60) := by
  have hnodup := nodup_entriesOf hnames fun task _ =>
    nodup_hits (w := 60) (by decide) task.scheduleSeconds.toNat (phase task)
      (now / 60 * 60 - 60 - 60 * (interval / 60)) (interval / 60)
  have hsub : entriesOf tasks (inspectedMinutes phase (interval / 60) (now / 60 * 60 - 60)) ⊆
      (receivedRows db agentId (now / 60 * 60 - 60 - interval) (now / 60 * 60 - 60)).map
        entryOf := by
    intro e he
    obtain ⟨task, ht, minute, hm, rfl⟩ := mem_entriesOf_iff.1 he
    obtain ⟨hj, hhit⟩ := mem_hits_iff.1 hm
    obtain ⟨hdvd, hstart, hlt⟩ := (minute_iff (by omega) hinterval minute).2 hj
    obtain ⟨r, hr, hagent, hname, hperiod, -⟩ :=
      hdelivered task ht minute ⟨hdvd, by omega, hhit⟩
    refine List.mem_map.2 ⟨(task.taskType.kind, r), mem_receivedRows_iff.2 ⟨hr, hagent, ?_, ?_⟩, ?_⟩
    · rw [hperiod, i64Column_of_lt (by omega), i64Column_of_lt (by omega)]
      omega
    · rw [hperiod, i64Column_of_lt (by omega), i64Column_of_lt (by omega)]
      omega
    · rw [← hname, ← hperiod]
      rfl
  rw [← length_receivedRows, ← List.length_map (f := entryOf)]
  exact (hnodup.subperm hsub).length_le

end

/-! ### A database with what was delivered -/

/-- The aggregate of a minute, as it is stored. -/
def minuteRow (agentId : String) (task : TaskConfig) (minute : Nat) : MetricRow where
  agentId := agentId
  taskName := task.name
  periodStart := minute
  periodEnd := minute + 60
  sampleCount := 1
  data := exampleSummary.data task.taskType.kind []
  receivedAt := minute + 60

/-- The rows of one table: every minute that is over, of every task that writes to it. -/
def minuteRows (agentId : String) (tasks : List TaskConfig) (phase : TaskConfig → Nat) (now : Nat)
    (kind : MetricKind) : List MetricRow :=
  (tasks.filter fun task => task.taskType.kind = kind).flatMap fun task =>
    (hits 60 task.scheduleSeconds.toNat (phase task) 0 (now / 60)).map (minuteRow agentId task)

/-- A database with these rows and no others. -/
def deliveredDatabase (agent : AgentRow) (tasks : List TaskConfig) (phase : TaskConfig → Nat)
    (now : Nat) : ServerDatabase :=
  { ServerDatabase.initial with
    agents := (Table.empty _).insertAll [agent]
    metrics := fun kind =>
      (Table.empty _).insertAll (minuteRows agent.agentId tasks phase now kind) }

section

variable {agent : AgentRow} {tasks : List TaskConfig} {phase : TaskConfig → Nat} {now : Nat}
  {kind : MetricKind} {r : MetricRow}

theorem mem_minuteRows_iff {agentId : String} :
    r ∈ minuteRows agentId tasks phase now kind ↔
      ∃ task ∈ tasks, task.taskType.kind = kind ∧
        ∃ minute, RanIn phase now task minute ∧ minuteRow agentId task minute = r := by
  unfold minuteRows RanIn
  simp only [List.mem_flatMap, List.mem_filter, decide_eq_true_eq, List.mem_map, mem_hits_iff,
    Nat.zero_add]
  constructor
  · rintro ⟨task, ⟨ht, hk⟩, minute, ⟨⟨j, hj, rfl⟩, hhit⟩, hr⟩
    exact ⟨task, ht, hk, _, ⟨⟨j, rfl⟩, by omega, hhit⟩, hr⟩
  · rintro ⟨task, ht, hk, minute, ⟨⟨j, rfl⟩, hover, hhit⟩, hr⟩
    exact ⟨task, ⟨ht, hk⟩, _, ⟨⟨j, by omega, rfl⟩, hhit⟩, hr⟩

theorem mem_minuteRows_of_values
    (hr : r ∈ ((deliveredDatabase agent tasks phase now).metrics kind).values) :
    r ∈ minuteRows agent.agentId tasks phase now kind := by
  rcases Table.mem_values_insertAll hr with h | h
  · cases h
  · exact h

theorem agent_mem_deliveredDatabase (agent : AgentRow) (tasks : List TaskConfig)
    (phase : TaskConfig → Nat) (now : Nat) :
    agent ∈ (deliveredDatabase agent tasks phase now).agents.values := List.mem_singleton_self _

theorem delivered_deliveredDatabase (agent : AgentRow) (tasks : List TaskConfig)
    (phase : TaskConfig → Nat) (now : Nat) :
    Delivered (deliveredDatabase agent tasks phase now) agent.agentId tasks phase now := by
  intro task ht minute hran
  have hrow : minuteRow agent.agentId task minute ∈
      minuteRows agent.agentId tasks phase now task.taskType.kind :=
    mem_minuteRows_iff.2 ⟨task, ht, rfl, minute, hran, rfl⟩
  have hkey : (agent.agentId, task.name, minute, minute + 60) ∈
      ((deliveredDatabase agent tasks phase now).metrics task.taskType.kind).keys :=
    Table.mem_keys_insertAll.2 (.inr ⟨_, hrow, rfl⟩)
  obtain ⟨r, hr, hrkey⟩ := ((deliveredDatabase agent tasks phase now).metrics
    task.taskType.kind).mem_keys_iff _ |>.1 hkey
  have heq := Option.some.inj hrkey
  simp only [Prod.mk.injEq] at heq
  exact ⟨r.2, List.mem_map.2 ⟨r, hr, rfl⟩, heq⟩

/-- Rows of one table with the same task and minute are one row. -/
theorem nodup_values_deliveredDatabase (agent : AgentRow) (tasks : List TaskConfig)
    (phase : TaskConfig → Nat) (now : Nat) (kind : MetricKind) :
    (((deliveredDatabase agent tasks phase now).metrics kind).values.map fun r =>
      (r.taskName, r.periodStart)).Nodup := by
  let table := (deliveredDatabase agent tasks phase now).metrics kind
  let keyOf : String × Nat → String × String × Nat × Nat := fun e =>
    (agent.agentId, e.1, e.2, e.2 + 60)
  have hkeys : table.keys = (table.values.map fun r => (r.taskName, r.periodStart)).map keyOf := by
    have hsome : table.keys = table.values.map fun r =>
        (r.agentId, r.taskName, r.periodStart, r.periodEnd) := table.keys_eq_map fun _ => rfl
    rw [hsome, List.map_map]
    refine List.map_congr_left fun r hr => ?_
    obtain ⟨task, -, -, minute, -, rfl⟩ := mem_minuteRows_iff.1 (mem_minuteRows_of_values hr)
    rfl
  have hnodup := table.keys_nodup
  change table.keys.Nodup at hnodup
  rw [hkeys] at hnodup
  exact hnodup.of_map keyOf

theorem nodup_entries_deliveredDatabase (agent : AgentRow) (tasks : List TaskConfig)
    (phase : TaskConfig → Nat) (now periodStart periodEnd : Nat) :
    ((receivedRows (deliveredDatabase agent tasks phase now) agent.agentId periodStart
      periodEnd).map entryOf).Nodup := by
  unfold receivedRows
  rw [List.map_flatMap]
  refine List.nodup_flatMap.2 ⟨fun kind _ => ?_, ?_⟩
  · have hnodup := nodup_values_deliveredDatabase agent tasks phase now kind
    have hpairs := hnodup.map (f := fun e => (kind, e)) fun a b h => (Prod.mk.inj h).2
    rw [List.map_map] at hpairs ⊢
    exact hpairs.sublist (List.filter_sublist.map _)
  · have hall : MetricKind.all.Nodup := by decide
    refine hall.imp fun hne => ?_
    intro e he he'
    simp only [List.map_map, List.mem_map] at he he'
    obtain ⟨r, -, rfl⟩ := he
    obtain ⟨r', -, heq⟩ := he'
    exact hne (Prod.mk.inj heq).1.symm

/-- **Nothing else is received** than the inspected minutes with a run. -/
theorem received_deliveredDatabase (agent : AgentRow) (tasks : List TaskConfig)
    (phase : TaskConfig → Nat) {now interval : Nat} (hnow : now < 2 ^ 63)
    (hinterval : interval ≤ now / 60 * 60 - 60) :
    (deliveredDatabase agent tasks phase now).calculateReceivedEntries agent.agentId
        (now / 60 * 60 - 60 - interval) (now / 60 * 60 - 60) ≤
      (entriesOf tasks (inspectedMinutes phase (interval / 60) (now / 60 * 60 - 60))).length := by
  have hsub : (receivedRows (deliveredDatabase agent tasks phase now) agent.agentId
      (now / 60 * 60 - 60 - interval) (now / 60 * 60 - 60)).map entryOf ⊆
        entriesOf tasks (inspectedMinutes phase (interval / 60) (now / 60 * 60 - 60)) := by
    intro e he
    obtain ⟨⟨kind, r⟩, hr, rfl⟩ := List.mem_map.1 he
    obtain ⟨hvalue, -, hstart, hend⟩ := mem_receivedRows_iff.1 hr
    obtain ⟨task, ht, rfl, minute, ⟨hdvd, hover, hhit⟩, rfl⟩ :=
      mem_minuteRows_iff.1 (mem_minuteRows_of_values hvalue)
    change _ ≤ i64Column minute at hstart
    change i64Column minute < _ at hend
    rw [i64Column_of_lt (by omega), i64Column_of_lt (by omega)] at hstart hend
    have hin := (minute_iff (by omega) hinterval minute).1 ⟨hdvd, by omega, by omega⟩
    exact mem_entriesOf_iff.2 ⟨task, ht, minute, mem_hits_iff.2 ⟨hin, hhit⟩, rfl⟩
  rw [← length_receivedRows, ← List.length_map (f := entryOf)]
  exact ((nodup_entries_deliveredDatabase agent tasks phase now _ _).subperm hsub).length_le

end

/-! ### Expected entries -/

/-- What is expected of one task. -/
def expectedOf (interval : Nat) (task : TaskConfig) : Nat :=
  if task.scheduleSeconds.toNat < 60 then interval / 60 else interval / task.scheduleSeconds.toNat

theorem calculateExpectedEntries_eq {tasks : List TaskConfig} {interval periodEnd : Nat}
    (hschedules : ∀ task ∈ tasks, 0 < task.scheduleSeconds.toNat)
    (hinterval : interval ≤ periodEnd) (hend : periodEnd < 2 ^ 64) :
    calculateExpectedEntries tasks (periodEnd - interval) periodEnd =
      (tasks.map (expectedOf interval)).sum := by
  unfold calculateExpectedEntries
  rw [u64Sub_eq (Nat.sub_le _ _) hend, Nat.sub_sub_self hinterval]
  refine congrArg List.sum (List.map_congr_left fun task ht => ?_)
  dsimp only
  rw [if_neg (Nat.ne_of_gt (hschedules task ht))]
  rfl

theorem calculateExpectedEntries_le (tasks : List TaskConfig) (periodStart periodEnd : Nat) :
    calculateExpectedEntries tasks periodStart periodEnd ≤
      tasks.length * (u64Sub periodEnd periodStart / 60) := by
  unfold calculateExpectedEntries
  rw [← List.length_map]
  refine List.sum_le_card_nsmul _ _ fun n hn => ?_
  obtain ⟨task, -, rfl⟩ := List.mem_map.1 hn
  dsimp only
  split
  · exact Nat.zero_le _
  · split
    · exact le_refl _
    · next hslow => exact Nat.div_le_div_left (by omega) (by decide)

/-- The sum fits an `i64` when the tasks times the minutes of the period do. -/
theorem i64Column_calculateExpectedEntries {tasks : List TaskConfig} {periodStart periodEnd : Nat}
    (h : tasks.length * (u64Sub periodEnd periodStart / 60) < 2 ^ 63) :
    i64Column (calculateExpectedEntries tasks periodStart periodEnd) =
      calculateExpectedEntries tasks periodStart periodEnd :=
  i64Column_of_lt ((calculateExpectedEntries_le tasks periodStart periodEnd).trans_lt h)

/-! ## Soundness -/

/-- No slow task has a multiple of its schedule between the whole minutes of the interval and its
end. -/
def SchedulesFit (interval : Nat) (tasks : List TaskConfig) : Prop :=
  ∀ task ∈ tasks, 60 ≤ task.scheduleSeconds.toNat →
    interval / task.scheduleSeconds.toNat = interval / 60 * 60 / task.scheduleSeconds.toNat

/-- What is expected of a task is what some number of its minutes makes, when its schedule fits. -/
theorem expectedOf_le_length {interval : Nat} {task : TaskConfig}
    (hschedule : 0 < task.scheduleSeconds.toNat)
    (hfits : 60 ≤ task.scheduleSeconds.toNat → interval / task.scheduleSeconds.toNat =
      interval / 60 * 60 / task.scheduleSeconds.toNat) (phase : TaskConfig → Nat)
    (periodEnd : Nat) :
    expectedOf interval task ≤ (inspectedMinutes phase (interval / 60) periodEnd task).length := by
  unfold expectedOf inspectedMinutes
  split
  · next hfast => rw [length_hits_of_le hschedule (by omega)]
  · next hslow =>
    rw [hfits (by omega)]
    exact le_length_hits (by decide) (by omega) _ _ _

/-- Runs at the end of each period from the first whole minute on. -/
def latePhase (interval periodEnd : Nat) (task : TaskConfig) : Nat :=
  periodEnd - 60 * (interval / 60) + task.scheduleSeconds.toNat - 1

theorem length_latePhase_le {interval periodEnd : Nat} {task : TaskConfig}
    (hschedule : 0 < task.scheduleSeconds.toNat) :
    (inspectedMinutes (latePhase interval periodEnd) (interval / 60) periodEnd task).length ≤
      expectedOf (interval / 60 * 60) task := by
  unfold expectedOf inspectedMinutes latePhase
  split
  · rw [Nat.mul_div_cancel _ (by decide)]
    exact length_hits_le _ _ _ _ _
  · exact length_hits_late (by decide) hschedule _ _

theorem expectedOf_mono (interval : Nat) (task : TaskConfig) :
    expectedOf (interval / 60 * 60) task ≤ expectedOf interval task := by
  unfold expectedOf
  split
  · exact Nat.div_le_div_right (Nat.div_mul_le_self _ _)
  · exact Nat.div_le_div_right (Nat.div_mul_le_self _ _)

section

variable {monitor : HealthMonitor} {tasks : List TaskConfig} {now : Nat}

/-- The figures of a check, when the period does not underflow. -/
theorem check_entries (hnow : now < 2 ^ 63) (hminute : 60 ≤ now / 60 * 60)
    (hinterval : monitor.healthCheckIntervalSeconds ≤ now / 60 * 60 - 60)
    (hschedules : ∀ task ∈ tasks, 0 < task.scheduleSeconds.toNat) (db : ServerDatabase)
    (agent : AgentRow) :
    let round := monitor.checkAllAgents db now
    let check :=
      monitor.calculateHealthMetrics db now tasks round.periodStart round.periodEnd agent
    check.expectedEntries =
        ((tasks.map (expectedOf monitor.healthCheckIntervalSeconds)).sum : Nat) ∧
      check.receivedEntries = (db.calculateReceivedEntries agent.agentId
        (now / 60 * 60 - 60 - monitor.healthCheckIntervalSeconds) (now / 60 * 60 - 60) : Nat) := by
  obtain ⟨hend, hstart⟩ := checkAllAgents_period monitor db hnow hminute hinterval
  dsimp only
  rw [hend, hstart, ← calculateExpectedEntries_eq hschedules hinterval (by omega)]
  exact ⟨rfl, rfl⟩

theorem expectsDelivered_of_fits (hnow : now < 2 ^ 63) (hnames : (tasks.map TaskConfig.name).Nodup)
    (hschedules : ∀ task ∈ tasks, 0 < task.scheduleSeconds.toNat)
    (hreach : 60 + monitor.healthCheckIntervalSeconds ≤ now / 60 * 60)
    (hfits : SchedulesFit monitor.healthCheckIntervalSeconds tasks) :
    ExpectsDelivered monitor tasks now := by
  intro phase db agent _ hdelivered
  have hminute : 60 ≤ now / 60 * 60 := by omega
  have hinterval : monitor.healthCheckIntervalSeconds ≤ now / 60 * 60 - 60 := by omega
  obtain ⟨hexpected, hreceived⟩ := check_entries hnow hminute hinterval hschedules db agent
  refine ⟨⟨hminute, hinterval⟩, ?_⟩
  rw [hexpected, hreceived, Int.ofNat_le]
  calc (tasks.map (expectedOf monitor.healthCheckIntervalSeconds)).sum
      ≤ (tasks.map fun task => (inspectedMinutes phase (monitor.healthCheckIntervalSeconds / 60)
          (now / 60 * 60 - 60) task).length).sum := by
        refine List.sum_le_sum fun task ht => ?_
        exact expectedOf_le_length (hschedules task ht) (hfits task ht) phase _
    _ = (entriesOf tasks (inspectedMinutes phase (monitor.healthCheckIntervalSeconds / 60)
          (now / 60 * 60 - 60))).length := (length_entriesOf _ _).symm
    _ ≤ _ := entriesOf_le_received hnames hnow hdelivered hinterval

theorem fits_of_expectsDelivered (hnow : now < 2 ^ 63)
    (hschedules : ∀ task ∈ tasks, 0 < task.scheduleSeconds.toNat)
    (hsound : ExpectsDelivered monitor tasks now) :
    60 + monitor.healthCheckIntervalSeconds ≤ now / 60 * 60 ∧
      SchedulesFit monitor.healthCheckIntervalSeconds tasks := by
  let late := latePhase monitor.healthCheckIntervalSeconds (now / 60 * 60 - 60)
  let agent : AgentRow := ⟨"agent1", 0, now, none, 1, none⟩
  obtain ⟨⟨hminute, hinterval⟩, hle⟩ := hsound late (deliveredDatabase agent tasks late now) agent
    (agent_mem_deliveredDatabase agent tasks late now)
    (delivered_deliveredDatabase agent tasks late now)
  refine ⟨by omega, fun task ht hslow => ?_⟩
  obtain ⟨hexpected, hreceived⟩ := check_entries hnow hminute hinterval hschedules
    (deliveredDatabase agent tasks late now) agent
  rw [hexpected, hreceived, Int.ofNat_le] at hle
  -- the late phases leave no more than what the whole minutes promise
  have hlate : (tasks.map (expectedOf monitor.healthCheckIntervalSeconds)).sum ≤
      (tasks.map (expectedOf (monitor.healthCheckIntervalSeconds / 60 * 60))).sum := by
    refine hle.trans ((received_deliveredDatabase agent tasks late hnow hinterval).trans ?_)
    rw [length_entriesOf]
    exact List.sum_le_sum fun task ht => length_latePhase_le (hschedules task ht)
  have hmono := expectedOf_mono monitor.healthCheckIntervalSeconds task
  rcases Nat.lt_or_eq_of_le hmono with hlt | heq
  · have hless := List.sum_lt_sum (l := tasks) _ _ (fun task _ => expectedOf_mono _ task)
      ⟨task, ht, hlt⟩
    exact absurd hlate (Nat.not_le.2 hless)
  · unfold expectedOf at heq
    rw [if_neg (by omega), if_neg (by omega)] at heq
    exact heq.symm

end

/-- **The expectation is sound** for all phases exactly when the interval does not reach before the
epoch and every schedule fits. -/
theorem expectsDelivered_iff (env : Externals) (config : HealthConfig)
    (outdated : Option String → Bool) (tasks : TasksConfig) (htasks : tasks.validate env = .ok ())
    {now : Nat} (hnow : now < 2 ^ 63) :
    ExpectsDelivered (config.monitor outdated) tasks.tasks now ↔
      60 + config.healthCheckIntervalSeconds.toNat ≤ now / 60 * 60 ∧
        SchedulesFit config.healthCheckIntervalSeconds.toNat tasks.tasks := by
  obtain ⟨hnames, hvalid⟩ := (validate_eq_ok_iff env tasks).1 htasks
  have hschedules : ∀ task ∈ tasks.tasks, 0 < task.scheduleSeconds.toNat := fun task ht =>
    validate_schedule (hvalid task ht)
  constructor
  · exact fits_of_expectsDelivered hnow hschedules
  · rintro ⟨hreach, hfits⟩
    exact expectsDelivered_of_fits hnow hnames hschedules hreach hfits

/-! ## Intervals of five minutes, of a minute and a half, and of a lifetime -/

def healthEvery (seconds : UInt64) : HealthConfig := ⟨seconds, 9 / 10, 30⟩

theorem validate_healthEvery {seconds : UInt64} (h : seconds ≠ 0) :
    (healthEvery seconds).validate = .ok () := by
  have hratio : ¬ (9 / 10 : ℚ) < 0 ∧ ¬ (1 : ℚ) < 9 / 10 := by norm_num
  simp [HealthConfig.validate, healthEvery, reject, h, hratio]
  rfl

/-- A fast task and a slow one. -/
def fastAndSlow : TasksConfig :=
  ⟨[taskEvery 7, { taskEvery 90 with name := "slow web" }]⟩

theorem expectsDelivered_fiveMinutes :
    (healthEvery 300).validate = .ok () ∧
      ExpectsDelivered ((healthEvery 300).monitor Option.isNone) fastAndSlow.tasks 1065 := by
  refine ⟨validate_healthEvery (by decide), (expectsDelivered_iff exampleExternals
    (healthEvery 300) Option.isNone fastAndSlow (by rfl) (by decide)).2 ⟨by decide, ?_⟩⟩
  unfold SchedulesFit
  decide

/-- An interval of 90 seconds has one whole minute, but expects a run of every 90 seconds; one
that is longer than the time since the epoch wraps around. -/
theorem not_expectsDelivered_ninety :
    ((healthEvery 90).validate = .ok () ∧ (healthEvery 2000000000).validate = .ok () ∧
        TasksConfig.validate exampleExternals ⟨[taskEvery 90]⟩ = .ok ()) ∧
      (∃ phase db, ∃ agent ∈ db.agents.values,
        Delivered db agent.agentId [taskEvery 90] phase 1065 ∧
          let monitor := (healthEvery 90).monitor Option.isNone
          let round := monitor.checkAllAgents db 1065
          let check := monitor.calculateHealthMetrics db 1065 [taskEvery 90] round.periodStart
            round.periodEnd agent
          check.expectedEntries = 1 ∧ check.receivedEntries = 0) ∧
      ¬ ExpectsDelivered ((healthEvery 2000000000).monitor Option.isNone) [taskEvery 90]
        1700000000 := by
  let agent : AgentRow := ⟨"agent1", 0, 1065, none, 1, some "0.9.0"⟩
  refine ⟨⟨validate_healthEvery (by decide), validate_healthEvery (by decide), by rfl⟩,
    ⟨fun _ => 89, deliveredDatabase agent [taskEvery 90]
    (fun _ => 89) 1065, agent, agent_mem_deliveredDatabase _ _ _ _,
    delivered_deliveredDatabase _ _ _ _, ?_⟩, fun hsound => ?_⟩
  · have hinterval : ((healthEvery 90).monitor Option.isNone).healthCheckIntervalSeconds ≤
        1065 / 60 * 60 - 60 := by decide
    have hschedules : ∀ task ∈ [taskEvery 90], 0 < task.scheduleSeconds.toNat := by decide
    obtain ⟨hexpected, hreceived⟩ := check_entries (by decide) (by decide) hinterval hschedules
      (deliveredDatabase agent [taskEvery 90] (fun _ => 89) 1065) agent
    refine ⟨hexpected.trans (by rfl), hreceived.trans ?_⟩
    have hnone := received_deliveredDatabase agent [taskEvery 90] (fun _ => 89)
      (show 1065 < 2 ^ 63 by decide) (show 90 ≤ 1065 / 60 * 60 - 60 by decide)
    have hempty : (entriesOf [taskEvery 90] (inspectedMinutes (fun _ => 89) (90 / 60)
      (1065 / 60 * 60 - 60))).length = 0 := by decide
    rw [hempty, Nat.le_zero] at hnone
    exact congrArg Int.ofNat hnone
  · obtain ⟨⟨-, hle⟩, -⟩ := hsound (fun _ => 0) _ agent
      (agent_mem_deliveredDatabase agent [taskEvery 90] (fun _ => 0) 1700000000)
      (delivered_deliveredDatabase agent [taskEvery 90] (fun _ => 0) 1700000000)
    revert hle
    decide

end LinkSense
