import LinkSense.Shared.Metrics
import LinkSense.Table
import Mathlib.Algebra.Group.Nat.Defs
import Mathlib.Logic.Function.Basic

/-!
# The server's database

The tables of `server/src/database.rs`: registered agents, the nine tables of aggregated metrics,
reported configuration errors, and health checks.  Foreign keys are enforced, so a row needs its
agent to be registered.

    (db.upsertAgent now a c v).registered a                       (registered_upsertAgent)
    db.registered a → db.logConfigError … a … adds one row        (logConfigError_of_registered)
    db.registered a → (db.storeMetrics … a metrics is accepted ↔
      no key of metrics is held, and none occurs twice)           (storeMetrics_isOk_iff)
    db.storeMetrics … metrics = .ok db' → db' has the rows of metrics besides those of db
                                                                  (storeMetrics_values)
-/

namespace LinkSense

open Sql

/-! ## Tables -/

structure AgentRow where
  agentId : String
  firstSeen : Nat
  lastSeen : Nat
  lastConfigChecksum : Option String
  totalMetricsReceived : Nat
  agentVersion : Option String
deriving DecidableEq, Repr

def AgentRow.key (r : AgentRow) : Option String := some r.agentId

structure MetricRow where
  agentId : String
  taskName : String
  periodStart : Nat
  periodEnd : Nat
  sampleCount : UInt32
  data : AggregatedMetricData
  receivedAt : Nat
deriving DecidableEq, Repr

/-- `UNIQUE(agent_id, task_name, period_start, period_end)`. -/
def MetricRow.key (r : MetricRow) : Option (String × String × Nat × Nat) :=
  some (r.agentId, r.taskName, r.periodStart, r.periodEnd)

structure ConfigErrorRow where
  agentId : String
  timestampUtc : String
  errorMessage : String
  receivedAt : Nat
deriving DecidableEq, Repr

def ConfigErrorRow.key (_ : ConfigErrorRow) : Option Unit := none

/-- Health check data for a single agent at a point in time. -/
structure AgentHealthCheck where
  agentId : String
  checkTimestamp : Int
  periodStart : Int
  periodEnd : Int
  secondsSinceLastPush : Int
  expectedEntries : Int
  receivedEntries : Int
  successRatio : ℚ
  isProblematic : Bool
deriving DecidableEq, Repr

def AgentHealthCheck.key (_ : AgentHealthCheck) : Option Unit := none

structure ServerDatabase where
  agents : Table AgentRow.key
  metrics : MetricKind → Table MetricRow.key
  configErrors : Table ConfigErrorRow.key
  healthChecks : Table AgentHealthCheck.key

/-- The database after `initialize` on a new file. -/
def ServerDatabase.initial : ServerDatabase := ⟨.empty _, fun _ => .empty _, .empty _, .empty _⟩

/-- A `u64` as a column holds it. -/
def i64Column (time : Nat) : Int := (time : Int).bmod (2 ^ 64)

/-- `u64::saturating_mul`. -/
def u64SaturatingMul (a b : UInt64) : UInt64 :=
  UInt64.ofNat (min (a.toNat * b.toNat) (2 ^ 64 - 1))

/-- Days in seconds, as `cleanup_old_data` and `cleanup_old_health_data` compute them. -/
def retentionSeconds (retentionDays : UInt32) : UInt64 :=
  u64SaturatingMul (u64SaturatingMul (u64SaturatingMul retentionDays.toUInt64 24) 60) 60

/-- The table of each kind. -/
def MetricKind.aggTable : MetricKind → String
  | .ping => "agg_metric_ping"
  | .tcp => "agg_metric_tcp"
  | .http => "agg_metric_http"
  | .tls => "agg_metric_tls"
  | .httpContent => "agg_metric_http_content"
  | .dns => "agg_metric_dns"
  | .bandwidth => "agg_metric_bandwidth"
  | .sqlQuery => "agg_metric_sql_query"
  | .snmp => "agg_metric_snmp"

namespace ServerDatabase

/-! ## Operations -/

def registered (db : ServerDatabase) (agentId : String) : Bool :=
  db.agents.values.any fun r => r.agentId == agentId

def foreignKeyError : String := "FOREIGN KEY constraint failed"

def uniqueError (table : String) : String :=
  s!"UNIQUE constraint failed: {table}.agent_id, {table}.task_name, {table}.period_start, {table}.period_end"

/-- `upsert_agent`: update the agent's row, or insert it when no row was updated. -/
def upsertAgent (db : ServerDatabase) (currentTime : Nat) (agentId configChecksum : String)
    (agentVersion : Option String) : ServerDatabase :=
  if db.registered agentId then
    { db with
      agents := db.agents.update
        (fun _ r =>
          if r.agentId = agentId then
            { r with
              lastSeen := currentTime
              lastConfigChecksum := some configChecksum
              agentVersion := agentVersion
              totalMetricsReceived := r.totalMetricsReceived + 1 }
          else r)
        (fun _ r => by split <;> rfl) }
  else
    { db with
      agents := db.agents.insertOrIgnore
        { agentId := agentId
          firstSeen := currentTime
          lastSeen := currentTime
          lastConfigChecksum := some configChecksum
          totalMetricsReceived := 1
          agentVersion := agentVersion } }

/-- The row that a metric of an agent becomes. -/
def metricRow (now : Nat) (agentId : String) (metric : AggregatedMetrics) : MetricRow where
  agentId := agentId
  taskName := metric.taskName
  periodStart := metric.periodStart
  periodEnd := metric.periodEnd
  sampleCount := metric.sampleCount
  data := metric.data
  receivedAt := now

/-- `store_metric` of the nine metric modules: a plain `INSERT`. -/
def storeMetric (kind : MetricKind) (db : ServerDatabase) (now : Nat) (agentId : String)
    (metric : AggregatedMetrics) : Except String ServerDatabase :=
  match (db.metrics kind).insert (metricRow now agentId metric) with
  | none => .error (uniqueError kind.aggTable)
  | some (table, _) =>
    if db.registered agentId then
      .ok { db with metrics := Function.update db.metrics kind table }
    else .error foreignKeyError

/-- The `match` of `store_metrics` on one metric; an unknown kind is skipped. -/
def storeOne (now : Nat) (agentId : String) (db : ServerDatabase) (metric : AggregatedMetrics) :
    Except String ServerDatabase :=
  match metric.data.kind with
  | some kind => storeMetric kind db now agentId metric
  | none => .ok db

/-- `store_metrics`: one transaction, which an error rolls back. -/
def storeMetrics (now : Nat) (agentId : String) :
    ServerDatabase → List AggregatedMetrics → Except String ServerDatabase
  | db, [] => .ok db
  | db, metric :: metrics =>
    match db.storeOne now agentId metric with
    | .error e => .error e
    | .ok db => db.storeMetrics now agentId metrics

/-- `log_config_error`. -/
def logConfigError (db : ServerDatabase) (now : Nat)
    (agentId timestampUtc errorMessage : String) : Except String ServerDatabase :=
  if db.registered agentId then
    .ok { db with
      configErrors := db.configErrors.insertOrIgnore ⟨agentId, timestampUtc, errorMessage, now⟩ }
  else .error s!"Failed to insert config error for agent: {agentId}"

/-- The key of the row that a metric becomes, with its table. -/
def metricKey (agentId : String) (metric : AggregatedMetrics) :
    Option (MetricKind × String × String × Nat × Nat) :=
  metric.data.kind.map fun kind =>
    (kind, agentId, metric.taskName, metric.periodStart, metric.periodEnd)

/-- A row with the metric's key is stored. -/
def holds (db : ServerDatabase) (agentId : String) (metric : AggregatedMetrics) : Bool :=
  (metricKey agentId metric).any fun key => decide (key.2 ∈ (db.metrics key.1).keys)

/-! ## Retention -/

/-- `cleanup_old_data` of the nine metric modules. -/
def cleanupMetrics (cutoffTime : Nat) (kind : MetricKind) (db : ServerDatabase) : ServerDatabase :=
  { db with
    metrics := Function.update db.metrics kind
      ((db.metrics kind).delete fun _ r => i64Column r.periodEnd < cutoffTime) }

def cleanupErrors (cutoffTime : Nat) (db : ServerDatabase) : ServerDatabase :=
  { db with configErrors := db.configErrors.delete fun _ r => r.receivedAt < cutoffTime }

/-- A row of some table refers to the agent. -/
def referred (db : ServerDatabase) (agentId : String) : Bool :=
  (MetricKind.all.any fun kind => (db.metrics kind).values.any fun r => r.agentId == agentId) ||
    (db.configErrors.values.any fun r => r.agentId == agentId) ||
    db.healthChecks.values.any fun r => r.agentId == agentId

/-- Agents that were not seen for long; no row goes while one of them is referred to. -/
def cleanupAgents (cutoffTime : Nat) (db : ServerDatabase) : ServerDatabase :=
  if db.agents.values.any fun r => r.lastSeen < cutoffTime && db.referred r.agentId then db
  else { db with agents := db.agents.delete fun _ r => r.lastSeen < cutoffTime }

/-- The statements of `cleanup_old_data` in their order. -/
def cleanupStatements (cutoffTime : Nat) : List (ServerDatabase → ServerDatabase) :=
  MetricKind.all.map (cleanupMetrics cutoffTime) ++
    [cleanupErrors cutoffTime, cleanupAgents cutoffTime]

def retentionCutoff (now : Nat) (retentionDays : UInt32) : Nat :=
  now - (retentionSeconds retentionDays).toNat

/-- `cleanup_old_data`, when it ends after `done` of its eleven statements. -/
def cleanupOldData (db : ServerDatabase) (now : Nat) (retentionDays : UInt32) (done : Nat) :
    ServerDatabase :=
  let cutoffTime := retentionCutoff now retentionDays
  ((cleanupStatements cutoffTime).take done).foldl (fun db statement => statement db) db

/-! ## Lemmas -/

theorem registered_iff (db : ServerDatabase) (a : String) :
    db.registered a = true ↔ a ∈ db.agents.keys := by
  unfold registered Table.values
  rw [List.any_map, List.any_eq_true, Table.mem_keys_iff]
  simp [AgentRow.key]

theorem registered_upsertAgent (db : ServerDatabase) (now : Nat) (a checksum : String)
    (version : Option String) : (db.upsertAgent now a checksum version).registered a = true := by
  unfold upsertAgent
  by_cases h : db.registered a = true
  · rw [if_pos h, registered_iff, Table.keys_update]
    exact (db.registered_iff a).1 h
  · rw [if_neg h, registered_iff]
    rcases db.agents.insertOrIgnore_eq ⟨a, now, now, some checksum, 1, version⟩ with
      ⟨k, hk, hm, he⟩ | ⟨hn, he⟩
    · obtain rfl : a = k := Option.some.inj hk
      exact absurd ((db.registered_iff a).2 hm) h
    · rw [he, Table.mem_keys_iff]
      refine ⟨(db.agents.nextId, ⟨a, now, now, some checksum, 1, version⟩), ?_, rfl⟩
      simp

/-- An error of a registered agent is one more row. -/
theorem logConfigError_of_registered {db : ServerDatabase} {a : String} (now : Nat)
    (timestampUtc errorMessage : String) (h : db.registered a = true) :
    ∃ db', db.logConfigError now a timestampUtc errorMessage = .ok db' ∧
      db'.configErrors.rows.length = db.configErrors.rows.length + 1 := by
  unfold logConfigError
  rw [if_pos h]
  refine ⟨_, rfl, ?_⟩
  rcases db.configErrors.insertOrIgnore_eq ⟨a, timestampUtc, errorMessage, now⟩ with
    ⟨k, hk, -, -⟩ | ⟨hn, he⟩
  · cases hk
  · rw [he]
    simp

/-! ### Storing metrics -/

theorem holds_iff (db : ServerDatabase) (a : String) (metric : AggregatedMetrics) :
    db.holds a metric = true ↔
      ∃ kind key, metricKey a metric = some (kind, key) ∧ key ∈ (db.metrics kind).keys := by
  unfold holds
  rw [Option.any_eq_true]
  constructor
  · rintro ⟨⟨kind, key⟩, hk, hm⟩
    exact ⟨kind, key, hk, by simpa using hm⟩
  · rintro ⟨kind, key, hk, hm⟩
    exact ⟨(kind, key), hk, by simpa using hm⟩

theorem holds_upsertAgent (db : ServerDatabase) (now : Nat) (b checksum : String)
    (version : Option String) (a : String) (metric : AggregatedMetrics) :
    (db.upsertAgent now b checksum version).holds a metric = db.holds a metric := by
  have hmetrics : (db.upsertAgent now b checksum version).metrics = db.metrics := by
    unfold upsertAgent
    split <;> rfl
  unfold holds
  rw [hmetrics]

/-- A metric whose key is stored is refused. -/
theorem storeOne_of_holds {db : ServerDatabase} {a : String} {metric : AggregatedMetrics}
    (now : Nat) (h : db.holds a metric = true) : ∃ e, db.storeOne now a metric = .error e := by
  obtain ⟨kind, key, hkey, hmem⟩ := (db.holds_iff a metric).1 h
  unfold metricKey at hkey
  obtain ⟨k, hk, he⟩ := Option.map_eq_some_iff.1 hkey
  obtain ⟨rfl, rfl⟩ := Prod.mk.inj he
  have hnone : (db.metrics k).insert (metricRow now a metric) = none := by
    rw [Table.insert_eq_none_iff]
    exact ⟨_, rfl, hmem⟩
  unfold storeOne storeMetric
  rw [hk]
  dsimp only
  rw [hnone]
  exact ⟨_, rfl⟩

/-- A metric of a registered agent whose key is new is stored, and its key is then held. -/
theorem storeOne_of_not_holds {db : ServerDatabase} {a : String} {metric : AggregatedMetrics}
    (now : Nat) (hreg : db.registered a = true) (h : db.holds a metric = false) :
    ∃ db', db.storeOne now a metric = .ok db' ∧ db'.registered a = true ∧
      ∀ m, db'.holds a m = true ↔
        db.holds a m = true ∨ ∃ key, metricKey a m = some key ∧ metricKey a metric = some key := by
  cases hk : metric.data.kind with
  | none =>
    refine ⟨db, ?_, hreg, fun m => ?_⟩
    · unfold storeOne
      rw [hk]
    · have hnone : metricKey a metric = none := by
        unfold metricKey
        rw [hk]
        rfl
      simp [hnone]
  | some kind =>
    have hkey : metricKey a metric =
        some (kind, a, metric.taskName, metric.periodStart, metric.periodEnd) := by
      unfold metricKey
      rw [hk]
      rfl
    have hnew : ∀ k, (metricRow now a metric).key = some k → k ∉ (db.metrics kind).keys := by
      intro k hrow hmem
      obtain rfl := Option.some.inj hrow
      have := (db.holds_iff a metric).2 ⟨kind, _, hkey, hmem⟩
      rw [h] at this
      cases this
    let table := (db.metrics kind).append (metricRow now a metric) hnew
    refine ⟨{ db with metrics := Function.update db.metrics kind table }, ?_, hreg, fun m => ?_⟩
    · unfold storeOne storeMetric
      rw [hk]
      dsimp only
      rw [Table.insert_of_new _ _ hnew]
      exact if_pos hreg
    · rw [holds_iff, holds_iff]
      constructor
      · rintro ⟨k, key, hm, hmem⟩
        by_cases hkk : k = kind
        · subst hkk
          dsimp only at hmem
          rw [Function.update_self, Table.keys_append, List.mem_append] at hmem
          rcases hmem with hmem | hmem
          · exact .inl ⟨k, key, hm, hmem⟩
          · have hrow : (metricRow now a metric).key = some key := by simpa using hmem
            obtain rfl := Option.some.inj hrow
            exact .inr ⟨_, hm, hkey⟩
        · dsimp only at hmem
          rw [Function.update_of_ne hkk] at hmem
          exact .inl ⟨k, key, hm, hmem⟩
      · rintro (⟨k, key, hm, hmem⟩ | ⟨key, hm, hmk⟩)
        · refine ⟨k, key, hm, ?_⟩
          by_cases hkk : k = kind
          · subst hkk
            dsimp only
            rw [Function.update_self, Table.keys_append]
            exact List.mem_append_left _ hmem
          · dsimp only
            rwa [Function.update_of_ne hkk]
        · rw [hkey] at hmk
          obtain rfl := Option.some.inj hmk
          refine ⟨kind, _, hm, ?_⟩
          dsimp only
          rw [Function.update_self, Table.keys_append]
          simp [metricRow, MetricRow.key]

/-- **A batch of a registered agent is accepted** exactly when no key of it is held and none occurs
in it twice. -/
theorem storeMetrics_isOk_iff {db : ServerDatabase} {a : String} (now : Nat)
    (metrics : List AggregatedMetrics) (hreg : db.registered a = true) :
    (∃ db', db.storeMetrics now a metrics = .ok db') ↔
      (∀ m ∈ metrics, db.holds a m = false) ∧ (metrics.filterMap (metricKey a)).Nodup := by
  induction metrics generalizing db with
  | nil => simp [storeMetrics]
  | cons metric metrics ih =>
    cases hh : db.holds a metric with
    | true =>
      obtain ⟨e, he⟩ := storeOne_of_holds now hh
      unfold storeMetrics
      rw [he]
      simp [hh]
    | false =>
      obtain ⟨db', hok, hreg', hholds⟩ := storeOne_of_not_holds now hreg hh
      unfold storeMetrics
      rw [hok]
      dsimp only
      rw [ih hreg']
      have hsplit : (∀ m ∈ metrics, db'.holds a m = false) ↔ (∀ m ∈ metrics, db.holds a m = false) ∧
          ∀ key, metricKey a metric = some key → key ∉ metrics.filterMap (metricKey a) := by
        simp only [← Bool.not_eq_true, hholds, List.mem_filterMap, not_or, not_exists, not_and]
        constructor
        · intro hall
          refine ⟨fun m hm => (hall m hm).1, fun key hkey m hm hmk => ?_⟩
          exact (hall m hm).2 key hmk hkey
        · rintro ⟨hold, hnew⟩ m hm
          exact ⟨hold m hm, fun key hmk hkey => hnew key hkey m hm hmk⟩
      rw [hsplit]
      cases hkey : metricKey a metric with
      | none =>
        rw [List.filterMap_cons_none hkey]
        simp [hh]
      | some key =>
        rw [List.filterMap_cons_some hkey, List.nodup_cons]
        simp [hh, and_assoc]

/-- The rows of one kind that a batch becomes. -/
def rowsOf (kind : MetricKind) (now : Nat) (agentId : String) (metrics : List AggregatedMetrics) :
    List MetricRow :=
  (metrics.filter fun metric => metric.data.kind == some kind).map (metricRow now agentId)

theorem storeOne_values {db db' : ServerDatabase} {now : Nat} {a : String}
    {metric : AggregatedMetrics} (h : db.storeOne now a metric = .ok db') (kind : MetricKind) :
    (db'.metrics kind).values = (db.metrics kind).values ++ rowsOf kind now a [metric] := by
  unfold storeOne at h
  split at h
  · next k hk =>
    unfold storeMetric at h
    split at h
    · cases h
    · next table id hinsert =>
      split at h
      · obtain rfl := Except.ok.inj h
        by_cases hkk : kind = k
        · subst hkk
          have hnew : ∀ key, (metricRow now a metric).key = some key →
              key ∉ (db.metrics kind).keys := by
            rw [← Table.conflicts_eq_false_iff]
            by_contra hc
            unfold Table.insert at hinsert
            rw [dif_neg hc] at hinsert
            cases hinsert
          rw [Table.insert_of_new _ _ hnew] at hinsert
          obtain ⟨rfl, -⟩ := Prod.mk.inj (Option.some.inj hinsert)
          dsimp only
          rw [Function.update_self, Table.values_append]
          simp [rowsOf, hk]
        · dsimp only
          rw [Function.update_of_ne hkk]
          simp [rowsOf, hk, Ne.symm hkk]
      · cases h
  · next hk =>
    obtain rfl := Except.ok.inj h
    simp [rowsOf, hk]

/-- **What is stored**: the rows of the batch, in its order, whatever is of no kind left out. -/
theorem storeMetrics_values {db db' : ServerDatabase} {now : Nat} {a : String}
    {metrics : List AggregatedMetrics} (h : db.storeMetrics now a metrics = .ok db')
    (kind : MetricKind) :
    (db'.metrics kind).values = (db.metrics kind).values ++ rowsOf kind now a metrics := by
  induction metrics generalizing db with
  | nil =>
    obtain rfl := Except.ok.inj h
    exact (List.append_nil _).symm
  | cons metric metrics ih =>
    unfold storeMetrics at h
    split at h
    · cases h
    · next db₁ hone =>
      have hcons : rowsOf kind now a (metric :: metrics) =
          rowsOf kind now a [metric] ++ rowsOf kind now a metrics := by
        unfold rowsOf
        rw [← List.map_append, ← List.filter_append]
        rfl
      rw [ih h, storeOne_values hone, hcons, List.append_assoc]

end ServerDatabase

end LinkSense
