import LinkSense.Agent.Aggregation
import LinkSense.Aggregates
import Mathlib.Data.String.Basic

/-!
# Summaries of a window

`generate_aggregated_metrics` of the nine metric modules (`agent/src/database/db_*.rs`): one query
over the raw rows of a task in a window, and for two of the modules a second one.

    in every state of a run, the database generates what the module of the task's type does
      from its raw table                                                     (generates_of_run)
-/

namespace LinkSense

open Labelled

/-! ## Raw tables -/

/-- A row of the raw table of one module. -/
structure Stored (α : Type) where
  taskName : String
  timestamp : Nat
  data : α
deriving DecidableEq, Repr

namespace Stored

variable {α β : Type}

/-- `WHERE task_name = ?1 AND timestamp >= ?2 AND timestamp < ?3`. -/
def inWindow (taskName : String) (periodStart periodEnd : Nat) (r : Stored α) : Bool :=
  r.taskName = taskName && (periodStart ≤ r.timestamp && r.timestamp < periodEnd)

def window (raw : List (Stored α)) (taskName : String) (periodStart periodEnd : Nat) : List α :=
  (raw.filter (inWindow taskName periodStart periodEnd)).map Stored.data

/-- `SELECT e … AND p ORDER BY timestamp ASC LIMIT 1`. -/
def first (p : α → Bool) (e : α → Option β) (rows : List (Stored α)) : Option β :=
  (Sql.first Stored.timestamp (fun r => p r.data) rows).bind fun r => e r.data

/-- `SELECT e … AND e IS NOT NULL ORDER BY timestamp ASC LIMIT 1`. -/
def firstOf (e : α → Option β) (rows : List (Stored α)) : Option β :=
  first (fun r => (e r).isSome) e rows

end Stored

/-- `CASE WHEN success = 1 AND x IS NOT NULL THEN x END`. -/
def ofSuccess {β : Type} (success : Bool) (x : Option β) : Option β :=
  Sql.caseWhen (success && x.isSome) x

/-- `c as i64`. -/
def i64OfU64 (c : UInt64) : Int := (c.toNat : Int).bmod (2 ^ 64)

/-- An integer of the database, read as a `u64`. -/
def u64OfI64 (n : Int) : Option UInt64 := if 0 ≤ n then some (UInt64.ofNat n.toNat) else none

/-- `(part as f64 / total as f64) * 100.0`, of a total that may be zero. -/
def percentOf (part total : Nat) : ℚ := if total > 0 then (part : ℚ) / total * 100 else 0

/-! ## Queries -/

/-- The result of a module, from the query on the rows of the window. -/
def generateFrom {α β : Type} (query : List (Stored α) → β) (samples : β → UInt32)
    (taskType : TaskType) (wrap : β → AggregatedMetricData) (raw : List (Stored α))
    (taskName : String) (periodStart periodEnd : Nat) : Option AggregatedMetrics :=
  let rows := raw.filter (Stored.inWindow taskName periodStart periodEnd)
  if rows.length = 0 then none
  else some ⟨taskName, taskType, periodStart, periodEnd, samples (query rows), wrap (query rows)⟩

namespace DbPing

def query (rows : List (Stored RawPingMetric)) : AggregatedPingMetric :=
  let data := rows.map Stored.data
  let rtt := fun r : RawPingMetric => ofSuccess r.success r.rttMs
  let failedPings := data.countP fun r => !r.success
  { avgLatencyMs := (Sql.avg rtt data).getD 0
    maxLatencyMs := (Sql.max rtt data).getD 0
    minLatencyMs := (Sql.min rtt data).getD 0
    packetLossPercent := percentOf failedPings data.length
    successfulPings := .ofNat (data.countP fun r => r.success)
    failedPings := .ofNat failedPings
    domain := Stored.firstOf RawPingMetric.domain rows
    targetId := Stored.firstOf RawPingMetric.targetId rows }

def totalSamples (m : AggregatedPingMetric) : UInt32 :=
  m.successfulPings + m.failedPings

def generateAggregatedMetrics := generateFrom query totalSamples .ping .ping

end DbPing

namespace DbTcp

def query (rows : List (Stored RawTcpMetric)) : AggregatedTcpMetric :=
  let data := rows.map Stored.data
  let connectTime := fun r : RawTcpMetric => ofSuccess r.success r.connectTimeMs
  let failedConnections := data.countP fun r => !r.success
  { avgConnectTimeMs := (Sql.avg connectTime data).getD 0
    maxConnectTimeMs := (Sql.max connectTime data).getD 0
    minConnectTimeMs := (Sql.min connectTime data).getD 0
    failurePercent := percentOf failedConnections data.length
    successfulConnections := .ofNat (data.countP fun r => r.success)
    failedConnections := .ofNat failedConnections
    host := (Stored.firstOf (some ·.host) rows).getD ""
    targetId := Stored.firstOf RawTcpMetric.targetId rows }

def totalSamples (m : AggregatedTcpMetric) : UInt32 :=
  m.successfulConnections + m.failedConnections

def generateAggregatedMetrics := generateFrom query totalSamples .tcp .tcp

end DbTcp

namespace DbHttp

/-- `status_code_stmt`: `GROUP BY status_code`. -/
def statusCodeDistribution (data : List RawHttpMetric) : List (UInt16 × UInt32) :=
  (Sql.groupCount RawHttpMetric.statusCode data).map fun (code, count) => (code, .ofNat count)

def query (rows : List (Stored RawHttpMetric)) : AggregatedHttpMetric :=
  let data := rows.map Stored.data
  let ofSuccess := fun (e : RawHttpMetric → Option ℚ) r => ofSuccess r.success (e r)
  let successfulRequests := data.countP fun r => r.success
  { successRatePercent := percentOf successfulRequests data.length
    avgTcpTimingMs := (Sql.avg (ofSuccess (·.tcpTimingMs)) data).getD 0
    avgTlsTimingMs := (Sql.avg (ofSuccess (·.tlsTimingMs)) data).getD 0
    avgTtfbTimingMs := (Sql.avg (ofSuccess (·.ttfbTimingMs)) data).getD 0
    avgContentDownloadTimingMs :=
      (Sql.avg (ofSuccess (·.contentDownloadTimingMs)) data).getD 0
    avgTotalTimeMs := (Sql.avg (ofSuccess (·.totalTimeMs)) data).getD 0
    maxTotalTimeMs := (Sql.max (ofSuccess (·.totalTimeMs)) data).getD 0
    successfulRequests := .ofNat successfulRequests
    failedRequests := .ofNat (data.countP fun r => !r.success)
    statusCodeDistribution := statusCodeDistribution data
    sslValidPercent := (Sql.avg (fun r => r.sslValid.map Sql.indicator) data).map (· * 100)
    avgSslCertDaysUntilExpiry :=
      Sql.avg (fun r => r.sslCertDaysUntilExpiry.map (Int.cast : Int → ℚ)) data
    targetId := Stored.firstOf RawHttpMetric.targetId rows }

def totalSamples (m : AggregatedHttpMetric) : UInt32 :=
  m.successfulRequests + m.failedRequests

def generateAggregatedMetrics := generateFrom query totalSamples .httpGet .httpGet

end DbHttp

namespace DbTls

def query (rows : List (Stored RawTlsMetric)) : AggregatedTlsMetric :=
  let data := rows.map Stored.data
  let successfulChecks := data.countP fun r => r.success
  { successRatePercent := percentOf successfulChecks data.length
    avgTcpTimingMs := (Sql.avg (fun r => ofSuccess r.success r.tcpTimingMs) data).getD 0
    avgTlsTimingMs := (Sql.avg (fun r => ofSuccess r.success r.tlsTimingMs) data).getD 0
    successfulChecks := .ofNat successfulChecks
    failedChecks := .ofNat (data.countP fun r => !r.success)
    sslValidPercent :=
      ((Sql.avg (fun r => r.sslValid.map Sql.indicator) data).map (· * 100)).getD 0
    avgSslCertDaysUntilExpiry :=
      (Sql.avg (fun r => r.sslCertDaysUntilExpiry.map (Int.cast : Int → ℚ)) data).getD 0
    targetId := Stored.firstOf RawTlsMetric.targetId rows }

def totalSamples (m : AggregatedTlsMetric) : UInt32 :=
  m.successfulChecks + m.failedChecks

def generateAggregatedMetrics := generateFrom query totalSamples .tlsHandshake .tlsHandshake

end DbTls

namespace DbHttpContent

def query (rows : List (Stored RawHttpContentMetric)) : AggregatedHttpContentMetric :=
  let data := rows.map Stored.data
  let totalTime := fun r : RawHttpContentMetric => ofSuccess r.success r.totalTimeMs
  let totalSize := fun r : RawHttpContentMetric =>
    ofSuccess r.success (r.totalSize.map fun s => (i64OfU64 s : ℚ))
  let successfulRequests := data.countP fun r => r.success
  let regexpMatchedCount := data.countP fun r => r.success && r.regexpMatch = some true
  { successRatePercent := percentOf successfulRequests data.length
    avgTotalTimeMs := (Sql.avg totalTime data).getD 0
    maxTotalTimeMs := (Sql.max totalTime data).getD 0
    avgTotalSize := (Sql.avg totalSize data).getD 0
    regexpMatchRatePercent := percentOf regexpMatchedCount successfulRequests
    successfulRequests := .ofNat successfulRequests
    failedRequests := .ofNat (data.countP fun r => !r.success)
    regexpMatchedCount := .ofNat regexpMatchedCount
    targetId := Stored.firstOf RawHttpContentMetric.targetId rows }

def totalSamples (m : AggregatedHttpContentMetric) : UInt32 :=
  m.successfulRequests + m.failedRequests

def generateAggregatedMetrics := generateFrom query totalSamples .httpContent .httpContent

end DbHttpContent

namespace DbDns

/-- The second query: all addresses of the rows, each once. -/
def allResolvedAddresses (data : List RawDnsMetric) : List String :=
  ((Sql.values RawDnsMetric.resolvedAddresses data).dedup.flatten).dedup

def query (rows : List (Stored RawDnsMetric)) : AggregatedDnsMetric :=
  let data := rows.map Stored.data
  let queryTime := fun r : RawDnsMetric => ofSuccess r.success r.queryTimeMs
  let successfulQueries := data.countP fun r => r.success
  { successRatePercent := percentOf successfulQueries data.length
    avgQueryTimeMs := (Sql.avg queryTime data).getD 0
    maxQueryTimeMs := (Sql.max queryTime data).getD 0
    successfulQueries := .ofNat successfulQueries
    failedQueries := .ofNat (data.countP fun r => !r.success)
    allResolvedAddresses := allResolvedAddresses data
    domainQueried := (Sql.max (fun r => some r.domainQueried) data).getD "unknown"
    correctResolutionPercent :=
      ((Sql.avg (fun r => (some r.correctResolution).map Sql.indicator) data).map
        (· * 100)).getD 100
    targetId := Stored.firstOf RawDnsMetric.targetId rows }

def totalSamples (m : AggregatedDnsMetric) : UInt32 :=
  m.successfulQueries + m.failedQueries

def generateAggregatedMetrics := generateFrom query totalSamples .dnsQuery .dnsQuery

end DbDns

namespace DbBandwidth

def query (rows : List (Stored RawBandwidthMetric)) : AggregatedBandwidthMetric :=
  let data := rows.map Stored.data
  let bandwidth := fun r : RawBandwidthMetric => ofSuccess r.success r.bandwidthMbps
  { avgBandwidthMbps := (Sql.avg bandwidth data).getD 0
    maxBandwidthMbps := (Sql.max bandwidth data).getD 0
    minBandwidthMbps := (Sql.min bandwidth data).getD 0
    successfulTests := .ofNat (data.countP fun r => r.success)
    failedTests := .ofNat (data.countP fun r => !r.success)
    targetId := Stored.firstOf RawBandwidthMetric.targetId rows }

def totalSamples (m : AggregatedBandwidthMetric) : UInt32 :=
  m.successfulTests + m.failedTests

def generateAggregatedMetrics := generateFrom query totalSamples .bandwidth .bandwidth

end DbBandwidth

namespace DbSql

def query (rows : List (Stored RawSqlQueryMetric)) : AggregatedSqlQueryMetric :=
  let data := rows.map Stored.data
  let totalTime := fun r : RawSqlQueryMetric => ofSuccess r.success r.totalTimeMs
  let rowCount := fun r : RawSqlQueryMetric => ofSuccess r.success (r.rowCount.map i64OfU64)
  let value := fun r : RawSqlQueryMetric => ofSuccess r.success r.value
  let successfulQueries := data.countP fun r => r.success
  { successRatePercent := percentOf successfulQueries data.length
    avgTotalTimeMs := (Sql.avg totalTime data).getD 0
    maxTotalTimeMs := (Sql.max totalTime data).getD 0
    avgRowCount := (Sql.avg (fun r => (rowCount r).map (Int.cast : Int → ℚ)) data).getD 0
    maxRowCount := ((Sql.max rowCount data).bind u64OfI64).getD 0
    successfulQueries := .ofNat successfulQueries
    failedQueries := .ofNat (data.countP fun r => !r.success)
    targetId := Stored.firstOf RawSqlQueryMetric.targetId rows
    avgValue := Sql.avg value data
    minValue := Sql.min value data
    maxValue := Sql.max value data
    jsonTruncatedCount := .ofNat (data.countP fun r => r.jsonTruncated) }

def totalSamples (m : AggregatedSqlQueryMetric) : UInt32 :=
  m.successfulQueries + m.failedQueries

def generateAggregatedMetrics := generateFrom query totalSamples .sqlQuery .sqlQuery

end DbSql

namespace DbSnmp

def query (rows : List (Stored RawSnmpMetric)) : AggregatedSnmpMetric :=
  let data := rows.map Stored.data
  let successfulQueries := data.countP fun r => r.success
  { successRatePercent := percentOf successfulQueries data.length
    avgResponseTimeMs := (Sql.avg (fun r => ofSuccess r.success r.responseTimeMs) data).getD 0
    successfulQueries := .ofNat successfulQueries
    failedQueries := .ofNat (data.countP fun r => !r.success)
    -- the first success decides, also where its value is `NULL`
    firstValue := Stored.first RawSnmpMetric.success RawSnmpMetric.value rows
    firstValueType := Stored.first RawSnmpMetric.success RawSnmpMetric.valueType rows
    oidQueried := (Sql.max (fun r => some r.oidQueried) data).getD "unknown"
    targetId := Stored.firstOf RawSnmpMetric.targetId rows }

def totalSamples (m : AggregatedSnmpMetric) : UInt32 :=
  m.successfulQueries + m.failedQueries

def generateAggregatedMetrics := generateFrom query totalSamples .snmp .snmp

end DbSnmp

/-! ## The database -/

/-- The data of one kind of raw metric. -/
structure RawCase (α : Type) (kind : MetricKind) where
  get : RawMetricData → Option α
  isSome_get : ∀ data, data.kind = some kind → (get data).isSome

def pingCase : RawCase RawPingMetric .ping where
  get := fun | .ping data => some data | _ => none
  isSome_get := by intro data h; cases data <;> first | rfl | cases h

def tcpCase : RawCase RawTcpMetric .tcp where
  get := fun | .tcp data => some data | _ => none
  isSome_get := by intro data h; cases data <;> first | rfl | cases h

def httpCase : RawCase RawHttpMetric .http where
  get := fun | .httpGet data => some data | _ => none
  isSome_get := by intro data h; cases data <;> first | rfl | cases h

def tlsCase : RawCase RawTlsMetric .tls where
  get := fun | .tlsHandshake data => some data | _ => none
  isSome_get := by intro data h; cases data <;> first | rfl | cases h

def httpContentCase : RawCase RawHttpContentMetric .httpContent where
  get := fun | .httpContent data => some data | _ => none
  isSome_get := by intro data h; cases data <;> first | rfl | cases h

def dnsCase : RawCase RawDnsMetric .dns where
  get := fun | .dnsQuery data => some data | _ => none
  isSome_get := by intro data h; cases data <;> first | rfl | cases h

def bandwidthCase : RawCase RawBandwidthMetric .bandwidth where
  get := fun | .bandwidth data => some data | _ => none
  isSome_get := by intro data h; cases data <;> first | rfl | cases h

def sqlQueryCase : RawCase RawSqlQueryMetric .sqlQuery where
  get := fun | .sqlQuery data => some data | _ => none
  isSome_get := by intro data h; cases data <;> first | rfl | cases h

def snmpCase : RawCase RawSnmpMetric .snmp where
  get := fun | .snmp data => some data | _ => none
  isSome_get := by intro data h; cases data <;> first | rfl | cases h

/-- The rows of one kind. -/
def RawCase.table {α : Type} {kind : MetricKind} (c : RawCase α kind) (rows : List RawRow) :
    List (Stored α) :=
  rows.filterMap fun r => (c.get r.data).map fun data => ⟨r.taskName, r.timestamp, data⟩

/-- The sample count and the data that the query of a module gives. -/
def RawCase.columns {α β : Type} {kind : MetricKind} (c : RawCase α kind)
    (query : List (Stored α) → β) (samples : β → UInt32) (wrap : β → AggregatedMetricData)
    (rows : List RawRow) : UInt32 × AggregatedMetricData :=
  (samples (query (c.table rows)), wrap (query (c.table rows)))

def sqlColumns (kind : MetricKind) (rows : List RawRow) : UInt32 × AggregatedMetricData :=
  match kind with
  | .ping => pingCase.columns DbPing.query DbPing.totalSamples .ping rows
  | .tcp => tcpCase.columns DbTcp.query DbTcp.totalSamples .tcp rows
  | .http => httpCase.columns DbHttp.query DbHttp.totalSamples .httpGet rows
  | .tls => tlsCase.columns DbTls.query DbTls.totalSamples .tlsHandshake rows
  | .httpContent =>
    httpContentCase.columns DbHttpContent.query DbHttpContent.totalSamples .httpContent rows
  | .dns => dnsCase.columns DbDns.query DbDns.totalSamples .dnsQuery rows
  | .bandwidth => bandwidthCase.columns DbBandwidth.query DbBandwidth.totalSamples .bandwidth rows
  | .sqlQuery => sqlQueryCase.columns DbSql.query DbSql.totalSamples .sqlQuery rows
  | .snmp => snmpCase.columns DbSnmp.query DbSnmp.totalSamples .snmp rows

def sqlSummary : Summary where
  sampleCount := fun kind rows => (sqlColumns kind rows).1
  data := fun kind rows => (sqlColumns kind rows).2
  kind_data := by
    intro kind rows
    cases kind <;> rfl

namespace AgentDatabase

def rawRows (db : AgentDatabase) (kind : MetricKind) : List RawRow :=
  (db.raw kind).rows.map Prod.snd

/-- `generate_aggregated_metrics`, by the type of the task. -/
def generateByModule (db : AgentDatabase) (taskName : String) (taskType : TaskType)
    (periodStart periodEnd : Nat) : Option AggregatedMetrics :=
  match taskType with
  | .ping =>
    DbPing.generateAggregatedMetrics (pingCase.table (db.rawRows .ping)) taskName periodStart
      periodEnd
  | .tcp =>
    DbTcp.generateAggregatedMetrics (tcpCase.table (db.rawRows .tcp)) taskName periodStart periodEnd
  | .httpGet =>
    DbHttp.generateAggregatedMetrics (httpCase.table (db.rawRows .http)) taskName periodStart
      periodEnd
  | .tlsHandshake =>
    DbTls.generateAggregatedMetrics (tlsCase.table (db.rawRows .tls)) taskName periodStart periodEnd
  | .httpContent =>
    DbHttpContent.generateAggregatedMetrics (httpContentCase.table (db.rawRows .httpContent))
      taskName periodStart periodEnd
  | .dnsQuery | .dnsQueryDoh =>
    DbDns.generateAggregatedMetrics (dnsCase.table (db.rawRows .dns)) taskName periodStart periodEnd
  | .bandwidth =>
    DbBandwidth.generateAggregatedMetrics (bandwidthCase.table (db.rawRows .bandwidth)) taskName
      periodStart periodEnd
  | .sqlQuery =>
    DbSql.generateAggregatedMetrics (sqlQueryCase.table (db.rawRows .sqlQuery)) taskName periodStart
      periodEnd
  | .snmp =>
    DbSnmp.generateAggregatedMetrics (snmpCase.table (db.rawRows .snmp)) taskName periodStart
      periodEnd

/-- Every raw table has rows of its kind. -/
def Typed (db : AgentDatabase) : Prop :=
  ∀ kind, ∀ r ∈ (db.raw kind).rows, r.2.data.kind = some kind

end AgentDatabase

/-! ## Lemmas -/

theorem RawCase.filter_table {α : Type} {kind : MetricKind} (c : RawCase α kind)
    (taskName : String) (periodStart periodEnd : Nat) (rows : List RawRow) :
    (c.table rows).filter (Stored.inWindow taskName periodStart periodEnd) =
      c.table (rows.filter fun r => r.taskName = taskName &&
        (periodStart ≤ r.timestamp && r.timestamp < periodEnd)) := by
  unfold table
  rw [List.filter_filterMap, List.filterMap_filter]
  refine List.filterMap_congr fun r _ => ?_
  cases c.get r.data with
  | none => simp
  | some data => rfl

theorem RawCase.length_table {α : Type} {kind : MetricKind} (c : RawCase α kind)
    {rows : List RawRow} (h : ∀ r ∈ rows, r.data.kind = some kind) :
    (c.table rows).length = rows.length := by
  unfold table
  rw [List.length_filterMap_eq_countP, List.countP_eq_length]
  intro r hr
  rw [Option.isSome_map]
  exact c.isSome_get r.data (h r hr)

namespace AgentDatabase

variable {db : AgentDatabase}

theorem map_window (db : AgentDatabase) (kind : MetricKind) (taskName : String)
    (periodStart periodEnd : Nat) :
    (db.window kind taskName periodStart periodEnd).map Prod.snd =
      (db.rawRows kind).filter fun r => r.taskName = taskName &&
        (periodStart ≤ r.timestamp && r.timestamp < periodEnd) := by
  unfold window rawRows
  rw [List.filter_map]
  rfl

/-- One module generates what the database does for its kind. -/
theorem generateFrom_table {α β : Type} {kind : MetricKind} (c : RawCase α kind)
    (h : ∀ r ∈ (db.raw kind).rows, r.2.data.kind = some kind) {query : List (Stored α) → β}
    {samples : β → UInt32} {wrap : β → AggregatedMetricData}
    (hcolumns : ∀ rows, sqlColumns kind rows = c.columns query samples wrap rows)
    {taskType : TaskType} (hkind : taskType.kind = kind) (taskName : String)
    (periodStart periodEnd : Nat) :
    db.generateAggregatedMetrics sqlSummary taskName taskType periodStart periodEnd =
      generateFrom query samples kind.taskType wrap (c.table (db.rawRows kind)) taskName
        periodStart periodEnd := by
  subst hkind
  have hrows : ∀ r ∈ db.rawRows taskType.kind, r.data.kind = some taskType.kind := by
    intro r hr
    obtain ⟨x, hx, rfl⟩ := List.mem_map.1 hr
    exact h x hx
  unfold generateAggregatedMetrics generateFrom
  dsimp only
  rw [c.filter_table, map_window]
  generalize hw : (db.rawRows taskType.kind).filter _ = rows
  have hlen : (c.table rows).length = rows.length :=
    c.length_table fun r hr => hrows r (List.mem_of_mem_filter (hw ▸ hr))
  by_cases h0 : rows = []
  · subst h0
    rfl
  · rw [if_neg h0, if_neg (fun h => h0 (List.length_eq_zero_iff.1 (hlen ▸ h)))]
    show some (AggregatedMetrics.mk _ _ _ _ (sqlColumns _ _).1 (sqlColumns _ _).2) = _
    rw [hcolumns]
    rfl

/-- The database generates what the module of the task's type does. -/
theorem generateAggregatedMetrics_eq (h : db.Typed) (taskName : String) (taskType : TaskType)
    (periodStart periodEnd : Nat) :
    db.generateAggregatedMetrics sqlSummary taskName taskType periodStart periodEnd =
      db.generateByModule taskName taskType periodStart periodEnd := by
  cases taskType with
  | ping => exact generateFrom_table pingCase (h _) (fun _ => rfl) rfl _ _ _
  | tcp => exact generateFrom_table tcpCase (h _) (fun _ => rfl) rfl _ _ _
  | httpGet => exact generateFrom_table httpCase (h _) (fun _ => rfl) rfl _ _ _
  | httpContent => exact generateFrom_table httpContentCase (h _) (fun _ => rfl) rfl _ _ _
  | tlsHandshake => exact generateFrom_table tlsCase (h _) (fun _ => rfl) rfl _ _ _
  | dnsQuery => exact generateFrom_table dnsCase (h _) (fun _ => rfl) rfl _ _ _
  | dnsQueryDoh => exact generateFrom_table dnsCase (h _) (fun _ => rfl) rfl _ _ _
  | bandwidth => exact generateFrom_table bandwidthCase (h _) (fun _ => rfl) rfl _ _ _
  | sqlQuery => exact generateFrom_table sqlQueryCase (h _) (fun _ => rfl) rfl _ _ _
  | snmp => exact generateFrom_table snmpCase (h _) (fun _ => rfl) rfl _ _ _

/-! ## Runs -/

theorem typed_initial : initial.Typed := fun _ _ h => (List.not_mem_nil h).elim

theorem Typed.stores {db' : AgentDatabase} {metrics : List MetricData} (h : db.Typed)
    (hs : db.Stores db' metrics) : db'.Typed := by
  intro kind r hr
  obtain ⟨rows, hrows, hmap, -, -⟩ := hs.raw kind
  rw [hrows, List.mem_append] at hr
  rcases hr with hr | hr
  · exact h kind r hr
  · have hrow := List.mem_map_of_mem (f := Prod.snd) hr
    rw [hmap] at hrow
    obtain ⟨metric, hm, hrm⟩ := List.mem_map.1 hrow
    rw [← hrm]
    exact of_decide_eq_true (List.mem_filter.1 hm).2

end AgentDatabase

/-- **In every state** of an agent that aggregates by the queries of its modules, the database
generates what the module of the task's type does. -/
theorem generates_of_run {config : AgentConfig} {tasksConfig : TasksConfig} {t₀ : Nat}
    {tr : List AgentStep} {s : Nat × Agent}
    (hr : Run (agentMachine config sqlSummary tasksConfig t₀) tr s) (taskName : String)
    (taskType : TaskType) (periodStart periodEnd : Nat) :
    s.2.db.generateAggregatedMetrics sqlSummary taskName taskType periodStart periodEnd =
      s.2.db.generateByModule taskName taskType periodStart periodEnd := by
  refine AgentDatabase.generateAggregatedMetrics_eq ?_ _ _ _ _
  refine Run.invariant (I := fun s => s.2.db.Typed) AgentDatabase.typed_initial ?_ hr
  intro s a s' b hI hs
  rw [agentMachine, Machine.clocked_step_iff] at hs
  obtain ⟨-, hs, -⟩ := hs
  obtain ⟨s₁, hnext, hs₁⟩ := Option.map_eq_some_iff.1 hs
  obtain rfl := (Prod.mk.inj hs₁).1
  rcases Agent.next_stores hnext with hstores | ⟨done, -, -, hdb⟩
  · exact hI.stores hstores
  · intro kind r hr
    rw [hdb] at hr
    exact hI kind r ((s.2.db.cleanupOldData_raw _ _ _ kind).2.1 r hr)

end LinkSense
