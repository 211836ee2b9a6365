import LinkSense.Agent.Database
import LinkSense.Json
import LinkSense.Rows
import LinkSense.Shared.Wire

/-!
# The columns of the agent's aggregates

The nine metric modules of `agent/src/database/`, with the columns of their tables and statements.
A module writes its own column lists for `INSERT` and for `SELECT`, binds the fields of an aggregate
by position and reads them back by index; the first four columns are the same in all of them.

    the positions that a module reads, of those that it wrote       (order_dbPing and its siblings)
    what a module stores, it loads                                             (Matches.load_store)
    an aggregate is stored, enqueued and fetched by its queue entry as it was
                                                          (fetch_storeAndEnqueueAggregatedMetrics)
-/

namespace LinkSense

open Sql Wire

/-! ## Tables -/

/-- The columns that every table of aggregates begins with, after its id. -/
def periodColumns : List Column :=
  [.required "task_name" .text,
   .required "period_start" .integer,
   .required "period_end" .integer,
   .required "sample_count" .integer]

/-- The other columns (`create_tables` of the nine modules). -/
def MetricKind.columns : MetricKind → List Column
  | .ping =>
    [.required "avg_latency_ms" .real,
     .required "max_latency_ms" .real,
     .required "min_latency_ms" .real,
     .required "packet_loss_percent" .real,
     .required "successful_pings" .integer,
     .required "failed_pings" .integer,
     .optional "domain" .text,
     .optional "target_id" .text]
  | .tcp =>
    [.required "avg_connect_time_ms" .real,
     .required "max_connect_time_ms" .real,
     .required "min_connect_time_ms" .real,
     .required "failure_percent" .real,
     .required "successful_connections" .integer,
     .required "failed_connections" .integer,
     .optional "host" .text,
     .optional "target_id" .text]
  | .http =>
    [.required "success_rate_percent" .real,
     .required "avg_tcp_timing_ms" .real,
     .optional "avg_tls_timing_ms" .real,
     .required "avg_ttfb_timing_ms" .real,
     .required "avg_content_download_timing_ms" .real,
     .required "avg_total_time_ms" .real,
     .required "max_total_time_ms" .real,
     .required "successful_requests" .integer,
     .required "failed_requests" .integer,
     .required "status_code_distribution" .text,
     .optional "ssl_valid_percent" .real,
     .optional "avg_ssl_cert_days_until_expiry" .real,
     .optional "target_id" .text]
  | .tls =>
    [.required "success_rate_percent" .real,
     .required "avg_tcp_timing_ms" .real,
     .required "avg_tls_timing_ms" .real,
     .required "successful_checks" .integer,
     .required "failed_checks" .integer,
     .optional "ssl_valid_percent" .real,
     .optional "avg_ssl_cert_days_until_expiry" .real,
     .optional "target_id" .text]
  | .httpContent =>
    [.required "success_rate_percent" .real,
     .required "avg_total_time_ms" .real,
     .required "max_total_time_ms" .real,
     .required "avg_total_size" .real,
     .required "regexp_match_rate_percent" .real,
     .required "successful_requests" .integer,
     .required "failed_requests" .integer,
     .required "regexp_matched_count" .integer,
     .optional "target_id" .text]
  | .dns =>
    [.required "success_rate_percent" .real,
     .required "avg_query_time_ms" .real,
     .required "max_query_time_ms" .real,
     .required "successful_queries" .integer,
     .required "failed_queries" .integer,
     .optional "all_resolved_addresses" .text,
     .required "domain_queried" .text,
     .defaulted "correct_resolution_percent" .real (.real 100),
     .optional "target_id" .text]
  | .bandwidth =>
    [.required "avg_bandwidth_mbps" .real,
     .required "max_bandwidth_mbps" .real,
     .required "min_bandwidth_mbps" .real,
     .required "successful_tests" .integer,
     .required "failed_tests" .integer,
     .optional "target_id" .text]
  | .sqlQuery =>
    [.required "success_rate_percent" .real,
     .required "avg_total_time_ms" .real,
     .required "max_total_time_ms" .real,
     .required "avg_row_count" .real,
     .required "max_row_count" .integer,
     .required "successful_queries" .integer,
     .required "failed_queries" .integer,
     .optional "target_id" .text,
     .optional "avg_value" .real,
     .optional "min_value" .real,
     .optional "max_value" .real,
     .defaulted "json_truncated_count" .integer (.integer 0)]
  | .snmp =>
    [.required "success_rate_percent" .real,
     .required "avg_response_time_ms" .real,
     .required "successful_queries" .integer,
     .required "failed_queries" .integer,
     .optional "first_value" .text,
     .optional "first_value_type" .text,
     .required "oid_queried" .text,
     .optional "target_id" .text]

def MetricKind.schema (kind : MetricKind) : List Column := periodColumns ++ kind.columns

/-- `UNIQUE(task_name, period_start, period_end)`. -/
def periodKey : List String := ["task_name", "period_start", "period_end"]

structure AgentTables where
  agg : (kind : MetricKind) → Table (uniqueKey kind.schema periodKey)
  queue : SendQueue

/-! ## Modules -/

/-- `as i64`. -/
def asI64 (n : Nat) : Int := (n : Int).bmod (2 ^ 64)

/-- `as u64`. -/
def asU64 (n : Int) : Nat := (n % 2 ^ 64).toNat

/-- JSON as text (`serde_json`). -/
structure JsonText where
  write : Json → String
  read : String → Option Json

/-- What the first four columns are called in the statements. -/
def periodNames : List String := ["task_name", "period_start", "period_end", "sample_count"]

/-- How a module binds the fields of its aggregates and reads them from a row. -/
structure MetricModule (α : Type) where
  kind : MetricKind
  data : α → AggregatedMetricData
  inserted : List String
  params : α → List Value
  selected : List String
  read : List Value → Except SqlError α

namespace MetricModule

variable {α : Type} (m : MetricModule α)

/-- The parameters of `INSERT`. -/
def rowParams (metrics : AggregatedMetrics) (data : α) : List Value :=
  [toSql metrics.taskName, toSql (asI64 metrics.periodStart), toSql (asI64 metrics.periodEnd),
    toSql metrics.sampleCount] ++ m.params data

/-- `store_aggregated_metric`, with the id of the new row. -/
def storeAggregatedMetric (tables : AgentTables) (metrics : AggregatedMetrics) (data : α) :
    Except SqlError (AgentTables × Nat) := do
  let (table, id) ← insertOrReplaceInto (tables.agg m.kind) (periodNames ++ m.inserted)
    (m.rowParams metrics data)
  return ({ tables with agg := Function.update tables.agg m.kind table }, id)

/-- What is made of a row that is found. -/
def readRow (row : List Value) : Except SqlError AggregatedMetrics := do
  return {
    taskName := ← getAt row 0
    taskType := m.kind.taskType
    periodStart := asU64 (← getAt row 1)
    periodEnd := asU64 (← getAt row 2)
    sampleCount := ← getAt row 3
    data := m.data (← m.read row) }

/-- `load_aggregated_metric`. -/
def loadAggregatedMetric (tables : AgentTables) (rowId : Nat) :
    Except SqlError (Option AggregatedMetrics) :=
  match selectById (tables.agg m.kind) (periodNames ++ m.selected) rowId with
  | .error e => .error e
  | .ok none => .ok none
  | .ok (some row) => (m.readRow row).map some

end MetricModule

/-- `db_ping`. -/
def dbPing : MetricModule AggregatedPingMetric where
  kind := .ping
  data := .ping
  inserted := ["avg_latency_ms", "max_latency_ms", "min_latency_ms", "packet_loss_percent",
    "successful_pings", "failed_pings", "domain", "target_id"]
  params data := [toSql data.avgLatencyMs, toSql data.maxLatencyMs, toSql data.minLatencyMs,
    toSql data.packetLossPercent, toSql data.successfulPings, toSql data.failedPings,
    toSql data.domain, toSql data.targetId]
  selected := ["avg_latency_ms", "min_latency_ms", "max_latency_ms", "packet_loss_percent",
    "successful_pings", "failed_pings", "domain", "target_id"]
  read row := do
    return {
      avgLatencyMs := ← getAt row 4
      minLatencyMs := ← getAt row 5
      maxLatencyMs := ← getAt row 6
      packetLossPercent := ← getAt row 7
      successfulPings := ← getAt row 8
      failedPings := ← getAt row 9
      domain := (getAt row 10).toOption
      targetId := (getAt row 11).toOption }

/-- `db_tcp`. -/
def dbTcp : MetricModule AggregatedTcpMetric where
  kind := .tcp
  data := .tcp
  inserted := ["avg_connect_time_ms", "max_connect_time_ms", "min_connect_time_ms",
    "failure_percent", "successful_connections", "failed_connections", "host", "target_id"]
  params data := [toSql data.avgConnectTimeMs, toSql data.maxConnectTimeMs,
    toSql data.minConnectTimeMs, toSql data.failurePercent, toSql data.successfulConnections,
    toSql data.failedConnections, toSql data.host, toSql data.targetId]
  selected := ["avg_connect_time_ms", "min_connect_time_ms", "max_connect_time_ms",
    "failure_percent", "successful_connections", "failed_connections", "host", "target_id"]
  read row := do
    return {
      avgConnectTimeMs := ← getAt row 4
      minConnectTimeMs := ← getAt row 5
      maxConnectTimeMs := ← getAt row 6
      failurePercent := ← getAt row 7
      successfulConnections := ← getAt row 8
      failedConnections := ← getAt row 9
      host := (getAt row 10).toOption.getD ""
      targetId := (getAt row 11).toOption }

/-- The text of a map of status codes: an array of pairs. -/
def statusCodeJson (distribution : List (UInt16 × UInt32)) : Json :=
  (Codec.uint16.pair .uint32).list.encode distribution

/-- `db_http`. -/
def dbHttp (json : JsonText) : MetricModule AggregatedHttpMetric where
  kind := .http
  data := .httpGet
  inserted := ["success_rate_percent", "avg_tcp_timing_ms", "avg_tls_timing_ms",
    "avg_ttfb_timing_ms", "avg_content_download_timing_ms", "avg_total_time_ms",
    "max_total_time_ms", "successful_requests", "failed_requests", "status_code_distribution",
    "ssl_valid_percent", "avg_ssl_cert_days_until_expiry", "target_id"]
  params data := [toSql data.successRatePercent, toSql data.avgTcpTimingMs,
    toSql data.avgTlsTimingMs, toSql data.avgTtfbTimingMs, toSql data.avgContentDownloadTimingMs,
    toSql data.avgTotalTimeMs, toSql data.maxTotalTimeMs, toSql data.successfulRequests,
    toSql data.failedRequests, toSql (json.write (statusCodeJson data.statusCodeDistribution)),
    toSql data.sslValidPercent, toSql data.avgSslCertDaysUntilExpiry, toSql data.targetId]
  selected := ["success_rate_percent", "avg_tcp_timing_ms", "avg_tls_timing_ms",
    "avg_ttfb_timing_ms", "avg_content_download_timing_ms", "avg_total_time_ms",
    "max_total_time_ms", "successful_requests", "failed_requests", "status_code_distribution",
    "ssl_valid_percent", "avg_ssl_cert_days_until_expiry", "target_id"]
  read row := do
    let statusCodeJson : String ← getAt row 13
    let statusCodeVec :=
      ((json.read statusCodeJson).bind (Codec.uint16.pair .uint32).list.decode).getD []
    return {
      successRatePercent := ← getAt row 4
      avgTcpTimingMs := ← getAt row 5
      avgTlsTimingMs := ← getAt row 6
      avgTtfbTimingMs := ← getAt row 7
      avgContentDownloadTimingMs := ← getAt row 8
      avgTotalTimeMs := ← getAt row 9
      maxTotalTimeMs := ← getAt row 10
      successfulRequests := ← getAt row 11
      failedRequests := ← getAt row 12
      statusCodeDistribution := Codec.collect statusCodeVec
      sslValidPercent := (getAt row 14).toOption
      avgSslCertDaysUntilExpiry := (getAt row 15).toOption
      targetId := (getAt row 16).toOption }

/-- `db_tls`. -/
def dbTls : MetricModule AggregatedTlsMetric where
  kind := .tls
  data := .tlsHandshake
  inserted := ["success_rate_percent", "avg_tcp_timing_ms", "avg_tls_timing_ms",
    "successful_checks", "failed_checks", "ssl_valid_percent", "avg_ssl_cert_days_until_expiry",
    "target_id"]
  params data := [toSql data.successRatePercent, toSql data.avgTcpTimingMs,
    toSql data.avgTlsTimingMs, toSql data.successfulChecks, toSql data.failedChecks,
    toSql data.sslValidPercent, toSql data.avgSslCertDaysUntilExpiry, toSql data.targetId]
  selected := ["success_rate_percent", "avg_tcp_timing_ms", "avg_tls_timing_ms",
    "successful_checks", "failed_checks", "ssl_valid_percent", "avg_ssl_cert_days_until_expiry",
    "target_id"]
  read row := do
    return {
      successRatePercent := ← getAt row 4
      avgTcpTimingMs := ← getAt row 5
      avgTlsTimingMs := ← getAt row 6
      successfulChecks := ← getAt row 7
      failedChecks := ← getAt row 8
      sslValidPercent := ← getAt row 9
      avgSslCertDaysUntilExpiry := ← getAt row 10
      targetId := (getAt row 11).toOption }

/-- `db_http_content`. -/
def dbHttpContent : MetricModule AggregatedHttpContentMetric where
  kind := .httpContent
  data := .httpContent
  inserted := ["success_rate_percent", "avg_total_time_ms", "max_total_time_ms", "avg_total_size",
    "regexp_match_rate_percent", "successful_requests", "failed_requests", "regexp_matched_count",
    "target_id"]
  params data := [toSql data.successRatePercent, toSql data.avgTotalTimeMs,
    toSql data.maxTotalTimeMs, toSql data.avgTotalSize, toSql data.regexpMatchRatePercent,
    toSql data.successfulRequests, toSql data.failedRequests, toSql data.regexpMatchedCount,
    toSql data.targetId]
  selected := ["success_rate_percent", "avg_total_time_ms", "max_total_time_ms", "avg_total_size",
    "regexp_match_rate_percent", "successful_requests", "failed_requests", "regexp_matched_count",
    "target_id"]
  read row := do
    return {
      successRatePercent := ← getAt row 4
      avgTotalTimeMs := ← getAt row 5
      maxTotalTimeMs := ← getAt row 6
      avgTotalSize := ← getAt row 7
      regexpMatchRatePercent := ← getAt row 8
      successfulRequests := ← getAt row 9
      failedRequests := ← getAt row 10
      regexpMatchedCount := ← getAt row 11
      targetId := (getAt row 12).toOption }

/-- `db_dns`. -/
def dbDns (json : JsonText) : MetricModule AggregatedDnsMetric where
  kind := .dns
  data := .dnsQuery
  inserted := ["success_rate_percent", "avg_query_time_ms", "max_query_time_ms",
    "successful_queries", "failed_queries", "all_resolved_addresses", "domain_queried",
    "correct_resolution_percent", "target_id"]
  params data := [toSql data.successRatePercent, toSql data.avgQueryTimeMs,
    toSql data.maxQueryTimeMs, toSql data.successfulQueries, toSql data.failedQueries,
    toSql (json.write ((Codec.set .string).encode data.allResolvedAddresses)),
    toSql data.domainQueried, toSql data.correctResolutionPercent, toSql data.targetId]
  selected := ["success_rate_percent", "avg_query_time_ms", "max_query_time_ms",
    "successful_queries", "failed_queries", "all_resolved_addresses", "domain_queried",
    "correct_resolution_percent", "target_id"]
  read row := do
    let allAddressesJson : String := (getAt row 9).toOption.getD "[]"
    let allResolvedAddresses :=
      ((json.read allAddressesJson).bind (Codec.set .string).decode).getD []
    return {
      successRatePercent := ← getAt row 4
      avgQueryTimeMs := ← getAt row 5
      maxQueryTimeMs := ← getAt row 6
      successfulQueries := ← getAt row 7
      failedQueries := ← getAt row 8
      allResolvedAddresses := allResolvedAddresses
      domainQueried := ← getAt row 10
      correctResolutionPercent := ← getAt row 11
      targetId := (getAt row 12).toOption }

/-- `db_bandwidth`. -/
def dbBandwidth : MetricModule AggregatedBandwidthMetric where
  kind := .bandwidth
  data := .bandwidth
  inserted := ["avg_bandwidth_mbps", "max_bandwidth_mbps", "min_bandwidth_mbps",
    "successful_tests", "failed_tests", "target_id"]
  params data := [toSql data.avgBandwidthMbps, toSql data.maxBandwidthMbps,
    toSql data.minBandwidthMbps, toSql data.successfulTests, toSql data.failedTests,
    toSql data.targetId]
  selected := ["avg_bandwidth_mbps", "max_bandwidth_mbps", "min_bandwidth_mbps",
    "successful_tests", "failed_tests", "target_id"]
  read row := do
    return {
      avgBandwidthMbps := ← getAt row 4
      maxBandwidthMbps := ← getAt row 5
      minBandwidthMbps := ← getAt row 6
      successfulTests := ← getAt row 7
      failedTests := ← getAt row 8
      targetId := (getAt row 9).toOption }

/-- `db_sql`. -/
def dbSql : MetricModule AggregatedSqlQueryMetric where
  kind := .sqlQuery
  data := .sqlQuery
  inserted := ["success_rate_percent", "avg_total_time_ms", "max_total_time_ms", "avg_row_count",
    "max_row_count", "successful_queries", "failed_queries", "target_id", "avg_value", "min_value",
    "max_value", "json_truncated_count"]
  params data := [toSql data.successRatePercent, toSql data.avgTotalTimeMs,
    toSql data.maxTotalTimeMs, toSql data.avgRowCount, toSql (asI64 data.maxRowCount.toNat),
    toSql data.successfulQueries, toSql data.failedQueries, toSql data.targetId,
    toSql data.avgValue, toSql data.minValue, toSql data.maxValue, toSql data.jsonTruncatedCount]
  selected := ["success_rate_percent", "avg_total_time_ms", "max_total_time_ms", "avg_row_count",
    "max_row_count", "successful_queries", "failed_queries", "target_id", "avg_value", "min_value",
    "max_value", "json_truncated_count"]
  read row := do
    return {
      successRatePercent := ← getAt row 4
      avgTotalTimeMs := ← getAt row 5
      maxTotalTimeMs := ← getAt row 6
      avgRowCount := ← getAt row 7
      maxRowCount := ← getAt row 8
      successfulQueries := ← getAt row 9
      failedQueries := ← getAt row 10
      targetId := (getAt row 11).toOption
      avgValue := (getAt row 12).toOption
      minValue := (getAt row 13).toOption
      maxValue := (getAt row 14).toOption
      jsonTruncatedCount := UInt32.ofInt ((getAt row 15).toOption.getD 0) }

/-- `db_snmp`. -/
def dbSnmp : MetricModule AggregatedSnmpMetric where
  kind := .snmp
  data := .snmp
  inserted := ["success_rate_percent", "avg_response_time_ms", "successful_queries",
    "failed_queries", "first_value", "first_value_type", "oid_queried", "target_id"]
  params data := [toSql data.successRatePercent, toSql data.avgResponseTimeMs,
    toSql data.successfulQueries, toSql data.failedQueries, toSql data.firstValue,
    toSql data.firstValueType, toSql data.oidQueried, toSql data.targetId]
  selected := ["success_rate_percent", "avg_response_time_ms", "successful_queries",
    "failed_queries", "first_value", "first_value_type", "oid_queried", "target_id"]
  read row := do
    return {
      successRatePercent := ← getAt row 4
      avgResponseTimeMs := ← getAt row 5
      successfulQueries := ← getAt row 6
      failedQueries := ← getAt row 7
      firstValue := (getAt row 8).toOption
      firstValueType := (getAt row 9).toOption
      oidQueried := ← getAt row 10
      targetId := (getAt row 11).toOption }

/-! ## The database -/

inductive DatabaseError where
  | sql (e : SqlError)
  | other (message : String)
deriving DecidableEq, Repr

namespace AgentTables

variable (json : JsonText) (tables : AgentTables)

def empty : AgentTables := ⟨fun _ => .empty _, .empty _⟩

/-- The match of `store_and_enqueue_aggregated_metrics`. -/
def storeAggregatedMetric (metrics : AggregatedMetrics) :
    Except DatabaseError (AgentTables × Nat) :=
  match metrics.data with
  | .ping data => (dbPing.storeAggregatedMetric tables metrics data).mapError .sql
  | .tcp data => (dbTcp.storeAggregatedMetric tables metrics data).mapError .sql
  | .httpGet data => ((dbHttp json).storeAggregatedMetric tables metrics data).mapError .sql
  | .tlsHandshake data => (dbTls.storeAggregatedMetric tables metrics data).mapError .sql
  | .httpContent data => (dbHttpContent.storeAggregatedMetric tables metrics data).mapError .sql
  | .dnsQuery data => ((dbDns json).storeAggregatedMetric tables metrics data).mapError .sql
  | .bandwidth data => (dbBandwidth.storeAggregatedMetric tables metrics data).mapError .sql
  | .sqlQuery data => (dbSql.storeAggregatedMetric tables metrics data).mapError .sql
  | .snmp data => (dbSnmp.storeAggregatedMetric tables metrics data).mapError .sql
  | .unknown => .error (.other "Unknown metric type cannot be stored")

/-- `enqueue_metric_for_send`. -/
def enqueueMetricForSend (now : Nat) (metric : AggregatedMetrics) (metricRowId : Nat) :
    Except DatabaseError AgentTables :=
  match SendQueue.enqueueMetricForSend tables.queue now metric metricRowId with
  | .error e => .error (.other e)
  | .ok queue => .ok { tables with queue := queue }

/-- `store_and_enqueue_aggregated_metrics`. -/
def storeAndEnqueueAggregatedMetrics (now : Nat) (metrics : AggregatedMetrics) :
    Except DatabaseError (AgentTables × Nat) := do
  let (tables, rowId) ← tables.storeAggregatedMetric json metrics
  let tables ← tables.enqueueMetricForSend now metrics rowId
  return (tables, rowId)

/-- `load_aggregated_metric` of the module of a kind. -/
def loadAggregatedMetric (kind : MetricKind) (rowId : Nat) :
    Except SqlError (Option AggregatedMetrics) :=
  match kind with
  | .ping => dbPing.loadAggregatedMetric tables rowId
  | .tcp => dbTcp.loadAggregatedMetric tables rowId
  | .http => (dbHttp json).loadAggregatedMetric tables rowId
  | .tls => dbTls.loadAggregatedMetric tables rowId
  | .httpContent => dbHttpContent.loadAggregatedMetric tables rowId
  | .dns => (dbDns json).loadAggregatedMetric tables rowId
  | .bandwidth => dbBandwidth.loadAggregatedMetric tables rowId
  | .sqlQuery => dbSql.loadAggregatedMetric tables rowId
  | .snmp => dbSnmp.loadAggregatedMetric tables rowId

/-- `fetch_metric_by_type_and_id`. -/
def fetchMetricByTypeAndId (metricType : String) (rowId : Nat) :
    Except DatabaseError (Option AggregatedMetrics) :=
  match kindOfQueueType metricType with
  | none => .error (.other s!"Unknown metric type: {metricType}")
  | some kind => (tables.loadAggregatedMetric json kind rowId).mapError .sql

end AgentTables

/-! ## Lemmas -/

theorem asU64_asI64 {n : Nat} (h : n < 2 ^ 64) : asU64 (asI64 n) = n := by
  show (Int.bmod n (2 ^ 64) % ((2 ^ 64 : Nat) : Int)).toNat = n
  rw [Int.bmod_emod]
  omega

theorem asI64_of_lt {n : Nat} (h : n < 2 ^ 63) : asI64 n = n := by
  unfold asI64
  apply Int.bmod_eq_of_le
  · omega
  · omega

/-- A `u64` that fits an `i64` is read as a `u64`. -/
theorem column_maxRowCount (i : Nat) {n : UInt64} (h : n.toNat < 2 ^ 63) :
    column i (some (toSql (asI64 n.toNat))) = .ok n := by
  rw [asI64_of_lt h]
  exact column_of_fromSql i (fromSql_uint64 n)

/-- A `u32` is read as an `i64` and cast. -/
theorem ofInt_column_uint32 (i : Nat) (n : UInt32) :
    UInt32.ofInt ((column i (some (toSql n)) : Except SqlError Int).toOption.getD 0) = n := by
  show UInt32.ofInt n.toNat = n
  have := n.toNat_lt
  have hmod : (n.toNat : Int) % 2 ^ 32 = n.toNat := by omega
  unfold UInt32.ofInt
  rw [hmod, Int.toNat_natCast, UInt32.ofNat_toNat]

theorem nodup_schema (kind : MetricKind) : (kind.schema.map Column.name).Nodup := by
  cases kind <;> decide

theorem order_periodNames (kind : MetricKind) : order kind.schema periodNames = [0, 1, 2, 3] := rfl

namespace MetricModule

variable {α : Type} {m : MetricModule α} {a : α}

/-- The columns that the statements of a module name are those of its table. -/
structure Names (m : MetricModule α) : Prop where
  inserted_eq : m.inserted = m.kind.columns.map Column.name
  selected_mem : ∀ name ∈ m.selected, name ∈ m.kind.columns.map Column.name

/-- What a module binds suits its columns, and its reader takes it back. -/
structure Matches (m : MetricModule α) (a : α) : Prop where
  names : m.Names
  suits : List.Forall₂ Column.Suits m.kind.columns (m.params a)
  read_selected : ∀ v₀ v₁ v₂ v₃ : Value, m.read ([v₀, v₁, v₂, v₃] ++
    (order m.kind.schema m.selected).map fun i => ([v₀, v₁, v₂, v₃] ++ m.params a).getD i .null) =
      .ok a

theorem Names.columns_inserted (h : m.Names) :
    periodNames ++ m.inserted = m.kind.schema.map Column.name := by
  rw [h.inserted_eq]
  show _ = (periodColumns ++ m.kind.columns).map Column.name
  rw [List.map_append]
  rfl

theorem Names.mem_selected (h : m.Names) {name : String}
    (hname : name ∈ periodNames ++ m.selected) : name ∈ m.kind.schema.map Column.name := by
  rw [← h.columns_inserted, h.inserted_eq]
  rw [List.mem_append] at hname ⊢
  exact hname.imp_right (h.selected_mem name)

theorem rowParams_suit (h : List.Forall₂ Column.Suits m.kind.columns (m.params a))
    (metrics : AggregatedMetrics) :
    List.Forall₂ Column.Suits m.kind.schema (m.rowParams metrics a) := by
  show List.Forall₂ Column.Suits (periodColumns ++ m.kind.columns) _
  unfold periodColumns rowParams
  simpa using h

/-- The columns that are read, in the order that they are bound in. -/
theorem Matches.readRow_selected (h : m.Matches a) {metrics : AggregatedMetrics}
    (hstart : metrics.periodStart < 2 ^ 64) (hend : metrics.periodEnd < 2 ^ 64)
    (htype : metrics.taskType = m.kind.taskType) (hdata : metrics.data = m.data a) :
    m.readRow ((order m.kind.schema (periodNames ++ m.selected)).map fun i =>
      (m.rowParams metrics a).getD i .null) = .ok metrics := by
  have horder : order m.kind.schema (periodNames ++ m.selected) =
      [0, 1, 2, 3] ++ order m.kind.schema m.selected := by
    rw [← order_periodNames m.kind]
    exact List.map_append
  have hread : m.read ([toSql metrics.taskName, toSql (asI64 metrics.periodStart),
      toSql (asI64 metrics.periodEnd), toSql metrics.sampleCount] ++
        (order m.kind.schema m.selected).map fun i => (m.rowParams metrics a).getD i .null) =
      .ok a := h.read_selected _ _ _ _
  rw [horder, List.map_append]
  show m.readRow ([toSql metrics.taskName, toSql (asI64 metrics.periodStart),
    toSql (asI64 metrics.periodEnd), toSql metrics.sampleCount] ++ _) = _
  unfold readRow
  rw [hread]
  simp only [getAt, List.cons_append, List.getElem?_cons_succ, List.getElem?_cons_zero,
    column_toSql, ok_bind, asU64_asI64 hstart, asU64_asI64 hend, ← htype, ← hdata]
  rfl

/-- What suits the columns is stored. -/
theorem Names.store_eq (h : m.Names)
    (hsuits : List.Forall₂ Column.Suits m.kind.columns (m.params a)) (tables : AgentTables)
    (metrics : AggregatedMetrics) :
    m.storeAggregatedMetric tables metrics a = .ok
      (⟨Function.update tables.agg m.kind
        ((tables.agg m.kind).insertOrReplace (m.rowParams metrics a)).1, tables.queue⟩,
        ((tables.agg m.kind).insertOrReplace (m.rowParams metrics a)).2) := by
  unfold storeAggregatedMetric
  have hsuits := rowParams_suit hsuits metrics
  rw [h.columns_inserted, insertOrReplaceInto_names _ (nodup_schema m.kind) hsuits]
  rfl

theorem Matches.load_eq (h : m.Matches a) {tables : AgentTables} {metrics : AggregatedMetrics}
    (hstart : metrics.periodStart < 2 ^ 64) (hend : metrics.periodEnd < 2 ^ 64)
    (htype : metrics.taskType = m.kind.taskType) (hdata : metrics.data = m.data a) {id : Nat}
    (hrow : (tables.agg m.kind).get id = some (m.rowParams metrics a)) :
    m.loadAggregatedMetric tables id = .ok (some metrics) := by
  unfold loadAggregatedMetric
  rw [selectById_of_get _ (fun _ => h.names.mem_selected) hrow]
  dsimp only
  rw [h.readRow_selected hstart hend htype hdata]
  rfl

/-- **What a module stores, it loads.** -/
theorem Matches.load_store (h : m.Matches a) (tables : AgentTables) {metrics : AggregatedMetrics}
    (hstart : metrics.periodStart < 2 ^ 64) (hend : metrics.periodEnd < 2 ^ 64)
    (htype : metrics.taskType = m.kind.taskType) (hdata : metrics.data = m.data a) :
    ∃ tables' id, m.storeAggregatedMetric tables metrics a = .ok (tables', id) ∧
      m.loadAggregatedMetric tables' id = .ok (some metrics) := by
  refine ⟨_, _, h.names.store_eq h.suits tables metrics, h.load_eq hstart hend htype hdata ?_⟩
  dsimp only
  rw [Function.update_self]
  exact Table.get_insertOrReplace _ _

end MetricModule

/-! ## The nine modules -/

theorem dbPing_names : dbPing.Names := ⟨rfl, by decide⟩

theorem order_dbPing : order dbPing.kind.schema dbPing.selected = [4, 6, 5, 7, 8, 9, 10, 11] := by
  decide

theorem dbPing_matches (a : AggregatedPingMetric) : dbPing.Matches a where
  names := dbPing_names
  suits := by simp [dbPing, MetricKind.columns]
  read_selected := by
    intro v₀ v₁ v₂ v₃
    rw [order_dbPing]
    simp [dbPing, getAt, ok_bind, pure_eq_ok]

theorem dbTcp_names : dbTcp.Names := ⟨rfl, by decide⟩

theorem order_dbTcp : order dbTcp.kind.schema dbTcp.selected = [4, 6, 5, 7, 8, 9, 10, 11] := by
  decide

theorem dbTcp_matches (a : AggregatedTcpMetric) : dbTcp.Matches a where
  names := dbTcp_names
  suits := by simp [dbTcp, MetricKind.columns]
  read_selected := by
    intro v₀ v₁ v₂ v₃
    rw [order_dbTcp]
    simp [dbTcp, getAt, ok_bind, pure_eq_ok, toOption_ok]

theorem dbHttp_names (json : JsonText) : (dbHttp json).Names := by
  refine ⟨rfl, ?_⟩
  dsimp only [dbHttp]
  decide

theorem order_dbHttp (json : JsonText) :
    order (dbHttp json).kind.schema (dbHttp json).selected =
      [4, 5, 6, 7, 8, 9, 10, 11, 12, 13, 14, 15, 16] := by
  dsimp only [dbHttp]
  decide

theorem dbHttp_matches (json : JsonText) (a : AggregatedHttpMetric)
    (hkeys : (a.statusCodeDistribution.map Prod.fst).Nodup)
    (hjson : json.read (json.write (statusCodeJson a.statusCodeDistribution)) =
      some (statusCodeJson a.statusCodeDistribution)) : (dbHttp json).Matches a where
  names := dbHttp_names json
  suits := by simp [dbHttp, MetricKind.columns]
  read_selected := by
    intro v₀ v₁ v₂ v₃
    have hdecode : (Codec.uint16.pair .uint32).list.decode
        (statusCodeJson a.statusCodeDistribution) = some a.statusCodeDistribution :=
      Codec.decode_encode_of_accepts _ (by simp) (by simp)
    rw [order_dbHttp]
    simp [dbHttp, getAt, ok_bind, pure_eq_ok, hjson, hdecode, Codec.collect_of_nodup hkeys]

theorem dbTls_names : dbTls.Names := ⟨rfl, by decide⟩

theorem order_dbTls :
    order dbTls.kind.schema dbTls.selected = [4, 5, 6, 7, 8, 9, 10, 11] := by
  decide

theorem dbTls_matches (a : AggregatedTlsMetric) : dbTls.Matches a where
  names := dbTls_names
  suits := by simp [dbTls, MetricKind.columns]
  read_selected := by
    intro v₀ v₁ v₂ v₃
    rw [order_dbTls]
    simp [dbTls, getAt, ok_bind, pure_eq_ok]

theorem dbHttpContent_names : dbHttpContent.Names := ⟨rfl, by decide⟩

theorem order_dbHttpContent :
    order dbHttpContent.kind.schema dbHttpContent.selected = [4, 5, 6, 7, 8, 9, 10, 11, 12] := by
  decide

theorem dbHttpContent_matches (a : AggregatedHttpContentMetric) : dbHttpContent.Matches a where
  names := dbHttpContent_names
  suits := by simp [dbHttpContent, MetricKind.columns]
  read_selected := by
    intro v₀ v₁ v₂ v₃
    rw [order_dbHttpContent]
    simp [dbHttpContent, getAt, ok_bind, pure_eq_ok]

theorem dbDns_names (json : JsonText) : (dbDns json).Names := by
  refine ⟨rfl, ?_⟩
  dsimp only [dbDns]
  decide

theorem order_dbDns (json : JsonText) :
    order (dbDns json).kind.schema (dbDns json).selected = [4, 5, 6, 7, 8, 9, 10, 11, 12] := by
  dsimp only [dbDns]
  decide

theorem dbDns_matches (json : JsonText) (a : AggregatedDnsMetric)
    (haddresses : a.allResolvedAddresses.Nodup)
    (hjson : json.read (json.write ((Codec.set .string).encode a.allResolvedAddresses)) =
      some ((Codec.set .string).encode a.allResolvedAddresses)) : (dbDns json).Matches a where
  names := dbDns_names json
  suits := by simp [dbDns, MetricKind.columns]
  read_selected := by
    intro v₀ v₁ v₂ v₃
    have hdecode : (Codec.set .string).decode ((Codec.set .string).encode a.allResolvedAddresses) =
        some a.allResolvedAddresses :=
      Codec.decode_encode_of_accepts _ (by simpa using haddresses) (by simp)
    rw [order_dbDns]
    simp [dbDns, getAt, ok_bind, pure_eq_ok, toOption_ok, hjson, hdecode]

theorem dbBandwidth_names : dbBandwidth.Names := ⟨rfl, by decide⟩

theorem order_dbBandwidth :
    order dbBandwidth.kind.schema dbBandwidth.selected = [4, 5, 6, 7, 8, 9] := by
  decide

theorem dbBandwidth_matches (a : AggregatedBandwidthMetric) : dbBandwidth.Matches a where
  names := dbBandwidth_names
  suits := by simp [dbBandwidth, MetricKind.columns]
  read_selected := by
    intro v₀ v₁ v₂ v₃
    rw [order_dbBandwidth]
    simp [dbBandwidth, getAt, ok_bind, pure_eq_ok]

theorem dbSql_names : dbSql.Names := ⟨rfl, by decide⟩

theorem order_dbSql :
    order dbSql.kind.schema dbSql.selected = [4, 5, 6, 7, 8, 9, 10, 11, 12, 13, 14, 15] := by
  decide

theorem dbSql_matches (a : AggregatedSqlQueryMetric) (hrows : a.maxRowCount.toNat < 2 ^ 63) :
    dbSql.Matches a where
  names := dbSql_names
  suits := by simp [dbSql, MetricKind.columns]
  read_selected := by
    intro v₀ v₁ v₂ v₃
    rw [order_dbSql]
    simp [dbSql, getAt, ok_bind, pure_eq_ok, column_maxRowCount _ hrows, ofInt_column_uint32]

theorem dbSnmp_names : dbSnmp.Names := ⟨rfl, by decide⟩

theorem order_dbSnmp :
    order dbSnmp.kind.schema dbSnmp.selected = [4, 5, 6, 7, 8, 9, 10, 11] := by
  decide

theorem dbSnmp_matches (a : AggregatedSnmpMetric) : dbSnmp.Matches a where
  names := dbSnmp_names
  suits := by simp [dbSnmp, MetricKind.columns]
  read_selected := by
    intro v₀ v₁ v₂ v₃
    rw [order_dbSnmp]
    simp [dbSnmp, getAt, ok_bind, pure_eq_ok]

/-! ## The round trip -/

/-- Its counts fit an `i64` column. -/
def AggregatedMetricData.FitsColumns : AggregatedMetricData → Prop
  | .sqlQuery data => data.maxRowCount.toNat < 2 ^ 63
  | _ => True

/-- What is stored of it as JSON text. -/
def AggregatedMetricData.jsonColumns : AggregatedMetricData → List Json
  | .httpGet data => [statusCodeJson data.statusCodeDistribution]
  | .dnsQuery data => [(Codec.set .string).encode data.allResolvedAddresses]
  | _ => []

theorem AgentDatabase.generateAggregatedMetrics_spec {summary : Summary} {db : AgentDatabase}
    {taskName : String} {taskType : TaskType} {periodStart periodEnd : Nat} {m : AggregatedMetrics}
    (h : db.generateAggregatedMetrics summary taskName taskType periodStart periodEnd = some m) :
    m.taskType = taskType.kind.taskType ∧ m.data.kind = some taskType.kind := by
  unfold generateAggregatedMetrics at h
  dsimp only at h
  split at h
  · cases h
  · obtain rfl := Option.some.inj h
    exact ⟨rfl, summary.kind_data _ _⟩

/-- What the module of its kind binds for an aggregate. -/
def AggregatedMetricData.params (json : JsonText) : AggregatedMetricData → List Value
  | .ping data => dbPing.params data
  | .tcp data => dbTcp.params data
  | .httpGet data => (dbHttp json).params data
  | .httpContent data => dbHttpContent.params data
  | .tlsHandshake data => dbTls.params data
  | .dnsQuery data => (dbDns json).params data
  | .bandwidth data => dbBandwidth.params data
  | .sqlQuery data => dbSql.params data
  | .snmp data => dbSnmp.params data
  | .unknown => []

/-- The module that the dispatches choose for an aggregate. -/
structure Dispatched (json : JsonText) (data : AggregatedMetricData) {α : Type}
    (module : MetricModule α) (a : α) : Prop where
  matched : module.Matches a
  data_eq : data = module.data a
  params_eq : data.params json = module.params a
  store : ∀ (tables : AgentTables) (metrics : AggregatedMetrics), metrics.data = data →
    tables.storeAggregatedMetric json metrics =
      (module.storeAggregatedMetric tables metrics a).mapError .sql
  load : ∀ tables : AgentTables,
    tables.loadAggregatedMetric json module.kind = module.loadAggregatedMetric tables

/-- **The nine variants**: each has its module, whose statements match. -/
theorem exists_module {json : JsonText} {data : AggregatedMetricData} {kind : MetricKind}
    (hkind : data.kind = some kind) (hdata : data.WellFormed) (hfits : data.FitsColumns)
    (hjson : ∀ j ∈ data.jsonColumns, json.read (json.write j) = some j) :
    ∃ (α : Type) (module : MetricModule α) (a : α),
      module.kind = kind ∧ Dispatched json data module a := by
  have hstore {α : Type} {module : MetricModule α} {a : α}
      (h : ∀ tables taskName taskType periodStart periodEnd sampleCount,
        AgentTables.storeAggregatedMetric json tables
          ⟨taskName, taskType, periodStart, periodEnd, sampleCount, data⟩ =
        (module.storeAggregatedMetric tables
          ⟨taskName, taskType, periodStart, periodEnd, sampleCount, data⟩ a).mapError .sql)
      (tables : AgentTables) (metrics : AggregatedMetrics) (hm : metrics.data = data) :
      tables.storeAggregatedMetric json metrics =
        (module.storeAggregatedMetric tables metrics a).mapError .sql := by
    obtain ⟨taskName, taskType, periodStart, periodEnd, sampleCount, data'⟩ := metrics
    obtain rfl : data' = data := hm
    exact h tables taskName taskType periodStart periodEnd sampleCount
  cases data with
  | ping data =>
    exact ⟨_, dbPing, data, Option.some.inj hkind, dbPing_matches data, rfl, rfl,
      hstore fun _ _ _ _ _ _ => rfl, fun _ => rfl⟩
  | tcp data =>
    exact ⟨_, dbTcp, data, Option.some.inj hkind, dbTcp_matches data, rfl, rfl,
      hstore fun _ _ _ _ _ _ => rfl, fun _ => rfl⟩
  | httpGet data =>
    have hmatches := dbHttp_matches json data hdata (hjson _ List.mem_cons_self)
    exact ⟨_, dbHttp json, data, Option.some.inj hkind, hmatches, rfl, rfl,
      hstore fun _ _ _ _ _ _ => rfl, fun _ => rfl⟩
  | httpContent data =>
    exact ⟨_, dbHttpContent, data, Option.some.inj hkind, dbHttpContent_matches data, rfl, rfl,
      hstore fun _ _ _ _ _ _ => rfl, fun _ => rfl⟩
  | tlsHandshake data =>
    exact ⟨_, dbTls, data, Option.some.inj hkind, dbTls_matches data, rfl, rfl,
      hstore fun _ _ _ _ _ _ => rfl, fun _ => rfl⟩
  | dnsQuery data =>
    have hmatches := dbDns_matches json data hdata (hjson _ List.mem_cons_self)
    exact ⟨_, dbDns json, data, Option.some.inj hkind, hmatches, rfl, rfl,
      hstore fun _ _ _ _ _ _ => rfl, fun _ => rfl⟩
  | bandwidth data =>
    exact ⟨_, dbBandwidth, data, Option.some.inj hkind, dbBandwidth_matches data, rfl, rfl,
      hstore fun _ _ _ _ _ _ => rfl, fun _ => rfl⟩
  | sqlQuery data =>
    exact ⟨_, dbSql, data, Option.some.inj hkind, dbSql_matches data hfits, rfl, rfl,
      hstore fun _ _ _ _ _ _ => rfl, fun _ => rfl⟩
  | snmp data =>
    exact ⟨_, dbSnmp, data, Option.some.inj hkind, dbSnmp_matches data, rfl, rfl,
      hstore fun _ _ _ _ _ _ => rfl, fun _ => rfl⟩
  | unknown => cases hkind

namespace AgentTables

variable {json : JsonText} (tables : AgentTables) {m : AggregatedMetrics}

theorem store_load {kind : MetricKind} (htype : m.taskType = kind.taskType)
    (hkind : m.data.kind = some kind) (hm : m.WellFormed) (hfits : m.data.FitsColumns)
    (hjson : ∀ j ∈ m.data.jsonColumns, json.read (json.write j) = some j) :
    ∃ tables' id, tables.storeAggregatedMetric json m = .ok (tables', id) ∧
      tables'.loadAggregatedMetric json kind id = .ok (some m) := by
  obtain ⟨hstart, hend, hdata⟩ := hm
  obtain ⟨α, module, a, rfl, hmodule⟩ := exists_module hkind hdata hfits hjson
  obtain ⟨tables', id, hstored, hloaded⟩ :=
    hmodule.matched.load_store tables hstart hend htype hmodule.data_eq
  refine ⟨tables', id, ?_, ?_⟩
  · rw [hmodule.store tables m rfl, hstored]
    rfl
  · rw [hmodule.load, hloaded]

/-- An entry with the type of the metric's kind and its row id is in the queue afterwards. -/
theorem exists_entry {kind : MetricKind} (hkind : m.data.kind = some kind) (now id : Nat) :
    ∃ tables', tables.enqueueMetricForSend now m id = .ok tables' ∧ tables'.agg = tables.agg ∧
      ∃ e ∈ tables'.queue.values, e.metricType = kind.queueType ∧ e.metricRowId = id := by
  unfold enqueueMetricForSend SendQueue.enqueueMetricForSend
  rw [hkind]
  refine ⟨_, rfl, rfl, ?_⟩
  rcases Table.insertOrIgnore_eq tables.queue (SendQueue.newEntry now kind m id) with
    ⟨k, hk, hmem, heq⟩ | ⟨hnew, heq⟩
  · dsimp only
    rw [heq]
    obtain ⟨r, hr, hkey⟩ := (Table.mem_keys_iff _ _).1 hmem
    refine ⟨r.2, List.mem_map_of_mem hr, ?_⟩
    have hsame : (r.2.metricType, r.2.metricRowId) = (kind.queueType, id) :=
      Option.some.inj (hkey.trans hk.symm)
    exact ⟨congrArg Prod.fst hsame, congrArg Prod.snd hsame⟩
  · dsimp only
    rw [heq]
    refine ⟨SendQueue.newEntry now kind m id, ?_, rfl, rfl⟩
    rw [Table.values_append]
    exact List.mem_append_right _ List.mem_cons_self

theorem loadAggregatedMetric_congr {tables tables' : AgentTables} (h : tables'.agg = tables.agg)
    (kind : MetricKind) (id : Nat) :
    tables'.loadAggregatedMetric json kind id = tables.loadAggregatedMetric json kind id := by
  obtain ⟨agg, queue⟩ := tables
  obtain ⟨agg', queue'⟩ := tables'
  obtain rfl : agg' = agg := h
  cases kind <;> rfl

/-- **The round trip of an aggregate**: it is stored and enqueued, and what is fetched by the type
and the row id of its entry is the aggregate itself. -/
theorem fetch_storeAndEnqueueAggregatedMetrics (json : JsonText) (tables : AgentTables) (now : Nat)
    {summary : Summary} {db : AgentDatabase} {taskName : String} {taskType : TaskType}
    {periodStart periodEnd : Nat} {m : AggregatedMetrics}
    (hgenerated :
      db.generateAggregatedMetrics summary taskName taskType periodStart periodEnd = some m)
    (hm : m.WellFormed) (hfits : m.data.FitsColumns)
    (hjson : ∀ j ∈ m.data.jsonColumns, json.read (json.write j) = some j) :
    ∃ tables' id, tables.storeAndEnqueueAggregatedMetrics json now m = .ok (tables', id) ∧
      (∃ e ∈ tables'.queue.values,
        m.data.kind.map MetricKind.queueType = some e.metricType ∧ e.metricRowId = id) ∧
      ∀ e ∈ tables'.queue.values,
        m.data.kind.map MetricKind.queueType = some e.metricType → e.metricRowId = id →
          tables'.fetchMetricByTypeAndId json e.metricType e.metricRowId = .ok (some m) := by
  obtain ⟨htype, hkind⟩ := AgentDatabase.generateAggregatedMetrics_spec hgenerated
  obtain ⟨stored, id, hstore, hload⟩ :=
    tables.store_load htype hkind hm hfits hjson
  obtain ⟨tables', henqueue, hagg, e, he, hetype, heid⟩ :=
    stored.exists_entry hkind now id
  rw [hkind, Option.map_some]
  refine ⟨tables', id, ?_, ⟨e, he, by rw [hetype], heid⟩, fun e _ hetype heid => ?_⟩
  · unfold storeAndEnqueueAggregatedMetrics
    rw [hstore, ok_bind]
    dsimp only
    rw [henqueue]
    rfl
  · unfold fetchMetricByTypeAndId
    rw [← Option.some.inj hetype, heid, kindOfQueueType_queueType]
    dsimp only
    rw [loadAggregatedMetric_congr hagg, hload]
    rfl

/-- The aggregate of one request that was answered with 200. -/
def exampleHttpMetric : AggregatedHttpMetric where
  successRatePercent := 100
  avgTcpTimingMs := 5 / 2
  avgTlsTimingMs := 0
  avgTtfbTimingMs := 40
  avgContentDownloadTimingMs := 3
  avgTotalTimeMs := 91 / 2
  maxTotalTimeMs := 91 / 2
  successfulRequests := 1
  failedRequests := 0
  statusCodeDistribution := [(200, 1)]
  sslValidPercent := none
  avgSslCertDaysUntilExpiry := some 30
  targetId := none

/-- Columns of an `http` aggregate as given, the others left empty. -/
def httpSummary (metric : AggregatedHttpMetric) : Summary where
  sampleCount := fun _ rows => UInt32.ofNat rows.length
  data := fun
    | .ping, _ => .ping default
    | .tcp, _ => .tcp default
    | .http, _ => .httpGet metric
    | .tls, _ => .tlsHandshake default
    | .httpContent, _ => .httpContent default
    | .dns, _ => .dnsQuery default
    | .bandwidth, _ => .bandwidth default
    | .sqlQuery, _ => .sqlQuery default
    | .snmp, _ => .snmp default
  kind_data := by
    intro kind rows
    cases kind <;> rfl

/-- The text of one pair of numbers. -/
def pairText : JsonText where
  write
    | .arr [.arr [.int 200, .int 1]] => "[[200,1]]"
    | _ => "[]"
  read
    | "[[200,1]]" => some (.arr [.arr [.int 200, .int 1]])
    | "[]" => some (.arr [])
    | _ => none

/-- The request itself. -/
def exampleRequest : RawHttpMetric where
  statusCode := some 200
  tcpTimingMs := some (5 / 2)
  tlsTimingMs := none
  ttfbTimingMs := some 40
  contentDownloadTimingMs := some 3
  totalTimeMs := some (91 / 2)
  success := true
  error := none
  sslValid := none
  sslCertDaysUntilExpiry := some 30
  targetId := none

/-- A database with the request as its one raw row. -/
def oneRequest : AgentDatabase :=
  { AgentDatabase.initial with
    raw := Function.update AgentDatabase.initial.raw .http
      ((Table.empty RawRow.key).insertOrIgnore ⟨"web", 65, .httpGet exampleRequest⟩) }

theorem fetch_storeAndEnqueueAggregatedMetrics_http :
    ∃ m tables id, oneRequest.generateAggregatedMetrics (httpSummary exampleHttpMetric) "web"
        .httpGet 60 120 = some m ∧
      AgentTables.empty.storeAndEnqueueAggregatedMetrics pairText 120 m = .ok (tables, id) ∧
      ∃ e ∈ tables.queue.values,
        tables.fetchMetricByTypeAndId pairText e.metricType e.metricRowId = .ok (some m) := by
  have hgenerated : oneRequest.generateAggregatedMetrics (httpSummary exampleHttpMetric) "web"
      .httpGet 60 120 = some ⟨"web", .httpGet, 60, 120, 1, .httpGet exampleHttpMetric⟩ := rfl
  have hkeys : (exampleHttpMetric.statusCodeDistribution.map Prod.fst).Nodup := by decide
  obtain ⟨tables, id, hstore, ⟨e, he, hetype, heid⟩, hfetch⟩ :=
    fetch_storeAndEnqueueAggregatedMetrics pairText AgentTables.empty 120 hgenerated
      ⟨by decide, by decide, hkeys⟩ trivial (by
        intro j hj
        rw [List.mem_singleton.1 hj]
        rfl)
  exact ⟨_, tables, id, hgenerated, hstore, e, he, hfetch e he hetype heid⟩

end AgentTables

end LinkSense
