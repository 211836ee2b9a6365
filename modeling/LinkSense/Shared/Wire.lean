import LinkSense.Json
import LinkSense.Shared.Api

/-!
# The metrics request on the wire

How agent and server write and read a `MetricsRequest` as JSON (the `serde` derives of
`shared/src/metrics.rs`, `shared/src/config.rs` and `shared/src/api.rs`).  A build has some of the
optional features; the types of tasks depend on them, the kinds of aggregates do not.

    a request with proper keys is read as what it was, when the reader's build has the type of each
      metric in it, and refused otherwise                                  (decode_metricsRequest)
-/

namespace LinkSense

open Wire Wire.Fields

/-! ## Builds -/

/-- The optional features of a build. -/
structure Features where
  sqlTasks : Bool
  snmpTasks : Bool
deriving DecidableEq, Repr

/-- The variant is part of the build. -/
def TaskType.enabled (features : Features) : TaskType → Bool
  | .sqlQuery => features.sqlTasks
  | .snmp => features.snmpTasks
  | _ => true

/-- The variant's name in snake case. -/
def TaskType.wireName : TaskType → String
  | .ping => "ping"
  | .tcp => "tcp"
  | .httpGet => "http_get"
  | .httpContent => "http_content"
  | .tlsHandshake => "tls_handshake"
  | .dnsQuery => "dns_query"
  | .dnsQueryDoh => "dns_query_doh"
  | .bandwidth => "bandwidth"
  | .sqlQuery => "sql_query"
  | .snmp => "snmp"

def TaskType.all : List TaskType :=
  [.ping, .tcp, .httpGet, .httpContent, .tlsHandshake, .dnsQuery, .dnsQueryDoh, .bandwidth,
    .sqlQuery, .snmp]

/-- A name of no variant of the build is an error. -/
def TaskType.codec (features : Features) : Codec TaskType where
  encode t := .str t.wireName
  decode
    | .str s => TaskType.all.find? fun t => t.enabled features && t.wireName == s
    | _ => none
  valid _ := True
  accepts := TaskType.enabled features
  encode_ne_null := by simp
  decode_encode := by
    obtain ⟨sqlTasks, snmpTasks⟩ := features
    intro t _
    cases sqlTasks <;> cases snmpTasks <;> cases t <;> decide

/-! ## Aggregates -/

def AggregatedPingMetric.fields : Fields AggregatedPingMetric :=
  ((field "avg_latency_ms" .float).and <|
    (field "max_latency_ms" .float).and <|
    (field "min_latency_ms" .float).and <|
    (field "packet_loss_percent" .float).and <|
    (field "successful_pings" .uint32).and <|
    (field "failed_pings" .uint32).and <|
    (nullable "domain" .string).and <|
    (skipped "target_id" .string)).iso
    (fun (a, b, c, d, e, f, g, h) => ⟨a, b, c, d, e, f, g, h⟩)
    (fun m => (m.avgLatencyMs, m.maxLatencyMs, m.minLatencyMs, m.packetLossPercent,
      m.successfulPings, m.failedPings, m.domain, m.targetId))
    (fun _ => rfl)

def AggregatedTcpMetric.fields : Fields AggregatedTcpMetric :=
  ((field "avg_connect_time_ms" .float).and <|
    (field "max_connect_time_ms" .float).and <|
    (field "min_connect_time_ms" .float).and <|
    (field "failure_percent" .float).and <|
    (field "successful_connections" .uint32).and <|
    (field "failed_connections" .uint32).and <|
    (field "host" .string).and <|
    (skipped "target_id" .string)).iso
    (fun (a, b, c, d, e, f, g, h) => ⟨a, b, c, d, e, f, g, h⟩)
    (fun m => (m.avgConnectTimeMs, m.maxConnectTimeMs, m.minConnectTimeMs, m.failurePercent,
      m.successfulConnections, m.failedConnections, m.host, m.targetId))
    (fun _ => rfl)

def AggregatedHttpMetric.fields : Fields AggregatedHttpMetric :=
  ((field "success_rate_percent" .float).and <|
    (field "avg_tcp_timing_ms" .float).and <|
    (field "avg_tls_timing_ms" .float).and <|
    (field "avg_ttfb_timing_ms" .float).and <|
    (field "avg_content_download_timing_ms" .float).and <|
    (field "avg_total_time_ms" .float).and <|
    (field "max_total_time_ms" .float).and <|
    (field "successful_requests" .uint32).and <|
    (field "failed_requests" .uint32).and <|
    (field "status_code_distribution" (.map .uint16 .uint32)).and <|
    (nullable "ssl_valid_percent" .float).and <|
    (nullable "avg_ssl_cert_days_until_expiry" .float).and <|
    (skipped "target_id" .string)).iso
    (fun (a, b, c, d, e, f, g, h, i, j, k, l, m) => ⟨a, b, c, d, e, f, g, h, i, j, k, l, m⟩)
    (fun m => (m.successRatePercent, m.avgTcpTimingMs, m.avgTlsTimingMs, m.avgTtfbTimingMs,
      m.avgContentDownloadTimingMs, m.avgTotalTimeMs, m.maxTotalTimeMs, m.successfulRequests,
      m.failedRequests, m.statusCodeDistribution, m.sslValidPercent, m.avgSslCertDaysUntilExpiry,
      m.targetId))
    (fun _ => rfl)

def AggregatedTlsMetric.fields : Fields AggregatedTlsMetric :=
  ((field "success_rate_percent" .float).and <|
    (field "avg_tcp_timing_ms" .float).and <|
    (field "avg_tls_timing_ms" .float).and <|
    (field "successful_checks" .uint32).and <|
    (field "failed_checks" .uint32).and <|
    (field "ssl_valid_percent" .float).and <|
    (field "avg_ssl_cert_days_until_expiry" .float).and <|
    (skipped "target_id" .string)).iso
    (fun (a, b, c, d, e, f, g, h) => ⟨a, b, c, d, e, f, g, h⟩)
    (fun m => (m.successRatePercent, m.avgTcpTimingMs, m.avgTlsTimingMs, m.successfulChecks,
      m.failedChecks, m.sslValidPercent, m.avgSslCertDaysUntilExpiry, m.targetId))
    (fun _ => rfl)

def AggregatedHttpContentMetric.fields : Fields AggregatedHttpContentMetric :=
  ((field "success_rate_percent" .float).and <|
    (field "avg_total_time_ms" .float).and <|
    (field "max_total_time_ms" .float).and <|
    (field "avg_total_size" .float).and <|
    (field "regexp_match_rate_percent" .float).and <|
    (field "successful_requests" .uint32).and <|
    (field "failed_requests" .uint32).and <|
    (field "regexp_matched_count" .uint32).and <|
    (skipped "target_id" .string)).iso
    (fun (a, b, c, d, e, f, g, h, i) => ⟨a, b, c, d, e, f, g, h, i⟩)
    (fun m => (m.successRatePercent, m.avgTotalTimeMs, m.maxTotalTimeMs, m.avgTotalSize,
      m.regexpMatchRatePercent, m.successfulRequests, m.failedRequests, m.regexpMatchedCount,
      m.targetId))
    (fun _ => rfl)

def AggregatedDnsMetric.fields : Fields AggregatedDnsMetric :=
  ((field "success_rate_percent" .float).and <|
    (field "avg_query_time_ms" .float).and <|
    (field "max_query_time_ms" .float).and <|
    (field "successful_queries" .uint32).and <|
    (field "failed_queries" .uint32).and <|
    (field "all_resolved_addresses" (.set .string)).and <|
    (field "domain_queried" .string).and <|
    (field "correct_resolution_percent" .float).and <|
    (skipped "target_id" .string)).iso
    (fun (a, b, c, d, e, f, g, h, i) => ⟨a, b, c, d, e, f, g, h, i⟩)
    (fun m => (m.successRatePercent, m.avgQueryTimeMs, m.maxQueryTimeMs, m.successfulQueries,
      m.failedQueries, m.allResolvedAddresses, m.domainQueried, m.correctResolutionPercent,
      m.targetId))
    (fun _ => rfl)

def AggregatedBandwidthMetric.fields : Fields AggregatedBandwidthMetric :=
  ((field "avg_bandwidth_mbps" .float).and <|
    (field "max_bandwidth_mbps" .float).and <|
    (field "min_bandwidth_mbps" .float).and <|
    (field "successful_tests" .uint32).and <|
    (field "failed_tests" .uint32).and <|
    (skipped "target_id" .string)).iso
    (fun (a, b, c, d, e, f) => ⟨a, b, c, d, e, f⟩)
    (fun m => (m.avgBandwidthMbps, m.maxBandwidthMbps, m.minBandwidthMbps, m.successfulTests,
      m.failedTests, m.targetId))
    (fun _ => rfl)

def AggregatedSqlQueryMetric.fields : Fields AggregatedSqlQueryMetric :=
  ((field "success_rate_percent" .float).and <|
    (field "avg_total_time_ms" .float).and <|
    (field "max_total_time_ms" .float).and <|
    (field "avg_row_count" .float).and <|
    (field "max_row_count" .uint64).and <|
    (field "successful_queries" .uint32).and <|
    (field "failed_queries" .uint32).and <|
    (skipped "target_id" .string).and <|
    (skipped "avg_value" .float).and <|
    (skipped "min_value" .float).and <|
    (skipped "max_value" .float).and <|
    (defaulted "json_truncated_count" .uint32 0)).iso
    (fun (a, b, c, d, e, f, g, h, i, j, k, l) => ⟨a, b, c, d, e, f, g, h, i, j, k, l⟩)
    (fun m => (m.successRatePercent, m.avgTotalTimeMs, m.maxTotalTimeMs, m.avgRowCount,
      m.maxRowCount, m.successfulQueries, m.failedQueries, m.targetId, m.avgValue, m.minValue,
      m.maxValue, m.jsonTruncatedCount))
    (fun _ => rfl)

def AggregatedSnmpMetric.fields : Fields AggregatedSnmpMetric :=
  ((field "success_rate_percent" .float).and <|
    (field "avg_response_time_ms" .float).and <|
    (field "successful_queries" .uint32).and <|
    (field "failed_queries" .uint32).and <|
    (nullable "first_value" .string).and <|
    (nullable "first_value_type" .string).and <|
    (field "oid_queried" .string).and <|
    (skipped "target_id" .string)).iso
    (fun (a, b, c, d, e, f, g, h) => ⟨a, b, c, d, e, f, g, h⟩)
    (fun m => (m.successRatePercent, m.avgResponseTimeMs, m.successfulQueries, m.failedQueries,
      m.firstValue, m.firstValueType, m.oidQueried, m.targetId))
    (fun _ => rfl)

/-- The object with its `type`, which no variant depends on the build for. -/
def AggregatedMetricData.toFields : AggregatedMetricData → List (String × Json)
  | .ping data => AggregatedPingMetric.fields.tagged "type" "ping" data
  | .tcp data => AggregatedTcpMetric.fields.tagged "type" "tcp" data
  | .httpGet data => AggregatedHttpMetric.fields.tagged "type" "http_get" data
  | .httpContent data => AggregatedHttpContentMetric.fields.tagged "type" "http_content" data
  | .tlsHandshake data => AggregatedTlsMetric.fields.tagged "type" "tls_handshake" data
  | .dnsQuery data => AggregatedDnsMetric.fields.tagged "type" "dns_query" data
  | .bandwidth data => AggregatedBandwidthMetric.fields.tagged "type" "bandwidth" data
  | .sqlQuery data => AggregatedSqlQueryMetric.fields.tagged "type" "sql_query" data
  | .snmp data => AggregatedSnmpMetric.fields.tagged "type" "snmp" data
  | .unknown => [("type", .str "unknown")]

/-- Any other `type` is `Unknown`. -/
def AggregatedMetricData.ofTag (l : List (String × Json)) : String → Option AggregatedMetricData
  | "ping" => (AggregatedPingMetric.fields.read l).map .ping
  | "tcp" => (AggregatedTcpMetric.fields.read l).map .tcp
  | "http_get" => (AggregatedHttpMetric.fields.read l).map .httpGet
  | "http_content" => (AggregatedHttpContentMetric.fields.read l).map .httpContent
  | "tls_handshake" => (AggregatedTlsMetric.fields.read l).map .tlsHandshake
  | "dns_query" => (AggregatedDnsMetric.fields.read l).map .dnsQuery
  | "bandwidth" => (AggregatedBandwidthMetric.fields.read l).map .bandwidth
  | "sql_query" => (AggregatedSqlQueryMetric.fields.read l).map .sqlQuery
  | "snmp" => (AggregatedSnmpMetric.fields.read l).map .snmp
  | _ => some .unknown

def AggregatedMetricData.ofFields (l : List (String × Json)) : Option AggregatedMetricData :=
  (tagOf "type" l).bind (ofTag l)

/-- The keys of a map, or the elements of a set, are listed once each. -/
def AggregatedMetricData.WellFormed : AggregatedMetricData → Prop
  | .httpGet data => (data.statusCodeDistribution.map Prod.fst).Nodup
  | .dnsQuery data => data.allResolvedAddresses.Nodup
  | _ => True

namespace AggregatedMetricData

/-- A variant whose record is read under its tag is read back. -/
theorem ofFields_tagged {α : Type} {f : Fields α} {variant : α → AggregatedMetricData}
    {value : String} (hcase : ∀ l, ofTag l value = (f.read l).map variant)
    (hnames : f.names.Nodup) (htag : "type" ∉ f.names) {a : α} (hvalid : f.valid a)
    (haccepts : f.accepts a = true) : ofFields (f.tagged "type" value a) = some (variant a) := by
  unfold ofFields
  rw [f.tagOf_tagged value htag, Option.bind_some, hcase, f.read_tagged value htag hnames hvalid,
    if_pos haccepts]
  rfl

theorem ofFields_toFields (data : AggregatedMetricData) (h : data.WellFormed) :
    ofFields data.toFields = some data := by
  cases data with
  | ping data =>
    exact ofFields_tagged (f := AggregatedPingMetric.fields)
      (fun _ => rfl) (by decide) (by decide)
      (by simp [AggregatedPingMetric.fields]) (by simp [AggregatedPingMetric.fields])
  | tcp data =>
    exact ofFields_tagged (f := AggregatedTcpMetric.fields)
      (fun _ => rfl) (by decide) (by decide)
      (by simp [AggregatedTcpMetric.fields]) (by simp [AggregatedTcpMetric.fields])
  | httpGet data =>
    have hkeys : (data.statusCodeDistribution.map Prod.fst).Nodup := h
    exact ofFields_tagged (f := AggregatedHttpMetric.fields)
      (fun _ => rfl) (by decide) (by decide)
      (by simpa [AggregatedHttpMetric.fields] using hkeys) (by simp [AggregatedHttpMetric.fields])
  | httpContent data =>
    exact ofFields_tagged (f := AggregatedHttpContentMetric.fields)
      (fun _ => rfl) (by decide) (by decide)
      (by simp [AggregatedHttpContentMetric.fields]) (by simp [AggregatedHttpContentMetric.fields])
  | tlsHandshake data =>
    exact ofFields_tagged (f := AggregatedTlsMetric.fields)
      (fun _ => rfl) (by decide) (by decide)
      (by simp [AggregatedTlsMetric.fields]) (by simp [AggregatedTlsMetric.fields])
  | dnsQuery data =>
    have hkeys : data.allResolvedAddresses.Nodup := h
    exact ofFields_tagged (f := AggregatedDnsMetric.fields)
      (fun _ => rfl) (by decide) (by decide)
      (by simpa [AggregatedDnsMetric.fields] using hkeys) (by simp [AggregatedDnsMetric.fields])
  | bandwidth data =>
    exact ofFields_tagged (f := AggregatedBandwidthMetric.fields)
      (fun _ => rfl) (by decide) (by decide)
      (by simp [AggregatedBandwidthMetric.fields]) (by simp [AggregatedBandwidthMetric.fields])
  | sqlQuery data =>
    exact ofFields_tagged (f := AggregatedSqlQueryMetric.fields)
      (fun _ => rfl) (by decide) (by decide)
      (by simp [AggregatedSqlQueryMetric.fields]) (by simp [AggregatedSqlQueryMetric.fields])
  | snmp data =>
    exact ofFields_tagged (f := AggregatedSnmpMetric.fields)
      (fun _ => rfl) (by decide) (by decide)
      (by simp [AggregatedSnmpMetric.fields]) (by simp [AggregatedSnmpMetric.fields])
  | unknown => rfl

def codec : Codec AggregatedMetricData where
  encode data := .obj data.toFields
  decode
    | .obj l => ofFields l
    | _ => none
  valid := WellFormed
  accepts _ := true
  encode_ne_null := by simp
  decode_encode := ofFields_toFields

end AggregatedMetricData

/-! ## Requests -/

def AggregatedMetrics.fields (features : Features) : Fields AggregatedMetrics :=
  ((field "task_name" .string).and <|
    (field "type" (TaskType.codec features)).and <|
    (field "period_start" (.natBelow (2 ^ 64))).and <|
    (field "period_end" (.natBelow (2 ^ 64))).and <|
    (field "sample_count" .uint32).and <|
    (field "data" AggregatedMetricData.codec)).iso
    (fun (a, b, c, d, e, f) => ⟨a, b, c, d, e, f⟩)
    (fun m => (m.taskName, m.taskType, m.periodStart, m.periodEnd, m.sampleCount, m.data))
    (fun _ => rfl)

def MetricsRequest.fields (features : Features) : Fields MetricsRequest :=
  ((field "agent_id" .string).and <|
    (field "timestamp_utc" .string).and <|
    (field "config_checksum" .string).and <|
    (field "metrics" ((AggregatedMetrics.fields features).record).list).and <|
    (nullable "agent_version" .string)).iso
    (fun (a, b, c, d, e) => ⟨a, b, c, d, e⟩)
    (fun r => (r.agentId, r.timestampUtc, r.configChecksum, r.metrics, r.agentVersion))
    (fun _ => rfl)

def MetricsRequest.codec (features : Features) : Codec MetricsRequest :=
  (MetricsRequest.fields features).record

/-- Its times are `u64`, and its aggregate is well formed. -/
def AggregatedMetrics.WellFormed (metric : AggregatedMetrics) : Prop :=
  metric.periodStart < 2 ^ 64 ∧ metric.periodEnd < 2 ^ 64 ∧ metric.data.WellFormed

/-- **What another build makes of a request**: it reads the whole request when it has the type of
each metric in it, and refuses all of it otherwise. -/
theorem decode_metricsRequest (sender receiver : Features) {request : MetricsRequest}
    (h : ∀ metric ∈ request.metrics, metric.WellFormed) :
    (MetricsRequest.codec receiver).decode ((MetricsRequest.codec sender).encode request) =
      if request.metrics.all fun metric => metric.taskType.enabled receiver then some request
      else none := by
  have hvalid : (MetricsRequest.codec receiver).valid request := by
    have hmetrics : ∀ metric ∈ request.metrics,
        (AggregatedMetrics.fields receiver).valid metric := by
      intro metric hm
      obtain ⟨hstart, hend, hdata⟩ := h metric hm
      simp only [AggregatedMetrics.fields, valid_iso, valid_and, valid_field]
      exact ⟨trivial, trivial, hstart, hend, Codec.valid_uint32 _, hdata⟩
    simp only [MetricsRequest.codec, MetricsRequest.fields, valid_record, valid_iso, valid_and,
      valid_field, Codec.valid_list]
    exact ⟨trivial, trivial, trivial, hmetrics, fun _ _ => trivial⟩
  have haccepts : (MetricsRequest.codec receiver).accepts request =
      request.metrics.all fun metric => metric.taskType.enabled receiver := by
    have hmetric : (AggregatedMetrics.fields receiver).accepts =
        fun metric => metric.taskType.enabled receiver := by
      funext metric
      simp [AggregatedMetrics.fields, TaskType.codec, AggregatedMetricData.codec]
    simp [MetricsRequest.codec, MetricsRequest.fields, hmetric]
  have hencode : (MetricsRequest.codec sender).encode request =
      (MetricsRequest.codec receiver).encode request := rfl
  rw [hencode, (MetricsRequest.codec receiver).decode_encode request hvalid, haccepts]

end LinkSense
