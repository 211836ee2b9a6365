import LinkSense.Shared.Config
import Mathlib.Data.Rat.Defs

/-!
# Metrics

Raw measurements of one task execution and the aggregates of one period
(`shared/src/metrics.rs`).  An `f64` is a rational: the model only carries such values.  Unix
times are natural numbers.
-/

namespace LinkSense

/-! ## Raw measurements -/

structure RawPingMetric where
  rttMs : Option ℚ
  success : Bool
  error : Option String
  ipAddress : String
  domain : Option String
  targetId : Option String
deriving DecidableEq, Repr

structure RawTcpMetric where
  connectTimeMs : Option ℚ
  success : Bool
  error : Option String
  host : String
  targetId : Option String
deriving DecidableEq, Repr

structure RawHttpMetric where
  statusCode : Option UInt16
  tcpTimingMs : Option ℚ
  tlsTimingMs : Option ℚ
  ttfbTimingMs : Option ℚ
  contentDownloadTimingMs : Option ℚ
  totalTimeMs : Option ℚ
  success : Bool
  error : Option String
  sslValid : Option Bool
  sslCertDaysUntilExpiry : Option Int
  targetId : Option String
deriving DecidableEq, Repr

structure RawTlsMetric where
  tcpTimingMs : Option ℚ
  tlsTimingMs : Option ℚ
  sslValid : Option Bool
  sslCertDaysUntilExpiry : Option Int
  success : Bool
  error : Option String
  targetId : Option String
deriving DecidableEq, Repr

structure RawHttpContentMetric where
  statusCode : Option UInt16
  totalTimeMs : Option ℚ
  totalSize : Option UInt64
  regexpMatch : Option Bool
  success : Bool
  error : Option String
  targetId : Option String
deriving DecidableEq, Repr

structure RawDnsMetric where
  queryTimeMs : Option ℚ
  success : Bool
  recordCount : Option UInt32
  resolvedAddresses : Option (List String)
  domainQueried : String
  error : Option String
  expectedIp : Option String
  resolvedIp : Option String
  correctResolution : Bool
  targetId : Option String
deriving DecidableEq, Repr

structure RawBandwidthMetric where
  bandwidthMbps : Option ℚ
  durationMs : Option ℚ
  bytesDownloaded : Option UInt64
  success : Bool
  error : Option String
  targetId : Option String
deriving DecidableEq, Repr

structure RawSqlQueryMetric where
  totalTimeMs : Option ℚ
  rowCount : Option UInt64
  success : Bool
  error : Option String
  targetId : Option String
  mode : SqlQueryMode
  value : Option ℚ
  jsonResult : Option String
  jsonTruncated : Bool
  columnCount : Option UInt32
deriving DecidableEq, Repr

structure RawSnmpMetric where
  responseTimeMs : Option ℚ
  success : Bool
  value : Option String
  valueType : Option String
  oidQueried : String
  error : Option String
  targetId : Option String
deriving DecidableEq, Repr

/-- Raw measurement data from individual task executions. -/
inductive RawMetricData where
  | ping (data : RawPingMetric)
  | tcp (data : RawTcpMetric)
  | httpGet (data : RawHttpMetric)
  | httpContent (data : RawHttpContentMetric)
  | tlsHandshake (data : RawTlsMetric)
  | dnsQuery (data : RawDnsMetric)
  | bandwidth (data : RawBandwidthMetric)
  | sqlQuery (data : RawSqlQueryMetric)
  | snmp (data : RawSnmpMetric)
  | unknown
deriving DecidableEq, Repr

/-- Raw metric data from a single task execution. -/
structure MetricData where
  taskName : String
  taskType : TaskType
  timestamp : Nat
  data : RawMetricData
deriving DecidableEq, Repr

/-- Whether the measurement succeeded. -/
def MetricData.isSuccessful (metric : MetricData) : Bool :=
  match metric.data with
  | .ping data => data.success
  | .tcp data => data.success
  | .httpGet data => data.success
  | .tlsHandshake data => data.success
  | .httpContent data => data.success
  | .dnsQuery data => data.success
  | .bandwidth data => data.success
  | .sqlQuery data => data.success
  | .snmp data => data.success
  | .unknown => false

/-! ## Aggregates -/

structure AggregatedPingMetric where
  avgLatencyMs : ℚ
  maxLatencyMs : ℚ
  minLatencyMs : ℚ
  packetLossPercent : ℚ
  successfulPings : UInt32
  failedPings : UInt32
  domain : Option String
  targetId : Option String
deriving DecidableEq, Repr, Inhabited

structure AggregatedTcpMetric where
  avgConnectTimeMs : ℚ
  maxConnectTimeMs : ℚ
  minConnectTimeMs : ℚ
  failurePercent : ℚ
  successfulConnections : UInt32
  failedConnections : UInt32
  host : String
  targetId : Option String
deriving DecidableEq, Repr, Inhabited

structure AggregatedHttpMetric where
  successRatePercent : ℚ
  avgTcpTimingMs : ℚ
  avgTlsTimingMs : ℚ
  avgTtfbTimingMs : ℚ
  avgContentDownloadTimingMs : ℚ
  avgTotalTimeMs : ℚ
  maxTotalTimeMs : ℚ
  successfulRequests : UInt32
  failedRequests : UInt32
  statusCodeDistribution : List (UInt16 × UInt32)
  sslValidPercent : Option ℚ
  avgSslCertDaysUntilExpiry : Option ℚ
  targetId : Option String
deriving DecidableEq, Repr, Inhabited

structure AggregatedTlsMetric where
  successRatePercent : ℚ
  avgTcpTimingMs : ℚ
  avgTlsTimingMs : ℚ
  successfulChecks : UInt32
  failedChecks : UInt32
  sslValidPercent : ℚ
  avgSslCertDaysUntilExpiry : ℚ
  targetId : Option String
deriving DecidableEq, Repr, Inhabited

structure AggregatedHttpContentMetric where
  successRatePercent : ℚ
  avgTotalTimeMs : ℚ
  maxTotalTimeMs : ℚ
  avgTotalSize : ℚ
  regexpMatchRatePercent : ℚ
  successfulRequests : UInt32
  failedRequests : UInt32
  regexpMatchedCount : UInt32
  targetId : Option String
deriving DecidableEq, Repr, Inhabited

structure AggregatedDnsMetric where
  successRatePercent : ℚ
  avgQueryTimeMs : ℚ
  maxQueryTimeMs : ℚ
  successfulQueries : UInt32
  failedQueries : UInt32
  allResolvedAddresses : List String
  domainQueried : String
  correctResolutionPercent : ℚ
  targetId : Option String
deriving DecidableEq, Repr, Inhabited

structure AggregatedBandwidthMetric where
  avgBandwidthMbps : ℚ
  maxBandwidthMbps : ℚ
  minBandwidthMbps : ℚ
  successfulTests : UInt32
  failedTests : UInt32
  targetId : Option String
deriving DecidableEq, Repr, Inhabited

structure AggregatedSqlQueryMetric where
  successRatePercent : ℚ
  avgTotalTimeMs : ℚ
  maxTotalTimeMs : ℚ
  avgRowCount : ℚ
  maxRowCount : UInt64
  successfulQueries : UInt32
  failedQueries : UInt32
  targetId : Option String
  avgValue : Option ℚ
  minValue : Option ℚ
  maxValue : Option ℚ
  jsonTruncatedCount : UInt32
deriving DecidableEq, Repr, Inhabited

structure AggregatedSnmpMetric where
  successRatePercent : ℚ
  avgResponseTimeMs : ℚ
  successfulQueries : UInt32
  failedQueries : UInt32
  firstValue : Option String
  firstValueType : Option String
  oidQueried : String
  targetId : Option String
deriving DecidableEq, Repr, Inhabited

/-- Aggregated measurement data over a time period. -/
inductive AggregatedMetricData where
  | ping (data : AggregatedPingMetric)
  | tcp (data : AggregatedTcpMetric)
  | httpGet (data : AggregatedHttpMetric)
  | httpContent (data : AggregatedHttpContentMetric)
  | tlsHandshake (data : AggregatedTlsMetric)
  | dnsQuery (data : AggregatedDnsMetric)
  | bandwidth (data : AggregatedBandwidthMetric)
  | sqlQuery (data : AggregatedSqlQueryMetric)
  | snmp (data : AggregatedSnmpMetric)
  | unknown
deriving DecidableEq, Repr

/-- Aggregated metrics for a specific time period. -/
structure AggregatedMetrics where
  taskName : String
  taskType : TaskType
  periodStart : Nat
  periodEnd : Nat
  sampleCount : UInt32
  data : AggregatedMetricData
deriving DecidableEq, Repr

/-! ## Metric tables -/

/-- The nine kinds of metrics, each with tables of its own. -/
inductive MetricKind where
  | ping
  | tcp
  | http
  | tls
  | httpContent
  | dns
  | bandwidth
  | sqlQuery
  | snmp
deriving DecidableEq, Repr

def MetricKind.all : List MetricKind :=
  [.ping, .tcp, .http, .tls, .httpContent, .dns, .bandwidth, .sqlQuery, .snmp]

theorem MetricKind.mem_all (kind : MetricKind) : kind ∈ MetricKind.all := by
  cases kind <;> decide

/-- The kind of a raw measurement. -/
def RawMetricData.kind : RawMetricData → Option MetricKind
  | .ping _ => some .ping
  | .tcp _ => some .tcp
  | .httpGet _ => some .http
  | .httpContent _ => some .httpContent
  | .tlsHandshake _ => some .tls
  | .dnsQuery _ => some .dns
  | .bandwidth _ => some .bandwidth
  | .sqlQuery _ => some .sqlQuery
  | .snmp _ => some .snmp
  | .unknown => none

/-- The kind of an aggregate. -/
def AggregatedMetricData.kind : AggregatedMetricData → Option MetricKind
  | .ping _ => some .ping
  | .tcp _ => some .tcp
  | .httpGet _ => some .http
  | .httpContent _ => some .httpContent
  | .tlsHandshake _ => some .tls
  | .dnsQuery _ => some .dns
  | .bandwidth _ => some .bandwidth
  | .sqlQuery _ => some .sqlQuery
  | .snmp _ => some .snmp
  | .unknown => none

end LinkSense
