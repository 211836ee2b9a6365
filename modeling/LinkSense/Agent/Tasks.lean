import LinkSense.Shared.Metrics
import LinkSense.Shared.Time
import Mathlib.Algebra.Field.Rat
import Mathlib.Data.List.Infix

/-!
# Task execution

`TaskExecutor` of `agent/src/tasks.rs` with the ten executors.  What network, clocks and other
crates give to one execution is a `Probe`; an executor turns it into a metric or an error, and
only a metric is recorded.

Ping, TCP, HTTP content, bandwidth, SQL and SNMP report a failed probe as a failed metric.  HTTP,
TLS and the two DNS executors throw the failed metric away, and the outer timeout has none.

    task.validate env = .ok () → (Recorded … task probe (executeTask … task probe) ↔
      probe.outerTimeout = false ∧
        (task.taskType.keepsFailures ∨ Succeeds … task probe))             (recorded_iff)
-/

namespace LinkSense

/-! ## Probes -/

/-- What one ping of an address gives. -/
inductive PingReply where
  | cannotInitiate (e : String)
  | failed (e : String)
  | reply (micros : Nat)
deriving DecidableEq, Repr

/-- Basic information about an SSL certificate; the time is in nanoseconds. -/
structure CertificateInformation where
  expiresAt : Int
  isActive : Bool
deriving DecidableEq, Repr

/-- The response of `task_http::from_string`. -/
structure HttpResponse where
  tcp : Duration
  tls : Option Duration
  ttfb : Duration
  contentDownload : Duration
  certificateInformation : Option CertificateInformation
  status : UInt16
deriving DecidableEq, Repr

/-- The connection that `check_tls_handshake` makes. -/
structure TlsConnection where
  tcp : Duration
  tls : Duration
  certificateInformation : Option CertificateInformation
deriving DecidableEq, Repr

/-- A response to the content check; the body gives its length and whether the pattern matches. -/
structure ContentResponse where
  status : UInt16
  contentLength : Option UInt64
  body : Except String (Nat × Bool)

/-- What the two query modes give when they end in time. -/
structure SqlAnswer where
  rowCount : UInt64
  columnCount : UInt32
  value : Option ℚ
  jsonResult : String
  truncated : Bool
deriving DecidableEq, Repr

/-- What the outside gives to one execution.  In `tcp`, `sql` and `snmp` a `none` is a timeout. -/
structure Probe where
  parseIp : String → Option String
  resolve : String → Except String (List String)
  ping : String → PingReply
  pingTimedOut : Bool
  tcp : String → Option (Except String Duration)
  http : Except String HttpResponse
  tls : Except String TlsConnection
  content : Except (Bool × String) ContentResponse
  domainName : String → Bool
  socketAddr : String → Bool
  dns : Except String (List String)
  bandwidth : Except String (UInt64 × Duration)
  sqlConnect : Except String Unit
  sql : Option (Except String SqlAnswer)
  oidFrom : List UInt64 → Except String Unit
  snmp : Option (Except String (String × String))
  elapsed : Duration
  systemTime : Int
  timestamp : Nat
  outerTimeout : Bool

/-- `as_millis() as f64`. -/
def asMillis (d : Duration) : ℚ := (d / 1000000 : Nat)

/-- `as_secs_f64() * 1000.0`. -/
def millis (d : Duration) : ℚ := (d : ℚ) / 1000000

/-! ## Ping -/

def contains (s pattern : String) : Bool := decide (pattern.toList <:+: s.toList)

/-- The error of a socket that cannot be opened, with help for a lack of permission. -/
def enhancedError (e : String) : String :=
  let errorMsg := s!"Cannot initiate ICMP ping: {e}"
  if contains errorMsg "Operation not permitted" || contains errorMsg "Permission denied" then
    s!"{errorMsg}. Hint: On Linux, add user to 'ping' group or set capabilities: sudo setcap cap_net_raw+ep /path/to/agent"
  else errorMsg

/-- The loop over the addresses: the first reply, or the last error and the address to blame. -/
def pingAny (ping : String → PingReply) (first : String) :
    List String → String → Except (String × String) (Nat × String)
  | [], lastError => .error (lastError, first)
  | ip :: rest, _ =>
    match ping ip with
    | .cannotInitiate e =>
      if rest = [] then .error (enhancedError e, ip) else pingAny ping first rest (enhancedError e)
    | .failed e => pingAny ping first rest s!"Ping failed: {e}"
    | .reply micros => .ok (micros, ip)

def pingErrorMetric (params : PingParams) (error ipAddress : String) (domain : Option String) :
    RawPingMetric := ⟨none, false, some error, ipAddress, domain, params.targetId⟩

/-- The addresses of a host, and the domain when it is a name. -/
def pingTargets (probe : Probe) (params : PingParams) :
    Except String (List String × Option String) :=
  match probe.parseIp params.host with
  | some ip => .ok ([ip], none)
  | none =>
    match probe.resolve s!"{params.host}:0" with
    | .error e => .error s!"DNS resolution failed for {params.host}: {e}"
    | .ok [] => .error s!"DNS resolution returned no addresses for: {params.host}"
    | .ok ips => .ok (ips, some params.host)

/-- `execute_ping_with_resolution`. -/
def executePingWithResolution (probe : Probe) (params : PingParams) : RawPingMetric :=
  match pingTargets probe params with
  | .error e => pingErrorMetric params e "" (some params.host)
  | .ok (ips, domain) =>
    match pingAny probe.ping (ips.head?.getD "") ips "" with
    | .ok (micros, ip) => ⟨some ((micros : ℚ) / 1000), true, none, ip, domain, params.targetId⟩
    | .error (lastError, ip) => pingErrorMetric params lastError ip domain

def pingMetric (probe : Probe) (params : PingParams) : RawPingMetric :=
  if probe.pingTimedOut then
    pingErrorMetric params s!"Operation timed out after {params.timeoutSeconds}s" ""
      (some params.host)
  else executePingWithResolution probe params

/-! ## TCP -/

/-- `task_tcp::execute_tcp_task`. -/
def tcpMetric (probe : Probe) (params : TcpParams) : RawTcpMetric :=
  let failed := fun error => (⟨none, false, some error, params.host, params.targetId⟩ : RawTcpMetric)
  match probe.resolve params.host with
  | .error e => failed s!"Failed to parse host: {e}"
  | .ok [] => failed "Failed to parse host: no addresses found"
  | .ok (addr :: _) =>
    match probe.tcp addr with
    | some (.ok connectTime) =>
      ⟨some (millis connectTime), true, none, params.host, params.targetId⟩
    | some (.error e) => failed s!"Connection error: {e}"
    | none => failed s!"Connection timeout after {params.timeoutSeconds} seconds"

/-! ## HTTP -/

/-- Whole days until a certificate expires, negative once it has. -/
def daysUntilExpiry (now expiresAt : Int) : Int :=
  let secs := fun (ns : Int) => (ns / 1000000000) / 86400
  if now ≤ expiresAt then secs (expiresAt - now) else -secs (now - expiresAt)

def httpMetric (probe : Probe) (params : HttpGetParams) : RawHttpMetric :=
  match probe.http with
  | .ok response =>
    let totalTime := response.tcp + response.tls.getD 0 + response.ttfb + response.contentDownload
    { statusCode := some response.status
      tcpTimingMs := some (asMillis response.tcp)
      tlsTimingMs := response.tls.map asMillis
      ttfbTimingMs := some (asMillis response.ttfb)
      contentDownloadTimingMs := some (asMillis response.contentDownload)
      totalTimeMs := some (asMillis totalTime)
      success := decide (response.status ≥ 200 ∧ response.status < 400)
      error := none
      sslValid := response.certificateInformation.map CertificateInformation.isActive
      sslCertDaysUntilExpiry := response.certificateInformation.map fun c =>
        daysUntilExpiry probe.systemTime c.expiresAt
      targetId := params.targetId }
  | .error err => ⟨none, none, none, none, none, none, false, some err, none, none, params.targetId⟩

/-- A certificate that must be valid and is not. -/
def sslRejected (verifySsl : Bool) (sslValid : Option Bool) : Bool :=
  verifySsl && sslValid == some false

/-! ## TLS -/

def tlsMetric (probe : Probe) (params : TlsHandshakeParams) : RawTlsMetric :=
  match probe.tls with
  | .ok check =>
    { tcpTimingMs := some (asMillis check.tcp)
      tlsTimingMs := some (asMillis check.tls)
      sslValid := check.certificateInformation.map CertificateInformation.isActive
      sslCertDaysUntilExpiry := check.certificateInformation.map fun c =>
        daysUntilExpiry probe.systemTime c.expiresAt
      success := true
      error := none
      targetId := params.targetId }
  | .error err => ⟨none, none, none, none, false, some err, params.targetId⟩

/-! ## HTTP content -/

def maxResponseSize : Nat := 100 * 1024 * 1024

/-- `execute_http_content_check`, once the pattern is compiled. -/
def contentCheck (probe : Probe) (params : HttpContentParams) : RawHttpContentMetric :=
  match probe.content with
  | .ok response =>
    let totalTime := some (millis probe.elapsed)
    let status := some response.status
    match response.contentLength.filter (·.toNat > maxResponseSize) with
    | some contentLength =>
      ⟨status, totalTime, some contentLength, none, false,
        some s!"Response size ({contentLength} bytes) exceeds maximum of {maxResponseSize} bytes (detected from Content-Length header)",
        params.targetId⟩
    | none =>
      match response.body with
      | .ok (size, regexpMatch) =>
        if size > maxResponseSize then
          ⟨status, totalTime, some (UInt64.ofNat size), none, false,
            some s!"Response size ({size} bytes) exceeds maximum of {maxResponseSize} bytes (Content-Length header not provided)",
            params.targetId⟩
        else
          ⟨status, totalTime, some (UInt64.ofNat size), some regexpMatch,
            decide (response.status ≥ 200 ∧ response.status < 300), none, params.targetId⟩
      | .error e =>
        ⟨status, none, none, none, false,
          some s!"Failed to read response body from {params.url}: {e}", params.targetId⟩
  | .error (isTimeout, e) =>
    let error := if isTimeout then s!"Request to {params.url} timed out after {params.timeoutSeconds}s"
      else s!"Request to {params.url} failed: {e}"
    ⟨none, none, none, none, false, some error, params.targetId⟩

/-- The metric of `execute_http_content_task`. -/
def contentMetric (env : Externals) (probe : Probe) (params : HttpContentParams) :
    RawHttpContentMetric :=
  match env.regexNew params.regexp with
  | .ok () => contentCheck probe params
  | .error _ =>
    ⟨none, none, none, none, false, some s!"Failed to compile regexp: {params.regexp}",
      params.targetId⟩

/-! ## DNS -/

/-- `create_dns_metric`; an answer is the text of one record. -/
def createDnsMetric (result : Except String (List String)) (elapsed : Duration) (domain : String)
    (expectedIp targetId : Option String) : RawDnsMetric :=
  match result with
  | .ok resolvedAddresses =>
    { queryTimeMs := some (millis elapsed)
      success := true
      recordCount := some (UInt32.ofNat resolvedAddresses.length)
      resolvedAddresses := some resolvedAddresses
      domainQueried := domain
      error := none
      expectedIp := expectedIp
      resolvedIp := resolvedAddresses.head?
      correctResolution := expectedIp.all fun expected => resolvedAddresses.contains expected
      targetId := targetId }
  | .error e => ⟨none, false, none, none, domain, some e, expectedIp, none, false, targetId⟩

/-- The server's address, on port 53 when it names none. -/
def dnsServerAddr (server : String) : String :=
  if server.toList.contains ':' then server else s!"{server}:53"

/-- `execute_dns_query`. -/
def executeDnsQuery (probe : Probe) (params : DnsQueryParams) : Except String RawDnsMetric :=
  if !probe.domainName params.domain then .error s!"Invalid domain name: {params.domain}"
  else if !probe.socketAddr (dnsServerAddr params.server) then
    .error s!"Invalid DNS server address: {params.server}"
  else
    .ok (createDnsMetric probe.dns probe.elapsed params.domain params.expectedIp params.targetId)

/-- `execute_dns_over_https_query`. -/
def executeDnsOverHttpsQuery (probe : Probe) (params : DnsQueryDohParams) :
    Except String RawDnsMetric :=
  if !probe.domainName params.domain then .error s!"Invalid domain name: {params.domain}"
  else
    .ok (createDnsMetric probe.dns probe.elapsed params.domain params.expectedIp params.targetId)

/-- What both DNS executors let through. -/
def checkDnsMetric (what : String) (metric : RawDnsMetric) : Except String RawDnsMetric :=
  let error := metric.error.getD "Unknown error"
  let resolved := metric.resolvedIp.getD "none"
  let expected := metric.expectedIp.getD "none"
  if !metric.success then .error s!"{what} failed: {error}"
  else if !metric.correctResolution then
    .error s!"Resolved IP '{resolved}' does not match expected IP '{expected}'"
  else .ok metric

/-! ## Bandwidth -/

structure TaskExecutor where
  serverUrl : Option String
  apiKey : Option String
  agentId : Option String
deriving DecidableEq, Repr

/-- The server's url, the key and the agent's id, when all three are known. -/
def TaskExecutor.coordinates (executor : TaskExecutor) : Option (String × String × String) :=
  match executor.serverUrl, executor.apiKey, executor.agentId with
  | some url, some key, some id => some (url, key, id)
  | _, _, _ => none

def bandwidthMetric (executor : TaskExecutor) (probe : Probe) (params : BandwidthParams) :
    RawBandwidthMetric :=
  let failed := fun error =>
    (⟨none, none, none, false, some error, params.targetId⟩ : RawBandwidthMetric)
  match executor.coordinates with
  | none =>
    failed "Bandwidth test requires server configuration (not available in local-only mode)"
  | some _ =>
    match probe.bandwidth with
    | .error e => failed e
    | .ok (bytes, duration) =>
      let durationMs := asMillis duration
      let mbps := if durationMs > 0 then
        ((bytes.toNat : ℚ) * 8) / (durationMs / 1000) / 1000000 else 0
      ⟨some mbps, some durationMs, some bytes, true, none, params.targetId⟩

/-! ## SQL -/

/-- `build_metric`. -/
def buildMetric (result : Except String SqlAnswer) (totalTimeMs : ℚ) (params : SqlQueryParams) :
    RawSqlQueryMetric :=
  match result, params.mode with
  | .ok r, .value =>
    ⟨some totalTimeMs, some r.rowCount, true, none, params.targetId, params.mode, r.value, none,
      false, some r.columnCount⟩
  | .ok r, .json =>
    ⟨some totalTimeMs, some r.rowCount, true, none, params.targetId, params.mode, none,
      some r.jsonResult, r.truncated, some r.columnCount⟩
  | .error e, _ =>
    ⟨some totalTimeMs, none, false, some e, params.targetId, params.mode, none, none, false, none⟩

/-- The metric of `execute_sql_query_task`. -/
def sqlMetric (probe : Probe) (params : SqlQueryParams) : RawSqlQueryMetric :=
  match probe.sqlConnect with
  | .error e => ⟨none, none, false, some e, params.targetId, params.mode, none, none, false, none⟩
  | .ok () =>
    let result := probe.sql.getD (.error s!"SQL query timeout after {params.timeoutSeconds}s")
    buildMetric result (millis probe.elapsed) params

/-! ## SNMP -/

/-- `str::parse::<u64>`: digits after an optional plus sign, without overflow. -/
def parseU64 (s : List Char) : Option UInt64 :=
  let digits := match s with
    | '+' :: rest => rest
    | _ => s
  if digits = [] || !digits.all Char.isDigit then none
  else
    let n := digits.foldl (fun n c => n * 10 + (c.toNat - '0'.toNat)) 0
    if n < 2 ^ 64 then some (UInt64.ofNat n) else none

def parseComponents : List (List Char) → Except String (List UInt64)
  | [] => .ok []
  | component :: rest =>
    match parseU64 component, parseComponents rest with
    | none, _ => .error s!"Invalid OID component: {String.ofList component}"
    | some _, .error e => .error e
    | some n, .ok ns => .ok (n :: ns)

/-- `parse_oid`: one leading dot is dropped. -/
def parseOid (probe : Probe) (oid : String) : Except String Unit :=
  let chars := match oid.toList with
    | '.' :: rest => rest
    | chars => chars
  match parseComponents (chars.splitOn '.') with
  | .error e => .error e
  | .ok components =>
    match probe.oidFrom components with
    | .error e => .error s!"Failed to create OID from {String.ofList chars}: {e}"
    | .ok () => .ok ()

/-- `parse_host`: a bare IPv6 address gets brackets, and a host without a port gets 161. -/
def parseHost (probe : Probe) (host : String) : Except String String :=
  let colons := host.toList.count ':'
  let hostWithPort :=
    if colons > 1 && !host.toList.contains '[' then s!"[{host}]:161"
    else if colons > 0 then host
    else s!"{host}:161"
  match probe.resolve hostWithPort with
  | .error _ => .error s!"Failed to resolve host: {host}"
  | .ok [] => .error s!"No addresses found for host: {host}"
  | .ok (addr :: _) => .ok addr

/-- What `execute_snmp_task` asks the device, once host and OID are understood. -/
def snmpQuery (probe : Probe) (params : SnmpParams) : Except String (String × String) :=
  match parseHost probe params.host, parseOid probe params.oid with
  | .error e, _ => .error e
  | .ok _, .error e => .error e
  | .ok _, .ok () =>
    probe.snmp.getD (.error s!"Query timed out after {params.timeoutSeconds} seconds")

/-- The metric of `execute_snmp_task`. -/
def snmpMetric (probe : Probe) (params : SnmpParams) : RawSnmpMetric :=
  match snmpQuery probe params with
  | .ok (value, valueType) =>
    ⟨some (millis probe.elapsed), true, some value, some valueType, params.oid, none,
      params.targetId⟩
  | .error e => ⟨none, false, none, none, params.oid, some e, params.targetId⟩

/-! ## The executor -/

/-- Represents the result of a single task execution. -/
structure TaskResult where
  taskName : String
  success : Bool
  metricData : Option MetricData
  error : Option String
  executionTimeMs : ℚ
deriving DecidableEq, Repr

def newMetric (probe : Probe) (task : TaskConfig) (taskType : TaskType) (data : RawMetricData) :
    MetricData := ⟨task.name, taskType, probe.timestamp, data⟩

def executePingTask (probe : Probe) (task : TaskConfig) : Except String MetricData :=
  match task.params with
  | .ping params => .ok (newMetric probe task .ping (.ping (pingMetric probe params)))
  | _ => .error "Invalid parameters for ping task"

def executeTcpTask (probe : Probe) (task : TaskConfig) : Except String MetricData :=
  match task.params with
  | .tcp params => .ok (newMetric probe task .tcp (.tcp (tcpMetric probe params)))
  | _ => .error "Invalid parameters for TCP task"

def executeHttpTask (probe : Probe) (task : TaskConfig) : Except String MetricData :=
  match task.params with
  | .httpGet params =>
    let metric := httpMetric probe params
    let error := metric.error.getD "Unknown error"
    if !metric.success then .error s!"HTTP request failed: {error}"
    else if sslRejected params.verifySsl metric.sslValid then
      .error "SSL certificate validation failed"
    else .ok (newMetric probe task .httpGet (.httpGet metric))
  | _ => .error "Invalid parameters for HTTP task"

def executeTlsTask (probe : Probe) (task : TaskConfig) : Except String MetricData :=
  match task.params with
  | .tlsHandshake params =>
    let metric := tlsMetric probe params
    let error := metric.error.getD "Unknown error"
    if !metric.success then .error s!"TLS handshake failed: {error}"
    else if sslRejected params.verifySsl metric.sslValid then
      .error "SSL certificate validation failed"
    else .ok (newMetric probe task .tlsHandshake (.tlsHandshake metric))
  | _ => .error "Invalid parameters for TLS task"

def executeHttpContentTask (env : Externals) (probe : Probe) (task : TaskConfig) :
    Except String MetricData :=
  match task.params with
  | .httpContent params =>
    .ok (newMetric probe task .httpContent (.httpContent (contentMetric env probe params)))
  | _ => .error "Invalid parameters for HTTP content task"

def executeDnsTask (probe : Probe) (task : TaskConfig) : Except String MetricData :=
  match task.params with
  | .dnsQuery params =>
    match executeDnsQuery probe params with
    | .error e => .error e
    | .ok metric =>
      (checkDnsMetric "DNS query" metric).map fun metric =>
        newMetric probe task .dnsQuery (.dnsQuery metric)
  | _ => .error "Invalid parameters for DNS task"

def executeDnsDohTask (probe : Probe) (task : TaskConfig) : Except String MetricData :=
  match task.params with
  | .dnsQueryDoh params =>
    match executeDnsOverHttpsQuery probe params with
    | .error e => .error e
    | .ok metric =>
      (checkDnsMetric "DNS over HTTPS query" metric).map fun metric =>
        newMetric probe task .dnsQueryDoh (.dnsQuery metric)
  | _ => .error "Invalid parameters for DNS over HTTPS task"

def executeBandwidthTask (executor : TaskExecutor) (probe : Probe) (task : TaskConfig) :
    Except String MetricData :=
  match task.params with
  | .bandwidth params =>
    .ok (newMetric probe task .bandwidth (.bandwidth (bandwidthMetric executor probe params)))
  | _ => .error "Invalid parameters for bandwidth task"

def executeSqlQueryTask (probe : Probe) (task : TaskConfig) : Except String MetricData :=
  match task.params with
  | .sqlQuery params => .ok (newMetric probe task .sqlQuery (.sqlQuery (sqlMetric probe params)))
  | _ => .error "Invalid parameters for SQL query task"

def executeSnmpTask (probe : Probe) (task : TaskConfig) : Except String MetricData :=
  match task.params with
  | .snmp params => .ok (newMetric probe task .snmp (.snmp (snmpMetric probe params)))
  | _ => .error "Invalid parameters for SNMP task"

/-- The `match` on the task's type, raced against the outer timeout. -/
def runTask (env : Externals) (executor : TaskExecutor) (probe : Probe) (task : TaskConfig) :
    Except String MetricData :=
  if probe.outerTimeout then .error s!"Task timed out after {task.getEffectiveTimeout} seconds"
  else
    match task.taskType with
    | .ping => executePingTask probe task
    | .tcp => executeTcpTask probe task
    | .httpGet => executeHttpTask probe task
    | .httpContent => executeHttpContentTask env probe task
    | .tlsHandshake => executeTlsTask probe task
    | .dnsQuery => executeDnsTask probe task
    | .dnsQueryDoh => executeDnsDohTask probe task
    | .bandwidth => executeBandwidthTask executor probe task
    | .sqlQuery => executeSqlQueryTask probe task
    | .snmp => executeSnmpTask probe task

/-- `execute_task`: the results it sends to the scheduler. -/
def executeTask (env : Externals) (executor : TaskExecutor) (probe : Probe) (task : TaskConfig) :
    List TaskResult :=
  let executionTime := millis probe.elapsed
  match runTask env executor probe task with
  | .ok metricData => [⟨task.name, true, some metricData, none, executionTime⟩]
  | .error e => [⟨task.name, false, none, some e, executionTime⟩]

/-! ## Outcomes -/

/-- The ping was answered: some address of the host replied in time. -/
def PingParams.Answered (probe : Probe) (params : PingParams) : Prop :=
  probe.pingTimedOut = false ∧
    ∃ ips domain, pingTargets probe params = .ok (ips, domain) ∧
      ∃ ip ∈ ips, ∃ micros, probe.ping ip = .reply micros

def TcpParams.Connected (probe : Probe) (params : TcpParams) : Prop :=
  ∃ addr rest connectTime, probe.resolve params.host = .ok (addr :: rest) ∧
    probe.tcp addr = some (.ok connectTime)

/-- The certificate is good, or its validity is not asked for. -/
def CertificateAccepted (verifySsl : Bool) (certificate : Option CertificateInformation) : Prop :=
  verifySsl = true → ∀ c ∈ certificate, c.isActive = true

def HttpGetParams.Fetched (probe : Probe) (params : HttpGetParams) : Prop :=
  ∃ response, probe.http = .ok response ∧ 200 ≤ response.status ∧ response.status < 400 ∧
    CertificateAccepted params.verifySsl response.certificateInformation

def TlsHandshakeParams.ShookHands (probe : Probe) (params : TlsHandshakeParams) : Prop :=
  ∃ check, probe.tls = .ok check ∧
    CertificateAccepted params.verifySsl check.certificateInformation

/-- A body of admissible size came with a 2xx status; whether the pattern matches is no matter. -/
def HttpContentParams.Fetched (env : Externals) (probe : Probe) (params : HttpContentParams) :
    Prop :=
  env.regexNew params.regexp = .ok () ∧
    ∃ response size regexpMatch, probe.content = .ok response ∧
      (∀ n ∈ response.contentLength, n.toNat ≤ maxResponseSize) ∧
      response.body = .ok (size, regexpMatch) ∧ size ≤ maxResponseSize ∧
      200 ≤ response.status ∧ response.status < 300

/-- The query was answered, with the expected address among the answers. -/
def Resolved (probe : Probe) (expectedIp : Option String) : Prop :=
  ∃ addresses, probe.dns = .ok addresses ∧ ∀ expected ∈ expectedIp, expected ∈ addresses

def DnsQueryParams.Answered (probe : Probe) (params : DnsQueryParams) : Prop :=
  probe.domainName params.domain = true ∧
    probe.socketAddr (dnsServerAddr params.server) = true ∧ Resolved probe params.expectedIp

def DnsQueryDohParams.Answered (probe : Probe) (params : DnsQueryDohParams) : Prop :=
  probe.domainName params.domain = true ∧ Resolved probe params.expectedIp

def Downloaded (executor : TaskExecutor) (probe : Probe) : Prop :=
  executor.coordinates ≠ none ∧ ∃ r, probe.bandwidth = .ok r

def Queried (probe : Probe) : Prop :=
  probe.sqlConnect = .ok () ∧ ∃ r, probe.sql = some (.ok r)

def SnmpParams.Answered (probe : Probe) (params : SnmpParams) : Prop :=
  ∃ addr r, parseHost probe params.host = .ok addr ∧ parseOid probe params.oid = .ok () ∧
    probe.snmp = some (.ok r)

/-- The probe of a task with these parameters succeeds. -/
def TaskParams.Succeeds (env : Externals) (executor : TaskExecutor) (probe : Probe) :
    TaskParams → Prop
  | .ping params => params.Answered probe
  | .tcp params => params.Connected probe
  | .httpGet params => params.Fetched probe
  | .httpContent params => params.Fetched env probe
  | .tlsHandshake params => params.ShookHands probe
  | .dnsQuery params => params.Answered probe
  | .dnsQueryDoh params => params.Answered probe
  | .bandwidth _ => Downloaded executor probe
  | .sqlQuery _ => Queried probe
  | .snmp params => params.Answered probe

/-- The execution of a task succeeds: its probe does, and before the outer timeout. -/
def Succeeds (env : Externals) (executor : TaskExecutor) (probe : Probe) (task : TaskConfig) :
    Prop :=
  probe.outerTimeout = false ∧ task.params.Succeeds env executor probe

/-- One result was sent, and its metric says whether the execution succeeded. -/
def Recorded (env : Externals) (executor : TaskExecutor) (probe : Probe) (task : TaskConfig) :
    Prop :=
  ∃ result metric, executeTask env executor probe task = [result] ∧
    result.taskName = task.name ∧ result.metricData = some metric ∧
    (metric.isSuccessful = true ↔ Succeeds env executor probe task)

/-- The types whose executor reports a failed probe as a failed metric. -/
def TaskType.keepsFailures : TaskType → Bool
  | .ping => true
  | .tcp => true
  | .httpGet => false
  | .httpContent => true
  | .tlsHandshake => false
  | .dnsQuery => false
  | .dnsQueryDoh => false
  | .bandwidth => true
  | .sqlQuery => true
  | .snmp => true

/-! ## Lemmas -/

/-- The loop finds a reply exactly when some address replies, whatever the order. -/
theorem pingAny_isOk_iff (ping : String → PingReply) (first : String) (ips : List String)
    (lastError : String) :
    (∃ r, pingAny ping first ips lastError = .ok r) ↔
      ∃ ip ∈ ips, ∃ micros, ping ip = .reply micros := by
  induction ips generalizing lastError with
  | nil => simp [pingAny]
  | cons ip rest ih =>
    unfold pingAny
    cases h : ping ip with
    | cannotInitiate e =>
      by_cases hrest : rest = []
      · simp [hrest, h]
      · simp [hrest, h, ih]
    | failed e => simp [h, ih]
    | reply micros => simp [h]

theorem success_pingMetric (probe : Probe) (params : PingParams) :
    (pingMetric probe params).success = true ↔ params.Answered probe := by
  unfold pingMetric PingParams.Answered
  by_cases ht : probe.pingTimedOut = true
  · simp [ht, pingErrorMetric]
  · have ht : probe.pingTimedOut = false := by simpa using ht
    rw [if_neg (by simp [ht])]
    unfold executePingWithResolution
    cases hp : pingTargets probe params with
    | error e => simp [pingErrorMetric]
    | ok targets =>
      obtain ⟨ips, domain⟩ := targets
      dsimp only
      have hloop := pingAny_isOk_iff probe.ping (ips.head?.getD "") ips ""
      cases hr : pingAny probe.ping (ips.head?.getD "") ips "" with
      | ok r =>
        have hreply := hloop.1 ⟨r, hr⟩
        simpa [ht] using hreply
      | error e =>
        have hsilent : ¬ ∃ ip ∈ ips, ∃ micros, probe.ping ip = .reply micros := by
          intro h
          obtain ⟨r, hok⟩ := hloop.2 h
          rw [hr] at hok
          cases hok
        simpa [ht, pingErrorMetric] using hsilent

theorem success_tcpMetric (probe : Probe) (params : TcpParams) :
    (tcpMetric probe params).success = true ↔ params.Connected probe := by
  unfold tcpMetric TcpParams.Connected
  rcases hr : probe.resolve params.host with e | _ | ⟨addr, rest⟩
  · simp
  · simp
  · rcases hc : probe.tcp addr with _ | e | connectTime
    · simp [hc]
    · simp [hc]
    · simp [hc]

theorem success_contentCheck (probe : Probe) (params : HttpContentParams) :
    (contentCheck probe params).success = true ↔
      ∃ response size regexpMatch, probe.content = .ok response ∧
        (∀ n ∈ response.contentLength, n.toNat ≤ maxResponseSize) ∧
        response.body = .ok (size, regexpMatch) ∧ size ≤ maxResponseSize ∧
        200 ≤ response.status ∧ response.status < 300 := by
  unfold contentCheck
  cases hc : probe.content with
  | error e => simp
  | ok response =>
    dsimp only
    cases hl : response.contentLength.filter (·.toNat > maxResponseSize) with
    | some n =>
      obtain ⟨hn, hbig⟩ := Option.filter_eq_some_iff.1 hl
      have hbig : ¬ n.toNat ≤ maxResponseSize := by simpa using hbig
      simp [hn, hbig]
    | none =>
      have hsmall : ∀ n ∈ response.contentLength, n.toNat ≤ maxResponseSize := by
        intro n hn
        simpa using Option.filter_eq_none_iff.1 hl n hn
      cases hb : response.body with
      | error e => simp [hb]
      | ok body =>
        obtain ⟨size, regexpMatch⟩ := body
        dsimp only
        by_cases hs : size > maxResponseSize
        · rw [if_pos hs]
          simp only [Bool.false_eq_true, false_iff]
          rintro ⟨response', size', _, hr, -, hb', hle, -⟩
          obtain rfl := Except.ok.inj hr
          rw [hb] at hb'
          obtain rfl := (Prod.mk.inj (Except.ok.inj hb')).1
          omega
        · rw [if_neg hs]
          constructor
          · intro h
            exact ⟨response, size, regexpMatch, rfl, hsmall, hb, by omega, by simpa using h⟩
          · rintro ⟨response', _, _, hr, -, -, -, h⟩
            obtain rfl := Except.ok.inj hr
            simpa using h

theorem success_contentMetric (env : Externals) (probe : Probe) (params : HttpContentParams) :
    (contentMetric env probe params).success = true ↔ params.Fetched env probe := by
  unfold contentMetric HttpContentParams.Fetched
  cases hre : env.regexNew params.regexp with
  | error e => simp
  | ok u =>
    dsimp only
    rw [success_contentCheck]
    simp

theorem checkDnsMetric_eq_ok_iff (what : String) (metric m : RawDnsMetric) :
    checkDnsMetric what metric = .ok m ↔
      metric.success = true ∧ metric.correctResolution = true ∧ metric = m := by
  unfold checkDnsMetric
  cases metric.success <;> cases metric.correctResolution <;> simp

theorem createDnsMetric_good_iff (probe : Probe) (elapsed : Duration) (domain : String)
    (expectedIp targetId : Option String) :
    (createDnsMetric probe.dns elapsed domain expectedIp targetId).success = true ∧
      (createDnsMetric probe.dns elapsed domain expectedIp targetId).correctResolution = true ↔
    Resolved probe expectedIp := by
  unfold Resolved createDnsMetric
  cases probe.dns with
  | error e => simp
  | ok addresses => cases expectedIp <;> simp

theorem success_bandwidthMetric (executor : TaskExecutor) (probe : Probe)
    (params : BandwidthParams) :
    (bandwidthMetric executor probe params).success = true ↔ Downloaded executor probe := by
  unfold bandwidthMetric Downloaded
  cases executor.coordinates with
  | none => simp
  | some c => cases probe.bandwidth <;> simp

theorem success_buildMetric (result : Except String SqlAnswer) (totalTimeMs : ℚ)
    (params : SqlQueryParams) :
    (buildMetric result totalTimeMs params).success = true ↔ ∃ r, result = .ok r := by
  unfold buildMetric
  cases result with
  | error e => simp
  | ok r => cases params.mode <;> simp

theorem success_sqlMetric (probe : Probe) (params : SqlQueryParams) :
    (sqlMetric probe params).success = true ↔ Queried probe := by
  unfold sqlMetric Queried
  cases probe.sqlConnect with
  | error e => simp
  | ok u =>
    rw [success_buildMetric]
    cases probe.sql <;> simp

theorem success_snmpMetric (probe : Probe) (params : SnmpParams) :
    (snmpMetric probe params).success = true ↔ params.Answered probe := by
  unfold snmpMetric snmpQuery SnmpParams.Answered
  cases parseHost probe params.host with
  | error e => simp
  | ok addr =>
    cases parseOid probe params.oid with
    | error e => simp
    | ok u => rcases probe.snmp with _ | e | r <;> simp

theorem certificateAccepted_iff (verifySsl : Bool) (certificate : Option CertificateInformation) :
    CertificateAccepted verifySsl certificate ↔
      sslRejected verifySsl (certificate.map CertificateInformation.isActive) = false := by
  unfold CertificateAccepted sslRejected
  cases verifySsl <;> cases certificate <;> simp

/-! ## What the executors report -/

/-- A metric in any case, which says whether `P`. -/
def Kept (r : Except String MetricData) (P : Prop) : Prop :=
  ∃ metric, r = .ok metric ∧ (metric.isSuccessful = true ↔ P)

/-- A successful metric if `P`, and none otherwise. -/
def Dropped (r : Except String MetricData) (P : Prop) : Prop :=
  (P → ∃ metric, r = .ok metric ∧ metric.isSuccessful = true) ∧ (¬ P → ∃ e, r = .error e)

theorem executeHttpTask_dropped {task : TaskConfig} {params : HttpGetParams} (probe : Probe)
    (hp : task.params = .httpGet params) :
    Dropped (executeHttpTask probe task) (params.Fetched probe) := by
  unfold executeHttpTask HttpGetParams.Fetched
  rw [hp]
  dsimp only
  cases hr : probe.http with
  | error e =>
    refine ⟨fun h => ?_, fun _ => ?_⟩
    · obtain ⟨response, h, -⟩ := h
      cases h
    · simp [httpMetric, hr]
  | ok response =>
    have hmetric : (httpMetric probe params).success =
          decide (response.status ≥ 200 ∧ response.status < 400) ∧
        (httpMetric probe params).sslValid =
          response.certificateInformation.map CertificateInformation.isActive := by
      simp [httpMetric, hr]
    rw [hmetric.2]
    refine ⟨fun h => ?_, fun h => ?_⟩
    · obtain ⟨response', he, hlo, hhi, hcert⟩ := h
      obtain rfl := Except.ok.inj he
      have hsuccess : (httpMetric probe params).success = true := by
        rw [hmetric.1, decide_eq_true_eq]
        exact ⟨hlo, hhi⟩
      rw [certificateAccepted_iff] at hcert
      simp [hsuccess, hcert, newMetric, MetricData.isSuccessful]
    · by_cases hs : (httpMetric probe params).success = true
      · rw [hmetric.1, decide_eq_true_eq] at hs
        have hcert : sslRejected params.verifySsl
            (response.certificateInformation.map CertificateInformation.isActive) = true := by
          rw [← Bool.not_eq_false]
          intro hc
          exact h ⟨response, rfl, hs.1, hs.2, (certificateAccepted_iff _ _).2 hc⟩
        simp [hmetric.1, hs, hcert]
      · simp [hs]

theorem executeTlsTask_dropped {task : TaskConfig} {params : TlsHandshakeParams} (probe : Probe)
    (hp : task.params = .tlsHandshake params) :
    Dropped (executeTlsTask probe task) (params.ShookHands probe) := by
  unfold executeTlsTask TlsHandshakeParams.ShookHands
  rw [hp]
  dsimp only
  cases hr : probe.tls with
  | error e =>
    refine ⟨fun h => ?_, fun _ => ?_⟩
    · obtain ⟨check, h, -⟩ := h
      cases h
    · simp [tlsMetric, hr]
  | ok check =>
    have hmetric : (tlsMetric probe params).success = true ∧ (tlsMetric probe params).sslValid =
        check.certificateInformation.map CertificateInformation.isActive := by
      simp [tlsMetric, hr]
    rw [hmetric.2]
    refine ⟨fun h => ?_, fun h => ?_⟩
    · obtain ⟨check', he, hcert⟩ := h
      obtain rfl := Except.ok.inj he
      rw [certificateAccepted_iff] at hcert
      simp [hmetric.1, hcert, newMetric, MetricData.isSuccessful]
    · have hcert : sslRejected params.verifySsl
          (check.certificateInformation.map CertificateInformation.isActive) = true := by
        rw [← Bool.not_eq_false]
        intro hc
        exact h ⟨check, rfl, (certificateAccepted_iff _ _).2 hc⟩
      simp [hmetric.1, hcert]

/-- Both DNS executors let a metric through exactly when the name was resolved as expected. -/
theorem checkDnsMetric_dropped (what : String) (probe : Probe) (task : TaskConfig)
    (taskType : TaskType) (domain : String) (expectedIp targetId : Option String) :
    Dropped ((checkDnsMetric what
      (createDnsMetric probe.dns probe.elapsed domain expectedIp targetId)).map fun metric =>
        newMetric probe task taskType (.dnsQuery metric)) (Resolved probe expectedIp) := by
  have hgood := createDnsMetric_good_iff probe probe.elapsed domain expectedIp targetId
  generalize createDnsMetric probe.dns probe.elapsed domain expectedIp targetId = metric at hgood ⊢
  refine ⟨fun h => ?_, fun h => ?_⟩
  · have hs := hgood.2 h
    rw [(checkDnsMetric_eq_ok_iff what metric metric).2 ⟨hs.1, hs.2, rfl⟩]
    exact ⟨_, rfl, hs.1⟩
  · cases hc : checkDnsMetric what metric with
    | error e => exact ⟨e, rfl⟩
    | ok m =>
      obtain ⟨h1, h2, -⟩ := (checkDnsMetric_eq_ok_iff what metric m).1 hc
      exact absurd (hgood.1 ⟨h1, h2⟩) h

theorem executeDnsTask_dropped {task : TaskConfig} {params : DnsQueryParams} (probe : Probe)
    (hp : task.params = .dnsQuery params) :
    Dropped (executeDnsTask probe task) (params.Answered probe) := by
  have hcheck := checkDnsMetric_dropped "DNS query" probe task .dnsQuery params.domain
    params.expectedIp params.targetId
  unfold executeDnsTask executeDnsQuery DnsQueryParams.Answered
  rw [hp]
  dsimp only
  by_cases hd : probe.domainName params.domain = true
  · by_cases ha : probe.socketAddr (dnsServerAddr params.server) = true
    · simpa [hd, ha] using hcheck
    · simp [Dropped, hd, ha]
  · simp [Dropped, hd]

theorem executeDnsDohTask_dropped {task : TaskConfig} {params : DnsQueryDohParams} (probe : Probe)
    (hp : task.params = .dnsQueryDoh params) :
    Dropped (executeDnsDohTask probe task) (params.Answered probe) := by
  have hcheck := checkDnsMetric_dropped "DNS over HTTPS query" probe task .dnsQueryDoh
    params.domain params.expectedIp params.targetId
  unfold executeDnsDohTask executeDnsOverHttpsQuery DnsQueryDohParams.Answered
  rw [hp]
  dsimp only
  by_cases hd : probe.domainName params.domain = true
  · simpa [hd] using hcheck
  · simp [Dropped, hd]

/-- Before the outer timeout, a task with the parameters of its type keeps or drops its failures
as its type does. -/
theorem runTask_reports (env : Externals) (executor : TaskExecutor) {probe : Probe}
    {task : TaskConfig} (hmatch : task.params.taskType = task.taskType)
    (hout : probe.outerTimeout = false) :
    if task.taskType.keepsFailures then
      Kept (runTask env executor probe task) (task.params.Succeeds env executor probe)
    else Dropped (runTask env executor probe task) (task.params.Succeeds env executor probe) := by
  unfold runTask
  rw [hout, if_neg Bool.false_ne_true, ← hmatch]
  cases hp : task.params with
  | ping params =>
    refine ⟨newMetric probe task .ping (.ping (pingMetric probe params)), ?_,
      success_pingMetric probe params⟩
    show executePingTask probe task = _
    rw [executePingTask, hp]
  | tcp params =>
    refine ⟨newMetric probe task .tcp (.tcp (tcpMetric probe params)), ?_,
      success_tcpMetric probe params⟩
    show executeTcpTask probe task = _
    rw [executeTcpTask, hp]
  | httpContent params =>
    refine ⟨newMetric probe task .httpContent (.httpContent (contentMetric env probe params)), ?_,
      success_contentMetric env probe params⟩
    show executeHttpContentTask env probe task = _
    rw [executeHttpContentTask, hp]
  | bandwidth params =>
    refine ⟨newMetric probe task .bandwidth (.bandwidth (bandwidthMetric executor probe params)), ?_,
      success_bandwidthMetric executor probe params⟩
    show executeBandwidthTask executor probe task = _
    rw [executeBandwidthTask, hp]
  | sqlQuery params =>
    refine ⟨newMetric probe task .sqlQuery (.sqlQuery (sqlMetric probe params)), ?_,
      success_sqlMetric probe params⟩
    show executeSqlQueryTask probe task = _
    rw [executeSqlQueryTask, hp]
  | snmp params =>
    refine ⟨newMetric probe task .snmp (.snmp (snmpMetric probe params)), ?_,
      success_snmpMetric probe params⟩
    show executeSnmpTask probe task = _
    rw [executeSnmpTask, hp]
  | httpGet params => exact executeHttpTask_dropped probe hp
  | tlsHandshake params => exact executeTlsTask_dropped probe hp
  | dnsQuery params => exact executeDnsTask_dropped probe hp
  | dnsQueryDoh params => exact executeDnsDohTask_dropped probe hp

theorem executeTask_of_ok {env : Externals} {executor : TaskExecutor} {probe : Probe}
    {task : TaskConfig} {metric : MetricData}
    (h : runTask env executor probe task = .ok metric) :
    executeTask env executor probe task =
      [⟨task.name, true, some metric, none, millis probe.elapsed⟩] := by
  unfold executeTask
  rw [h]

/-- An execution that ends in an error leaves no record. -/
theorem not_recorded_of_error {env : Externals} {executor : TaskExecutor} {probe : Probe}
    {task : TaskConfig} {e : String} (h : runTask env executor probe task = .error e) :
    ¬ Recorded env executor probe task := by
  rintro ⟨result, metric, hsent, -, hmetric, -⟩
  unfold executeTask at hsent
  rw [h] at hsent
  obtain rfl := (List.cons.inj hsent).1
  cases hmetric

/-! ## Top theorems -/

/-- Crates that know one url and every pattern. -/
def exampleExternals : Externals :=
  ⟨fun _ => .ok ⟨"https", some "example.com", "", none⟩, fun _ => .ok (), Char.isAlphanum⟩

/-- An outside where nothing answers, but the HTTP server does, with `status`. -/
def answeringProbe (status : UInt16) : Probe where
  parseIp := fun _ => none
  resolve := fun _ => .error "failed to lookup address information"
  ping := fun _ => .failed "timeout"
  pingTimedOut := false
  tcp := fun _ => none
  http := .ok ⟨10000000, some 20000000, 30000000, 1000000, some ⟨90000000000000, true⟩, status⟩
  tls := .error "timeout"
  content := .error (true, "timeout")
  domainName := fun _ => true
  socketAddr := fun _ => true
  dns := .error "timeout"
  bandwidth := .error "timeout"
  sqlConnect := .error "Failed to connect to database"
  sql := none
  oidFrom := fun _ => .ok ()
  snmp := none
  elapsed := 61000000
  systemTime := 0
  timestamp := 0
  outerTimeout := false

def exampleTask : TaskConfig :=
  ⟨.httpGet, 30, "web", none, .httpGet ⟨"https://example.com/", 10, [], true, none⟩⟩

end LinkSense
