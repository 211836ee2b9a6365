import LinkSense.Server.BandwidthState
import LinkSense.Server.Config
import LinkSense.Server.Database
import Mathlib.Algebra.Ring.Nat

/-!
# The server's request handlers

The handlers of `server/src/api.rs` on the state they share.  A handler answers or fails with an
`ApiError`, and may have changed the state either way; `none` is a panic.  A request that `axum`
cannot extract its arguments from reaches no handler.

    an admitted batch is accepted ↔ no key of it is held and none occurs twice
                                                                      (handleMetrics_isOk_iff)
    up to date is answered → the served version has the hash that was sent
                                      (handleMetrics_upToDate, handleConfigVerify_upToDate)
    (downloadChunks (downloadSize n)).sum = n * 1024 * 1024               (sum_downloadChunks)
-/

namespace LinkSense

/-! ## Errors -/

inductive ApiError where
  | unauthorized
  | forbidden (details : String)
  | badRequest (details : String)
  | tooManyRequests
  | internal (details : String)
  | database (details : String)
deriving DecidableEq, Repr

/-- `into_response`: the status code and the `error` field. -/
def ApiError.response : ApiError → Nat × String
  | .unauthorized => (401, "Unauthorized")
  | .forbidden _ => (403, "Forbidden")
  | .badRequest _ => (400, "Bad Request")
  | .tooManyRequests => (429, "Too Many Requests")
  | .internal _ => (500, "Internal Server Error")
  | .database _ => (500, "Database Error")

/-! ## State -/

/-- What the server keeps between requests. -/
structure ServerState where
  database : ServerDatabase
  configManager : ConfigManager
  bandwidth : BandwidthTestState
  rateLimits : String → Option (List Instant)

/-- The server is started again: what it keeps on disk stays. -/
def ServerState.restarted (s : ServerState) : ServerState :=
  { s with
    configManager := { s.configManager with configCache := fun _ => none }
    bandwidth := { s.bandwidth with currentTest := none, waitingQueue := [] }
    rateLimits := fun _ => none }

/-- What is fixed while the server runs. -/
structure Server where
  config : ServerConfig
  codecs : Codecs
  env : Externals
  earliest : Instant

/-- The two clocks as a request reads them, and the error of a failing disk write. -/
structure Moment where
  now : Instant
  time : Nat
  writeError : Option String

/-- A handler: its outcome with the state after it, or a panic. -/
abbrev Handler (α : Type) := ServerState → Option (Except ApiError α × ServerState)

namespace Handler

variable {α β : Type}

def answer (a : α) : Handler α := fun s => some (.ok a, s)

def fail (e : ApiError) : Handler α := fun s => some (.error e, s)

/-- The `?` operator: go on with the value, or stop with the error. -/
def andThen (h : Handler α) (k : α → Handler β) : Handler β := fun s =>
  match h s with
  | none => none
  | some (.error e, s') => some (.error e, s')
  | some (.ok a, s') => k a s'

/-- A check that reads no state. -/
def check (c : Except ApiError α) : Handler α := fun s => some (c, s)

theorem andThen_eq_ok {h : Handler α} {k : α → Handler β} {b : β} {s s' : ServerState}
    (he : h.andThen k s = some (.ok b, s')) :
    ∃ a s₁, h s = some (.ok a, s₁) ∧ k a s₁ = some (.ok b, s') := by
  unfold andThen at he
  split at he
  · cases he
  · simp at he
  · next a s₁ hs => exact ⟨a, s₁, hs, he⟩

/-- The first part fails, or the second goes on from it. -/
theorem andThen_cases {h : Handler α} {k : α → Handler β} {r : Except ApiError β}
    {s s' : ServerState} (he : h.andThen k s = some (r, s')) :
    (∃ e, h s = some (.error e, s') ∧ r = .error e) ∨
      ∃ a s₁, h s = some (.ok a, s₁) ∧ k a s₁ = some (r, s') := by
  unfold andThen at he
  split at he
  · cases he
  · next e s₁ hs =>
    cases he
    exact .inl ⟨e, hs, rfl⟩
  · next a s₁ hs => exact .inr ⟨a, s₁, hs, he⟩

theorem andThen_assoc {γ : Type} (h : Handler α) (k : α → Handler β) (l : β → Handler γ) :
    (h.andThen k).andThen l = h.andThen fun a => (k a).andThen l := by
  funext s
  unfold andThen
  rcases h s with _ | ⟨_ | _, _⟩
  · rfl
  · rfl
  · rfl

theorem check_andThen_eq_ok {c : Except ApiError α} {k : α → Handler β} {b : β}
    {s s' : ServerState} (he : (check c).andThen k s = some (.ok b, s')) :
    ∃ a, c = .ok a ∧ k a s = some (.ok b, s') := by
  obtain ⟨a, s₁, hc, hk⟩ := andThen_eq_ok he
  simp only [check, Option.some.injEq, Prod.mk.injEq] at hc
  obtain ⟨rfl, rfl⟩ := hc
  exact ⟨a, rfl, hk⟩

/-- `Q` holds after the handler when it holds before. -/
def Keeps (Q : ServerState → Prop) (h : Handler α) : Prop :=
  ∀ s r s', Q s → h s = some (r, s') → Q s'

variable {Q : ServerState → Prop}

theorem keeps_check (c : Except ApiError α) : Keeps Q (check c) := by
  intro s r s' hQ h
  cases h
  exact hQ

theorem keeps_answer (a : α) : Keeps Q (answer a) := by
  intro s r s' hQ h
  cases h
  exact hQ

theorem keeps_fail (e : ApiError) : Keeps Q (fail e : Handler α) := by
  intro s r s' hQ h
  cases h
  exact hQ

theorem keeps_andThen {h : Handler α} {k : α → Handler β} (hh : Keeps Q h)
    (hk : ∀ a, Keeps Q (k a)) : Keeps Q (h.andThen k) := by
  intro s r s' hQ he
  unfold andThen at he
  split at he
  · cases he
  · next hs =>
    cases he
    exact hh _ _ _ hQ hs
  · next hs => exact hk _ _ _ _ (hh _ _ _ hQ hs) he

end Handler

/-! ## Checks -/

/-- Header names in lower case, with the bytes of each value in the order received. -/
abbrev HeaderMap := List (String × List UInt8)

def HeaderMap.get (headers : HeaderMap) (name : String) : Option (List UInt8) :=
  (headers.find? fun h => h.1 == name).map Prod.snd

/-- `HeaderValue::to_str`: visible ASCII, blanks and tabs only. -/
def headerToStr (value : List UInt8) : Option String :=
  if value.all fun b => b == 9 || (32 ≤ b && b < 127) then
    some (String.ofList (value.map fun b => Char.ofNat b.toNat))
  else none

/-- `validate_api_key`. -/
def validateApiKey (headers : HeaderMap) (expectedKey : String) : Except ApiError Unit :=
  match headers.get "x-api-key" with
  | none => .error .unauthorized
  | some value =>
    match headerToStr value with
    | none => .error .unauthorized
    | some providedKey =>
      if providedKey = "" then .error .unauthorized
      else if providedKey = expectedKey then .ok ()
      else .error .unauthorized

/-- `validate_agent_id`. -/
def validateAgentId (env : Externals) (agentId : String) : Except ApiError Unit :=
  let chars := agentId.toList
  let special := fun c => c == '-' || c == '_'
  if agentId = "" then
    .error (.badRequest "Agent ID cannot be empty")
  else if agentId.utf8ByteSize > 128 then
    .error (.badRequest s!"Agent ID too long: {agentId.utf8ByteSize} characters (max 128)")
  else if !chars.all fun c => env.isAlphanumeric c || special c then
    .error (.badRequest
      "Agent ID must contain only alphanumeric characters, hyphens, and underscores")
  else if chars.head?.any special || chars.getLast?.any special then
    .error (.badRequest "Agent ID cannot start or end with hyphens or underscores")
  else .ok ()

/-- `validate_agent_whitelist`: an empty list allows everyone. -/
def validateAgentWhitelist (agentId : String) (whitelist : List String) : Except ApiError Unit :=
  if whitelist = [] then .ok ()
  else if agentId ∈ whitelist then .ok ()
  else .error (.forbidden "Agent ID not in whitelist")

/-- `check_rate_limit`: drop what left the window, and count the request unless that is full. -/
def checkRateLimit (window : Duration) (maxRequests : Nat) (now : Instant) (agentId : String) :
    Handler Unit := fun s =>
  let requests := ((s.rateLimits agentId).getD []).filter fun t => elapsed t now < window
  if requests.length ≥ maxRequests then
    some (.error .tooManyRequests,
      { s with rateLimits := Function.update s.rateLimits agentId (some requests) })
  else
    some (.ok (),
      { s with rateLimits := Function.update s.rateLimits agentId (some (requests ++ [now])) })

/-- The rate limit, when it is enabled. -/
def limitRate (server : Server) (m : Moment) (agentId : String) : Handler Unit :=
  if server.config.rateLimitEnabled then
    checkRateLimit (fromSecs server.config.rateLimitWindowSeconds.toUInt64)
      server.config.rateLimitMaxRequests.toNat m.now agentId
  else .answer ()

/-- Limiting the rate counts requests and does nothing else. -/
theorem limitRate_frame {server : Server} {m : Moment} {agentId : String}
    {s s' : ServerState} {r : Except ApiError Unit}
    (h : limitRate server m agentId s = some (r, s')) :
    s' = { s with rateLimits := s'.rateLimits } := by
  unfold limitRate at h
  split at h
  · unfold checkRateLimit at h
    dsimp only at h
    split at h
    all_goals
      simp only [Option.some.injEq, Prod.mk.injEq] at h
      rw [← h.2]
  · simp only [Handler.answer, Option.some.injEq, Prod.mk.injEq] at h
    rw [← h.2]

/-! ## Handlers -/

/-- `get_agent_config`, for whom it has one. -/
def readConfig (server : Server) (agentId : String) : Handler (Option CachedAgentConfig) := fun s =>
  let (cached, m) := s.configManager.getAgentConfig server.codecs agentId
  some (.ok cached, { s with configManager := m })

def upsertAgent (m : Moment) (request : MetricsRequest) : Handler Unit := fun s =>
  some (.ok (), { s with
    database := s.database.upsertAgent m.time request.agentId request.configChecksum
      request.agentVersion })

def storeMetrics (m : Moment) (request : MetricsRequest) : Handler Unit := fun s =>
  if request.metrics = [] then some (.ok (), s)
  else
    match s.database.storeMetrics m.time request.agentId request.metrics with
    | .error e => some (.error (.database s!"Failed to store metrics: {e}"), s)
    | .ok db => some (.ok (), { s with database := db })

/-- `handle_metrics`. -/
def handleMetrics (server : Server) (m : Moment) (headers : HeaderMap) (request : MetricsRequest) :
    Handler MetricsResponse :=
  .andThen (.check (validateApiKey headers server.config.apiKey)) fun _ =>
  .andThen (.check (validateAgentId server.env request.agentId)) fun _ =>
  .andThen (.check (validateAgentWhitelist request.agentId server.config.agentIdWhitelist))
    fun _ =>
  .andThen (limitRate server m request.agentId) fun _ =>
  .andThen (upsertAgent m request) fun _ =>
  .andThen (storeMetrics m request) fun _ =>
  .andThen (readConfig server request.agentId) fun cached =>
  .answer (if cached.map CachedAgentConfig.hash = some request.configChecksum then .upToDate
    else .stale)

/-- The metrics are stored, or nothing happens. -/
theorem storeMetrics_cases {m : Moment} {request : MetricsRequest} {s s' : ServerState}
    {c : Except ApiError Unit} (h : storeMetrics m request s = some (c, s')) :
    (∃ e, c = .error e ∧ s' = s ∧
      ∀ db, s.database.storeMetrics m.time request.agentId request.metrics ≠ .ok db) ∨
    (c = .ok () ∧ s' = { s with database := s'.database } ∧
      s.database.storeMetrics m.time request.agentId request.metrics = .ok s'.database) := by
  unfold storeMetrics at h
  by_cases hnil : request.metrics = []
  · rw [if_pos hnil] at h
    cases h
    exact .inr ⟨rfl, rfl, by rw [hnil]; rfl⟩
  · rw [if_neg hnil] at h
    cases hstore : s.database.storeMetrics m.time request.agentId request.metrics with
    | error e =>
      rw [hstore] at h
      cases h
      exact .inl ⟨_, rfl, rfl, nofun⟩
    | ok db =>
      rw [hstore] at h
      cases h
      exact .inr ⟨rfl, rfl, rfl⟩

/-- The checks that come before the effect of an agent's request. -/
def admission (server : Server) (m : Moment) (headers : HeaderMap) (agentId : String) :
    Handler Unit :=
  .andThen (.check (validateApiKey headers server.config.apiKey)) fun _ =>
  .andThen (.check (validateAgentId server.env agentId)) fun _ =>
  .andThen (.check (validateAgentWhitelist agentId server.config.agentIdWhitelist)) fun _ =>
  limitRate server m agentId

/-- A request that is answered has passed the checks that most requests start with. -/
theorem checked_eq_ok {α : Type} {server : Server} {headers : HeaderMap} {agentId : String}
    {k : Handler α} {r : α} {s s' : ServerState}
    (h : Handler.andThen (.check (validateApiKey headers server.config.apiKey)) (fun _ =>
      .andThen (.check (validateAgentId server.env agentId)) fun _ =>
      .andThen (.check (validateAgentWhitelist agentId server.config.agentIdWhitelist)) fun _ =>
        k) s = some (.ok r, s')) : k s = some (.ok r, s') := by
  obtain ⟨_, -, h⟩ := Handler.check_andThen_eq_ok h
  obtain ⟨_, -, h⟩ := Handler.check_andThen_eq_ok h
  obtain ⟨_, -, h⟩ := Handler.check_andThen_eq_ok h
  exact h

theorem admission_frame {server : Server} {m : Moment} {headers : HeaderMap} {agentId : String}
    {s s' : ServerState} (h : admission server m headers agentId s = some (.ok (), s')) :
    s' = { s with rateLimits := s'.rateLimits } := by
  exact limitRate_frame (checked_eq_ok h)

/-- A request that passes the checks, and what the rate limit makes of the state. -/
theorem handleMetrics_of_admission {server : Server} {m : Moment} {headers : HeaderMap}
    {request : MetricsRequest} {s s₁ : ServerState}
    (h : admission server m headers request.agentId s = some (.ok (), s₁)) :
    handleMetrics server m headers request s =
      Handler.andThen (upsertAgent m request) (fun _ =>
        .andThen (storeMetrics m request) fun _ =>
        .andThen (readConfig server request.agentId) fun cached =>
        .answer (if cached.map CachedAgentConfig.hash = some request.configChecksum then .upToDate
          else .stale)) s₁ := by
  have hsplit : handleMetrics server m headers request =
      (admission server m headers request.agentId).andThen fun _ =>
        Handler.andThen (upsertAgent m request) fun _ =>
        .andThen (storeMetrics m request) fun _ =>
        .andThen (readConfig server request.agentId) fun cached =>
        .answer (if cached.map CachedAgentConfig.hash = some request.configChecksum then .upToDate
          else .stale) := by
    unfold handleMetrics admission
    simp only [Handler.andThen_assoc]
  rw [hsplit]
  unfold Handler.andThen
  rw [h]

/-- **An admitted batch is accepted** exactly when no key of it is held and none occurs twice. -/
theorem handleMetrics_isOk_iff {server : Server} {m : Moment} {headers : HeaderMap}
    {request : MetricsRequest} {s s₁ : ServerState}
    (h : admission server m headers request.agentId s = some (.ok (), s₁)) :
    (∃ r s', handleMetrics server m headers request s = some (.ok r, s')) ↔
      (∀ metric ∈ request.metrics, s₁.database.holds request.agentId metric = false) ∧
        (request.metrics.filterMap (ServerDatabase.metricKey request.agentId)).Nodup := by
  let db := s₁.database.upsertAgent m.time request.agentId request.configChecksum
    request.agentVersion
  have hreg : db.registered request.agentId = true := ServerDatabase.registered_upsertAgent _ _ _ _ _
  have hholds : ∀ metric, db.holds request.agentId metric =
      s₁.database.holds request.agentId metric := fun metric =>
    ServerDatabase.holds_upsertAgent _ _ _ _ _ _ _
  rw [handleMetrics_of_admission h]
  -- once the metrics are stored, the request is answered
  have hrest : ∀ t, ∃ r s', Handler.andThen (readConfig server request.agentId)
      (fun cached => .answer (if cached.map CachedAgentConfig.hash = some request.configChecksum
        then MetricsResponse.upToDate else .stale)) t = some (.ok r, s') :=
    fun t => ⟨_, _, rfl⟩
  show (∃ r s', Handler.andThen (storeMetrics m request) _ { s₁ with database := db } = _) ↔ _
  unfold Handler.andThen storeMetrics
  by_cases hnil : request.metrics = []
  · rw [if_pos hnil, hnil]
    simp only [List.not_mem_nil, false_imp_iff, implies_true, List.filterMap_nil, List.nodup_nil,
      and_self, iff_true]
    exact hrest { s₁ with database := db }
  · have hstore := ServerDatabase.storeMetrics_isOk_iff m.time request.metrics hreg
    simp only [hholds] at hstore
    rw [← hstore, if_neg hnil]
    dsimp only
    cases db.storeMetrics m.time request.agentId request.metrics with
    | error e => simp
    | ok db' =>
      simp only [Except.ok.injEq, exists_eq', iff_true]
      exact hrest { s₁ with database := db' }

/-- The agent's `agent.toml`, made up by the server. -/
def agentTomlContent (agentId : String) : String :=
  "agent_id = \"" ++ agentId ++ "\"\n# Agent-specific configuration (auto-generated by server)\n"

/-- `handle_configs`; `params` are the query parameters. -/
def handleConfigs (server : Server) (headers : HeaderMap) (params : String → Option String) :
    Handler ConfigsResponse :=
  let agentId := (params "agent_id").getD ""
  .andThen (.check (validateApiKey headers server.config.apiKey)) fun _ =>
  .andThen (.check (validateAgentId server.env agentId)) fun _ =>
  .andThen (.check (validateAgentWhitelist agentId server.config.agentIdWhitelist)) fun _ =>
  .andThen (readConfig server agentId) fun cached =>
  match cached with
  | none => .fail (.badRequest s!"Configuration not found for agent {agentId}")
  | some cached =>
    .answer ⟨encodeBase64 server.codecs (agentTomlContent agentId), cached.compressed⟩

/-- `handle_config_error`: always accepted, whether the error could be stored or not. -/
def handleConfigError (server : Server) (m : Moment) (request : ConfigErrorRequest) :
    Handler Unit :=
  match validateAgentId server.env request.agentId with
  | .error _ => .fail (.badRequest "Invalid agent ID")
  | .ok () =>
    .andThen (.check (validateAgentWhitelist request.agentId server.config.agentIdWhitelist))
      fun _ s =>
        match s.database.logConfigError m.time request.agentId request.timestampUtc
          request.errorMessage with
        | .error _ => some (.ok (), s)
        | .ok db => some (.ok (), { s with database := db })

/-- `handle_config_verify`. -/
def handleConfigVerify (server : Server) (m : Moment) (headers : HeaderMap)
    (request : ConfigVerifyRequest) : Handler ConfigVerifyResponse :=
  .andThen (.check (validateApiKey headers server.config.apiKey)) fun _ =>
  .andThen (.check (validateAgentId server.env request.agentId)) fun _ =>
  .andThen (.check (validateAgentWhitelist request.agentId server.config.agentIdWhitelist))
    fun _ =>
  .andThen (limitRate server m request.agentId) fun _ =>
  .andThen (readConfig server request.agentId) fun cached =>
  match cached with
  | none => .answer ⟨"error", .stale, none⟩
  | some cached =>
    if request.tasksConfigHash = cached.hash then .answer ⟨"success", .upToDate, none⟩
    else .answer ⟨"success", .stale, some cached.compressed⟩

/-- The uploaded text: base64, then gzip. -/
def decodeUpload (codecs : Codecs) (tasksToml : String) : Except ApiError String :=
  match codecs.base64Decode tasksToml with
  | .error e => .error (.badRequest s!"Invalid base64 encoding: {e}")
  | .ok compressed =>
    match codecs.gunzip compressed with
    | .error e => .error (.badRequest s!"Invalid gzip compression: {e}")
    | .ok content => .ok content

/-- Save an upload, unless the agent has a file already. -/
def saveUpload (m : Moment) (agentId content : String) : Handler ConfigUploadResponse := fun s =>
  if (s.configManager.files agentId).isSome then
    some (.ok ⟨"success", "Configuration already exists on server, using existing config", false⟩,
      s)
  else
    match m.writeError with
    | some e => some (.error (.internal s!"Failed to save configuration: {e}"), s)
    | none =>
      some (.ok ⟨"success", "Configuration uploaded and saved successfully", true⟩,
        { s with configManager := s.configManager.writeFile agentId content })

/-- `handle_config_upload`. -/
def handleConfigUpload (server : Server) (m : Moment) (headers : HeaderMap)
    (request : ConfigUploadRequest) : Handler ConfigUploadResponse :=
  .andThen (.check (validateApiKey headers server.config.apiKey)) fun _ =>
  .andThen (.check (validateAgentId server.env request.agentId)) fun _ =>
  .andThen (.check (validateAgentWhitelist request.agentId server.config.agentIdWhitelist))
    fun _ =>
  .andThen (limitRate server m request.agentId) fun _ =>
  .andThen (.check (decodeUpload server.codecs request.tasksToml)) fun content =>
  match validateFromToml server.codecs server.env content with
  | .error e => .answer ⟨"error", s!"Invalid tasks configuration: {e}", false⟩
  | .ok _ => saveUpload m request.agentId content

/-- `handle_bandwidth_test`. -/
def handleBandwidthTest (server : Server) (m : Moment) (headers : HeaderMap)
    (request : BandwidthTestRequest) : Handler BandwidthTestResponse :=
  .andThen (.check (validateApiKey headers server.config.apiKey)) fun _ =>
  .andThen (.check (validateAgentId server.env request.agentId)) fun _ =>
  .andThen (.check (validateAgentWhitelist request.agentId server.config.agentIdWhitelist))
    fun _ =>
  .andThen (limitRate server m request.agentId) fun _ s =>
    let dataSizeBytes := server.config.bandwidthTestSizeMb.toUInt64 * 1024 * 1024
    match s.bandwidth.requestTest server.earliest m.now request.agentId dataSizeBytes with
    | none => none
    | some (bandwidth, response) => some (.ok response, { s with bandwidth := bandwidth })

/-- The first half of `handle_bandwidth_download`: the caller must hold the slot. -/
def admitDownload (status : Option (String × Nat)) (agentId : String) : Except ApiError Unit :=
  match status with
  | none => .error (.badRequest "No active bandwidth test")
  | some (currentAgent, _) =>
    if currentAgent = agentId then .ok ()
    else .error (.badRequest "No active bandwidth test for this agent")

def chunkSize : Nat := 64 * 1024

/-- `total_size`, in saturating `usize` arithmetic. -/
def downloadSize (sizeMb : UInt32) : Nat := min (sizeMb.toNat * (1024 * 1024)) (2 ^ 64 - 1)

/-- The lengths of the chunks that the body yields. -/
def downloadChunks (totalSize : Nat) : List Nat :=
  (List.range (min (totalSize + (chunkSize - 1)) (2 ^ 64 - 1) / chunkSize)).map fun i =>
    min (totalSize - i * chunkSize) chunkSize

/-- `handle_bandwidth_download`: the chunks of the body. -/
def handleBandwidthDownload (server : Server) (m : Moment) (params : String → Option String) :
    Handler (List Nat) :=
  let agentId := (params "agent_id").getD ""
  .andThen (.check (validateAgentId server.env agentId)) fun _ =>
  .andThen (.check (validateAgentWhitelist agentId server.config.agentIdWhitelist)) fun _ =>
  .andThen (fun s => Handler.check (admitDownload (s.bandwidth.getStatus m.now) agentId) s)
    fun _ s =>
      some (.ok (downloadChunks (downloadSize server.config.bandwidthTestSizeMb)),
        { s with bandwidth := s.bandwidth.completeTest m.now agentId })

/-- The first `k` chunks of a download. -/
theorem sum_take_chunks (totalSize k : Nat) :
    ((List.range k).map fun i => min (totalSize - i * chunkSize) chunkSize).sum =
      min (k * chunkSize) totalSize := by
  induction k with
  | zero => simp
  | succ k ih =>
    rw [List.range_succ, List.map_append, List.sum_append, ih, List.map_singleton,
      List.sum_singleton, Nat.succ_mul]
    omega

/-- The body has the length that the test asks for; the saturating arithmetic never saturates. -/
theorem sum_downloadChunks (sizeMb : UInt32) :
    (downloadChunks (downloadSize sizeMb)).sum = sizeMb.toNat * (1024 * 1024) := by
  have hlt : sizeMb.toNat < 2 ^ 32 := sizeMb.toNat_lt
  have hsize : downloadSize sizeMb = sizeMb.toNat * (1024 * 1024) := by
    unfold downloadSize
    omega
  unfold downloadChunks
  rw [hsize, sum_take_chunks]
  unfold chunkSize
  omega

/-! ## Requests -/

/-- What `axum` extracts for each agent-facing endpoint. -/
inductive Payload where
  | metrics (body : MetricsRequest)
  | configs (params : String → Option String)
  | configError (body : ConfigErrorRequest)
  | configVerify (body : ConfigVerifyRequest)
  | configUpload (body : ConfigUploadRequest)
  | bandwidthTest (body : BandwidthTestRequest)
  | bandwidthDownload (params : String → Option String)

structure Request where
  headers : HeaderMap
  payload : Payload

inductive Response where
  | metrics (body : MetricsResponse)
  | configs (body : ConfigsResponse)
  | accepted
  | configVerify (body : ConfigVerifyResponse)
  | configUpload (body : ConfigUploadResponse)
  | bandwidthTest (body : BandwidthTestResponse)
  | bandwidthDownload (chunks : List Nat)
deriving DecidableEq, Repr

def Handler.map {α β : Type} (f : α → β) (h : Handler α) : Handler β :=
  h.andThen fun a => .answer (f a)

/-- `create_router`. -/
def handle (server : Server) (m : Moment) (request : Request) : Handler Response :=
  match request.payload with
  | .metrics body => (handleMetrics server m request.headers body).map .metrics
  | .configs params => (handleConfigs server request.headers params).map .configs
  | .configError body => (handleConfigError server m body).map fun _ => .accepted
  | .configVerify body => (handleConfigVerify server m request.headers body).map .configVerify
  | .configUpload body => (handleConfigUpload server m request.headers body).map .configUpload
  | .bandwidthTest body => (handleBandwidthTest server m request.headers body).map .bandwidthTest
  | .bandwidthDownload params =>
    (handleBandwidthDownload server m params).map .bandwidthDownload

/-! ## Cached task files -/

section WellCached

variable (server : Server) (m : Moment)

/-- The cache of the server belongs to the contents in it. -/
def ServerState.WellCached (s : ServerState) : Prop :=
  s.configManager.WellCached server.codecs

theorem limitRate_wellCached (agentId : String) :
    (limitRate server m agentId).Keeps (ServerState.WellCached server) := by
  intro s r s' hQ h
  rw [limitRate_frame h]
  exact hQ

theorem readConfig_wellCached (agentId : String) :
    (readConfig server agentId).Keeps (ServerState.WellCached server) := by
  intro s r s' hQ h
  cases h
  exact ConfigManager.getAgentConfig_wellCached hQ agentId

theorem upsertAgent_wellCached (request : MetricsRequest) :
    (upsertAgent m request).Keeps (ServerState.WellCached server) := by
  intro s r s' hQ h
  cases h
  exact hQ

theorem storeMetrics_wellCached (request : MetricsRequest) :
    (storeMetrics m request).Keeps (ServerState.WellCached server) := by
  intro s r s' hQ h
  rcases storeMetrics_cases h with ⟨e, -, rfl, -⟩ | ⟨-, hs', -⟩
  · exact hQ
  · rw [hs']
    exact hQ

theorem saveUpload_wellCached (agentId content : String) :
    (saveUpload m agentId content).Keeps (ServerState.WellCached server) := by
  intro s r s' hQ h
  unfold saveUpload at h
  repeat' split at h
  all_goals
    cases h
    exact hQ

/-- The checks that most requests start with. -/
theorem keeps_admitted {α : Type} {headers : HeaderMap} {agentId : String} {Q : ServerState → Prop}
    {k : Handler α} (hk : k.Keeps Q) :
    Handler.Keeps Q (.andThen (.check (validateApiKey headers server.config.apiKey)) fun _ =>
      .andThen (.check (validateAgentId server.env agentId)) fun _ =>
      .andThen (.check (validateAgentWhitelist agentId server.config.agentIdWhitelist)) fun _ =>
        k) := by
  refine Handler.keeps_andThen (Handler.keeps_check _) fun _ => ?_
  refine Handler.keeps_andThen (Handler.keeps_check _) fun _ => ?_
  refine Handler.keeps_andThen (Handler.keeps_check _) fun _ => ?_
  exact hk

theorem handleMetrics_wellCached (headers : HeaderMap) (body : MetricsRequest) :
    (handleMetrics server m headers body).Keeps (ServerState.WellCached server) := by
  refine keeps_admitted server ?_
  refine Handler.keeps_andThen (limitRate_wellCached server m _) fun _ => ?_
  refine Handler.keeps_andThen (upsertAgent_wellCached server m body) fun _ => ?_
  refine Handler.keeps_andThen (storeMetrics_wellCached server m body) fun _ => ?_
  refine Handler.keeps_andThen (readConfig_wellCached server _) fun _ => ?_
  exact Handler.keeps_answer _

theorem handleConfigVerify_wellCached (headers : HeaderMap) (body : ConfigVerifyRequest) :
    (handleConfigVerify server m headers body).Keeps (ServerState.WellCached server) := by
  refine keeps_admitted server ?_
  refine Handler.keeps_andThen (limitRate_wellCached server m _) fun _ => ?_
  refine Handler.keeps_andThen (readConfig_wellCached server _) fun cached => ?_
  cases cached with
  | none => exact Handler.keeps_answer _
  | some cached =>
    dsimp only
    split
    · exact Handler.keeps_answer _
    · exact Handler.keeps_answer _

theorem handleConfigUpload_wellCached (headers : HeaderMap) (body : ConfigUploadRequest) :
    (handleConfigUpload server m headers body).Keeps (ServerState.WellCached server) := by
  refine keeps_admitted server ?_
  refine Handler.keeps_andThen (limitRate_wellCached server m _) fun _ => ?_
  refine Handler.keeps_andThen (Handler.keeps_check _) fun content => ?_
  split
  · exact Handler.keeps_answer _
  · exact saveUpload_wellCached server m _ content

/-- **Every request** leaves a cache that belongs to its contents. -/
theorem handle_wellCached (request : Request) :
    (handle server m request).Keeps (ServerState.WellCached server) := by
  have hmap : ∀ {α β : Type} (f : α → β) {h : Handler α},
      h.Keeps (ServerState.WellCached server) → (h.map f).Keeps (ServerState.WellCached server) :=
    fun f _ hh => Handler.keeps_andThen hh fun _ => Handler.keeps_answer _
  obtain ⟨headers, payload⟩ := request
  cases payload with
  | metrics body => exact hmap _ (handleMetrics_wellCached server m headers body)
  | configs params =>
    refine hmap _ (keeps_admitted server ?_)
    refine Handler.keeps_andThen (readConfig_wellCached server _) fun cached => ?_
    cases cached with
    | none => exact Handler.keeps_fail _
    | some cached => exact Handler.keeps_answer _
  | configError body =>
    refine hmap _ ?_
    unfold handleConfigError
    split
    · exact Handler.keeps_fail _
    · refine Handler.keeps_andThen (Handler.keeps_check _) fun _ => ?_
      intro s r s' hQ h
      dsimp only at h
      split at h
      all_goals
        cases h
        exact hQ
  | configVerify body => exact hmap _ (handleConfigVerify_wellCached server m headers body)
  | configUpload body => exact hmap _ (handleConfigUpload_wellCached server m headers body)
  | bandwidthTest body =>
    refine hmap _ (keeps_admitted server ?_)
    refine Handler.keeps_andThen (limitRate_wellCached server m _) fun _ => ?_
    intro s r s' hQ h
    dsimp only at h
    split at h
    · cases h
    · cases h
      exact hQ
  | bandwidthDownload params =>
    refine hmap _ ?_
    unfold handleBandwidthDownload
    refine Handler.keeps_andThen (Handler.keeps_check _) fun _ => ?_
    refine Handler.keeps_andThen (Handler.keeps_check _) fun _ => ?_
    refine Handler.keeps_andThen ?_ fun _ => ?_
    · intro s r s' hQ h
      cases h
      exact hQ
    · intro s r s' hQ h
      cases h
      exact hQ

/-- **An agent is told that it is up to date** when its checksum is that of the served version. -/
theorem readConfig_upToDate {agentId : String} {s s' : ServerState}
    {cached : Option CachedAgentConfig} {checksum : String} (hQ : ServerState.WellCached server s)
    (h : readConfig server agentId s = some (.ok cached, s'))
    (hsum : cached.map CachedAgentConfig.hash = some checksum) :
    ∃ content, s.configManager.served agentId = some content ∧
      server.codecs.blake3 content = checksum ∧
      s'.configManager.served agentId = some content := by
  cases h
  obtain ⟨entry, he, hhash⟩ := Option.map_eq_some_iff.1 hsum
  obtain ⟨hbefore, hown, hafter⟩ := ConfigManager.getAgentConfig_served hQ he
  exact ⟨entry.content, hbefore, hown.symm.trans hhash, hafter⟩

theorem handleMetrics_upToDate {headers : HeaderMap} {body : MetricsRequest} {s s' : ServerState}
    {r : MetricsResponse} (hQ : ServerState.WellCached server s)
    (h : handleMetrics server m headers body s = some (.ok r, s'))
    (hr : r.configStatus = .upToDate) :
    ∃ content, s.configManager.served body.agentId = some content ∧
      server.codecs.blake3 content = body.configChecksum ∧
      s'.configManager.served body.agentId = some content := by
  obtain ⟨_, s₁, hlimit, h⟩ := Handler.andThen_eq_ok (checked_eq_ok h)
  obtain ⟨_, s₂, hupsert, h⟩ := Handler.andThen_eq_ok h
  obtain ⟨_, s₃, hstore, h⟩ := Handler.andThen_eq_ok h
  obtain ⟨cached, s₄, hread, h⟩ := Handler.andThen_eq_ok h
  -- nothing before the comparison touches the task files
  have hmanager : s₃.configManager = s.configManager := by
    have h₁ : s₁.configManager = s.configManager := by rw [limitRate_frame hlimit]
    cases hupsert
    rw [← h₁]
    rcases storeMetrics_cases hstore with ⟨e, he, -⟩ | ⟨-, hs₃, -⟩
    · cases he
    · rw [hs₃]
  have hQ₃ : ServerState.WellCached server s₃ := by
    unfold ServerState.WellCached
    rw [hmanager]
    exact hQ
  have hsum : cached.map CachedAgentConfig.hash = some body.configChecksum := by
    by_contra hne
    rw [if_neg hne] at h
    cases h
    cases hr
  cases h
  rw [← hmanager]
  exact readConfig_upToDate server hQ₃ hread hsum

theorem handleConfigVerify_upToDate {headers : HeaderMap} {body : ConfigVerifyRequest}
    {s s' : ServerState} {r : ConfigVerifyResponse} (hQ : ServerState.WellCached server s)
    (h : handleConfigVerify server m headers body s = some (.ok r, s'))
    (hr : r.configStatus = .upToDate) :
    ∃ content, s.configManager.served body.agentId = some content ∧
      server.codecs.blake3 content = body.tasksConfigHash ∧
      s'.configManager.served body.agentId = some content := by
  obtain ⟨_, s₁, hlimit, h⟩ := Handler.andThen_eq_ok (checked_eq_ok h)
  obtain ⟨cached, s₂, hread, h⟩ := Handler.andThen_eq_ok h
  have hmanager : s₁.configManager = s.configManager := by rw [limitRate_frame hlimit]
  have hQ₁ : ServerState.WellCached server s₁ := by
    unfold ServerState.WellCached
    rw [hmanager]
    exact hQ
  have hsum : cached.map CachedAgentConfig.hash = some body.tasksConfigHash ∧ s₂ = s' := by
    cases cached with
    | none =>
      cases h
      cases hr
    | some cached =>
      dsimp only at h
      split at h
      · next heq =>
        cases h
        exact ⟨congrArg some heq.symm, rfl⟩
      · cases h
        cases hr
  rw [← hmanager, ← hsum.2]
  exact readConfig_upToDate server hQ₁ hread hsum.1

end WellCached

end LinkSense
