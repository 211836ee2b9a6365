import LinkSense.Agent.MainLoop
import LinkSense.Server.BackgroundTasks
import LinkSense.Server.BandwidthDelay
import LinkSense.System.Overrides

/-!
# Starting with overrides

`main` of agent and server: the program is made from the stored configuration, then the overrides
are applied, then it runs.  What a component has copied by then keeps its old value.

    an agent that starts has its upload and its executor from the stored configuration, and the rest
      from the overridden one                                               (startAgent_eq)
    it starts as from a file with the overrides ↔ they leave alone what upload and executor copy;
      a server ↔ they leave alone the folder of the agents' configurations (overrides_reach_iff)
-/

namespace LinkSense

open Persisted

/-! ## Paths -/

/-- A reversed path without separators and `.` components at its end. -/
def trimPath : List Char → List Char
  | ['/'] => ['/']
  | '/' :: rest => trimPath rest
  | '.' :: '/' :: rest => trimPath ('/' :: rest)
  | path => path

/-- `Path::parent`. -/
def pathParent (path : String) : Option String :=
  let trimmed := trimPath path.toList.reverse
  if trimmed = [] ∨ trimmed = ['/'] then none
  else some (.ofList (trimPath (trimmed.dropWhile (· != '/'))).reverse)

/-- `Path::join` with a relative name. -/
def pathJoin (path name : String) : String :=
  if path = "" ∨ path.toList.getLast? = some '/' then path ++ name else path ++ "/" ++ name

/-! ## The agent -/

/-- What the metric sender and the download of new tasks read of the configuration. -/
structure SenderSettings where
  clientTimeout : Option UInt64
  localOnly : Bool
  serverUrl : String
  apiKey : String
  agentId : String
  batchSize : UInt64
  maxRetries : Int
  sendIntervalSeconds : UInt32
  autoUpdateTasks : Bool
deriving DecidableEq, Repr

/-- The components of a running agent, with the settings that they use. -/
structure AgentComponents where
  databaseBusyTimeoutSeconds : UInt64
  /-- Where and as whom `Agent::new` uploads its tasks. -/
  registration : Option (String × String × String)
  scheduler : TaskScheduler
  executor : TaskExecutor
  sender : SenderSettings
  retentionDays : UInt32
  cleanupIntervalSeconds : UInt64
  clientRefreshIntervalSeconds : UInt64
deriving DecidableEq, Repr

namespace AgentConfig

def registration (config : AgentConfig) : Option (String × String × String) :=
  if config.localOnly then none
  else some (config.centralServerUrl, config.apiKey, config.agentId)

/-- The executor in `Agent::new`: without a server in local-only mode. -/
def executor (config : AgentConfig) : TaskExecutor :=
  if !config.localOnly then
    ⟨some config.centralServerUrl, some config.apiKey, some config.agentId⟩
  else ⟨none, none, none⟩

def sender (config : AgentConfig) : SenderSettings where
  clientTimeout := if !config.localOnly then some config.httpClientTimeoutSeconds else none
  localOnly := config.localOnly
  serverUrl := config.centralServerUrl
  apiKey := config.apiKey
  agentId := config.agentId
  batchSize := config.metricsBatchSize
  maxRetries := Agent.maxRetries config
  sendIntervalSeconds := config.metricsSendIntervalSeconds
  autoUpdateTasks := config.autoUpdateTasks

/-- `Agent::new` copies from `self`; `Agent::run` reads the configuration as it is then. -/
def components (tasksConfig : TasksConfig) (self atRun : AgentConfig) : AgentComponents where
  databaseBusyTimeoutSeconds := self.databaseBusyTimeoutSeconds
  registration := self.registration
  scheduler := self.newScheduler tasksConfig
  executor := self.executor
  sender := atRun.sender
  retentionDays := atRun.localDataRetentionDays
  cleanupIntervalSeconds := atRun.dataCleanupIntervalSeconds
  clientRefreshIntervalSeconds := atRun.httpClientRefreshIntervalSeconds

end AgentConfig

def AgentOverrides.given (overrides : AgentOverrides) : Bool :=
  overrides.agentId.isSome || overrides.serverUrl.isSome || overrides.apiKey.isSome ||
    overrides.retentionDays.isSome || overrides.autoUpdateTasks.isSome ||
    overrides.localOnly.isSome

def AgentOverrides.none : AgentOverrides := ⟨.none, .none, .none, .none, .none, .none⟩

/-- `main` of the agent up to `Agent::run`, on an agent whose configuration is loaded. -/
def startAgent (env : Externals) (toml : Format AgentConfig String) (path : String)
    (written : Written String) (tasksConfig : TasksConfig) (overrides : AgentOverrides)
    (manager : Store AgentConfig String) : Except String AgentComponents :=
  if overrides.given then
    match overrideAndPersistAgentConfig env toml path overrides written manager with
    | (_, .error e) => .error s!"Failed to apply configuration overrides: {e.context}"
    | (overridden, .ok _) => .ok (manager.memory.components tasksConfig overridden.memory)
  else .ok (manager.memory.components tasksConfig manager.memory)

/-! ## The server -/

/-- The components of a running server, with the settings that they use. -/
structure ServerComponents where
  listener : Net.SocketAddr
  reconfigureDir : String
  reconfiguredDir : String
  api : ServerConfig
  rateLimitWindow : Duration
  rateLimitMaxRequests : UInt64
  bandwidth : BandwidthTestState
  /-- The folder that the cache is loaded from, that is watched, and that updates are read from. -/
  cachedDir : String
  watchedDir : String
  timers : List (TimedTask × UInt64)
  retentionDays : UInt32
  initialCleanupDelaySeconds : UInt64
  /-- Interval, threshold and retention of the health monitor. -/
  health : Option (UInt64 × F64 × UInt32)
deriving DecidableEq, Repr

namespace FullServerConfig

def reconfigureDir (config : FullServerConfig) : String :=
  pathJoin ((pathParent config.agentConfigsDir).getD config.agentConfigsDir) "reconfigure"

/-- `Server::new` makes the reconfigure manager of `self`; `main` parses the listen address, again
after a change, and `Server::run` clones the configuration as it is then. -/
def components (self atRun : FullServerConfig) (listener : Net.SocketAddr) :
    ServerComponents where
  listener := listener
  reconfigureDir := self.reconfigureDir
  reconfiguredDir := self.agentConfigsDir
  api := atRun.toServerConfig
  rateLimitWindow := fromSecs atRun.rateLimitWindowSeconds.toUInt64
  rateLimitMaxRequests := atRun.rateLimitMaxRequests
  bandwidth := atRun.bandwidthManager
  cachedDir := atRun.agentConfigsDir
  watchedDir := atRun.agentConfigsDir
  timers := atRun.startedTasks.map fun task => (task, task.periodSeconds atRun)
  retentionDays := atRun.dataRetentionDays
  initialCleanupDelaySeconds := atRun.initialCleanupDelaySeconds
  health := if atRun.monitorAgentsHealth then
      some (atRun.healthCheckIntervalSeconds, atRun.healthCheckSuccessRatioThreshold,
        atRun.healthCheckRetentionDays)
    else none

def socketAddr (config : FullServerConfig) : Option Net.SocketAddr :=
  Net.parseSocketAddr config.listenAddress.toList

end FullServerConfig

def ServerOverrides.given (overrides : ServerOverrides) : Bool :=
  overrides.listenAddress.isSome || overrides.apiKey.isSome || overrides.retentionDays.isSome ||
    overrides.agentConfigsDir.isSome || overrides.bandwidthSizeMb.isSome ||
    overrides.reconfigureInterval.isSome

def ServerOverrides.none : ServerOverrides := ⟨.none, .none, .none, .none, .none, .none⟩

/-- `main` of the server up to `Server::run`, on a server whose configuration is loaded; its folders
can be created. -/
def startServer (toml : Format FullServerConfig String) (path : String) (written : Written String)
    (overrides : ServerOverrides) (manager : Store FullServerConfig String) :
    Except String ServerComponents :=
  match manager.memory.socketAddr with
  | none =>
    .error (s!"Failed to initialize server: Invalid listen address " ++
      s!"'{manager.memory.listenAddress}': invalid socket address syntax")
  | some addr =>
    if overrides.given then
      match overrideAndPersistConfig toml path overrides written manager with
      | (_, .error e) => .error s!"Failed to apply configuration overrides: {e.context}"
      | (overridden, .ok false) => .ok (manager.memory.components overridden.memory addr)
      | (overridden, .ok true) =>
        match overridden.memory.socketAddr with
        | none => .error "Invalid listen address after override: invalid socket address syntax"
        | some addr => .ok (manager.memory.components overridden.memory addr)
    else .ok (manager.memory.components manager.memory addr)

/-! ## Lemmas -/

theorem AgentConfig.overridden_of_not_given {overrides : AgentOverrides}
    (h : overrides.given = false) (config : AgentConfig) :
    config.overridden overrides = config := by
  obtain ⟨agentId, serverUrl, apiKey, retentionDays, autoUpdateTasks, localOnly⟩ := overrides
  simp only [AgentOverrides.given, Bool.or_eq_false_iff, Option.isSome_eq_false_iff,
    Option.isNone_iff_eq_none] at h
  obtain ⟨⟨⟨⟨⟨rfl, rfl⟩, rfl⟩, rfl⟩, rfl⟩, rfl⟩ := h
  rfl

theorem FullServerConfig.overridden_of_not_given {overrides : ServerOverrides}
    (h : overrides.given = false) (config : FullServerConfig) :
    config.overridden overrides = config := by
  obtain ⟨listenAddress, apiKey, retentionDays, dir, size, interval⟩ := overrides
  simp only [ServerOverrides.given, Bool.or_eq_false_iff, Option.isSome_eq_false_iff,
    Option.isNone_iff_eq_none] at h
  obtain ⟨⟨⟨⟨⟨rfl, rfl⟩, rfl⟩, rfl⟩, rfl⟩, rfl⟩ := h
  rfl

/-- An agent that starts has the stored configuration where `Agent::new` has copied it. -/
theorem startAgent_eq {env : Externals} {toml : Format AgentConfig String} {path : String}
    {written : Written String} {tasksConfig : TasksConfig} {overrides : AgentOverrides}
    {manager : Store AgentConfig String} {components : AgentComponents}
    (h : startAgent env toml path written tasksConfig overrides manager = .ok components) :
    components =
      manager.memory.components tasksConfig (manager.memory.overridden overrides) := by
  unfold startAgent at h
  split_ifs at h with hgiven
  · split at h
    · cases h
    · next overridden changed hr =>
      obtain ⟨hmemory, -⟩ := replace_eq_ok (AgentConfig.applyOverrides_eq overrides) hr
      rw [hmemory] at h
      exact (Except.ok.inj h).symm
  · rw [AgentConfig.overridden_of_not_given (Bool.not_eq_true _ ▸ hgiven)]
    exact (Except.ok.inj h).symm

/-- A server that starts listens where the overridden configuration says, and has the stored one
where `Server::new` has copied it. -/
theorem startServer_eq {toml : Format FullServerConfig String} {path : String}
    {written : Written String} {overrides : ServerOverrides}
    {manager : Store FullServerConfig String} {components : ServerComponents}
    (h : startServer toml path written overrides manager = .ok components) :
    ∃ addr, (manager.memory.overridden overrides).socketAddr = some addr ∧
      components = manager.memory.components (manager.memory.overridden overrides) addr := by
  unfold startServer at h
  split at h
  · cases h
  · next addr haddr =>
    split_ifs at h with hgiven
    · split at h
      · cases h
      · next overridden hr =>
        obtain ⟨hmemory, hchanged⟩ :=
          replace_eq_ok (FullServerConfig.applyOverrides_eq overrides) hr
        have hsame := not_not.1 (of_decide_eq_false hchanged.symm)
        refine ⟨addr, by rw [hsame, haddr], ?_⟩
        rw [hmemory] at h
        exact (Except.ok.inj h).symm
      · next overridden hr =>
        obtain ⟨hmemory, -⟩ := replace_eq_ok (FullServerConfig.applyOverrides_eq overrides) hr
        rw [hmemory] at h
        split at h
        · cases h
        · next addr' haddr' => exact ⟨addr', haddr', (Except.ok.inj h).symm⟩
    · rw [FullServerConfig.overridden_of_not_given (Bool.not_eq_true _ ▸ hgiven)]
      exact ⟨addr, haddr, (Except.ok.inj h).symm⟩

/-- Both reach the server in the same way, or not at all. -/
def AgentConfig.SameAccess (a b : AgentConfig) : Prop :=
  a.localOnly = b.localOnly ∧ (a.localOnly = false →
    a.centralServerUrl = b.centralServerUrl ∧ a.apiKey = b.apiKey ∧ a.agentId = b.agentId)

theorem AgentConfig.registration_eq_iff (a b : AgentConfig) :
    a.registration = b.registration ↔ a.SameAccess b := by
  unfold registration SameAccess
  cases a.localOnly <;> cases b.localOnly <;> simp

theorem AgentConfig.SameAccess.executor_eq {a b : AgentConfig} (h : a.SameAccess b) :
    a.executor = b.executor := by
  obtain ⟨hlocal, hserver⟩ := h
  unfold executor
  rw [← hlocal]
  cases hl : a.localOnly with
  | false =>
    obtain ⟨hurl, hkey, hid⟩ := hserver hl
    rw [hurl, hkey, hid]
  | true => rfl

/-- No override is of a setting that only `Agent::new` reads. -/
theorem AgentConfig.components_eq_iff (tasksConfig : TasksConfig) (overrides : AgentOverrides)
    (config : AgentConfig) :
    config.components tasksConfig (config.overridden overrides) =
        (config.overridden overrides).components tasksConfig (config.overridden overrides) ↔
      config.SameAccess (config.overridden overrides) := by
  constructor
  · intro h
    exact (registration_eq_iff _ _).1 (congrArg AgentComponents.registration h)
  · intro h
    unfold components
    rw [(registration_eq_iff _ _).2 h, h.executor_eq]
    rfl

theorem FullServerConfig.components_eq_iff (self atRun : FullServerConfig)
    (addr : Net.SocketAddr) :
    self.components atRun addr = atRun.components atRun addr ↔
      self.agentConfigsDir = atRun.agentConfigsDir := by
  constructor
  · exact congrArg ServerComponents.reconfiguredDir
  · intro h
    unfold components reconfigureDir
    rw [h]

theorem exists_ok {ε α : Type} {x : Except ε α} (h : x.isOk) : ∃ a, x = .ok a := by
  cases x with
  | error e => cases h
  | ok a => exact ⟨a, rfl⟩

/-! ## Top theorems -/

/-- **Exactly when a start with overrides is one from a file that has them**: the agent's leave
alone how the server is reached, the server's the folder of the agents' configurations. -/
theorem overrides_reach_iff (agent : Store AgentConfig String) (agentOverrides : AgentOverrides)
    (server : Store FullServerConfig String) (serverOverrides : ServerOverrides) :
    (∀ env toml path written tasksConfig components,
      startAgent env toml path written tasksConfig agentOverrides agent = .ok components →
      (startAgent env toml path written tasksConfig .none
          { agent with memory := agent.memory.overridden agentOverrides } = .ok components ↔
        agent.memory.SameAccess (agent.memory.overridden agentOverrides))) ∧
    ∀ toml path written components,
      startServer toml path written serverOverrides server = .ok components →
      (startServer toml path written .none
          { server with memory := server.memory.overridden serverOverrides } = .ok components ↔
        server.memory.agentConfigsDir =
          (server.memory.overridden serverOverrides).agentConfigsDir) := by
  refine ⟨fun env toml path written tasksConfig components h => ?_,
    fun toml path written components h => ?_⟩
  · rw [startAgent_eq h, ← AgentConfig.components_eq_iff tasksConfig]
    exact ⟨fun h => (Except.ok.inj h).symm, fun h => congrArg Except.ok h.symm⟩
  · obtain ⟨addr, haddr, rfl⟩ := startServer_eq h
    have hfile : startServer toml path written .none
        { server with memory := server.memory.overridden serverOverrides } =
          .ok ((server.memory.overridden serverOverrides).components
            (server.memory.overridden serverOverrides) addr) := by
      unfold startServer
      dsimp only
      rw [haddr]
      rfl
    rw [hfile, ← FullServerConfig.components_eq_iff _ _ addr]
    exact ⟨fun h => (Except.ok.inj h).symm, fun h => congrArg Except.ok h.symm⟩

/-- Another retention reaches every component. -/
theorem retention_reaches :
    (∃ components, startAgent asciiExternals monthFormat "agent.toml" .done ⟨[]⟩
        ⟨none, none, none, some 30, none, none⟩ ⟨"", localConfig "web-1"⟩ = .ok components ∧
      startAgent asciiExternals monthFormat "agent.toml" .done ⟨[]⟩ .none
        ⟨"", (localConfig "web-1").overridden ⟨none, none, none, some 30, none, none⟩⟩ =
          .ok components) ∧
    ∃ components, startServer yearFormat "server.toml" .done
        ⟨none, none, some 365, none, none, none⟩ ⟨"", .withDefaults "0.0.0.0:8787" "key" 30⟩ =
          .ok components ∧
      startServer yearFormat "server.toml" .done .none
        ⟨"", (FullServerConfig.withDefaults "0.0.0.0:8787" "key" 30).overridden
          ⟨none, none, some 365, none, none, none⟩⟩ = .ok components := by
  obtain ⟨agent, hagent⟩ : ∃ components, startAgent asciiExternals monthFormat "agent.toml" .done
      ⟨[]⟩ ⟨none, none, none, some 30, none, none⟩ ⟨"", localConfig "web-1"⟩ = .ok components :=
    exists_ok (by decide +kernel)
  obtain ⟨server, hserver⟩ : ∃ components, startServer yearFormat "server.toml" .done
      ⟨none, none, some 365, none, none, none⟩ ⟨"", .withDefaults "0.0.0.0:8787" "key" 30⟩ =
        .ok components :=
    exists_ok (by decide +kernel)
  obtain ⟨reachAgent, reachServer⟩ := overrides_reach_iff ⟨"", localConfig "web-1"⟩
    ⟨none, none, none, some 30, none, none⟩ ⟨"", .withDefaults "0.0.0.0:8787" "key" 30⟩
    ⟨none, none, some 365, none, none, none⟩
  exact ⟨⟨agent, hagent, (reachAgent _ _ _ _ _ _ hagent).2 ⟨rfl, nofun⟩⟩,
    server, hserver, (reachServer _ _ _ _ hserver).2 rfl⟩

/-- An agent with a server. -/
def remoteConfig : AgentConfig :=
  { localConfig "web-1" with
    localOnly := false
    centralServerUrl := "https://example.com"
    apiKey := "secret" }

/-- The key in `agent.toml` is replaced for the sender, and not for the executor; the folder in
`server.toml` for the cache, and not for the reconfigure manager. -/
theorem overrides_missed :
    (∃ components, startAgent asciiExternals
        (formatOf { remoteConfig with apiKey := "new" } "") "agent.toml" .done ⟨[]⟩
        ⟨none, none, some "new", none, none, none⟩ ⟨"", remoteConfig⟩ = .ok components ∧
      components.sender.apiKey = "new" ∧ components.executor.apiKey = some "secret" ∧
      components.registration = some ("https://example.com", "secret", "web-1")) ∧
    ∃ components, startServer
        (formatOf { FullServerConfig.withDefaults "0.0.0.0:8787" "key" 30 with
          agentConfigsDir := "/srv/agents" } "") "server.toml" .done
        ⟨none, none, none, some "/srv/agents", none, none⟩
        ⟨"", .withDefaults "0.0.0.0:8787" "key" 30⟩ = .ok components ∧
      components.watchedDir = "/srv/agents" ∧
      components.reconfiguredDir = "/etc/monitoring-server/agent-configs" ∧
      components.reconfigureDir = "/etc/monitoring-server/reconfigure" := by
  obtain ⟨agent, hagent⟩ : ∃ components, startAgent asciiExternals
      (formatOf { remoteConfig with apiKey := "new" } "") "agent.toml" .done ⟨[]⟩
      ⟨none, none, some "new", none, none, none⟩ ⟨"", remoteConfig⟩ = .ok components :=
    exists_ok (by decide +kernel)
  obtain ⟨server, hserver⟩ : ∃ components, startServer
      (formatOf { FullServerConfig.withDefaults "0.0.0.0:8787" "key" 30 with
        agentConfigsDir := "/srv/agents" } "") "server.toml" .done
      ⟨none, none, none, some "/srv/agents", none, none⟩
      ⟨"", .withDefaults "0.0.0.0:8787" "key" 30⟩ = .ok components :=
    exists_ok (by decide +kernel)
  refine ⟨⟨agent, hagent, ?_⟩, server, hserver, ?_⟩
  · obtain rfl := startAgent_eq hagent
    exact ⟨rfl, rfl, rfl⟩
  · obtain ⟨addr, -, rfl⟩ := startServer_eq hserver
    have hdir : (FullServerConfig.withDefaults "0.0.0.0:8787" "key" 30).reconfigureDir =
        "/etc/monitoring-server/reconfigure" := by decide +kernel
    exact ⟨rfl, rfl, hdir⟩

end LinkSense
