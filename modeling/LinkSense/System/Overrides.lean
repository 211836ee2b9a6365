import LinkSense.Persisted
import LinkSense.Shared.ServerConfig
import LinkSense.System.AgentIds

/-!
# Command-line overrides

`override_and_persist_agent_config` of `agent/src/config.rs` and `override_and_persist_config` of
`server/src/config.rs`: both set up to six settings of the loaded configuration and write the file
anew when that has changed something.

    config.applyOverrides overrides = the configuration with them, and whether it is another one
                                                                       (applyOverrides_eq, twice)
    both calls are atomic and exact                                      (overrides_persist)
-/

namespace LinkSense

open Persisted

/-! ## Overrides -/

/-- The options of the agent that override its configuration. -/
structure AgentOverrides where
  agentId : Option String
  serverUrl : Option String
  apiKey : Option String
  retentionDays : Option UInt32
  autoUpdateTasks : Option Bool
  localOnly : Option Bool
deriving DecidableEq, Repr

/-- The options of the server that override its configuration. -/
structure ServerOverrides where
  listenAddress : Option String
  apiKey : Option String
  retentionDays : Option UInt32
  agentConfigsDir : Option String
  bandwidthSizeMb : Option UInt32
  reconfigureInterval : Option UInt32
deriving DecidableEq, Repr

/-- The overrides in the order of the source, with `config_changed`. -/
def AgentConfig.applyOverrides (overrides : AgentOverrides) (config : AgentConfig) :
    AgentConfig × Bool :=
  let r := (config, false)
  let r := override ⟨(·.agentId), fun v c => { c with agentId := v }, fun _ => rfl⟩
    overrides.agentId r
  let r := override ⟨(·.centralServerUrl), fun v c => { c with centralServerUrl := v },
    fun _ => rfl⟩ overrides.serverUrl r
  let r := override ⟨(·.apiKey), fun v c => { c with apiKey := v }, fun _ => rfl⟩
    overrides.apiKey r
  let r := override ⟨(·.localDataRetentionDays), fun v c => { c with localDataRetentionDays := v },
    fun _ => rfl⟩ overrides.retentionDays r
  let r := override ⟨(·.autoUpdateTasks), fun v c => { c with autoUpdateTasks := v },
    fun _ => rfl⟩ overrides.autoUpdateTasks r
  override ⟨(·.localOnly), fun v c => { c with localOnly := v }, fun _ => rfl⟩
    overrides.localOnly r

def FullServerConfig.applyOverrides (overrides : ServerOverrides) (config : FullServerConfig) :
    FullServerConfig × Bool :=
  let r := (config, false)
  let r := override ⟨(·.listenAddress), fun v c => { c with listenAddress := v }, fun _ => rfl⟩
    overrides.listenAddress r
  let r := override ⟨(·.apiKey), fun v c => { c with apiKey := v }, fun _ => rfl⟩
    overrides.apiKey r
  let r := override ⟨(·.dataRetentionDays), fun v c => { c with dataRetentionDays := v },
    fun _ => rfl⟩ overrides.retentionDays r
  let r := override ⟨(·.agentConfigsDir), fun v c => { c with agentConfigsDir := v }, fun _ => rfl⟩
    overrides.agentConfigsDir r
  let r := override ⟨(·.bandwidthTestSizeMb), fun v c => { c with bandwidthTestSizeMb := v },
    fun _ => rfl⟩ overrides.bandwidthSizeMb r
  override ⟨(·.reconfigureCheckIntervalSeconds),
    fun v c => { c with reconfigureCheckIntervalSeconds := v }, fun _ => rfl⟩
    overrides.reconfigureInterval r

/-- The context of an error, by the stage that it comes from. -/
def persistContext (kind path : String) : Stage → String
  | .validate => "Invalid configuration after applying command-line overrides"
  | .encode => s!"Failed to serialize {kind} configuration"
  | .write => s!"Failed to write {path}"

/-- `override_and_persist_agent_config` on a loaded configuration. -/
def overrideAndPersistAgentConfig (env : Externals) (toml : Format AgentConfig String)
    (path : String) (overrides : AgentOverrides) (written : Written String)
    (manager : Store AgentConfig String) : Store AgentConfig String × Except Failure Bool :=
  replace (AgentConfig.validate env) toml (persistContext "agent" path) written
    (manager.memory.applyOverrides overrides) manager

/-- `override_and_persist_config` on a loaded configuration. -/
def overrideAndPersistConfig (toml : Format FullServerConfig String) (path : String)
    (overrides : ServerOverrides) (written : Written String)
    (manager : Store FullServerConfig String) :
    Store FullServerConfig String × Except Failure Bool :=
  replace FullServerConfig.validate toml (persistContext "server" path) written
    (manager.memory.applyOverrides overrides) manager

/-! ## What the overrides amount to -/

/-- The configuration with the overrides in it, and every other setting as it is. -/
def AgentConfig.overridden (overrides : AgentOverrides) (config : AgentConfig) : AgentConfig :=
  { config with
    agentId := overrides.agentId.getD config.agentId
    centralServerUrl := overrides.serverUrl.getD config.centralServerUrl
    apiKey := overrides.apiKey.getD config.apiKey
    localDataRetentionDays := overrides.retentionDays.getD config.localDataRetentionDays
    autoUpdateTasks := overrides.autoUpdateTasks.getD config.autoUpdateTasks
    localOnly := overrides.localOnly.getD config.localOnly }

def FullServerConfig.overridden (overrides : ServerOverrides) (config : FullServerConfig) :
    FullServerConfig :=
  { config with
    listenAddress := overrides.listenAddress.getD config.listenAddress
    apiKey := overrides.apiKey.getD config.apiKey
    dataRetentionDays := overrides.retentionDays.getD config.dataRetentionDays
    agentConfigsDir := overrides.agentConfigsDir.getD config.agentConfigsDir
    bandwidthTestSizeMb := overrides.bandwidthSizeMb.getD config.bandwidthTestSizeMb
    reconfigureCheckIntervalSeconds :=
      overrides.reconfigureInterval.getD config.reconfigureCheckIntervalSeconds }

/-! ## Lemmas -/

theorem getD_getD {α : Type} (o : Option α) (a : α) : o.getD (o.getD a) = o.getD a := by
  cases o <;> rfl

namespace AgentConfig

theorem overridden_overridden (overrides : AgentOverrides) (config : AgentConfig) :
    (config.overridden overrides).overridden overrides = config.overridden overrides := by
  simp only [overridden, getD_getD]

/-- The flag is set exactly when the overrides make another configuration. -/
theorem applyOverrides_eq (overrides : AgentOverrides) (config : AgentConfig) :
    config.applyOverrides overrides =
      (config.overridden overrides, decide (config.overridden overrides ≠ config)) := by
  unfold applyOverrides
  simp only [override_eq]
  refine Prod.ext rfl ?_
  cases config
  rw [Bool.eq_iff_iff]
  simp [overridden, or_assoc]

end AgentConfig

namespace FullServerConfig

theorem overridden_overridden (overrides : ServerOverrides) (config : FullServerConfig) :
    (config.overridden overrides).overridden overrides = config.overridden overrides := by
  simp only [overridden, getD_getD]

theorem applyOverrides_eq (overrides : ServerOverrides) (config : FullServerConfig) :
    config.applyOverrides overrides =
      (config.overridden overrides, decide (config.overridden overrides ≠ config)) := by
  unfold applyOverrides
  simp only [override_eq]
  refine Prod.ext rfl ?_
  obtain ⟨handlers⟩ := config
  cases handlers
  rw [Bool.eq_iff_iff]
  simp [overridden]
  tauto

end FullServerConfig

/-! ## Top theorems -/

/-- **Persisting overrides is atomic and exact**, for the agent and for the server. -/
theorem overrides_persist (env : Externals) (agentFormat : Format AgentConfig String)
    (serverFormat : Format FullServerConfig String) (hagent : agentFormat.RoundTrips)
    (hserver : serverFormat.RoundTrips) (path : String) :
    (∀ overrides, Persists (AgentConfig.validate env) agentFormat (.overridden overrides)
      (overrideAndPersistAgentConfig env agentFormat path overrides)) ∧
    ∀ overrides, Persists FullServerConfig.validate serverFormat (.overridden overrides)
      (overrideAndPersistConfig serverFormat path overrides) :=
  ⟨fun overrides => replace_persists hagent (AgentConfig.applyOverrides_eq overrides)
      (AgentConfig.overridden_overridden overrides),
    fun overrides => replace_persists hserver (FullServerConfig.applyOverrides_eq overrides)
      (FullServerConfig.overridden_overridden overrides)⟩

/-- A format that knows the text of one configuration. -/
def formatOf {σ : Type} [DecidableEq σ] (config : σ) (text : String) : Format σ String where
  encode c := if c = config then .ok text else .error "unsupported"
  decode t := if t = text then some config else none

theorem formatOf_roundTrips {σ : Type} [DecidableEq σ] (config : σ) (text : String) :
    (formatOf config text).RoundTrips := by
  intro s g h
  unfold formatOf at h ⊢
  dsimp only at h ⊢
  split_ifs at h with hs
  obtain rfl := Except.ok.inj h
  rw [if_pos rfl, hs]

/-- An agent without a server that keeps its data for 30 days, as `agent.toml` has it. -/
def monthFormat : Format AgentConfig String :=
  formatOf { localConfig "web-1" with localDataRetentionDays := 30 }
    (String.intercalate "\n"
      ["agent_id = \"web-1\"", "central_server_url = \"\"", "api_key = \"\"",
        "local_data_retention_days = 30", "auto_update_tasks = true", "local_only = true",
        "metrics_flush_interval_seconds = 5", "metrics_send_interval_seconds = 30",
        "metrics_batch_size = 50", "metrics_max_retries = 10",
        "queue_cleanup_interval_seconds = 3600", "data_cleanup_interval_seconds = 86400",
        "max_concurrent_tasks = 50", "http_response_max_size_mb = 100",
        "http_client_timeout_seconds = 30", "database_busy_timeout_seconds = 5",
        "graceful_shutdown_timeout_seconds = 30", "channel_buffer_size = 1000",
        "http_client_refresh_interval_seconds = 3600", ""])

/-- A server that keeps its data for a year, as `server.toml` has it. -/
def yearFormat : Format FullServerConfig String :=
  formatOf (FullServerConfig.withDefaults "0.0.0.0:8787" "key" 365)
    (String.intercalate "\n"
      ["listen_address = \"0.0.0.0:8787\"", "api_key = \"key\"", "data_retention_days = 365",
        "agent_configs_dir = \"/etc/monitoring-server/agent-configs\"",
        "bandwidth_test_size_mb = 10", "reconfigure_check_interval_seconds = 10",
        "agent_id_whitelist = []", "cleanup_interval_hours = 24", "rate_limit_enabled = true",
        "rate_limit_window_seconds = 60", "rate_limit_max_requests = 100",
        "bandwidth_test_timeout_seconds = 120", "bandwidth_queue_base_delay_seconds = 30",
        "bandwidth_queue_current_test_delay_seconds = 60",
        "bandwidth_queue_position_multiplier_seconds = 30", "bandwidth_max_delay_seconds = 300",
        "initial_cleanup_delay_seconds = 3600", "graceful_shutdown_timeout_seconds = 30",
        "wal_checkpoint_interval_seconds = 60", "monitor_agents_health = false",
        "health_check_interval_seconds = 300", "health_check_success_ratio_threshold = 0.9",
        "health_check_retention_days = 30", ""])

/-- Both retentions are overridden: the files then have the new configurations, which are in memory,
and nothing changes the second time. -/
theorem overrides_persist_retention :
    (overrideAndPersistAgentConfig asciiExternals monthFormat "agent.toml"
        ⟨none, none, none, some 30, none, none⟩ .done ⟨"", localConfig "web-1"⟩).2 = .ok true ∧
    (overrideAndPersistConfig yearFormat "server.toml" ⟨none, none, some 365, none, none, none⟩
        .done ⟨"", .withDefaults "0.0.0.0:8787" "key" 30⟩).2 = .ok true ∧
    (∀ overrides, Persists (AgentConfig.validate asciiExternals) monthFormat (.overridden overrides)
      (overrideAndPersistAgentConfig asciiExternals monthFormat "config.toml" overrides)) ∧
    ∀ overrides, Persists FullServerConfig.validate yearFormat (.overridden overrides)
      (overrideAndPersistConfig yearFormat "config.toml" overrides) :=
  ⟨by decide +kernel, by decide +kernel,
    overrides_persist asciiExternals monthFormat yearFormat (formatOf_roundTrips _ _)
      (formatOf_roundTrips _ _) "config.toml"⟩

end LinkSense
