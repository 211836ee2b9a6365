import LinkSense.NetAddr
import LinkSense.Shared.Config
import Mathlib.Tactic.NormNum

/-!
# The server's configuration

The whole of `server.toml` (`ServerConfig` of `shared/src/config.rs`), with the defaults of
`shared/src/defaults.rs`; what the request handlers read of it is `ServerConfig` of
`Shared.Config`.  A number of type `f64` may be infinite or not a number.

    config.validate = .ok () ↔ config.Accepted                            (validate_eq_ok_iff)
    a configuration of defaults is accepted ↔ its three required settings are
                                                                   (withDefaults_validate_iff)
-/

namespace LinkSense

/-! ## Settings -/

/-- A double; a finite one is the rational that it stands for. -/
inductive F64 where
  | nan
  | infinity (negative : Bool)
  | finite (value : ℚ)
deriving DecidableEq, Repr

/-- `<` of doubles, which does not hold of NaN on either side. -/
def F64.lt : F64 → F64 → Bool
  | .finite a, .finite b => a < b
  | .infinity true, .finite _ => true
  | .infinity true, .infinity false => true
  | .finite _, .infinity false => true
  | _, _ => false

/-- All of `server.toml`. -/
structure FullServerConfig extends ServerConfig where
  listenAddress : String
  dataRetentionDays : UInt32
  reconfigureCheckIntervalSeconds : UInt32
  cleanupIntervalHours : UInt32
  bandwidthTestTimeoutSeconds : UInt64
  bandwidthQueueBaseDelaySeconds : UInt64
  bandwidthQueueCurrentTestDelaySeconds : UInt64
  bandwidthQueuePositionMultiplierSeconds : UInt64
  bandwidthMaxDelaySeconds : UInt64
  initialCleanupDelaySeconds : UInt64
  gracefulShutdownTimeoutSeconds : UInt64
  walCheckpointIntervalSeconds : UInt64
  monitorAgentsHealth : Bool
  healthCheckIntervalSeconds : UInt64
  healthCheckSuccessRatioThreshold : F64
  healthCheckRetentionDays : UInt32
deriving DecidableEq, Repr

namespace FullServerConfig

/-- A `server.toml` that has the required settings only. -/
def withDefaults (listenAddress apiKey : String) (dataRetentionDays : UInt32) :
    FullServerConfig where
  listenAddress := listenAddress
  apiKey := apiKey
  dataRetentionDays := dataRetentionDays
  agentConfigsDir := "/etc/monitoring-server/agent-configs"
  bandwidthTestSizeMb := 10
  reconfigureCheckIntervalSeconds := 10
  agentIdWhitelist := []
  cleanupIntervalHours := 24
  rateLimitEnabled := true
  rateLimitWindowSeconds := 60
  rateLimitMaxRequests := 100
  bandwidthTestTimeoutSeconds := 120
  bandwidthQueueBaseDelaySeconds := 30
  bandwidthQueueCurrentTestDelaySeconds := 60
  bandwidthQueuePositionMultiplierSeconds := 30
  bandwidthMaxDelaySeconds := 300
  initialCleanupDelaySeconds := 3600
  gracefulShutdownTimeoutSeconds := 30
  walCheckpointIntervalSeconds := 60
  monitorAgentsHealth := false
  healthCheckIntervalSeconds := 300
  healthCheckSuccessRatioThreshold := .finite (9 / 10)
  healthCheckRetentionDays := 30

/-! ## Validation -/

/-- The checks that are made only when rate limiting is on. -/
def validateRateLimit (config : FullServerConfig) : Except String Unit :=
  if config.rateLimitEnabled then do
    reject (config.rateLimitWindowSeconds = 0)
      "rate_limit_window_seconds must be greater than 0 when rate limiting is enabled"
    reject (config.rateLimitWindowSeconds > 3600)
      "rate_limit_window_seconds must not exceed 3600 (1 hour)"
    reject (config.rateLimitMaxRequests = 0)
      "rate_limit_max_requests must be greater than 0 when rate limiting is enabled"
    reject (config.rateLimitMaxRequests > 10000) "rate_limit_max_requests must not exceed 10000"
  else .ok ()

/-- `ServerConfig::validate`. -/
def validate (config : FullServerConfig) : Except String Unit := do
  requireField config.listenAddress "listen_address cannot be empty"
  reject (Net.parseSocketAddr config.listenAddress.toList).isNone
    s!"invalid listen_address: {config.listenAddress}"
  requireField config.apiKey "api_key cannot be empty"
  reject (config.dataRetentionDays = 0) "data_retention_days must be greater than 0"
  reject (config.reconfigureCheckIntervalSeconds = 0)
    "reconfigure_check_interval_seconds must be at least 1"
  reject (config.reconfigureCheckIntervalSeconds > 300)
    "reconfigure_check_interval_seconds must not exceed 300 (5 minutes)"
  reject (config.bandwidthTestSizeMb = 0) "bandwidth_test_size_mb must be greater than 0"
  reject (config.bandwidthTestSizeMb > 1000)
    "bandwidth_test_size_mb must not exceed 1000 MB (1 GB)"
  config.validateRateLimit
  reject (config.dataRetentionDays > 3650) "data_retention_days must not exceed 3650 (10 years)"
  reject (config.healthCheckIntervalSeconds = 0)
    "health_check_interval_seconds must be greater than 0"
  reject (config.healthCheckSuccessRatioThreshold.lt (.finite 0) ||
      F64.lt (.finite 1) config.healthCheckSuccessRatioThreshold)
    "health_check_success_ratio_threshold must be between 0.0 and 1.0"
  reject (config.healthCheckRetentionDays = 0) "health_check_retention_days must be greater than 0"

end FullServerConfig

/-- A configuration that `load_config` keeps. -/
structure ValidServerConfig extends FullServerConfig where
  valid : toFullServerConfig.validate = .ok ()

/-! ## Lemmas -/

theorem Except.seq_eq_ok_iff {ε α : Type} {x : Except ε Unit} {f : Unit → Except ε α} {a : α} :
    x >>= f = .ok a ↔ x = .ok () ∧ f () = .ok a := by
  constructor
  · exact Except.seq_ok
  · rintro ⟨rfl, h⟩
    exact h

theorem requireField_eq_ok_iff (value msg : String) :
    requireField value msg = .ok () ↔ value ≠ "" := by
  unfold requireField
  rw [reject_eq_ok_iff, decide_eq_false_iff_not]

namespace FullServerConfig

/-- What an accepted configuration is known to be. -/
structure Accepted (config : FullServerConfig) : Prop where
  listenAddress : (Net.parseSocketAddr config.listenAddress.toList).isSome
  apiKey : config.apiKey ≠ ""
  dataRetentionDays : config.dataRetentionDays ≠ 0 ∧ config.dataRetentionDays ≤ 3650
  reconfigureInterval : config.reconfigureCheckIntervalSeconds ≠ 0 ∧
    config.reconfigureCheckIntervalSeconds ≤ 300
  bandwidthTestSize : config.bandwidthTestSizeMb ≠ 0 ∧ config.bandwidthTestSizeMb ≤ 1000
  rateLimit : config.rateLimitEnabled →
    (config.rateLimitWindowSeconds ≠ 0 ∧ config.rateLimitWindowSeconds ≤ 3600) ∧
      (config.rateLimitMaxRequests ≠ 0 ∧ config.rateLimitMaxRequests ≤ 10000)
  healthInterval : config.healthCheckIntervalSeconds ≠ 0
  threshold : config.healthCheckSuccessRatioThreshold.lt (.finite 0) = false ∧
    F64.lt (.finite 1) config.healthCheckSuccessRatioThreshold = false
  healthRetention : config.healthCheckRetentionDays ≠ 0

theorem validateRateLimit_eq_ok_iff (config : FullServerConfig) :
    config.validateRateLimit = .ok () ↔ (config.rateLimitEnabled →
      (config.rateLimitWindowSeconds ≠ 0 ∧ config.rateLimitWindowSeconds ≤ 3600) ∧
        (config.rateLimitMaxRequests ≠ 0 ∧ config.rateLimitMaxRequests ≤ 10000)) := by
  unfold validateRateLimit
  split
  · next h =>
    simp only [Except.seq_eq_ok_iff, reject_eq_ok_iff, decide_eq_false_iff_not, gt_iff_lt,
      UInt32.not_lt, UInt64.not_lt, h, forall_const, ne_eq, and_assoc]
  · next h => simp [h]

/-- No empty text is a socket address. -/
theorem ne_empty_of_parseSocketAddr {s : String} (h : (Net.parseSocketAddr s.toList).isSome) :
    s ≠ "" := by
  rintro rfl
  exact absurd h (by decide)

theorem validate_eq_ok_iff (config : FullServerConfig) :
    config.validate = .ok () ↔ config.Accepted := by
  unfold validate
  simp only [Except.seq_eq_ok_iff, reject_eq_ok_iff, requireField_eq_ok_iff,
    validateRateLimit_eq_ok_iff, decide_eq_false_iff_not, Bool.or_eq_false_iff, gt_iff_lt,
    UInt32.not_lt, Option.isNone_eq_false_iff]
  constructor
  · rintro ⟨-, haddr, hkey, hdays, hrec, hrec', hsize, hsize', hrate, hdays', hhealth, hthreshold,
      hkeep⟩
    exact ⟨haddr, hkey, ⟨hdays, hdays'⟩, ⟨hrec, hrec'⟩, ⟨hsize, hsize'⟩, hrate, hhealth,
      hthreshold, hkeep⟩
  · rintro ⟨haddr, hkey, hdays, hrec, hsize, hrate, hhealth, hthreshold, hkeep⟩
    exact ⟨ne_empty_of_parseSocketAddr haddr, haddr, hkey, hdays.1, hrec.1, hrec.2, hsize.1,
      hsize.2, hrate, hdays.2, hhealth, hthreshold, hkeep⟩

/-- The defaults pass their checks. -/
theorem withDefaults_validate_iff (listenAddress apiKey : String) (days : UInt32) :
    (withDefaults listenAddress apiKey days).validate = .ok () ↔
      (Net.parseSocketAddr listenAddress.toList).isSome ∧ apiKey ≠ "" ∧ days ≠ 0 ∧
        days ≤ 3650 := by
  rw [validate_eq_ok_iff]
  constructor
  · intro h
    exact ⟨h.listenAddress, h.apiKey, h.dataRetentionDays⟩
  · rintro ⟨haddr, hkey, hdays⟩
    have hthreshold : F64.lt (.finite (9 / 10)) (.finite 0) = false ∧
        F64.lt (.finite 1) (.finite (9 / 10)) = false := by
      simp only [F64.lt, decide_eq_false_iff_not]
      norm_num
    exact ⟨haddr, hkey, hdays, by simp [withDefaults], by simp [withDefaults],
      fun _ => by simp [withDefaults], by simp [withDefaults], hthreshold, by simp [withDefaults]⟩

end FullServerConfig

end LinkSense
