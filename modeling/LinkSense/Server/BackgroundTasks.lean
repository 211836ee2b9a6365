import LinkSense.Server.Retention
import LinkSense.Shared.ServerConfig
import LinkSense.Shared.Time

/-!
# The server's background tasks

`Server::run` of `server/src/main.rs` starts its tasks with timers whose periods come from the
configuration.  `tokio::time::interval` panics on a period of zero, and a panic ends the process.

    the timers start ↔ each period is positive                            (startTimers_isSome_iff)
    an accepted configuration can be run ↔ it has a cleanup interval and a checkpoint interval, a
      rate limit window even without rate limiting, and a threshold that is a number (runnable_iff)
-/

namespace LinkSense

/-! ## Timers -/

/-- The background tasks that wait on a timer. -/
inductive TimedTask where
  | cleanup
  | walCheckpoint
  | rateLimiterCleanup
  | reconfigure
  | healthMonitor
deriving DecidableEq, Repr

/-- What the task passes to `Duration::from_secs`. -/
def TimedTask.periodSeconds (config : FullServerConfig) : TimedTask → UInt64
  | .cleanup => config.cleanupIntervalHours.toUInt64 * 3600
  | .walCheckpoint => config.walCheckpointIntervalSeconds
  | .rateLimiterCleanup => config.rateLimitWindowSeconds.toUInt64
  | .reconfigure => config.reconfigureCheckIntervalSeconds.toUInt64
  | .healthMonitor => config.healthCheckIntervalSeconds

/-- The tasks in the order in which `run` starts them. -/
def FullServerConfig.startedTasks (config : FullServerConfig) : List TimedTask :=
  [.cleanup, .walCheckpoint, .rateLimiterCleanup, .reconfigure] ++
    if config.monitorAgentsHealth then [.healthMonitor] else []

/-- `tokio::time::interval`; `none` is its panic. -/
def tokioInterval (period : Duration) : Option Duration :=
  if period = 0 then none else some period

/-- The timers of the tasks; `none` when one of them has ended the process. -/
def startTimers (config : FullServerConfig) (tasks : List TimedTask) :
    Option (List (TimedTask × Duration)) :=
  tasks.mapM fun task =>
    (tokioInterval (fromSecs (task.periodSeconds config))).map fun period => (task, period)

/-! ## Accepted configurations -/

/-- No timer panics, no product overflows or saturates, and the threshold is a ratio. -/
structure FullServerConfig.Runnable (config : FullServerConfig) : Prop where
  timers : (startTimers config config.startedTasks).isSome = true
  cleanupProduct : (TimedTask.cleanup.periodSeconds config).toNat =
    config.cleanupIntervalHours.toNat * 3600
  dataRetention : (retentionSeconds config.dataRetentionDays).toNat =
    config.dataRetentionDays.toNat * 24 * 60 * 60
  healthRetention : (retentionSeconds config.healthCheckRetentionDays).toNat =
    config.healthCheckRetentionDays.toNat * 24 * 60 * 60
  threshold : ∃ ratio : ℚ, config.healthCheckSuccessRatioThreshold = .finite ratio ∧
    0 ≤ ratio ∧ ratio ≤ 1

/-! ## Lemmas -/

theorem isSome_tokioInterval_iff (period : Duration) :
    (tokioInterval period).isSome ↔ 0 < period := by
  unfold tokioInterval
  rw [Nat.pos_iff_ne_zero]
  split <;> simp [*]

theorem isSome_mapM_iff {α β : Type} (f : α → Option β) (l : List α) :
    (l.mapM f).isSome ↔ ∀ a ∈ l, (f a).isSome := by
  induction l with
  | nil => simp
  | cons a l ih =>
    rw [List.mapM_cons, List.forall_mem_cons, ← ih]
    cases f a with
    | none => simp
    | some b => cases l.mapM f <;> simp

/-- The timers start exactly when no period is zero. -/
theorem startTimers_isSome_iff (config : FullServerConfig) (tasks : List TimedTask) :
    (startTimers config tasks).isSome = true ↔
      ∀ task ∈ tasks, 0 < fromSecs (task.periodSeconds config) := by
  unfold startTimers
  simp only [isSome_mapM_iff, Option.isSome_map, isSome_tokioInterval_iff]

theorem fromSecs_pos_iff (secs : UInt64) : 0 < fromSecs secs ↔ secs ≠ 0 := by
  rw [← UInt64.toNat_inj.ne]
  show 0 < secs.toNat * 1000000000 ↔ secs.toNat ≠ 0
  omega

@[simp] theorem toUInt64_ne_zero_iff (n : UInt32) : n.toUInt64 ≠ 0 ↔ n ≠ 0 := by
  rw [← UInt64.toNat_inj.ne, ← UInt32.toNat_inj.ne, UInt32.toNat_toUInt64]
  rfl

/-- Hours that fit `u32` are seconds that fit `u64`. -/
theorem toNat_cleanupPeriod (config : FullServerConfig) :
    (TimedTask.cleanup.periodSeconds config).toNat =
      config.cleanupIntervalHours.toNat * 3600 := by
  have := config.cleanupIntervalHours.toNat_lt
  have hmul : (config.cleanupIntervalHours.toUInt64 * 3600).toNat =
      config.cleanupIntervalHours.toNat * 3600 % 2 ^ 64 := UInt64.toNat_mul _ _
  exact hmul.trans (Nat.mod_eq_of_lt (by omega))

theorem toNat_u64SaturatingMul {a b : UInt64} {n : Nat} (hn : a.toNat * b.toNat = n)
    (h : n < 2 ^ 64) : (u64SaturatingMul a b).toNat = n := by
  unfold u64SaturatingMul
  rw [hn, Nat.min_eq_left (by omega)]
  exact UInt64.toNat_ofNat_of_lt' h

/-- Days that fit `u32` never saturate. -/
theorem toNat_retentionSeconds (days : UInt32) :
    (retentionSeconds days).toNat = days.toNat * 24 * 60 * 60 := by
  have hdays := days.toNat_lt
  have hhours : (u64SaturatingMul days.toUInt64 24).toNat = days.toNat * 24 :=
    toNat_u64SaturatingMul rfl (by omega)
  have hminutes : (u64SaturatingMul (u64SaturatingMul days.toUInt64 24) 60).toNat =
      days.toNat * 24 * 60 :=
    toNat_u64SaturatingMul (congrArg (· * 60) hhours) (by omega)
  exact toNat_u64SaturatingMul (congrArg (· * 60) hminutes) (by omega)

/-- A threshold that passes its check is a ratio, unless it is not a number. -/
theorem F64.ratio_iff {x : F64} (h0 : x.lt (.finite 0) = false)
    (h1 : F64.lt (.finite 1) x = false) :
    (∃ ratio : ℚ, x = .finite ratio ∧ 0 ≤ ratio ∧ ratio ≤ 1) ↔ x ≠ .nan := by
  cases x with
  | nan => simp
  | infinity negative => cases negative <;> simp [F64.lt] at h0 h1
  | finite value =>
    simp only [F64.lt, decide_eq_false_iff_not, not_lt] at h0 h1
    simp [h0, h1]

/-- The setting that the task takes its period from is not zero. -/
def TimedTask.HasPeriod (config : FullServerConfig) : TimedTask → Prop
  | .cleanup => config.cleanupIntervalHours ≠ 0
  | .walCheckpoint => config.walCheckpointIntervalSeconds ≠ 0
  | .rateLimiterCleanup => config.rateLimitWindowSeconds ≠ 0
  | .reconfigure => config.reconfigureCheckIntervalSeconds ≠ 0
  | .healthMonitor => config.healthCheckIntervalSeconds ≠ 0

theorem period_pos_iff (config : FullServerConfig) (task : TimedTask) :
    0 < fromSecs (task.periodSeconds config) ↔ task.HasPeriod config := by
  rw [fromSecs_pos_iff]
  cases task with
  | cleanup =>
    show _ ↔ config.cleanupIntervalHours ≠ 0
    rw [← UInt64.toNat_inj.ne, toNat_cleanupPeriod, ← UInt32.toNat_inj.ne]
    show _ * 3600 ≠ 0 ↔ _ ≠ 0
    omega
  | walCheckpoint => rfl
  | rateLimiterCleanup => exact toUInt64_ne_zero_iff _
  | reconfigure => exact toUInt64_ne_zero_iff _
  | healthMonitor => rfl

theorem FullServerConfig.Runnable.hasPeriod {config : FullServerConfig} (h : config.Runnable)
    (task : TimedTask) (htask : task ∈ config.startedTasks) : task.HasPeriod config :=
  (period_pos_iff config task).1 ((startTimers_isSome_iff _ _).1 h.timers task htask)

/-! ## Top theorems -/

/-- **Exactly when an accepted configuration can be run**: the checks leave out two intervals, the
rate limit window while rate limiting is off, and a threshold that is not a number. -/
theorem runnable_iff (config : ValidServerConfig) :
    config.Runnable ↔ config.cleanupIntervalHours ≠ 0 ∧ config.walCheckpointIntervalSeconds ≠ 0 ∧
      (config.rateLimitEnabled = false → config.rateLimitWindowSeconds ≠ 0) ∧
      config.healthCheckSuccessRatioThreshold ≠ .nan := by
  have haccepted := (FullServerConfig.validate_eq_ok_iff _).1 config.valid
  have hratio := F64.ratio_iff haccepted.threshold.1 haccepted.threshold.2
  constructor
  · intro h
    refine ⟨h.hasPeriod .cleanup ?_, h.hasPeriod .walCheckpoint ?_,
      fun _ => h.hasPeriod .rateLimiterCleanup ?_, hratio.1 h.threshold⟩
    all_goals simp [FullServerConfig.startedTasks]
  · rintro ⟨hcleanup, hwal, hwindow, hnan⟩
    refine ⟨(startTimers_isSome_iff _ _).2 fun task _ => (period_pos_iff _ task).2 ?_,
      toNat_cleanupPeriod _, toNat_retentionSeconds _, toNat_retentionSeconds _, hratio.2 hnan⟩
    cases task with
    | cleanup => exact hcleanup
    | walCheckpoint => exact hwal
    | rateLimiterCleanup =>
      cases henabled : config.rateLimitEnabled with
      | false => exact hwindow henabled
      | true => exact (haccepted.rateLimit henabled).1.1
    | reconfigure => exact haccepted.reconfigureInterval.1
    | healthMonitor => exact haccepted.healthInterval

/-! ## Configurations that cannot be run -/

/-- One accepted configuration for each setting that the checks leave out. -/
def unrunnableConfigs : List FullServerConfig :=
  let config := FullServerConfig.withDefaults "0.0.0.0:8787" "key" 30
  [{ config with cleanupIntervalHours := 0 },
    { config with walCheckpointIntervalSeconds := 0 },
    { config with rateLimitEnabled := false, rateLimitWindowSeconds := 0 },
    { config with healthCheckSuccessRatioThreshold := .nan }]

theorem unrunnableConfigs_accepted :
    unrunnableConfigs.Forall fun config => config.validate = .ok () ∧ ¬ config.Runnable := by
  rw [List.forall_iff_forall_mem]
  unfold unrunnableConfigs
  simp only [List.forall_mem_cons]
  have hvalid := (FullServerConfig.withDefaults_validate_iff "0.0.0.0:8787" "key" 30).2 (by decide)
  refine ⟨⟨hvalid, fun h => ?_⟩, ⟨hvalid, fun h => ?_⟩, ⟨by decide +kernel, fun h => ?_⟩,
    ⟨by decide +kernel, fun h => ?_⟩, nofun⟩
  · exact h.hasPeriod .cleanup (by decide) rfl
  · exact h.hasPeriod .walCheckpoint (by decide) rfl
  · exact h.hasPeriod .rateLimiterCleanup (by decide) rfl
  · obtain ⟨ratio, hnan, -⟩ := h.threshold
    cases hnan

end LinkSense
