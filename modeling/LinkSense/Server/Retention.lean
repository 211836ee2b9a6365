import LinkSense.Machine
import LinkSense.Server.Database
import Mathlib.Algebra.Group.Int.Defs
import Mathlib.Algebra.GroupWithZero.Nat

/-!
# Retention on the server

Everything that writes to the server's database: submissions, reported errors, the health monitor of
`server/src/health_monitor.rs`, and the two cleanups.  The monitor lists the agents, looks at one
after the other and stores its checks in one transaction, with other calls in between.

    in every state reached a row belongs to a registered agent                     (foreignKeys_run)
    a cleanup returns no error ↔ no agent that is to go is held by a row that stays
                                                                             (cleanupResult_iff)
    in a run every cleanup works ↔ none of them comes upon such an agent        (cleanups_work_iff)
-/

namespace LinkSense

open Labelled Sql

/-! ## Cleanup -/

namespace ServerDatabase

/-- `DELETE FROM agents` would leave a row without its agent. -/
def cleanupBlocked (cutoffTime : Nat) (db : ServerDatabase) : Bool :=
  db.agents.values.any fun r => r.lastSeen < cutoffTime && db.referred r.agentId

/-- What `cleanup_old_data` returns. -/
def cleanupResult (db : ServerDatabase) (now : Nat) (retentionDays : UInt32) : Except String Unit :=
  if cleanupBlocked (retentionCutoff now retentionDays) (db.cleanupOldData now retentionDays 10) then
    .error foreignKeyError
  else .ok ()

/-! ## Health checks -/

/-- `calculate_received_entries`. -/
def calculateReceivedEntries (db : ServerDatabase) (agentId : String)
    (periodStart periodEnd : Nat) : Nat :=
  (MetricKind.all.map fun kind => (db.metrics kind).values.countP fun r => r.agentId = agentId &&
    (i64Column periodStart ≤ i64Column r.periodStart &&
      i64Column r.periodStart < i64Column periodEnd)).sum

/-- The loop of `check_all_agents` that stores its checks, as one transaction. -/
def storeHealthChecks : ServerDatabase → List AgentHealthCheck → Except String ServerDatabase
  | db, [] => .ok db
  | db, check :: checks =>
    if db.registered check.agentId then
      storeHealthChecks { db with healthChecks := db.healthChecks.insertOrIgnore check } checks
    else .error s!"Failed to store health check for agent: {check.agentId}"

/-- `cleanup_old_health_data`. -/
def cleanupOldHealthData (db : ServerDatabase) (now : Nat) (retentionDays : UInt32) :
    ServerDatabase :=
  let cutoffTime := retentionCutoff now retentionDays
  { db with healthChecks := db.healthChecks.delete fun _ r => r.checkTimestamp < cutoffTime }

end ServerDatabase

/-- `-` of two `u64`s, which wraps. -/
def u64Sub (a b : Nat) : Nat := (a + 2 ^ 64 - b) % 2 ^ 64

/-- `calculate_expected_entries`, from the tasks of the agent.  The code adds up in an `i64`, which
makes no difference below 2^63 entries (`i64Column_calculateExpectedEntries`). -/
def calculateExpectedEntries (tasks : List TaskConfig) (periodStart periodEnd : Nat) : Nat :=
  let periodDuration := u64Sub periodEnd periodStart
  (tasks.map fun task =>
    let scheduleSeconds := task.scheduleSeconds.toNat
    if scheduleSeconds = 0 then 0
    else if scheduleSeconds < 60 then periodDuration / 60
    else periodDuration / scheduleSeconds).sum

/-- What the monitor is configured with; how versions are compared is left open. -/
structure HealthMonitor where
  healthCheckIntervalSeconds : Nat
  healthCheckSuccessRatioThreshold : ℚ
  isAgentVersionOutdated : Option String → Bool

/-- A health check that has come so far: the agents it has not looked at, and the checks to store. -/
structure HealthRound where
  periodStart : Nat
  periodEnd : Nat
  todo : List AgentRow
  healthChecks : List AgentHealthCheck

namespace HealthMonitor

/-- `check_all_agents`, up to its first agent. -/
def checkAllAgents (monitor : HealthMonitor) (db : ServerDatabase) (now : Nat) : HealthRound :=
  let currentMinute := now / 60 * 60
  let periodEnd := u64Sub currentMinute 60
  let periodStart := u64Sub periodEnd monitor.healthCheckIntervalSeconds
  ⟨periodStart, periodEnd, db.agents.values, []⟩

/-- `calculate_health_metrics`, and the check that it becomes. -/
def calculateHealthMetrics (monitor : HealthMonitor) (db : ServerDatabase) (now : Nat)
    (tasks : List TaskConfig) (periodStart periodEnd : Nat) (agent : AgentRow) :
    AgentHealthCheck :=
  let expectedEntries := calculateExpectedEntries tasks periodStart periodEnd
  let receivedEntries := db.calculateReceivedEntries agent.agentId periodStart periodEnd
  let successRatio : ℚ := if expectedEntries > 0 then receivedEntries / expectedEntries else 1
  { agentId := agent.agentId
    checkTimestamp := i64Column periodEnd
    periodStart := i64Column periodStart
    periodEnd := i64Column periodEnd
    secondsSinceLastPush := now - agent.lastSeen
    expectedEntries := expectedEntries
    receivedEntries := receivedEntries
    successRatio := successRatio
    isProblematic := successRatio < monitor.healthCheckSuccessRatioThreshold ||
      monitor.isAgentVersionOutdated agent.agentVersion }

end HealthMonitor

/-! ## Runs -/

structure ServerData where
  db : ServerDatabase
  /-- The health check under way. -/
  round : Option HealthRound

inductive RetentionAction where
  /-- A submission registers its agent. -/
  | upsertAgent (agentId configChecksum : String) (agentVersion : Option String)
  /-- A submission stores its metrics. -/
  | storeMetrics (agentId : String) (metrics : List AggregatedMetrics)
  | logConfigError (agentId timestampUtc errorMessage : String)
  | checkAllAgents
  /-- The next agent of the health check; it is left out when its tasks cannot be read. -/
  | checkAgent (tasks : Option (List TaskConfig))
  | storeHealthChecks
  | cleanupOldHealthData (retentionDays : UInt32)
  | cleanupOldData (retentionDays : UInt32)
  /-- The process is killed after `done` statements of a cleanup. -/
  | cleanupKilled (retentionDays : UInt32) (done : Nat)

namespace ServerData

/-- The database after a statement that may be refused, and what the call returns. -/
def commit (s : ServerData) : Except String ServerDatabase → ServerData × Except String Unit
  | .error e => (s, .error e)
  | .ok db => ({ s with db := db }, .ok ())

/-- One step at the time `now`; `none` when there is no health check to go on with. -/
def next (monitor : HealthMonitor) (s : ServerData) (now : Nat) :
    RetentionAction → Option (ServerData × Except String Unit)
  | .upsertAgent agentId configChecksum agentVersion =>
    some (s.commit (.ok (s.db.upsertAgent now agentId configChecksum agentVersion)))
  | .storeMetrics agentId metrics => some (s.commit (s.db.storeMetrics now agentId metrics))
  | .logConfigError agentId timestampUtc errorMessage =>
    some (s.commit (s.db.logConfigError now agentId timestampUtc errorMessage))
  | .checkAllAgents => some ({ s with round := some (monitor.checkAllAgents s.db now) }, .ok ())
  | .checkAgent tasks =>
    match s.round with
    | some ⟨periodStart, periodEnd, agent :: todo, checks⟩ =>
      let check := tasks.map fun tasks =>
        monitor.calculateHealthMetrics s.db now tasks periodStart periodEnd agent
      some ({ s with round := some ⟨periodStart, periodEnd, todo, checks ++ check.toList⟩ }, .ok ())
    | _ => none
  | .storeHealthChecks =>
    match s.round with
    | some ⟨_, _, [], checks⟩ =>
      some (commit { s with round := none } (s.db.storeHealthChecks checks))
    | _ => none
  | .cleanupOldHealthData retentionDays =>
    some (s.commit (.ok (s.db.cleanupOldHealthData now retentionDays)))
  | .cleanupOldData retentionDays =>
    some ({ s with db := s.db.cleanupOldData now retentionDays 11 },
      s.db.cleanupResult now retentionDays)
  | .cleanupKilled retentionDays done =>
    some ({ db := s.db.cleanupOldData now retentionDays done, round := none }, .ok ())

end ServerData

/-- A server with a new database, under a clock that does not go back. -/
def retentionMachine (monitor : HealthMonitor) (t₀ : Nat) :
    Machine (Nat × ServerData) (Nat × RetentionAction) (Except String Unit) :=
  Machine.clocked ⟨⟨.initial, none⟩, fun s a => s.next monitor a.1 a.2⟩ t₀

abbrev RetentionStep := Taken (Nat × ServerData) (Nat × RetentionAction) (Except String Unit)

/-! ## What retention is for -/

/-- The cleanup has returned no error, and nothing from before the cutoff is left. -/
structure CleanupWorks (cutoffTime : Nat) (result : Except String Unit) (db : ServerDatabase) :
    Prop where
  succeeds : result = .ok ()
  metrics : ∀ kind, ∀ r ∈ (db.metrics kind).values, cutoffTime ≤ r.periodEnd
  agents : ∀ r ∈ db.agents.values, cutoffTime ≤ r.lastSeen

/-- No row that stays refers to the agent: neither a metric or an error from after the cutoff nor any
health check. -/
structure ServerDatabase.Released (db : ServerDatabase) (cutoffTime : Nat) (agentId : String) :
    Prop where
  metrics : ∀ kind, ∀ r ∈ (db.metrics kind).values, r.agentId = agentId →
    i64Column r.periodEnd < cutoffTime
  configErrors : ∀ r ∈ db.configErrors.values, r.agentId = agentId → r.receivedAt < cutoffTime
  healthChecks : ∀ r ∈ db.healthChecks.values, r.agentId ≠ agentId

/-- Every agent that a cleanup is to delete is released. -/
def ServerDatabase.AllReleased (db : ServerDatabase) (cutoffTime : Nat) : Prop :=
  ∀ r ∈ db.agents.values, r.lastSeen < cutoffTime → db.Released cutoffTime r.agentId

/-- If the step is a cleanup, then it works. -/
def RetentionStep.Works (t : RetentionStep) : Prop :=
  ∀ retentionDays, t.label.2 = .cleanupOldData retentionDays →
    CleanupWorks (ServerDatabase.retentionCutoff t.label.1 retentionDays) t.answer t.post.2.db

/-- If the action is a cleanup, then every agent that it is to delete is released. -/
def CleansReleased (s : Nat × ServerData) (a : Nat × RetentionAction) : Prop :=
  ∀ retentionDays, a.2 = .cleanupOldData retentionDays →
    s.2.db.AllReleased (ServerDatabase.retentionCutoff a.1 retentionDays)

/-! ## Lemmas -/

namespace ServerDatabase

variable {db db' : ServerDatabase}

theorem registered_iff_exists (db : ServerDatabase) (a : String) :
    db.registered a = true ↔ ∃ r ∈ db.agents.values, r.agentId = a := by
  simp [registered]

theorem referred_iff (db : ServerDatabase) (a : String) :
    db.referred a = true ↔ (∃ kind, ∃ r ∈ (db.metrics kind).values, r.agentId = a) ∨
      (∃ r ∈ db.configErrors.values, r.agentId = a) ∨
      ∃ r ∈ db.healthChecks.values, r.agentId = a := by
  simp [referred, MetricKind.mem_all, or_assoc]

/-! ### Foreign keys -/

/-- A row belongs to a registered agent. -/
def ForeignKeys (db : ServerDatabase) : Prop :=
  ∀ a, db.referred a = true → db.registered a = true

/-- Agents stay, and a new row belongs to one of them. -/
theorem ForeignKeys.of_added (h : db.ForeignKeys)
    (hagents : ∀ a, db.registered a = true → db'.registered a = true)
    (hmetrics : ∀ kind, ∀ r ∈ (db'.metrics kind).values,
      r ∈ (db.metrics kind).values ∨ db'.registered r.agentId = true)
    (herrors : ∀ r ∈ db'.configErrors.values,
      r ∈ db.configErrors.values ∨ db'.registered r.agentId = true)
    (hchecks : ∀ r ∈ db'.healthChecks.values,
      r ∈ db.healthChecks.values ∨ db'.registered r.agentId = true) : db'.ForeignKeys := by
  intro a ha
  rw [referred_iff] at ha
  rcases ha with ⟨kind, r, hr, rfl⟩ | ⟨r, hr, rfl⟩ | ⟨r, hr, rfl⟩
  · rcases hmetrics kind r hr with hold | hnew
    · apply hagents
      apply h
      rw [referred_iff]
      exact .inl ⟨kind, r, hold, rfl⟩
    · exact hnew
  · rcases herrors r hr with hold | hnew
    · apply hagents
      apply h
      rw [referred_iff]
      exact .inr (.inl ⟨r, hold, rfl⟩)
    · exact hnew
  · rcases hchecks r hr with hold | hnew
    · apply hagents
      apply h
      rw [referred_iff]
      exact .inr (.inr ⟨r, hold, rfl⟩)
    · exact hnew

theorem ForeignKeys.upsertAgent (h : db.ForeignKeys) (now : Nat) (b checksum : String)
    (version : Option String) : (db.upsertAgent now b checksum version).ForeignKeys := by
  have hagents : ∀ a, db.registered a = true →
      (db.upsertAgent now b checksum version).registered a = true := by
    intro a ha
    unfold ServerDatabase.upsertAgent
    split
    · rw [registered_iff] at ha ⊢
      rw [Table.keys_update]
      exact ha
    · rw [registered_iff_exists] at ha ⊢
      obtain ⟨r, hr, hra⟩ := ha
      refine ⟨r, ?_, hra⟩
      rcases db.agents.insertOrIgnore_eq ⟨b, now, now, some checksum, 1, version⟩ with
        ⟨k, -, -, heq⟩ | ⟨hnew, heq⟩
      · rw [heq]
        exact hr
      · rw [heq, Table.values_append]
        exact List.mem_append_left _ hr
  apply h.of_added hagents
  · intro kind r hr
    unfold ServerDatabase.upsertAgent at hr
    split at hr <;> exact .inl hr
  · intro r hr
    unfold ServerDatabase.upsertAgent at hr
    split at hr <;> exact .inl hr
  · intro r hr
    unfold ServerDatabase.upsertAgent at hr
    split at hr <;> exact .inl hr

theorem ForeignKeys.storeOne (h : db.ForeignKeys) {now : Nat} {b : String}
    {metric : AggregatedMetrics} (hs : db.storeOne now b metric = .ok db') : db'.ForeignKeys := by
  unfold ServerDatabase.storeOne at hs
  cases hk : metric.data.kind with
  | none =>
    rw [hk] at hs
    obtain rfl := Except.ok.inj hs
    exact h
  | some kind =>
    rw [hk] at hs
    dsimp only [storeMetric] at hs
    split at hs
    · cases hs
    · next table id hinsert =>
      split at hs
      · next hb =>
        obtain rfl := Except.ok.inj hs
        apply h.of_added
        · exact fun _ ha => ha
        · intro k r hr
          dsimp only at hr
          by_cases hkk : k = kind
          · subst hkk
            rw [Function.update_self] at hr
            rcases Table.mem_values_insert hinsert hr with hr | rfl
            · exact .inl hr
            · exact .inr hb
          · rw [Function.update_of_ne hkk] at hr
            exact .inl hr
        · exact fun r hr => .inl hr
        · exact fun r hr => .inl hr
      · cases hs

theorem ForeignKeys.storeMetrics (h : db.ForeignKeys) {now : Nat} {b : String}
    {metrics : List AggregatedMetrics} (hs : db.storeMetrics now b metrics = .ok db') :
    db'.ForeignKeys := by
  induction metrics generalizing db with
  | nil =>
    obtain rfl := Except.ok.inj hs
    exact h
  | cons metric metrics ih =>
    unfold ServerDatabase.storeMetrics at hs
    split at hs
    · cases hs
    · next db₁ hone => exact ih (h.storeOne hone) hs

theorem ForeignKeys.logConfigError (h : db.ForeignKeys) {now : Nat}
    {b timestampUtc errorMessage : String}
    (hs : db.logConfigError now b timestampUtc errorMessage = .ok db') : db'.ForeignKeys := by
  unfold ServerDatabase.logConfigError at hs
  split at hs
  · next hb =>
    obtain rfl := Except.ok.inj hs
    apply h.of_added
    · exact fun _ ha => ha
    · exact fun _ r hr => .inl hr
    · intro r hr
      rcases Table.mem_values_insertOrIgnore hr with hr | rfl
      · exact .inl hr
      · exact .inr hb
    · exact fun r hr => .inl hr
  · cases hs

theorem ForeignKeys.storeHealthChecks (h : db.ForeignKeys) {checks : List AgentHealthCheck}
    (hs : db.storeHealthChecks checks = .ok db') : db'.ForeignKeys := by
  induction checks generalizing db with
  | nil =>
    obtain rfl := Except.ok.inj hs
    exact h
  | cons check checks ih =>
    unfold ServerDatabase.storeHealthChecks at hs
    split at hs
    · next hb =>
      refine ih ?_ hs
      apply h.of_added
      · exact fun _ ha => ha
      · exact fun _ r hr => .inl hr
      · exact fun r hr => .inl hr
      · intro r hr
        rcases Table.mem_values_insertOrIgnore hr with hr | rfl
        · exact .inl hr
        · exact .inr hb
    · cases hs

/-- A statement of a cleanup takes rows away, and agents only where none of theirs is left. -/
theorem ForeignKeys.cleanupStatement (h : db.ForeignKeys) {cutoffTime : Nat}
    {statement : ServerDatabase → ServerDatabase} (hs : statement ∈ cleanupStatements cutoffTime) :
    (statement db).ForeignKeys := by
  unfold cleanupStatements at hs
  rcases List.mem_append.1 hs with hs | hs
  · obtain ⟨kind, -, rfl⟩ := List.mem_map.1 hs
    apply h.of_added
    · exact fun _ ha => ha
    · intro k r hr
      left
      unfold cleanupMetrics at hr
      dsimp only at hr
      by_cases hk : k = kind
      · subst hk
        rw [Function.update_self, Table.mem_values_delete_iff] at hr
        exact hr.1
      · rw [Function.update_of_ne hk] at hr
        exact hr
    · exact fun r hr => .inl hr
    · exact fun r hr => .inl hr
  · rcases List.mem_cons.1 hs with rfl | hs
    · apply h.of_added
      · exact fun _ ha => ha
      · exact fun _ r hr => .inl hr
      · intro r hr
        unfold cleanupErrors at hr
        rw [Table.mem_values_delete_iff] at hr
        exact .inl hr.1
      · exact fun r hr => .inl hr
    · obtain rfl := List.mem_singleton.1 hs
      unfold cleanupAgents
      split
      · exact h
      · next hfree =>
        intro a ha
        have hold : db.referred a = true := ha
        obtain ⟨r, hr, hra⟩ := (db.registered_iff_exists a).1 (h a hold)
        rw [registered_iff_exists]
        refine ⟨r, ?_, hra⟩
        rw [Table.mem_values_delete_iff]
        refine ⟨hr, ?_⟩
        by_contra hgone
        rw [Bool.not_eq_false] at hgone
        apply hfree
        rw [List.any_eq_true]
        refine ⟨r, hr, ?_⟩
        rw [hgone, hra]
        exact hold

theorem ForeignKeys.cleanupOldData (h : db.ForeignKeys) (now : Nat) (retentionDays : UInt32)
    (done : Nat) : (db.cleanupOldData now retentionDays done).ForeignKeys := by
  unfold ServerDatabase.cleanupOldData
  refine foldl_keeps ?_ h
  intro statement hs db hdb
  exact hdb.cleanupStatement (List.mem_of_mem_take hs)

theorem ForeignKeys.cleanupOldHealthData (h : db.ForeignKeys) (now : Nat)
    (retentionDays : UInt32) : (db.cleanupOldHealthData now retentionDays).ForeignKeys := by
  apply h.of_added
  · exact fun _ ha => ha
  · exact fun _ r hr => .inl hr
  · exact fun r hr => .inl hr
  · intro r hr
    unfold ServerDatabase.cleanupOldHealthData at hr
    rw [Table.mem_values_delete_iff] at hr
    exact .inl hr.1

/-! ### What a cleanup does -/

/-- The statements of some kinds delete the old metrics of these, and nothing else. -/
theorem foldl_cleanupMetrics (cutoffTime : Nat) {kinds : List MetricKind} (hkinds : kinds.Nodup)
    (db : ServerDatabase) :
    (kinds.map (cleanupMetrics cutoffTime)).foldl (fun db statement => statement db) db =
      { db with
        metrics := fun kind => if kind ∈ kinds
          then (db.metrics kind).delete fun _ r => i64Column r.periodEnd < cutoffTime
          else db.metrics kind } := by
  induction kinds generalizing db with
  | nil => rfl
  | cons kind kinds ih =>
    rw [List.nodup_cons] at hkinds
    rw [List.map_cons, List.foldl_cons, ih hkinds.2]
    unfold cleanupMetrics
    dsimp only
    congr
    funext k
    by_cases hk : k = kind
    · subst hk
      rw [if_neg hkinds.1, if_pos List.mem_cons_self, Function.update_self]
    · rw [Function.update_of_ne hk]
      simp [hk]

/-- The database after all statements but the last one. -/
theorem cleanupOldData_ten (db : ServerDatabase) (now : Nat) (retentionDays : UInt32) :
    (db.cleanupOldData now retentionDays 10).agents = db.agents ∧
      (db.cleanupOldData now retentionDays 10).healthChecks = db.healthChecks ∧
      (db.cleanupOldData now retentionDays 10).configErrors =
        db.configErrors.delete (fun _ r => r.receivedAt < retentionCutoff now retentionDays) ∧
      ∀ kind, (db.cleanupOldData now retentionDays 10).metrics kind =
        (db.metrics kind).delete
          fun _ r => i64Column r.periodEnd < (retentionCutoff now retentionDays : Nat) := by
  have hstatements : (cleanupStatements (retentionCutoff now retentionDays)).take 10 =
      MetricKind.all.map (cleanupMetrics (retentionCutoff now retentionDays)) ++
        [cleanupErrors (retentionCutoff now retentionDays)] := rfl
  have hten : db.cleanupOldData now retentionDays 10 =
      cleanupErrors (retentionCutoff now retentionDays) { db with
        metrics := fun kind => if kind ∈ MetricKind.all
          then (db.metrics kind).delete
            fun _ r => i64Column r.periodEnd < (retentionCutoff now retentionDays : Nat)
          else db.metrics kind } := by
    rw [← foldl_cleanupMetrics _ (by decide)]
    have hunfold : db.cleanupOldData now retentionDays 10 =
        ((cleanupStatements (retentionCutoff now retentionDays)).take 10).foldl
          (fun db statement => statement db) db := rfl
    rw [hunfold, hstatements, List.foldl_append]
    rfl
  rw [hten]
  exact ⟨rfl, rfl, rfl, fun kind => if_pos kind.mem_all⟩

/-- Nothing refers to the agent after those statements, exactly when it was released before. -/
theorem not_referred_ten_iff (db : ServerDatabase) (now : Nat) (retentionDays : UInt32)
    (a : String) :
    (db.cleanupOldData now retentionDays 10).referred a = false ↔
      db.Released (retentionCutoff now retentionDays) a := by
  obtain ⟨-, hchecks, herrors, hmetrics⟩ := db.cleanupOldData_ten now retentionDays
  rw [Bool.eq_false_iff, ne_eq, referred_iff, hchecks, herrors]
  constructor
  · intro h
    refine ⟨?_, ?_, ?_⟩
    · intro kind r hr ha
      by_contra hstays
      apply h
      refine .inl ⟨kind, r, ?_, ha⟩
      rw [hmetrics kind, Table.mem_values_delete_iff]
      exact ⟨hr, by simpa using hstays⟩
    · intro r hr ha
      by_contra hstays
      apply h
      refine .inr (.inl ⟨r, ?_, ha⟩)
      rw [Table.mem_values_delete_iff]
      exact ⟨hr, by simpa using hstays⟩
    · intro r hr ha
      exact h (.inr (.inr ⟨r, hr, ha⟩))
  · rintro h (⟨kind, r, hr, ha⟩ | ⟨r, hr, ha⟩ | ⟨r, hr, ha⟩)
    · rw [hmetrics kind, Table.mem_values_delete_iff] at hr
      have hgone := h.metrics kind r hr.1 ha
      simp [hgone] at hr
    · rw [Table.mem_values_delete_iff] at hr
      have hgone := h.configErrors r hr.1 ha
      simp [hgone] at hr
    · exact h.healthChecks r hr ha

theorem cleanupBlocked_ten_iff (db : ServerDatabase) (now : Nat) (retentionDays : UInt32) :
    cleanupBlocked (retentionCutoff now retentionDays)
        (db.cleanupOldData now retentionDays 10) = false ↔
      db.AllReleased (retentionCutoff now retentionDays) := by
  unfold cleanupBlocked AllReleased
  rw [(db.cleanupOldData_ten now retentionDays).1, List.any_eq_false]
  refine forall₂_congr fun r hr => ?_
  rw [← not_referred_ten_iff]
  by_cases hold : r.lastSeen < retentionCutoff now retentionDays
  · simp [hold]
  · simp [hold]

/-- **When a cleanup returns no error**: every agent that it is to delete is released. -/
theorem cleanupResult_iff (db : ServerDatabase) (now : Nat) (retentionDays : UInt32) :
    db.cleanupResult now retentionDays = .ok () ↔
      db.AllReleased (retentionCutoff now retentionDays) := by
  rw [← cleanupBlocked_ten_iff]
  unfold cleanupResult
  cases cleanupBlocked (retentionCutoff now retentionDays)
      (db.cleanupOldData now retentionDays 10) with
  | true => simp
  | false => simp

/-- A column is never greater than the number that was written to it. -/
theorem i64Column_le (time : Nat) : i64Column time ≤ time := by
  unfold i64Column
  rw [Int.bmod_eq_emod]
  split <;> omega

theorem cleanupAgents_metrics (cutoffTime : Nat) (db : ServerDatabase) :
    (cleanupAgents cutoffTime db).metrics = db.metrics := by
  unfold cleanupAgents
  split <;> rfl

/-- No metric from before the cutoff is left, whatever becomes of the agents. -/
theorem cleanupOldData_metrics (db : ServerDatabase) (now : Nat) (retentionDays : UInt32)
    (kind : MetricKind) :
    ∀ r ∈ ((db.cleanupOldData now retentionDays 11).metrics kind).values,
      retentionCutoff now retentionDays ≤ r.periodEnd := by
  intro r hr
  obtain ⟨-, -, -, hmetrics⟩ := db.cleanupOldData_ten now retentionDays
  have hlast : (db.cleanupOldData now retentionDays 11).metrics =
      (db.cleanupOldData now retentionDays 10).metrics := cleanupAgents_metrics _ _
  rw [hlast, hmetrics kind, Table.mem_values_delete_iff, decide_eq_false_iff_not] at hr
  have := i64Column_le r.periodEnd
  omega

/-- A cleanup works exactly when every agent that it is to delete is released. -/
theorem cleanupWorks_iff (db : ServerDatabase) (now : Nat) (retentionDays : UInt32) :
    CleanupWorks (retentionCutoff now retentionDays) (db.cleanupResult now retentionDays)
        (db.cleanupOldData now retentionDays 11) ↔
      db.AllReleased (retentionCutoff now retentionDays) := by
  constructor
  · intro h
    exact (db.cleanupResult_iff now retentionDays).1 h.succeeds
  · intro h
    have hfree := (db.cleanupBlocked_ten_iff now retentionDays).2 h
    refine ⟨(db.cleanupResult_iff now retentionDays).2 h,
      db.cleanupOldData_metrics now retentionDays, ?_⟩
    intro r hr
    have hlast : db.cleanupOldData now retentionDays 11 = cleanupAgents
        (retentionCutoff now retentionDays) (db.cleanupOldData now retentionDays 10) := rfl
    unfold cleanupAgents at hlast
    unfold cleanupBlocked at hfree
    rw [hfree, if_neg Bool.false_ne_true] at hlast
    rw [hlast, Table.mem_values_delete_iff, decide_eq_false_iff_not] at hr
    omega

end ServerDatabase

/-! ### Steps -/

theorem retentionMachine_step {monitor : HealthMonitor} {t₀ : Nat} {s s' : Nat × ServerData}
    {a : Nat × RetentionAction} {b : Except String Unit}
    (h : (retentionMachine monitor t₀).step s a = some (s', b)) :
    s.2.next monitor a.1 a.2 = some (s'.2, b) :=
  ((Machine.clocked_step_iff _ _ _ _ _ _).1 h).2.1

theorem ServerData.commit_foreignKeys {s : ServerData} {r : Except String ServerDatabase}
    (h : s.db.ForeignKeys) (hr : ∀ db, r = .ok db → db.ForeignKeys) :
    (s.commit r).1.db.ForeignKeys := by
  cases r with
  | error e => exact h
  | ok db => exact hr db rfl

/-- A step keeps the foreign keys. -/
theorem ServerData.next_foreignKeys {monitor : HealthMonitor} {s s' : ServerData} {now : Nat}
    {a : RetentionAction} {b : Except String Unit} (h : s.db.ForeignKeys)
    (hs : s.next monitor now a = some (s', b)) : s'.db.ForeignKeys := by
  have hfst : ∀ {p : ServerData × Except String Unit}, some p = some (s', b) → s' = p.1 := by
    intro p hp
    rw [Option.some.inj hp]
  cases a with
  | upsertAgent agentId configChecksum agentVersion =>
    rw [hfst hs]
    exact h.upsertAgent now agentId configChecksum agentVersion
  | storeMetrics agentId metrics =>
    rw [hfst hs]
    exact commit_foreignKeys h fun db hdb => h.storeMetrics hdb
  | logConfigError agentId timestampUtc errorMessage =>
    rw [hfst hs]
    exact commit_foreignKeys h fun db hdb => h.logConfigError hdb
  | checkAllAgents =>
    rw [hfst hs]
    exact h
  | checkAgent tasks =>
    dsimp only [next] at hs
    split at hs
    · rw [hfst hs]
      exact h
    · cases hs
  | storeHealthChecks =>
    dsimp only [next] at hs
    split at hs
    · rw [hfst hs]
      exact commit_foreignKeys h fun db hdb => h.storeHealthChecks hdb
    · cases hs
  | cleanupOldHealthData retentionDays =>
    rw [hfst hs]
    exact h.cleanupOldHealthData now retentionDays
  | cleanupOldData retentionDays =>
    rw [hfst hs]
    exact h.cleanupOldData now retentionDays 11
  | cleanupKilled retentionDays done =>
    rw [hfst hs]
    exact h.cleanupOldData now retentionDays done

/-! ## Results -/

/-- **Foreign keys hold in every state reached**: a row belongs to a registered agent. -/
theorem foreignKeys_run {monitor : HealthMonitor} {t₀ : Nat} {tr : List RetentionStep}
    {s : Nat × ServerData} (hr : Run (retentionMachine monitor t₀) tr s) :
    s.2.db.ForeignKeys := by
  refine Run.invariant (I := fun s => s.2.db.ForeignKeys) ?_ ?_ hr
  · intro a ha
    rw [ServerDatabase.referred_iff] at ha
    rcases ha with ⟨kind, r, hr, -⟩ | ⟨r, hr, -⟩ | ⟨r, hr, -⟩
    · cases hr
    · cases hr
    · cases hr
  · intro s a s' b h hs
    exact ServerData.next_foreignKeys h (retentionMachine_step hs)

/-- **When retention works**: in a run every cleanup succeeds and leaves nothing from before its
cutoff, exactly when every agent that it comes to delete is released. -/
theorem cleanups_work_iff {monitor : HealthMonitor} {t₀ : Nat} {tr : List RetentionStep}
    {s : Nat × ServerData} (hr : Run (retentionMachine monitor t₀) tr s) :
    (∀ t ∈ tr, RetentionStep.Works t) ↔ ∀ t ∈ tr, CleansReleased t.pre t.label := by
  refine Run.forall_iff (I := fun _ => True) trivial (fun _ _ _ _ _ _ _ => trivial) ?_ hr
  intro s a s' b _ hs
  have hnext := retentionMachine_step hs
  unfold RetentionStep.Works CleansReleased
  refine forall₂_congr fun retentionDays ha => ?_
  dsimp only at ha
  rw [ha] at hnext
  obtain ⟨hs', hb⟩ := Prod.mk.inj (Option.some.inj hnext)
  rw [← hs', ← hb]
  exact s.2.db.cleanupWorks_iff a.1 retentionDays

/-! ## An agent that is switched off -/

def exampleMonitor : HealthMonitor := ⟨300, 4 / 5, fun _ => false⟩

/-- An agent submits one metric, at 1000, and is not heard of again. -/
def lastSubmission : List (Nat × RetentionAction) :=
  [(1000, .upsertAgent "agent1" "checksum" none),
    (1000, .storeMetrics "agent1" [⟨"ping", .ping, 900, 960, 1, .ping default⟩])]

/-- The health check of 1200. -/
def healthCheck : List (Nat × RetentionAction) :=
  [(1200, .checkAllAgents), (1200, .checkAgent (some [])), (1200, .storeHealthChecks)]

/-- What the cleanup of the fortieth day returns. -/
theorem fortiethDay (labels : List (Nat × RetentionAction)) (result : Except String Unit)
    (h : ((retentionMachine exampleMonitor 0).exec labels).bind (fun r =>
      ((retentionMachine exampleMonitor 0).step r.2 (3456000, .cleanupOldData 30)).map
        (·.2)) = some result) :
    ∃ tr s t, Run (retentionMachine exampleMonitor 0) tr s ∧ t ∈ tr ∧
      t.label = (3456000, .cleanupOldData 30) ∧ t.answer = result := by
  obtain ⟨⟨tr, s⟩, he, h⟩ := Option.bind_eq_some_iff.1 h
  obtain ⟨⟨s', b⟩, hs, rfl⟩ := Option.map_eq_some_iff.1 h
  exact ⟨_, s', _, (Run.of_exec he).snoc hs, List.mem_append_right _ (List.mem_singleton.2 rfl),
    rfl, rfl⟩

instance (db : ServerDatabase) (cutoffTime : Nat) (agentId : String) :
    Decidable (db.Released cutoffTime agentId) :=
  decidable_of_iff ((∀ kind ∈ MetricKind.all, ∀ r ∈ (db.metrics kind).values, r.agentId = agentId →
      i64Column r.periodEnd < cutoffTime) ∧
    (∀ r ∈ db.configErrors.values, r.agentId = agentId → r.receivedAt < cutoffTime) ∧
      ∀ r ∈ db.healthChecks.values, r.agentId ≠ agentId)
    ⟨fun ⟨hm, he, hh⟩ => ⟨fun kind => hm kind kind.mem_all, he, hh⟩,
      fun h => ⟨fun kind _ => h.metrics kind, h.configErrors, h.healthChecks⟩⟩

instance (db : ServerDatabase) (cutoffTime : Nat) : Decidable (db.AllReleased cutoffTime) :=
  inferInstanceAs (Decidable (∀ r ∈ db.agents.values, r.lastSeen < cutoffTime →
    db.Released cutoffTime r.agentId))

/-- Without health checks the agent is deleted. -/
theorem cleanups_work_iff_unwatched :
    ∃ tr s, Run (retentionMachine exampleMonitor 0) tr s ∧
      tr.map Taken.label = lastSubmission ++ [(3456000, .cleanupOldData 30)] ∧
      s.2.db.agents.values = [] ∧ ∀ t ∈ tr, RetentionStep.Works t := by
  obtain ⟨tr, s, he, hr⟩ := Run.exists_of_exec (retentionMachine exampleMonitor 0)
    (lastSubmission ++ [(3456000, .cleanupOldData 30)]) (by rfl)
  have hend : ((retentionMachine exampleMonitor 0).exec
      (lastSubmission ++ [(3456000, .cleanupOldData 30)])).map (fun r => (r.2.2.db.agents.values,
        r.1.all fun t => decide (t.pre.2.db.AllReleased
          (ServerDatabase.retentionCutoff t.label.1 30)))) = some ([], true) := by decide +kernel
  rw [he] at hend
  obtain ⟨hagents, hreleased⟩ := Prod.mk.inj (Option.some.inj hend)
  have hlabels := Machine.execFrom_labels he
  refine ⟨tr, s, hr, hlabels, hagents, (cleanups_work_iff hr).2 fun t ht retentionDays hlabel => ?_⟩
  have hdays : retentionDays = 30 := by
    have hmem : t.label.2 ∈
        (lastSubmission ++ [(3456000, RetentionAction.cleanupOldData 30)]).map Prod.snd :=
      List.mem_map_of_mem (hlabels ▸ List.mem_map_of_mem ht)
    rw [hlabel] at hmem
    simpa [lastSubmission] using hmem
  rw [hdays]
  exact of_decide_eq_true (List.all_eq_true.1 hreleased t ht)

/-- One health check, and the cleanup fails. -/
theorem not_cleanups_work :
    ∃ tr s, Run (retentionMachine exampleMonitor 0) tr s ∧ ¬ ∀ t ∈ tr, RetentionStep.Works t := by
  obtain ⟨tr, s, t, hr, ht, hlabel, hanswer⟩ := fortiethDay (lastSubmission ++ healthCheck)
    (.error ServerDatabase.foreignKeyError) (by rfl)
  refine ⟨tr, s, hr, ?_⟩
  intro hall
  have hworks := hall t ht 30 (by rw [hlabel])
  have hok := hworks.succeeds
  rw [hanswer] at hok
  cases hok

end LinkSense
