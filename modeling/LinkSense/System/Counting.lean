import LinkSense.Agent.Flush
import LinkSense.Agent.Summaries
import LinkSense.System.Delivered

/-!
# Samples are counted once

How the sample counts that the server holds of a task compare with the results that the agent has
handled for it.

A result's metric goes to the buffer and from there to the raw table at most once, a pass counts the
raw rows of one minute, and the server has one row for a minute.

    what the server holds of an agent's task between two times, in samples, is at most the number of
      results of the task with a timestamp between them that the agent has handled    (counted_once)
-/

namespace LinkSense

open Labelled Sql

/-! ## Results, buffer and raw rows -/

/-- The metric of the result that an action hands to the scheduler. -/
def AgentAction.handled : AgentAction → List MetricData
  | .drain _ taskResult => taskResult.metricData.toList
  | .result _ taskResult => taskResult.metricData.toList
  | _ => []

/-- The metrics of the results that the agent has handled in a run, in order. -/
def handledMetrics (tr : List NetworkStep) : List MetricData :=
  tr.flatMap fun t =>
    match t.label.2 with
    | NetworkAction.agent _ a => a.handled
    | _ => []

/-- The rows that metrics of a kind make. -/
def rowsOf (kind : MetricKind) (metrics : List MetricData) : List RawRow :=
  (metrics.filter (·.data.kind = some kind)).map MetricData.row

theorem rowsOf_append (kind : MetricKind) (metrics metrics' : List MetricData) :
    rowsOf kind (metrics ++ metrics') = rowsOf kind metrics ++ rowsOf kind metrics' := by
  unfold rowsOf
  rw [List.filter_append, List.map_append]

/-- The raw rows that a step of the network writes. -/
def NetworkStep.recorded (kind : MetricKind) (t : NetworkStep) : List (Nat × RawRow) :=
  (t.post.2.agent.db.raw kind).rows.filter fun r => (t.pre.2.agent.db.raw kind).nextId ≤ r.1

/-- All raw rows of a kind that a run has written. -/
def recordedRows (kind : MetricKind) (tr : List NetworkStep) : List (Nat × RawRow) :=
  tr.flatMap (NetworkStep.recorded kind)

theorem storedMetrics_sublist (failAt : Option Nat) (metrics : List MetricData) :
    (storedMetrics failAt metrics).Sublist metrics :=
  (storedMetrics_isPrefixOf failAt metrics).sublist

namespace TaskScheduler

variable (s : TaskScheduler) (db : AgentDatabase) (now : Nat) (failAt : Option Nat)

/-- A handled metric is stored or in the buffer, with what was there before, or lost. -/
theorem handleTaskResult_buffer (result : TaskResult) :
    (s.overflow failAt result ++ (s.handleTaskResult db now failAt result).1.metricsBuffer).Sublist
      (s.metricsBuffer ++ result.metricData.toList) := by
  unfold handleTaskResult overflow
  cases result.metricData with
  | none => exact List.sublist_append_left _ _
  | some metric =>
    dsimp only [Option.toList_some]
    by_cases hfull : (s.metricsBuffer ++ [metric]).length ≥ s.maxMetricsBufferSize
    · have hfull' : ((s.setRunning result.taskName false).metricsBuffer ++ [metric]).length ≥
          (s.setRunning result.taskName false).maxMetricsBufferSize := hfull
      rw [if_pos hfull, if_pos hfull']
      generalize TaskScheduler.mk _ _ _ _ _ _ _ _ _ _ _ _ _ _ = s₁
      have hbuffer := (s₁.flushMetricsNow_buffer db now failAt).1
      split
      · next he =>
        rw [he] at hbuffer
        dsimp only at hbuffer ⊢
        rw [hbuffer, List.append_nil]
        exact storedMetrics_sublist failAt _
      · next he =>
        rw [he] at hbuffer
        dsimp only at hbuffer ⊢
        rw [hbuffer, List.drop_nil, List.append_nil]
        exact storedMetrics_sublist failAt _
    · have hfull' : ¬ ((s.setRunning result.taskName false).metricsBuffer ++ [metric]).length ≥
          (s.setRunning result.taskName false).maxMetricsBufferSize := hfull
      rw [if_neg hfull, if_neg hfull']
      exact List.Sublist.refl _

theorem cleanupSentQueueIfNeeded_buffer (sentFails failedFails : Bool) :
    (s.cleanupSentQueueIfNeeded db now sentFails failedFails).1.metricsBuffer = s.metricsBuffer := by
  unfold cleanupSentQueueIfNeeded
  split <;> rfl

theorem executeSingleTask_buffer (taskName : String) :
    (s.executeSingleTask taskName).1.metricsBuffer = s.metricsBuffer := by
  unfold executeSingleTask
  repeat' split
  all_goals rfl

end TaskScheduler

theorem AgentConfig.newScheduler_buffer (config : AgentConfig) (tasksConfig : TasksConfig) :
    (config.newScheduler tasksConfig).metricsBuffer = [] := by
  have hfold : ∀ (tasks : List TaskConfig) (s : TaskScheduler),
      (tasks.foldl TaskScheduler.spawnTickerTask s).metricsBuffer = s.metricsBuffer := by
    intro tasks
    induction tasks with
    | nil => exact fun s => rfl
    | cons task tasks ih =>
      intro s
      rw [List.foldl_cons, ih]
      rfl
  exact hfold _ _

/-- **What a step stores and keeps** of the metrics it has in the buffer and is handed. -/
theorem Agent.next_buffer {config : AgentConfig} {summary : Summary} {s s' : Agent} {now : Nat}
    {a : AgentAction} (h : s.next config summary now a = some s') :
    (s.flushed now a ++ s'.scheduler.metricsBuffer).Sublist
      (s.scheduler.metricsBuffer ++ a.handled) := by
  have hflush : ∀ failAt, (storedMetrics failAt s.scheduler.metricsBuffer ++
      (s.scheduler.flushMetricsNow s.db now failAt).1.metricsBuffer).Sublist
        (s.scheduler.metricsBuffer ++ []) := by
    intro failAt
    rw [(s.scheduler.flushMetricsNow_buffer s.db now failAt).1]
    exact (storedMetrics_sublist failAt _).append (.refl [])
  cases a with
  | aggregationCheck failAt =>
    rcases next_aggregationCheck h with
      ⟨hstopped, rfl⟩ | ⟨hrunning, ⟨hd, rfl⟩ | ⟨minute, point, hd, -, rfl⟩⟩
    · rw [show s.flushed now (.aggregationCheck failAt) = [] from if_pos hstopped]
      exact List.sublist_append_left _ _
    · rw [show s.flushed now (.aggregationCheck failAt) = [] by
        simp only [flushed, if_neg hrunning, hd]]
      exact List.sublist_append_left _ _
    · rw [show s.flushed now (.aggregationCheck failAt) =
        storedMetrics failAt s.scheduler.metricsBuffer by
          simp only [flushed, if_neg hrunning, hd]]
      exact hflush failAt
  | flush failAt =>
    have hbuffer : (s.flushed now (.flush failAt) ++
        (s.scheduler.flushMetricsIfNeeded s.db now failAt).1.metricsBuffer).Sublist
          (s.scheduler.metricsBuffer ++ []) := by
      unfold flushed TaskScheduler.flushMetricsIfNeeded
      dsimp only
      by_cases hdue : now ≥ s.scheduler.lastDbWrite + s.scheduler.flushIntervalSeconds
      · rw [if_pos hdue, if_pos hdue]
        exact hflush failAt
      · rw [if_neg hdue, if_neg hdue]
        exact List.sublist_append_left _ _
    dsimp only [next] at h
    split at h
    · split at h
      · next he =>
        rw [he] at hbuffer
        obtain rfl := Option.some.inj h
        exact hbuffer
      · next he =>
        rw [he] at hbuffer
        obtain rfl := Option.some.inj h
        exact hbuffer
    · cases h
  | queueCleanup sentFails failedFails =>
    dsimp only [next] at h
    split at h
    · obtain rfl := Option.some.inj h
      dsimp only
      rw [s.scheduler.cleanupSentQueueIfNeeded_buffer s.db now sentFails failedFails]
      exact List.sublist_append_left _ _
    · cases h
  | drain failAt result =>
    dsimp only [next] at h
    split at h
    · obtain rfl := Option.some.inj h
      exact s.scheduler.handleTaskResult_buffer s.db now failAt result
    · cases h
  | result failAt result =>
    dsimp only [next] at h
    split at h
    · obtain rfl := Option.some.inj h
      exact s.scheduler.handleTaskResult_buffer s.db now failAt result
    · cases h
  | stop failAt =>
    dsimp only [next] at h
    split at h
    · obtain rfl := Option.some.inj h
      exact hflush failAt
    · cases h
  | restart tasksConfig =>
    obtain rfl := Option.some.inj h
    show ([] ++ (config.newScheduler tasksConfig).metricsBuffer).Sublist _
    rw [config.newScheduler_buffer tasksConfig]
    exact List.nil_sublist _
  | reload tasksConfig =>
    dsimp only [next] at h
    split at h
    · obtain rfl := Option.some.inj h
      show ([] ++ (config.newScheduler tasksConfig).metricsBuffer).Sublist _
      rw [config.newScheduler_buffer tasksConfig]
      exact List.nil_sublist _
    · cases h
  | ready taskName =>
    dsimp only [next] at h
    split at h
    · obtain rfl := Option.some.inj h
      dsimp only
      rw [s.scheduler.executeSingleTask_buffer taskName]
      exact List.sublist_append_left _ _
    · cases h
  | _ =>
    simp only [next] at h
    repeat' split at h
    all_goals
      first
      | cases h; done
      | obtain rfl := Option.some.inj h
        exact List.sublist_append_left _ _

/-! ## Sample counts -/

/-- Both counts of a module together, which wrap at `2 ^ 32`. -/
theorem samples_le {α : Type} (success : α → Bool) (data : List α) :
    (UInt32.ofNat (data.countP fun r => success r) +
      UInt32.ofNat (data.countP fun r => !success r)).toNat ≤ data.length := by
  have hsum := data.length_eq_countP_add_countP success
  have hfailed : data.countP (fun r => !success r) = data.countP fun r => ¬ success r := by
    refine List.countP_congr fun r _ => ?_
    cases success r <;> simp
  rw [hsum, ← hfailed, UInt32.toNat_add, UInt32.toNat_ofNat', UInt32.toNat_ofNat',
    ← Nat.add_mod]
  exact Nat.mod_le _ _

theorem RawCase.length_table_le {α : Type} {kind : MetricKind} (c : RawCase α kind)
    (rows : List RawRow) : ((c.table rows).map Stored.data).length ≤ rows.length := by
  rw [List.length_map]
  exact List.length_filterMap_le _ _

/-- No aggregate counts more samples than it has rows. -/
theorem sqlSummary_sampleCount_le (kind : MetricKind) (rows : List RawRow) :
    (sqlSummary.sampleCount kind rows).toNat ≤ rows.length := by
  cases kind with
  | ping => exact (samples_le RawPingMetric.success _).trans (pingCase.length_table_le rows)
  | tcp => exact (samples_le RawTcpMetric.success _).trans (tcpCase.length_table_le rows)
  | http => exact (samples_le RawHttpMetric.success _).trans (httpCase.length_table_le rows)
  | tls => exact (samples_le RawTlsMetric.success _).trans (tlsCase.length_table_le rows)
  | httpContent =>
    exact (samples_le RawHttpContentMetric.success _).trans (httpContentCase.length_table_le rows)
  | dns => exact (samples_le RawDnsMetric.success _).trans (dnsCase.length_table_le rows)
  | bandwidth =>
    exact (samples_le RawBandwidthMetric.success _).trans (bandwidthCase.length_table_le rows)
  | sqlQuery =>
    exact (samples_le RawSqlQueryMetric.success _).trans (sqlQueryCase.length_table_le rows)
  | snmp => exact (samples_le RawSnmpMetric.success _).trans (snmpCase.length_table_le rows)

/-! ## Runs -/

/-- Every raw row was written in the run, the rows that were written and the buffer come from
handled results, and a pass is over an aligned minute. -/
structure Network.Accounted (tr : List NetworkStep) (s : Network) : Prop where
  rows : ∀ kind, ∀ r ∈ (s.agent.db.raw kind).rows, r ∈ recordedRows kind tr
  handled : ∀ kind, ((recordedRows kind tr).map Prod.snd ++
    rowsOf kind s.agent.scheduler.metricsBuffer).Subperm (rowsOf kind (handledMetrics tr))
  minute : ∀ periodEnd, s.agent.point.periodEnd = some periodEnd → 60 ∣ periodEnd ∧ 60 ≤ periodEnd

section Runs

variable {server : Server} {config : AgentConfig} {summary : Summary} {tasksConfig : TasksConfig}
  {t₀ : Nat} {state : ServerState} {tr : List NetworkStep} {s : Nat × Network} {x : NetworkStep}

theorem recordedRows_snoc (kind : MetricKind) :
    recordedRows kind (tr ++ [x]) = recordedRows kind tr ++ x.recorded kind := by
  unfold recordedRows
  rw [List.flatMap_append, List.flatMap_singleton]

theorem handledMetrics_agent {checksum : String} {a : AgentAction}
    (h : x.label.2 = .agent checksum a) :
    handledMetrics (tr ++ [x]) = handledMetrics tr ++ a.handled := by
  unfold handledMetrics
  rw [List.flatMap_append, List.flatMap_singleton, h]

theorem handledMetrics_subset :
    handledMetrics tr <+: handledMetrics (tr ++ [x]) := by
  unfold handledMetrics
  rw [List.flatMap_append]
  exact List.prefix_append _ _

/-- A step in which the agent does nothing. -/
theorem Network.Accounted.idle (h : s.2.Accounted tr) (hpre : x.pre.2.agent = s.2.agent)
    (hpost : x.post.2.agent = s.2.agent) : x.post.2.Accounted (tr ++ [x]) := by
  have hnone : ∀ kind, x.recorded kind = [] := by
    intro kind
    unfold NetworkStep.recorded
    rw [hpre, hpost, List.filter_eq_nil_iff]
    intro r hr
    have := (s.2.agent.db.raw kind).ids_lt r hr
    simpa using this
  refine ⟨fun kind r hr => ?_, fun kind => ?_, fun periodEnd he => ?_⟩
  · rw [recordedRows_snoc, hnone, List.append_nil]
    rw [hpost] at hr
    exact h.rows kind r hr
  · rw [recordedRows_snoc, hnone, List.append_nil, hpost]
    refine (h.handled kind).trans (List.Sublist.subperm ?_)
    exact ((handledMetrics_subset.sublist).filter _).map _
  · rw [hpost] at he
    exact h.minute periodEnd he

/-- A step of the agent. -/
theorem Network.Accounted.agent (h : s.2.Accounted tr) {checksum : String} {a : AgentAction}
    {now : Nat} (hpre : x.pre = s) (hlabel : x.label.2 = .agent checksum a)
    (hnext : s.2.agent.next config summary now a = some x.post.2.agent) :
    x.post.2.Accounted (tr ++ [x]) := by
  have hbuffer := Agent.next_buffer hnext
  -- what is written is what is flushed
  have hwritten : ∀ kind, (x.recorded kind).map Prod.snd =
      rowsOf kind (s.2.agent.flushed now a) ∧
      ∀ r ∈ (x.post.2.agent.db.raw kind).rows,
        r ∈ (s.2.agent.db.raw kind).rows ∨ r ∈ x.recorded kind := by
    intro kind
    have hpre' : x.pre.2.agent.db = s.2.agent.db := by rw [hpre]
    unfold NetworkStep.recorded
    rw [hpre']
    rcases Agent.next_stores hnext with hstores | ⟨done, rfl, -, hdb⟩
    · refine ⟨hstores.rowsWritten_eq kind, fun r hr => ?_⟩
      obtain ⟨rows, hrows, -, hids, -⟩ := hstores.raw kind
      have hmem := hr
      rw [hrows] at hmem
      rcases List.mem_append.1 hmem with hold | hnew
      · exact .inl hold
      · exact .inr (List.mem_filter.2 ⟨hr, decide_eq_true (hids r hnew)⟩)
    · have hold := (s.2.agent.db.cleanupOldData_raw now config.localDataRetentionDays done kind).2.1
      rw [← hdb] at hold
      refine ⟨?_, fun r hr => .inl (hold r hr)⟩
      rw [List.filter_eq_nil_iff.2]
      · rfl
      · intro r hr
        have := (s.2.agent.db.raw kind).ids_lt r (hold r hr)
        simpa using this
  refine ⟨fun kind r hr => ?_, fun kind => ?_, fun periodEnd he => ?_⟩
  · rw [recordedRows_snoc, List.mem_append]
    rcases (hwritten kind).2 r hr with hold | hnew
    · exact .inl (h.rows kind r hold)
    · exact .inr hnew
  · rw [recordedRows_snoc, handledMetrics_agent hlabel, rowsOf_append, List.map_append,
      (hwritten kind).1, List.append_assoc, ← rowsOf_append]
    have hstep : (rowsOf kind (s.2.agent.flushed now a ++
        x.post.2.agent.scheduler.metricsBuffer)).Subperm
          (rowsOf kind (s.2.agent.scheduler.metricsBuffer ++ a.handled)) :=
      ((hbuffer.filter _).map _).subperm
    rw [rowsOf_append kind _ a.handled] at hstep
    refine ((List.subperm_append_left _).2 hstep).trans ?_
    rw [← List.append_assoc]
    exact (List.subperm_append_right _).2 (h.handled kind)
  · rcases Agent.next_periodEnd hnext he with hold | hdue
    · exact h.minute periodEnd hold
    · have hspec := TaskScheduler.dueMinute_spec hdue
      exact ⟨hspec.1, hspec.2.1⟩

theorem accounted_run
    (hr : Run (networkMachine server config summary tasksConfig t₀ state) tr s) :
    s.2.Accounted tr := by
  induction hr with
  | nil =>
    refine ⟨fun kind r hr => absurd hr List.not_mem_nil, fun kind => ?_, fun periodEnd he => ?_⟩
    · show (rowsOf kind (config.newScheduler tasksConfig).metricsBuffer).Subperm []
      rw [config.newScheduler_buffer tasksConfig]
      exact .refl _
    · cases he
  | @snoc tr s a s' b hr hs ih =>
    have hnext := networkMachine_step hs
    obtain ⟨now, a⟩ := a
    dsimp only at hnext
    cases a with
    | agent checksum a => exact ih.agent rfl rfl (Network.next_agent hnext).1
    | deliver m i =>
      obtain ⟨d, answer, state', -, -, hs'⟩ := Network.next_deliver hnext
      refine ih.idle (x := ⟨s, (now, .deliver m i), b, s'⟩) rfl ?_
      rw [hs']
    | other m request =>
      dsimp only [Network.next] at hnext
      split at hnext
      · cases hnext
      · refine ih.idle (x := ⟨s, (now, .other m request), b, s'⟩) rfl ?_
        rw [← Option.some.inj hnext]
    | serverCleanup time retentionDays done =>
      refine ih.idle (x := ⟨s, (now, .serverCleanup time retentionDays done), b, s'⟩) rfl ?_
      rw [← Option.some.inj hnext]
    | serverRestart =>
      refine ih.idle (x := ⟨s, (now, .serverRestart), b, s'⟩) rfl ?_
      rw [← Option.some.inj hnext]
    | edit agentId content =>
      refine ih.idle (x := ⟨s, (now, .edit agentId content), b, s'⟩) rfl ?_
      rw [← Option.some.inj hnext]
    | notice agentId =>
      refine ih.idle (x := ⟨s, (now, .notice agentId), b, s'⟩) rfl ?_
      rw [← Option.some.inj hnext]

/-- What an aggregate counts was written before in its minute, which is aligned. -/
theorem AggregatedIn.counts {kind : MetricKind} {r : AggRow}
    (hr : Run (networkMachine server config sqlSummary tasksConfig t₀ state) tr s)
    (h : AggregatedIn sqlSummary tr kind r) :
    60 ∣ r.periodStart ∧ r.periodEnd = r.periodStart + 60 ∧
      r.sampleCount.toNat ≤ ((recordedRows kind tr).filter fun q => q.2.taskName = r.taskName).countP
        fun q => r.periodStart ≤ q.2.timestamp && q.2.timestamp < r.periodEnd := by
  obtain ⟨t, ht, checksum, a, -, hmade⟩ := h
  obtain ⟨before, after, rfl⟩ := List.append_of_mem ht
  have haccounted := accounted_run hr.before
  obtain ⟨task, todo, hpoint, -, -⟩ := hmade.task
  obtain ⟨hdvd, hle⟩ := haccounted.minute r.periodEnd (by rw [hpoint]; rfl)
  refine ⟨?_, ?_, ?_⟩
  · rw [hmade.minute]
    exact Nat.dvd_sub hdvd (dvd_refl 60)
  · rw [hmade.minute]
    omega
  · rw [hmade.summarises.sampleCount]
    refine (sqlSummary_sampleCount_le _ _).trans ?_
    rw [List.length_map, List.countP_eq_length_filter, List.filter_filter]
    refine List.Subperm.length_le (List.subperm_of_subset ?_ fun q hq => ?_)
    · exact ((t.pre.2.agent.db.raw kind).ids_nodup.of_map _).filter _
    · obtain ⟨hrow, hwindow⟩ := List.mem_filter.1 hq
      refine List.mem_filter.2 ⟨?_, ?_⟩
      · unfold recordedRows
        rw [List.flatMap_append]
        exact List.mem_append_left _ (haccounted.rows kind q hrow)
      · rw [Bool.and_comm]
        exact hwindow

/-- Rows that were written, as metrics that were handled. -/
theorem Network.Accounted.countP_le {s : Network} (h : s.Accounted tr) (kind : MetricKind)
    (p : RawRow → Bool) :
    (recordedRows kind tr).countP (fun q => p q.2) ≤
      (handledMetrics tr).countP fun metric => metric.data.kind = some kind && p metric.row := by
  have hsub := (List.subperm_append_left ((recordedRows kind tr).map Prod.snd)).2
    (List.nil_subperm (l := rowsOf kind s.agent.scheduler.metricsBuffer))
  rw [List.append_nil] at hsub
  have hle := (hsub.trans (h.handled kind)).countP_le p
  unfold rowsOf at hle
  rw [List.countP_map, List.countP_map, List.countP_filter] at hle
  refine hle.trans (le_of_eq (List.countP_congr fun metric _ => ?_))
  rw [Bool.and_comm]
  rfl

/-! ## Top theorem -/

/-- **Samples are counted once**: of a task's results with a timestamp between two times, the server
holds no more in samples than the agent has handled, if nobody else submits under the agent's id. -/
theorem counted_once
    (hr : Run (networkMachine server config sqlSummary tasksConfig t₀ state) tr s)
    (hinit : ∀ kind, ∀ r ∈ (state.database.metrics kind).values, r.agentId ≠ config.agentId)
    (halone : ∀ t ∈ tr, ¬ Impersonates config t) (kind : MetricKind) (taskName : String)
    (start stop : Nat) :
    (((s.2.server.database.metrics kind).values.filter fun r =>
      r.agentId = config.agentId && r.taskName = taskName &&
        (start ≤ r.periodStart && r.periodEnd ≤ stop)).map fun r => r.sampleCount.toNat).sum ≤
    (handledMetrics tr).countP fun metric => metric.data.kind = some kind &&
      (metric.taskName = taskName && (start ≤ metric.timestamp && metric.timestamp < stop)) := by
  have hheld := held_aggregated hr hinit halone kind
  have hrows : ∀ r ∈ (s.2.server.database.metrics kind).values.filter (fun r =>
      r.agentId = config.agentId && r.taskName = taskName &&
        (start ≤ r.periodStart && r.periodEnd ≤ stop)),
      r ∈ (s.2.server.database.metrics kind).values ∧ r.agentId = config.agentId ∧
        r.taskName = taskName ∧ start ≤ r.periodStart ∧ r.periodEnd ≤ stop := by
    intro r hr
    obtain ⟨hr, hcond⟩ := List.mem_filter.1 hr
    simp only [Bool.and_eq_true, decide_eq_true_eq] at hcond
    exact ⟨hr, hcond.1.1, hcond.1.2, hcond.2.1, hcond.2.2⟩
  have hkeys : ((s.2.server.database.metrics kind).values.filter (fun r =>
      r.agentId = config.agentId && r.taskName = taskName &&
        (start ≤ r.periodStart && r.periodEnd ≤ stop))).Pairwise fun r r' =>
          (r.agentId, r.taskName, r.periodStart, r.periodEnd) ≠
            (r'.agentId, r'.taskName, r'.periodStart, r'.periodEnd) :=
    (List.pairwise_map.1 ((s.2.server.database.metrics kind).nodup_map_key fun _ => rfl)).filter _
  generalize (s.2.server.database.metrics kind).values.filter _ = held at hrows hkeys ⊢
  let xs := (recordedRows kind tr).filter fun q => q.2.taskName = taskName
  have hcounts : ∀ r ∈ held, 60 ∣ r.periodStart ∧ r.periodEnd = r.periodStart + 60 ∧
      r.sampleCount.toNat ≤ xs.countP fun q =>
        r.periodStart ≤ q.2.timestamp && q.2.timestamp < r.periodStart + 60 := by
    intro r hmem
    obtain ⟨hr', hid, hname, -, -⟩ := hrows r hmem
    obtain ⟨hdvd, hend, hle⟩ := (hheld r hr' hid).counts hr
    change r.periodEnd = r.periodStart + 60 at hend
    refine ⟨hdvd, hend, ?_⟩
    show r.sampleCount.toNat ≤ ((recordedRows kind tr).filter _).countP _
    rw [← hname, ← hend]
    exact hle
  have hstarts : (held.map MetricRow.periodStart).Nodup := by
    rw [List.nodup_iff_pairwise_ne, List.pairwise_map]
    refine hkeys.imp_of_mem fun {r r'} hmem hmem' hne hsame => hne ?_
    rw [(hrows r hmem).2.1, (hrows r' hmem').2.1, (hrows r hmem).2.2.1, (hrows r' hmem').2.2.1,
      (hcounts r hmem).2.1, (hcounts r' hmem').2.1, hsame]
  calc (held.map fun r => r.sampleCount.toNat).sum
      ≤ (held.map fun r => xs.countP fun q =>
          r.periodStart ≤ q.2.timestamp && q.2.timestamp < r.periodStart + 60).sum :=
        List.sum_le_sum fun r hmem => (hcounts r hmem).2.2
    _ = ((held.map MetricRow.periodStart).map fun a => xs.countP fun q =>
          a ≤ q.2.timestamp && q.2.timestamp < a + 60).sum := by
        rw [List.map_map]
        rfl
    _ ≤ xs.countP fun q => start ≤ q.2.timestamp && q.2.timestamp < stop := by
        refine Tumbling.sum_countP_window_le (fun q => q.2.timestamp) hstarts ?_ xs
        intro a ha
        obtain ⟨r, hmem, rfl⟩ := List.mem_map.1 ha
        obtain ⟨-, -, -, hstart, hstop⟩ := hrows r hmem
        rw [(hcounts r hmem).2.1] at hstop
        exact ⟨(hcounts r hmem).1, hstart, hstop⟩
    _ = (recordedRows kind tr).countP fun q => q.2.taskName = taskName &&
          (start ≤ q.2.timestamp && q.2.timestamp < stop) := by
        rw [List.countP_filter]
        exact List.countP_congr fun q _ => by rw [Bool.and_comm]
    _ ≤ _ := (accounted_run hr).countP_le kind fun row => row.taskName = taskName &&
          (start ≤ row.timestamp && row.timestamp < stop)

end Runs

/-- The agent, with the queries of its modules. -/
def countingNetwork : Machine (Nat × Network) (Nat × NetworkAction) Unit :=
  networkMachine metricsServer exampleAgentConfig sqlSummary ⟨[taskEvery 60]⟩ 60 newServer

/-- The result of the first minute is one sample. -/
theorem counted_once_first :
    ∃ tr s, Run countingNetwork tr s ∧
      (s.2.server.database.metrics .http).values.map (fun r => (r.key, r.sampleCount)) =
        [(some ("agent1", "web", 60, 120), 1)] ∧
      (((s.2.server.database.metrics .http).values.filter fun r =>
        r.agentId = "agent1" && r.taskName = "web" &&
          (60 ≤ r.periodStart && r.periodEnd ≤ 120)).map fun r => r.sampleCount.toNat).sum ≤
      (handledMetrics tr).countP fun metric => metric.data.kind = some .http &&
        (metric.taskName = "web" && (60 ≤ metric.timestamp && metric.timestamp < 120)) := by
  obtain ⟨tr, s, he, hrun⟩ := Run.exists_of_exec countingNetwork storedAt125 (by rfl)
  have hend : (countingNetwork.exec storedAt125).map (fun r =>
      (r.2.2.server.database.metrics .http).values.map fun r => (r.key, r.sampleCount)) =
      some [(some ("agent1", "web", 60, 120), 1)] := by rfl
  have halone : ∀ t ∈ tr, ¬ Impersonates exampleAgentConfig t :=
    not_impersonates (by rw [Machine.execFrom_labels he]; rfl)
  rw [he] at hend
  refine ⟨tr, s, hrun, Option.some.inj hend, ?_⟩
  exact counted_once hrun (fun kind r hr => absurd hr List.not_mem_nil) halone .http "web" 60 120

end LinkSense
