import LinkSense.Agent.Storage

/-!
# Retention without a server

An agent in local-only mode enqueues its aggregates like any other and never sends one.  Its entries
stay `pending`, retention leaves alone the aggregates they point to, and neither cleanup of the queue
takes a pending entry.

    the entries of the queue are those of all aggregates ever enqueued       (queue_eq_enqueued)
    a complete cleanup leaves nothing older than its cutoff ↔ nothing that ended before the cutoff
    was ever enqueued                                                   (retained_iff_recent)
-/

namespace LinkSense

open Labelled Sql

/-! ## What is retained -/

/-- `cutoff_time` of `cleanup_old_data`. -/
def cutoffTime (now : Nat) (retentionDays : UInt32) : Nat := now - retentionDays.toNat * 24 * 60 * 60

/-- No raw row, no aggregate and no entry of the queue is older than the cutoff. -/
structure AgentDatabase.Retained (cutoff : Nat) (db : AgentDatabase) : Prop where
  raw : ∀ kind, ∀ r ∈ (db.raw kind).rows, cutoff ≤ r.2.timestamp
  agg : ∀ kind, ∀ r ∈ (db.agg kind).rows, cutoff ≤ r.2.periodEnd
  queue : ∀ e ∈ db.queue.rows, cutoff ≤ e.2.periodEnd

/-- The aggregate that the step enqueues. -/
def AgentStep.enqueued (t : AgentStep) : Option AggregatedMetrics :=
  match t.label.2, t.pre.2.point with
  | .enqueue, .enqueuing _ _ metric _ => some metric
  | _, _ => none

/-! ## A complete cleanup -/

namespace AgentDatabase

theorem cleanupOldData_all (db : AgentDatabase) (now : Nat) (retentionDays : UInt32) {done : Nat}
    (hdone : 18 ≤ done) : db.cleanupOldData now retentionDays done =
      (cleanupStatements (cutoffTime now retentionDays)).foldl (fun db f => f db) db := by
  unfold cleanupOldData
  dsimp only
  rw [List.take_of_length_le]
  · rfl
  · exact hdone

theorem mem_cleanupStatements {cutoff : Nat} {f : AgentDatabase → AgentDatabase}
    (hf : f ∈ cleanupStatements cutoff) :
    ∃ kind, f = cleanupRaw cutoff kind ∨ f = cleanupAgg cutoff kind := by
  obtain ⟨kind, -, hf⟩ := List.mem_flatMap.1 hf
  refine ⟨kind, ?_⟩
  simpa using hf

theorem cleanupRaw_mem (cutoff : Nat) (kind : MetricKind) :
    cleanupRaw cutoff kind ∈ cleanupStatements cutoff := by
  unfold cleanupStatements
  refine List.mem_flatMap.2 ⟨kind, ?_, by simp⟩
  cases kind <;> simp

theorem cleanupAgg_mem (cutoff : Nat) (kind : MetricKind) :
    cleanupAgg cutoff kind ∈ cleanupStatements cutoff := by
  unfold cleanupStatements
  refine List.mem_flatMap.2 ⟨kind, ?_, by simp⟩
  cases kind <;> simp

/-- A statement takes rows away. -/
theorem statement_subset {cutoff : Nat} {f : AgentDatabase → AgentDatabase}
    (hf : f ∈ cleanupStatements cutoff) (db : AgentDatabase) (kind : MetricKind) :
    (∀ r ∈ ((f db).raw kind).rows, r ∈ (db.raw kind).rows) ∧
      (∀ r ∈ ((f db).agg kind).rows, r ∈ (db.agg kind).rows) ∧ (f db).queue = db.queue := by
  obtain ⟨k, rfl | rfl⟩ := mem_cleanupStatements hf
  · refine ⟨?_, fun r hr => hr, rfl⟩
    intro r hr
    by_cases hk : kind = k
    · subst hk
      have hupd : (cleanupRaw cutoff kind db).raw kind = (db.raw kind).delete _ :=
        Function.update_self ..
      rw [hupd] at hr
      exact List.mem_of_mem_filter hr
    · have hother : (cleanupRaw cutoff k db).raw kind = db.raw kind := Function.update_of_ne hk ..
      rwa [hother] at hr
  · refine ⟨fun r hr => hr, ?_, rfl⟩
    intro r hr
    by_cases hk : kind = k
    · subst hk
      have hupd : (cleanupAgg cutoff kind db).agg kind = (db.agg kind).delete _ :=
        Function.update_self ..
      rw [hupd] at hr
      exact List.mem_of_mem_filter hr
    · have hother : (cleanupAgg cutoff k db).agg kind = db.agg kind := Function.update_of_ne hk ..
      rwa [hother] at hr

/-- **What a complete cleanup leaves**: recent raw rows, and aggregates that are recent or waited
for. -/
theorem cleanupOldData_complete (db : AgentDatabase) (now : Nat) (retentionDays : UInt32)
    {done : Nat} (hdone : 18 ≤ done) (kind : MetricKind) :
    (∀ r ∈ ((db.cleanupOldData now retentionDays done).raw kind).rows,
      cutoffTime now retentionDays ≤ r.2.timestamp) ∧
    ∀ r ∈ ((db.cleanupOldData now retentionDays done).agg kind).rows,
      cutoffTime now retentionDays ≤ r.2.periodEnd ∨ SendQueue.waitsFor db.queue kind r.1 := by
  rw [db.cleanupOldData_all now retentionDays hdone]
  generalize cutoffTime now retentionDays = cutoff
  constructor
  · refine foldl_establishes (I := fun _ => True)
      (Q := fun db : AgentDatabase => ∀ r ∈ (db.raw kind).rows, cutoff ≤ r.2.timestamp)
      (fun _ _ _ _ => trivial) ?_ ⟨_, cleanupRaw_mem cutoff kind, ?_⟩ trivial
    · intro f hf db _ hdb r hr
      exact hdb r ((statement_subset hf db kind).1 r hr)
    · intro db _ r hr
      have hupd : (cleanupRaw cutoff kind db).raw kind = (db.raw kind).delete _ :=
        Function.update_self ..
      rw [hupd, Table.rows_delete, List.mem_filter] at hr
      simpa using hr.2
  · refine foldl_establishes (I := fun d : AgentDatabase => d.queue = db.queue)
      (Q := fun d : AgentDatabase => ∀ r ∈ (d.agg kind).rows,
        cutoff ≤ r.2.periodEnd ∨ SendQueue.waitsFor db.queue kind r.1) ?_ ?_
      ⟨_, cleanupAgg_mem cutoff kind, ?_⟩ rfl
    · intro f hf d hd
      exact (statement_subset hf d kind).2.2.trans hd
    · intro f hf d _ hd r hr
      exact hd r ((statement_subset hf d kind).2.1 r hr)
    · intro d hd r hr
      have hupd : (cleanupAgg cutoff kind d).agg kind = (d.agg kind).delete _ :=
        Function.update_self ..
      rw [hupd, Table.rows_delete, List.mem_filter] at hr
      by_cases hold : r.2.periodEnd < cutoff
      · right
        have hqueued : (d.queue.values.any fun e => e.metricType = kind.queueType &&
            e.metricRowId = r.1 && e.status ≠ .sent) = true := by simpa [hold] using hr.2
        obtain ⟨e, he, hwait⟩ := List.any_eq_true.1 hqueued
        obtain ⟨x, hx, rfl⟩ := List.mem_map.1 he
        rw [hd] at hx
        simp only [Bool.and_eq_true, decide_eq_true_eq] at hwait
        exact ⟨x, hx, hwait.1.1, hwait.1.2, hwait.2⟩
      · exact .inl (Nat.le_of_not_lt hold)

end AgentDatabase

/-! ## The queue of a local agent -/

namespace SendQueue

/-- No entry has left the status it was made with. -/
def AllPending (q : SendQueue) : Prop := ∀ e ∈ q.rows, e.2.status = .pending

theorem AllPending.cleanup_rows {q : SendQueue} (hq : q.AllPending) (now : Nat)
    (sentFails failedFails : Bool) :
    (let q := if sentFails then q else cleanupSentQueueEntries q now 24
     if failedFails then q else cleanupFailedQueueEntries q now 7).rows = q.rows := by
  have hsent : (cleanupSentQueueEntries q now 24).rows = q.rows := by
    refine List.filter_eq_self.2 ?_
    intro e he
    simp [hq e he]
  have hfailed : ∀ q' : SendQueue, q'.rows = q.rows →
      (cleanupFailedQueueEntries q' now 7).rows = q.rows := by
    intro q' hq'
    show q'.rows.filter _ = q.rows
    rw [hq']
    refine List.filter_eq_self.2 ?_
    intro e he
    simp [hq e he]
  dsimp only
  by_cases hs : sentFails = true
  · rw [if_pos hs]
    split
    · rfl
    · exact hfailed q rfl
  · rw [if_neg hs]
    split
    · exact hsent
    · exact hfailed _ hsent

theorem AllPending.recover_rows {q : SendQueue} (hq : q.AllPending) (now : Nat) :
    (recoverSendingEntries q now).rows = q.rows := by
  show q.rows.map _ = q.rows
  have hid : ∀ e ∈ q.rows,
      (e.1, if e.2.status = .sending then recovered now e.2 else e.2) = e := by
    intro e he
    rw [if_neg]
    rw [hq e he]
    simp
  rw [List.map_congr_left hid, List.map_id']

end SendQueue

namespace Agent

variable {config : AgentConfig} {summary : Summary} {s s' : Agent} {now : Nat} {a : AgentAction}

/-- **Without a server** the queue only grows: nothing but the enqueuing step touches it, and no
request goes on its way. -/
theorem next_local (hlocal : config.localOnly = true)
    (hpending : SendQueue.AllPending s.db.queue) (hpoint : ∀ t b, s.point ≠ .sending t b)
    (h : s.next config summary now a = some s') :
    (∀ t b, s'.point ≠ .sending t b) ∧
      (a ≠ .enqueue → s'.db.queue.rows = s.db.queue.rows) := by
  constructor
  · -- only a fetch could send something, and it is turned off
    rcases (next_point h).1 with ⟨marked, rfl⟩ | hother
    · dsimp only [next] at h
      split at h
      · cases h
        intro t b hp
        cases hp
      · cases h
    · exact hother
  · intro ha
    have hwrites := next_writes h
    generalize s'.db = db at hwrites ⊢
    cases hwrites with
    | enqueues metric kind id => exact absurd rfl ha
    | loads _ hremote _ => simp [hlocal] at hremote
    | fetches _ hremote _ => simp [hlocal] at hremote
    | marksSent _ hp => exact absurd hp (hpoint _ _)
    | marksFailed _ hp _ _ => exact absurd hp (hpoint _ _)
    | nothing _ => rfl
    | stores metric kind _ => rfl
    | flushes failAt _ =>
      rw [(s.scheduler.flushMetricsNow_frame s.db now failAt).2]
    | handles failAt result _ =>
      rw [(s.scheduler.handleTaskResult_frame s.db now failAt result).2]
    | cleansQueue sentFails failedFails =>
      unfold TaskScheduler.cleanupSentQueueIfNeeded
      split
      · exact hpending.cleanup_rows now sentFails failedFails
      · rfl
    | cleansData done _ =>
      rw [(s.db.cleanupOldData_agg now config.localDataRetentionDays done).1]
    | recovers tasksConfig => exact hpending.recover_rows now

end Agent

section Local

variable {config : AgentConfig} {summary : Summary} {tasksConfig : TasksConfig} {t₀ : Nat}

/-- **The queue of a local agent** holds an entry for every aggregate that was ever enqueued, in
their order, and all of them are `pending`. -/
theorem queue_eq_enqueued (hlocal : config.localOnly = true) {tr : List AgentStep}
    {s : Nat × Agent} (hr : Run (agentMachine config summary tasksConfig t₀) tr s) :
    SendQueue.AllPending s.2.db.queue ∧ (∀ t b, s.2.point ≠ .sending t b) ∧
      s.2.db.queue.rows.map (·.2.periodEnd) =
        (tr.filterMap AgentStep.enqueued).map AggregatedMetrics.periodEnd := by
  induction hr with
  | nil =>
    refine ⟨?_, ?_, rfl⟩
    · intro e he
      cases he
    · intro t b hp
      cases hp
  | @snoc tr s a s' b hr hs ih =>
    obtain ⟨hpending, hpoint, hrows⟩ := ih
    obtain ⟨-, hnext, -⟩ := agentMachine_step hs
    obtain ⟨hpoint', hsame⟩ := Agent.next_local hlocal hpending hpoint hnext
    obtain ⟨now, a⟩ := a
    dsimp only at hnext hsame
    rw [List.filterMap_append, List.map_append, ← hrows]
    by_cases ha : a = .enqueue
    · subst ha
      obtain ⟨periodEnd, todo, metric, id, kind, row, hp, -, -, -, -, -, happ⟩ :=
        (queueMatches_run hr).enqueue_appends hnext
      refine ⟨?_, hpoint', ?_⟩
      · intro e he
        rw [happ, List.mem_append, List.mem_singleton] at he
        rcases he with he | rfl
        · exact hpending e he
        · rfl
      · rw [happ, List.map_append]
        have henq : AgentStep.enqueued ⟨s, (now, .enqueue), b, s'⟩ = some metric := by
          unfold AgentStep.enqueued
          dsimp only
          rw [hp]
        simp [henq, SendQueue.newEntry]
    · have hnone : AgentStep.enqueued ⟨s, (now, a), b, s'⟩ = none := by
        unfold AgentStep.enqueued
        dsimp only
        split
        · exact absurd rfl ha
        · rfl
      have hrows' := hsame ha
      refine ⟨?_, hpoint', ?_⟩
      · intro e he
        rw [hrows'] at he
        exact hpending e he
      · rw [hrows']
        simp [hnone]

/-! ## Top theorem -/

/-- **A complete cleanup of a local agent** leaves nothing that is older than its cutoff, if and only
if no aggregate that ended before the cutoff was ever enqueued. -/
theorem retained_iff_recent (hlocal : config.localOnly = true) {tr : List AgentStep}
    {s s' : Nat × Agent} {now done : Nat} {b : Unit}
    (hr : Run (agentMachine config summary tasksConfig t₀) tr s)
    (hs : (agentMachine config summary tasksConfig t₀).step s (now, .dataCleanup done) =
      some (s', b))
    (hdue : s.2.lastDataCleanup + config.dataCleanupIntervalSeconds.toNat ≤ now)
    (hdone : 18 ≤ done) :
    AgentDatabase.Retained (cutoffTime now config.localDataRetentionDays) s'.2.db ↔
      ∀ t ∈ tr, ∀ metric, AgentStep.enqueued t = some metric →
        cutoffTime now config.localDataRetentionDays ≤ metric.periodEnd := by
  obtain ⟨-, -, hrows⟩ := queue_eq_enqueued hlocal hr
  obtain ⟨-, hnext, -⟩ := agentMachine_step hs
  have hdb : s'.2.db = s.2.db.cleanupOldData now config.localDataRetentionDays done := by
    dsimp only [Agent.next] at hnext
    split at hnext
    · rw [← Option.some.inj hnext]
    · cases hnext
  have hqueue : s'.2.db.queue = s.2.db.queue := by
    rw [hdb]
    exact (s.2.db.cleanupOldData_agg now _ done).1
  have hcomplete := s.2.db.cleanupOldData_complete now config.localDataRetentionDays hdone
  generalize cutoffTime now config.localDataRetentionDays = cutoff at hcomplete ⊢
  -- the entries are those of the enqueued aggregates
  have hiff : (∀ e ∈ s'.2.db.queue.rows, cutoff ≤ e.2.periodEnd) ↔
      ∀ t ∈ tr, ∀ metric, AgentStep.enqueued t = some metric → cutoff ≤ metric.periodEnd := by
    have hentries : (∀ e ∈ s.2.db.queue.rows, cutoff ≤ e.2.periodEnd) ↔
        ∀ p ∈ s.2.db.queue.rows.map (·.2.periodEnd), cutoff ≤ p := List.forall_mem_map.symm
    have hsteps : (∀ t ∈ tr, ∀ metric, AgentStep.enqueued t = some metric →
        cutoff ≤ metric.periodEnd) ↔ ∀ p ∈ (tr.filterMap AgentStep.enqueued).map
          AggregatedMetrics.periodEnd, cutoff ≤ p := by
      rw [List.forall_mem_map]
      constructor
      · intro hall metric hm
        obtain ⟨t, ht, hm⟩ := List.mem_filterMap.1 hm
        exact hall t ht metric hm
      · intro hall t ht metric hm
        exact hall metric (List.mem_filterMap.2 ⟨t, ht, hm⟩)
    rw [hqueue, hentries, hsteps, hrows]
  rw [← hiff]
  constructor
  · intro hret
    exact hret.queue
  · intro hrecent
    refine ⟨?_, ?_, hrecent⟩
    · intro kind r hr
      rw [hdb] at hr
      exact (hcomplete kind).1 r hr
    · intro kind r hr'
      have hr'' := hr'
      rw [hdb] at hr''
      rcases (hcomplete kind).2 r hr'' with hle | ⟨e, he, htype, hid, -⟩
      · exact hle
      · -- the aggregate is kept for an entry, which is of its period
        obtain ⟨kind', htype', -, hperiod⟩ := (queueMatches_run hr).entry e he
        obtain rfl := queueType_injective (htype.symm.trans htype')
        have hget : (s.2.db.agg kind).get e.2.metricRowId = some r.2 := by
          rw [hid, Table.get_eq_some_iff]
          exact ((s.2.db.cleanupOldData_agg now _ done).2 kind).2 _ hr''
        have hsame := hperiod r.2 hget
        have hend : r.2.periodEnd = e.2.periodEnd := congrArg (fun p => p.2.2.2) hsame
        rw [hend]
        refine hrecent e ?_
        rw [hqueue]
        exact he

end Local

/-! ## A minute that stays -/

/-- The agent of the examples, without a server. -/
def localAgentConfig : AgentConfig :=
  { exampleAgentConfig with localOnly := true, localDataRetentionDays := 1 }

/-- The minute of the first row is aggregated at 125, and the agent wakes up again at `now`. -/
def localUntil (now : Nat) : List (Nat × AgentAction) :=
  firstMinute (taskEvery 60) ++ wokenAt 125 ++ [(125, .enqueue), (125, .aggregationDone)] ++
    restOfIteration 125 ++ wokenAt now ++ [(now, .aggregationDone), (now, .flush none),
      (now, .queueCleanup false false), (now, .fetch true)]

def localMachine : Machine (Nat × Agent) (Nat × AgentAction) Unit :=
  agentMachine localAgentConfig exampleSummary ⟨[taskEvery 60]⟩ 60

/-- What such a run has enqueued, and leaves in the queue when it is cleaned up at its end. -/
theorem localUntil_cleanup (now : Nat) (enqueued periods : List Nat)
    (h : ((localMachine.exec (localUntil now)).bind fun r =>
      (localMachine.step r.2 (now, .dataCleanup 18)).map fun q =>
        (r.2.2.lastDataCleanup, (r.1.filterMap AgentStep.enqueued).map AggregatedMetrics.periodEnd,
          q.1.2.db.queue.rows.map (·.2.periodEnd))) = some (0, enqueued, periods)) :
    ∃ tr s s', Run localMachine tr s ∧
      localMachine.step s (now, .dataCleanup 18) = some (s', ()) ∧ s.2.lastDataCleanup = 0 ∧
      (tr.filterMap AgentStep.enqueued).map AggregatedMetrics.periodEnd = enqueued ∧
      s'.2.db.queue.rows.map (·.2.periodEnd) = periods := by
  obtain ⟨⟨tr, s⟩, he, h⟩ := Option.bind_eq_some_iff.1 h
  obtain ⟨⟨s', b⟩, hs, hq⟩ := Option.map_eq_some_iff.1 h
  obtain ⟨hlast, hrest⟩ := Prod.mk.inj hq
  obtain ⟨henqueued, hperiods⟩ := Prod.mk.inj hrest
  exact ⟨tr, s, s', .of_exec he, hs, hlast, henqueued, hperiods⟩

/-- A day and a minute after the start, the minute that was enqueued is recent. -/
theorem retained_iff_recent_nextDay :
    ∃ tr s s', Run localMachine tr s ∧
      localMachine.step s (86460, .dataCleanup 18) = some (s', ()) ∧
      s'.2.db.queue.rows.map (·.2.periodEnd) = [120] ∧
      AgentDatabase.Retained (cutoffTime 86460 1) s'.2.db := by
  obtain ⟨tr, s, s', hr, hs, hlast, henqueued, hperiods⟩ :=
    localUntil_cleanup 86460 [120] [120] (by rfl)
  have hdue : s.2.lastDataCleanup + localAgentConfig.dataCleanupIntervalSeconds.toNat ≤ 86460 := by
    rw [hlast]
    decide
  have hlocal : localAgentConfig.localOnly = true := by rfl
  refine ⟨tr, s, s', hr, hs, hperiods,
    (retained_iff_recent hlocal hr hs hdue (le_refl 18)).2 fun t ht metric hmetric => ?_⟩
  have hmem : metric.periodEnd ∈
      (tr.filterMap AgentStep.enqueued).map AggregatedMetrics.periodEnd :=
    List.mem_map_of_mem (List.mem_filterMap.2 ⟨t, ht, hmetric⟩)
  rw [henqueued, List.mem_singleton] at hmem
  rw [hmem]
  decide

/-- Two minutes later it is not, and it stays. -/
theorem not_retained_nextDay :
    localAgentConfig.validate exampleExternals = .ok () ∧
    ∃ tr s s', Run localMachine tr s ∧
      localMachine.step s (86600, .dataCleanup 18) = some (s', ()) ∧
      ¬ AgentDatabase.Retained (cutoffTime 86600 1) s'.2.db := by
  refine ⟨by rfl, ?_⟩
  obtain ⟨tr, s, s', hr, hs, -, -, hperiods⟩ := localUntil_cleanup 86600 [120] [120] (by rfl)
  refine ⟨tr, s, s', hr, hs, ?_⟩
  intro hret
  have hmem : 120 ∈ s'.2.db.queue.rows.map (·.2.periodEnd) := by
    rw [hperiods]
    exact List.mem_singleton.2 rfl
  obtain ⟨e, he, hend⟩ := List.mem_map.1 hmem
  have hle := hret.queue e he
  have hcutoff : cutoffTime 86600 1 = 200 := by rfl
  omega

end LinkSense
