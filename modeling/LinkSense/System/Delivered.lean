import LinkSense.Agent.Attempts
import LinkSense.Server.Retention
import LinkSense.System.Accounting

/-!
# What the server holds of an agent

Agent and server with lost answers, kills and restarts.  An entry of the agent's queue becomes
`sent` in one way only, and what the server holds of an agent comes from one place only.

    an entry is sent → the server accepted a request with its aggregate, and has the row of it
      unless a cleanup was due to delete it                                   (sent_acknowledged)
    the server has a row of the agent → a pass of the agent's loop made it of the raw rows that
      the task had in that minute                                                (held_aggregated)
-/

namespace LinkSense

open Labelled Sql

/-! ## Rows of the server -/

namespace ServerDatabase

/-- The tables of metrics keep their rows, and gain rows of the agent only. -/
def Gains (agentId : String) (db db' : ServerDatabase) : Prop :=
  ∀ kind, ∃ added, (db'.metrics kind).values = (db.metrics kind).values ++ added ∧
    ∀ r ∈ added, r.agentId = agentId

theorem Gains.of_metrics_eq {db db' : ServerDatabase} (agentId : String)
    (h : db'.metrics = db.metrics) : db.Gains agentId db' := by
  intro kind
  refine ⟨[], ?_, fun r hr => absurd hr List.not_mem_nil⟩
  rw [h, List.append_nil]

/-- A statement of a cleanup adds no row, and deletes a metric only if it ended before the
cutoff. -/
theorem mem_cleanupStatement {cutoffTime : Nat} {statement : ServerDatabase → ServerDatabase}
    (h : statement ∈ cleanupStatements cutoffTime) (db : ServerDatabase) (kind : MetricKind)
    (r : MetricRow) :
    (r ∈ ((statement db).metrics kind).values → r ∈ (db.metrics kind).values) ∧
      (r ∈ (db.metrics kind).values → ¬ i64Column r.periodEnd < (cutoffTime : Int) →
        r ∈ ((statement db).metrics kind).values) := by
  have hsame : (statement db).metrics = db.metrics →
      (r ∈ ((statement db).metrics kind).values → r ∈ (db.metrics kind).values) ∧
        (r ∈ (db.metrics kind).values → ¬ i64Column r.periodEnd < (cutoffTime : Int) →
          r ∈ ((statement db).metrics kind).values) := by
    intro heq
    rw [heq]
    exact ⟨fun hr => hr, fun hr _ => hr⟩
  unfold cleanupStatements at h
  rcases List.mem_append.1 h with hmetrics | hrest
  · obtain ⟨k, -, rfl⟩ := List.mem_map.1 hmetrics
    unfold cleanupMetrics
    dsimp only
    by_cases hk : kind = k
    · subst hk
      rw [Function.update_self, Table.mem_values_delete_iff]
      exact ⟨And.left, fun hr hlate => ⟨hr, decide_eq_false hlate⟩⟩
    · rw [Function.update_of_ne hk]
      exact ⟨fun hr => hr, fun hr _ => hr⟩
  · rcases List.mem_cons.1 hrest with rfl | hrest
    · exact hsame rfl
    · rw [List.mem_singleton] at hrest
      refine hsame ?_
      rw [hrest]
      exact cleanupAgents_metrics _ _

theorem cleanupOldData_keeps {db : ServerDatabase} {kind : MetricKind} {r : MetricRow}
    (hr : r ∈ (db.metrics kind).values) (now : Nat) (retentionDays : UInt32) (done : Nat)
    (hlate : ¬ i64Column r.periodEnd < (retentionCutoff now retentionDays : Int)) :
    r ∈ ((db.cleanupOldData now retentionDays done).metrics kind).values := by
  unfold cleanupOldData
  refine foldl_keeps (Q := fun db : ServerDatabase => r ∈ (db.metrics kind).values) ?_ hr
  intro statement hstatement db hr
  exact (mem_cleanupStatement (List.mem_of_mem_take hstatement) db kind r).2 hr hlate

theorem mem_of_cleanupOldData {db : ServerDatabase} {kind : MetricKind} {r : MetricRow} {now : Nat}
    {retentionDays : UInt32} {done : Nat}
    (hr : r ∈ ((db.cleanupOldData now retentionDays done).metrics kind).values) :
    r ∈ (db.metrics kind).values := by
  revert hr
  unfold cleanupOldData
  refine foldl_keeps (Q := fun db' : ServerDatabase =>
    r ∈ (db'.metrics kind).values → r ∈ (db.metrics kind).values) ?_ fun hr => hr
  intro statement hstatement db' hsub hr
  exact hsub ((mem_cleanupStatement (List.mem_of_mem_take hstatement) db' kind r).1 hr)

end ServerDatabase

section Requests

variable {server : Server} {m : Moment} {s s' : ServerState}

/-- An accepted batch is stored, and a refused one leaves no row. -/
theorem handleMetrics_rows {headers : HeaderMap} {request : MetricsRequest}
    {r : Except ApiError MetricsResponse}
    (h : handleMetrics server m headers request s = some (r, s')) :
    (∃ response, r = .ok response ∧ ∀ kind, (s'.database.metrics kind).values =
      (s.database.metrics kind).values ++
        ServerDatabase.rowsOf kind m.time request.agentId request.metrics) ∨
    ∃ e, r = .error e ∧ s'.database.metrics = s.database.metrics := by
  rw [← submit_noFaults] at h
  cases submit_outcome h with
  | unrecorded e _ hdb => exact .inr ⟨e, rfl, by rw [hdb]⟩
  | unstored e _ _ _ hdb =>
    refine .inr ⟨e, rfl, ?_⟩
    rw [hdb]
    exact metrics_upsertAgent _ _ _ _ _
  | stored response _ _ _ hdb =>
    refine .inl ⟨response, rfl, fun kind => ?_⟩
    rw [ServerDatabase.storeMetrics_values hdb kind]
    unfold Submission.recorded
    rw [metrics_upsertAgent]

/-- A request of another kind leaves the metrics alone. -/
theorem handle_metrics_eq {request : Request} {r : Except ApiError Response}
    (hother : ∀ body, request.payload ≠ .metrics body)
    (h : handle server m request s = some (r, s')) : s'.database.metrics = s.database.metrics := by
  let Q : ServerState → Prop := fun t => t.database.metrics = s.database.metrics
  suffices hkeeps : (handle server m request).Keeps Q from hkeeps _ _ _ rfl h
  refine handle_keeps server m ?_ ?_ ?_ ?_ (fun _ _ hQ => hQ)
    fun body hbody => absurd hbody (hother body)
  · intro s₁ r s₂ hQ h
    rw [limitRate_frame h]
    exact hQ
  · intro s₁ r s₂ hQ h
    cases h
    exact hQ
  · intro content _ s₁ r s₂ hQ h
    unfold saveUpload at h
    repeat' split at h
    all_goals
      cases h
      exact hQ
  · intro s₁ db timestamp errorMessage hQ hlog
    unfold ServerDatabase.logConfigError at hlog
    split at hlog
    · rw [← Except.ok.inj hlog]
      exact hQ
    · cases hlog

theorem handleMetrics_gains {headers : HeaderMap} {request : MetricsRequest}
    {r : Except ApiError MetricsResponse}
    (h : handleMetrics server m headers request s = some (r, s')) :
    s.database.Gains request.agentId s'.database := by
  rcases handleMetrics_rows h with ⟨response, -, hrows⟩ | ⟨e, -, hsame⟩
  · refine fun kind => ⟨_, hrows kind, fun r hr => ?_⟩
    obtain ⟨metric, -, rfl⟩ := List.mem_map.1 hr
    rfl
  · exact .of_metrics_eq _ hsame

/-- **Whatever the request**, rows of metrics stay, and those that come are of the agent that it
names. -/
theorem handle_gains {request : Request} {r : Except ApiError Response}
    (h : handle server m request s = some (r, s')) :
    s.database.Gains request.payload.agentId s'.database := by
  by_cases hmetrics : ∃ body, request.payload = .metrics body
  · obtain ⟨body, hbody⟩ := hmetrics
    unfold handle at h
    rw [hbody] at h ⊢
    dsimp only at h
    unfold Handler.map at h
    rcases Handler.andThen_cases h with ⟨e, h, -⟩ | ⟨response, s₁, h, hanswer⟩
    · exact handleMetrics_gains h
    · cases hanswer
      exact handleMetrics_gains h
  · exact .of_metrics_eq _ (handle_metrics_eq (fun body hbody => hmetrics ⟨body, hbody⟩) h)

end Requests

/-! ## Steps of the agent -/

/-- The columns of the aggregate are what the raw rows of its window come to, of which there are
some. -/
structure AggRow.Summarises (summary : Summary) (db : AgentDatabase) (kind : MetricKind)
    (r : AggRow) : Prop where
  nonempty : db.window kind r.taskName r.periodStart r.periodEnd ≠ []
  sampleCount : r.sampleCount = summary.sampleCount kind
    ((db.window kind r.taskName r.periodStart r.periodEnd).map Prod.snd)
  data : r.data = summary.data kind
    ((db.window kind r.taskName r.periodStart r.periodEnd).map Prod.snd)

/-- A pass is at a task, and its step makes this aggregate of the minute before. -/
structure Agent.Aggregates (summary : Summary) (s : Agent) (a : AgentAction) (kind : MetricKind)
    (r : AggRow) : Prop where
  action : a = .aggregate
  task : ∃ task todo, s.point = .aggregating r.periodEnd (task :: todo) ∧ r.taskName = task.name ∧
    kind = task.taskType.kind
  minute : r.periodStart = r.periodEnd - 60
  summarises : r.Summarises summary s.db kind

/-- The metric that is loaded from an aggregate. -/
def AggRow.metric (r : AggRow) (kind : MetricKind) : AggregatedMetrics :=
  ⟨r.taskName, kind.taskType, r.periodStart, r.periodEnd, r.sampleCount, r.data⟩

namespace Agent

variable {config : AgentConfig} {summary : Summary} {s s' : Agent} {now : Nat} {a : AgentAction}

/-- Aggregates come from passes only. -/
theorem next_agg (h : s.next config summary now a = some s') {kind : MetricKind} {r : AggRow}
    (hr : r ∈ (s'.db.agg kind).values) :
    r ∈ (s.db.agg kind).values ∨ s.Aggregates summary a kind r := by
  by_cases ha : a = .aggregate
  · subst ha
    dsimp only [next] at h
    split at h
    · next periodEnd task todo hp =>
      split at h
      · cases h
        exact .inl hr
      · next metric hmetric =>
        unfold AgentDatabase.generateAggregatedMetrics at hmetric
        dsimp only at hmetric
        split at hmetric
        · cases hmetric
        · next hrows =>
          obtain rfl := Option.some.inj hmetric
          unfold AgentDatabase.storeAggregatedMetric at h
          rw [summary.kind_data] at h
          obtain rfl := Option.some.inj h
          dsimp only at hr
          by_cases hk : kind = task.taskType.kind
          · subst hk
            rw [Function.update_self] at hr
            obtain ⟨e, he, rfl⟩ := List.mem_map.1 hr
            rcases (Table.mem_rows_insertOrReplace_iff _ _ _).1 he with ⟨hold, -⟩ | rfl
            · exact .inl (List.mem_map_of_mem hold)
            · right
              refine ⟨rfl, ⟨task, todo, hp, rfl, rfl⟩, rfl, fun hnil => hrows ?_, rfl, rfl⟩
              exact List.map_eq_nil_iff.2 hnil
          · rw [Function.update_of_ne hk] at hr
            exact .inl hr
    · cases h
  · left
    have hwrites := next_writes h
    generalize s'.db = db at hwrites hr
    cases hwrites with
    | nothing _ => exact hr
    | flushes failAt _ =>
      rw [(s.scheduler.flushMetricsNow_frame s.db now failAt).1] at hr
      exact hr
    | handles failAt result _ =>
      rw [(s.scheduler.handleTaskResult_frame s.db now failAt result).1] at hr
      exact hr
    | stores metric kind _ => exact absurd rfl ha
    | enqueues metric kind id => exact hr
    | cleansQueue sentFails failedFails =>
      obtain ⟨-, -, hagg, -⟩ :=
        s.scheduler.cleanupSentQueueIfNeeded_frame s.db now sentFails failedFails
      rw [hagg] at hr
      exact hr
    | loads _ _ n =>
      rw [(s.db.loadSomeEntries_frame now _ n).2] at hr
      exact hr
    | fetches marked _ _ =>
      have hagg : (s.db.getQueuedMetrics now config.metricsBatchSize.toNat).1.agg = s.db.agg :=
        (s.db.getQueuedMetrics_frame now _).2
      dsimp only at hr
      rw [hagg] at hr
      exact hr
    | marksSent _ _ => exact hr
    | marksFailed _ _ _ _ => exact hr
    | cleansData done _ =>
      obtain ⟨e, he, rfl⟩ := List.mem_map.1 hr
      have hold := ((s.db.cleanupOldData_agg now config.localDataRetentionDays done).2 kind).2 e he
      exact List.mem_map_of_mem hold
    | recovers tasksConfig => exact hr

/-- What is fetched for an entry is its aggregate. -/
theorem next_fetch_batch (hM : QueueMatches s) {marked : Bool} {t : Nat}
    {batch : List (Nat × AggregatedMetrics)}
    (h : s.next config summary now (.fetch marked) = some s') (hp : s'.point = .sending t batch) :
    ∀ p ∈ batch, ∃ kind r, r ∈ (s.db.agg kind).values ∧ p.2 = r.metric kind ∧
      ∀ e ∈ s'.db.queue.rows, e.1 = p.1 → e.2.period = r.period kind := by
  have hstep := next_queueStep h nofun
  rcases next_fetch_cases h with ⟨hp', -⟩ | ⟨batch', hbatch, hp', -⟩
  · rw [hp] at hp'
    cases hp'
  · rw [hp] at hp'
    obtain ⟨-, rfl⟩ := Point.sending.inj hp'
    intro p hpb
    rw [AgentDatabase.getQueuedMetrics_of_ok hbatch] at hbatch
    obtain ⟨entry, kind, hmem, hk, hload⟩ := s.db.loadEntries_batch _ hbatch p hpb
    unfold AgentDatabase.loadAggregatedMetric at hload
    obtain ⟨r, hr, hpr⟩ := Option.map_eq_some_iff.1 hload
    have hrow := ((s.db.agg kind).get_eq_some_iff _ _).1 hr
    refine ⟨kind, r, List.mem_map_of_mem hrow, hpr.symm, ?_⟩
    intro e he hid
    obtain ⟨e₀, he₀, hid₀, hsame, -⟩ := hstep.queue e he
    -- the entry is the one that was loaded
    obtain rfl : e₀ = (p.1, entry) := s.db.queue.id_injective he₀
      (SendQueue.mem_readyEntries hmem).1 (hid₀.trans hid)
    obtain ⟨k, hkt, -, hperiod⟩ := hM.entry _ he₀
    dsimp only at hkt hperiod
    rw [hkt, kindOfQueueType_queueType] at hk
    obtain rfl := Option.some.inj hk
    rw [QueueMatches.period_of_same hsame]
    exact (hperiod r hr).symm

/-- An entry becomes `sent` with its batch, when the server has accepted that. -/
theorem next_sent (hM : QueueMatches s) (h : s.next config summary now a = some s')
    {e' : Nat × QueueRow} (he' : e' ∈ s'.db.queue.rows) (hsent : e'.2.status = .sent) :
    ∃ e ∈ s.db.queue.rows, e.1 = e'.1 ∧ e'.2.period = e.2.period ∧
      (e.2.status = .sent ∨ e.1 ∈ s.point.batchIds ∧
        ∃ status marked failing, a = .reply (.ok status) marked failing) := by
  by_cases ha : a = .enqueue
  · subst ha
    obtain ⟨_, _, _, _, _, _, -, -, -, -, -, -, hrows⟩ := hM.enqueue_appends h
    rw [hrows, List.mem_append, List.mem_singleton] at he'
    rcases he' with he' | rfl
    · exact ⟨e', he', rfl, rfl, .inl hsent⟩
    · cases hsent
  · obtain ⟨e, he, hid, hsame, hst⟩ := (next_queueStep h ha).queue e' he'
    refine ⟨e, he, hid, QueueMatches.period_of_same hsame, ?_⟩
    rcases hst with hst | ⟨-, hlive⟩ | hmem
    · exact .inl (hst.symm.trans hsent)
    · rw [hsent] at hlive
      cases hlive
    · obtain ⟨t, batch, hp⟩ : ∃ t batch, s.point = .sending t batch := by
        by_contra hno
        rw [Point.batchIds_of_not_sending fun t b hb => hno ⟨t, b, hb⟩] at hmem
        cases hmem
      -- any other way to settle the batch writes no `sent`
      have hkept : ∀ {R : Nat → QueueStatus → QueueStatus → Prop},
          SendQueue.Evolves R s.db.queue s'.db.queue →
          (∀ id st, R id st .sent → st = .sent) → e.2.status = .sent := by
        intro R hq hR
        obtain ⟨e₀, he₀, hid₀, -, hst₀⟩ := hq e' he'
        obtain rfl := s.db.queue.id_injective he₀ he (hid₀.trans hid.symm)
        rw [hsent] at hst₀
        exact hR _ _ hst₀
      rcases next_of_sending h hp with ⟨outcome, marked, failing, rfl⟩ | ⟨e₁, n, rfl⟩ |
        ⟨tasksConfig, rfl⟩ | rfl
      · cases outcome with
        | ok status => exact .inr ⟨hmem, status, marked, failing, rfl⟩
        | error e₁ =>
          left
          simp only [next, hp] at h
          obtain rfl := Option.some.inj h
          exact hkept (SendQueue.evolves_markAllAsFailed s.db.queue now e₁ _ _) (by simp)
      · left
        simp only [next, hp] at h
        obtain rfl := Option.some.inj h
        exact hkept (SendQueue.evolves_markAllAsFailed s.db.queue now e₁ _ _) (by simp)
      · left
        obtain rfl := Option.some.inj h
        exact hkept (SendQueue.evolves_recoverSendingEntries s.db.queue now) (by simp)
      · left
        obtain rfl := Option.some.inj h
        exact hkept (R := fun _ st st' => st' = st) (.of_subset fun e he => he)
          fun _ _ h => h.symm

end Agent

/-! ## What a run has made -/

/-- A step of the run made the aggregate. -/
def AggregatedIn (summary : Summary) (tr : List NetworkStep) (kind : MetricKind) (r : AggRow) :
    Prop :=
  ∃ t ∈ tr, ∃ checksum a, t.label.2 = .agent checksum a ∧
    t.pre.2.agent.Aggregates summary a kind r

/-- The step is a cleanup of the server that deletes what ended then. -/
def Expires (t : NetworkStep) (periodEnd : Nat) : Prop :=
  ∃ time retentionDays done, t.label.2 = .serverCleanup time retentionDays done ∧
    i64Column periodEnd < (ServerDatabase.retentionCutoff time retentionDays : Int)

/-- The server has the row, unless a step of the run was due to delete it. -/
def StoredOrExpired (tr : List NetworkStep) (s : Network) (kind : MetricKind) (r : MetricRow) :
    Prop :=
  r ∈ (s.server.database.metrics kind).values ∨ ∃ t ∈ tr, Expires t r.periodEnd

/-- The server accepted a request with the entry's aggregate, and has stored it. -/
def Acknowledged (config : AgentConfig) (tr : List NetworkStep) (s : Network)
    (e : Nat × QueueRow) : Prop :=
  ∃ d ∈ s.deliveries, ∃ response metric kind receivedAt, d.answer = some (.ok response) ∧
    (e.1, metric) ∈ d.queueIds.zip d.request.metrics ∧ metric.data.kind = some kind ∧
    metric.period kind = e.2.period ∧
    StoredOrExpired tr s kind (ServerDatabase.metricRow receivedAt config.agentId metric)

/-- The aggregate that a row of the server is of. -/
def MetricRow.aggregate (r : MetricRow) : AggRow :=
  ⟨r.taskName, r.periodStart, r.periodEnd, r.sampleCount, r.data⟩

/-- The step is a submission of metrics under the agent's id by somebody else. -/
def Impersonates (config : AgentConfig) (t : NetworkStep) : Prop :=
  ∃ m request body, t.label.2 = .other m request ∧ request.payload = .metrics body ∧
    body.agentId = config.agentId

section History

variable {summary : Summary} {tr : List NetworkStep} {x : NetworkStep}

theorem AggregatedIn.snoc {kind : MetricKind} {r : AggRow} (h : AggregatedIn summary tr kind r) :
    AggregatedIn summary (tr ++ [x]) kind r := by
  obtain ⟨t, ht, hmade⟩ := h
  exact ⟨t, List.mem_append_left _ ht, hmade⟩

theorem AggregatedIn.kind_data {kind : MetricKind} {r : AggRow}
    (h : AggregatedIn summary tr kind r) : r.data.kind = some kind := by
  obtain ⟨t, -, checksum, a, -, hmade⟩ := h
  rw [hmade.summarises.data]
  exact summary.kind_data _ _

/-- What was stored stays, or the step was due to delete it. -/
theorem StoredOrExpired.snoc {s s' : Network} {kind : MetricKind} {r : MetricRow}
    (h : StoredOrExpired tr s kind r)
    (hrows : ∀ r ∈ (s.server.database.metrics kind).values,
      r ∈ (s'.server.database.metrics kind).values ∨ Expires x r.periodEnd) :
    StoredOrExpired (tr ++ [x]) s' kind r := by
  rcases h with hr | ⟨t, ht, hexp⟩
  · rcases hrows r hr with hr | hexp
    · exact .inl hr
    · exact .inr ⟨x, by simp, hexp⟩
  · exact .inr ⟨t, List.mem_append_left _ ht, hexp⟩

end History

/-! ## The invariant -/

/-- A request is the agent's, and its metrics are aggregates of the run. -/
structure Delivery.Traced (config : AgentConfig) (summary : Summary) (tr : List NetworkStep)
    (d : Delivery) : Prop where
  agentId : d.request.agentId = config.agentId
  metrics : ∀ metric ∈ d.request.metrics, ∃ kind r, AggregatedIn summary tr kind r ∧
    metric = r.metric kind

/-- The batch that is on its way is the last request, and each metric of it is that of its entry. -/
structure Network.BatchTraced (summary : Summary) (tr : List NetworkStep) (s : Network)
    (batch : List (Nat × AggregatedMetrics)) : Prop where
  last : ∃ d, s.deliveries.getLast? = some d ∧ d.queueIds = batch.map Prod.fst ∧
    d.request.metrics = batch.map Prod.snd
  entry : ∀ p ∈ batch, ∃ kind r, AggregatedIn summary tr kind r ∧ p.2 = r.metric kind ∧
    ∀ e ∈ s.agent.db.queue.rows, e.1 = p.1 → e.2.period = r.period kind

/-- All that is on record goes back to a step of the run. -/
structure Network.Traced (config : AgentConfig) (summary : Summary) (tr : List NetworkStep)
    (s : Network) : Prop where
  queue : QueueMatches s.agent
  aggregates : ∀ kind, ∀ r ∈ (s.agent.db.agg kind).values, AggregatedIn summary tr kind r
  deliveries : ∀ d ∈ s.deliveries, d.Traced config summary tr
  batch : ∀ t batch, s.agent.point = .sending t batch → s.BatchTraced summary tr batch
  accepted : ∀ d ∈ s.deliveries, ∀ response, d.answer = some (.ok response) →
    ∀ metric ∈ d.request.metrics, ∀ kind, metric.data.kind = some kind → ∃ receivedAt,
      StoredOrExpired tr s kind (ServerDatabase.metricRow receivedAt config.agentId metric)
  sent : ∀ e ∈ s.agent.db.queue.rows, e.2.status = .sent → Acknowledged config tr s e

theorem Delivery.Traced.snoc {config : AgentConfig} {summary : Summary} {tr : List NetworkStep}
    {x : NetworkStep} {d : Delivery} (h : d.Traced config summary tr) :
    d.Traced config summary (tr ++ [x]) where
  agentId := h.agentId
  metrics := by
    intro metric hmetric
    obtain ⟨kind, r, hmade, heq⟩ := h.metrics metric hmetric
    exact ⟨kind, r, hmade.snoc, heq⟩

namespace Network

variable {server : Server} {config : AgentConfig} {summary : Summary} {s s' : Network} {now : Nat}
  {tr : List NetworkStep} {x : NetworkStep}

/-- An acknowledged entry stays so while answered requests stay, and what was stored. -/
theorem acknowledged_snoc {e e' : Nat × QueueRow} (h : Acknowledged config tr s e)
    (hid : e'.1 = e.1) (hperiod : e'.2.period = e.2.period)
    (hanswered : ∀ d ∈ s.deliveries, d.answer ≠ none → d ∈ s'.deliveries)
    (hrows : ∀ kind, ∀ r ∈ (s.server.database.metrics kind).values,
      r ∈ (s'.server.database.metrics kind).values ∨ Expires x r.periodEnd) :
    Acknowledged config (tr ++ [x]) s' e' := by
  obtain ⟨d, hd, response, metric, kind, receivedAt, hok, hmem, hkind, hper, hstored⟩ := h
  refine ⟨d, hanswered d hd (by rw [hok]; nofun), response, metric, kind, receivedAt, hok, ?_,
    hkind, hper.trans hperiod.symm, hstored.snoc (hrows kind)⟩
  rwa [hid]

/-- The server changes, and nothing else does. -/
theorem Traced.of_server (hI : s.Traced config summary tr) (hagent : s'.agent = s.agent)
    (hdeliveries : s'.deliveries = s.deliveries)
    (hrows : ∀ kind, ∀ r ∈ (s.server.database.metrics kind).values,
      r ∈ (s'.server.database.metrics kind).values ∨ Expires x r.periodEnd) :
    s'.Traced config summary (tr ++ [x]) where
  queue := by
    rw [hagent]
    exact hI.queue
  aggregates := by
    rw [hagent]
    exact fun kind r hr => (hI.aggregates kind r hr).snoc
  deliveries := by
    rw [hdeliveries]
    exact fun d hd => (hI.deliveries d hd).snoc
  batch := by
    intro t batch hp
    rw [hagent] at hp
    obtain ⟨hlast, hentry⟩ := hI.batch t batch hp
    refine ⟨by rwa [hdeliveries], fun p hpb => ?_⟩
    obtain ⟨kind, r, hmade, heq, hper⟩ := hentry p hpb
    rw [hagent]
    exact ⟨kind, r, hmade.snoc, heq, hper⟩
  accepted := by
    intro d hd response hok metric hmetric kind hkind
    rw [hdeliveries] at hd
    obtain ⟨receivedAt, hstored⟩ := hI.accepted d hd response hok metric hmetric kind hkind
    exact ⟨receivedAt, hstored.snoc (hrows kind)⟩
  sent := by
    intro e he hsent
    rw [hagent] at he
    refine acknowledged_snoc (hI.sent e he hsent) rfl rfl (fun d hd _ => ?_) hrows
    rwa [hdeliveries]

/-- A request reaches the server. -/
theorem Traced.deliver (hI : s.Traced config summary tr) {m : Moment} {i : Nat}
    (h : s.next server config summary now (.deliver m i) = some s') :
    s'.Traced config summary (tr ++ [x]) := by
  -- only a request that has no answer is delivered
  have hnone : ∀ d, s.deliveries[i]? = some d → d.answer = none := by
    intro d hd
    dsimp only [next] at h
    rw [hd] at h
    obtain ⟨queueIds, request, answer, redelivered⟩ := d
    cases answer with
    | none => rfl
    | some answer => cases h
  obtain ⟨d, answer, state, hd, hanswer, rfl⟩ := next_deliver h
  have hlt : i < s.deliveries.length := (List.getElem?_eq_some_iff.1 hd).1
  have hdmem : d ∈ s.deliveries := List.mem_of_getElem? hd
  obtain ⟨hdid, hdmetrics⟩ := hI.deliveries d hdmem
  have hrows : ∀ kind, ∀ r ∈ (s.server.database.metrics kind).values,
      r ∈ (state.database.metrics kind).values ∨ Expires x r.periodEnd := by
    intro kind r hr
    obtain ⟨added, hvalues, -⟩ := handleMetrics_gains hanswer kind
    rw [hvalues]
    exact .inl (List.mem_append_left _ hr)
  have hanswered : ∀ e ∈ s.deliveries, e.answer ≠ none →
      e ∈ s.deliveries.set i ⟨d.queueIds, d.request, some answer,
        admitted server m config.headers d.request s.server &&
          s.server.database.holdsSome d.request⟩ := by
    intro e he hsome
    obtain ⟨j, hj⟩ := List.mem_iff_getElem?.1 he
    have hij : i ≠ j := by
      rintro rfl
      exact hsome (hnone e hj)
    refine List.mem_of_getElem? (i := j) ?_
    rw [List.getElem?_set_ne hij, hj]
  constructor
  · exact hI.queue
  · exact fun kind r hr => (hI.aggregates kind r hr).snoc
  · intro e he
    rcases List.mem_or_eq_of_mem_set he with he | rfl
    · exact (hI.deliveries e he).snoc
    · exact ⟨hdid, ((hI.deliveries d hdmem).snoc (x := x)).metrics⟩
  · intro t batch hp
    obtain ⟨⟨last, hlast, hids, hmetrics⟩, hentry⟩ := hI.batch t batch hp
    constructor
    · -- the last request may be the one that is delivered
      have hmap : ∀ f : Delivery → List Nat × MetricsRequest,
          (∀ e : Delivery, f e = (e.queueIds, e.request)) →
          (s.deliveries.set i ⟨d.queueIds, d.request, some answer,
            admitted server m config.headers d.request s.server &&
              s.server.database.holdsSome d.request⟩).map f = s.deliveries.map f := by
        intro f hf
        rw [List.map_set, hf]
        have hi : (s.deliveries.map f)[i]? = some (d.queueIds, d.request) := by
          rw [List.getElem?_map, hd, Option.map_some, hf]
        obtain ⟨hlt', hget⟩ := List.getElem?_eq_some_iff.1 hi
        rw [← hget]
        exact List.set_getElem_self hlt'
      have hlast' := congrArg List.getLast? (hmap (fun e => (e.queueIds, e.request)) fun _ => rfl)
      rw [List.getLast?_map, List.getLast?_map, hlast] at hlast'
      obtain ⟨last', hlast'', heq⟩ := Option.map_eq_some_iff.1 hlast'
      obtain ⟨hids', hreq'⟩ := Prod.mk.inj heq
      refine ⟨last', hlast'', hids'.trans hids, ?_⟩
      rw [hreq']
      exact hmetrics
    · intro p hpb
      obtain ⟨kind, r, hmade, heq, hper⟩ := hentry p hpb
      exact ⟨kind, r, hmade.snoc, heq, hper⟩
  · intro e he response hok metric hmetric kind hkind
    rcases List.mem_or_eq_of_mem_set he with he | rfl
    · obtain ⟨receivedAt, hstored⟩ := hI.accepted e he response hok metric hmetric kind hkind
      exact ⟨receivedAt, hstored.snoc (hrows kind)⟩
    · dsimp only at hok hmetric
      obtain rfl := Option.some.inj hok
      rcases handleMetrics_rows hanswer with ⟨response', -, hvalues⟩ | ⟨e, he, -⟩
      · refine ⟨m.time, .inl ?_⟩
        dsimp only
        rw [hvalues kind, ← hdid]
        refine List.mem_append_right _ (List.mem_map_of_mem (List.mem_filter.2 ⟨hmetric, ?_⟩))
        rw [hkind, BEq.rfl]
      · cases he
  · intro e he hsent
    exact acknowledged_snoc (hI.sent e he hsent) rfl rfl hanswered hrows

/-- A step of the agent. -/
theorem Traced.agent (hI : s.Traced config summary tr) {checksum : String} {a : AgentAction}
    (hpre : x.pre.2 = s) (hlabel : x.label.2 = .agent checksum a)
    (h : s.next server config summary now (.agent checksum a) = some s') :
    s'.Traced config summary (tr ++ [x]) := by
  have hanswers : s.answers a = true := by
    dsimp only [next] at h
    split at h
    · assumption
    · cases h
  obtain ⟨hagent, hserver, hsends⟩ := next_agent h
  have hkept : ∀ d ∈ s.deliveries, d ∈ s'.deliveries := by
    intro d hd
    rw [hsends]
    exact List.mem_append_left _ hd
  have hrows : ∀ kind, ∀ r ∈ (s.server.database.metrics kind).values,
      r ∈ (s'.server.database.metrics kind).values ∨ Expires x r.periodEnd := by
    intro kind r hr
    rw [hserver]
    exact .inl hr
  have hagg : ∀ kind, ∀ r ∈ (s'.agent.db.agg kind).values,
      AggregatedIn summary (tr ++ [x]) kind r := by
    intro kind r hr
    rcases Agent.next_agg hagent hr with hold | hmade
    · exact (hI.aggregates kind r hold).snoc
    · refine ⟨x, by simp, checksum, a, hlabel, ?_⟩
      rw [hpre]
      exact hmade
  -- what a fetched batch has
  have hfetched : ∀ t batch, s'.agent.point = .sending t batch → (∃ marked, a = .fetch marked) ∧
      ∀ p ∈ batch, ∃ kind r, AggregatedIn summary (tr ++ [x]) kind r ∧ p.2 = r.metric kind ∧
        ∀ e ∈ s'.agent.db.queue.rows, e.1 = p.1 → e.2.period = r.period kind := by
    intro t batch hp
    rcases (Agent.next_point hagent).1 with ⟨marked, rfl⟩ | hno
    · refine ⟨⟨marked, rfl⟩, fun p hpb => ?_⟩
      obtain ⟨kind, r, hr, heq, hper⟩ := Agent.next_fetch_batch hI.queue hagent hp p hpb
      exact ⟨kind, r, (hI.aggregates kind r hr).snoc, heq, hper⟩
    · exact absurd hp (hno t batch)
  -- the new request, if there is one
  have hnew : ∀ d ∈ config.sends checksum now a s'.agent.point, ∃ t batch,
      s'.agent.point = .sending t batch ∧ d.queueIds = batch.map Prod.fst ∧
      d.request.agentId = config.agentId ∧ d.request.metrics = batch.map Prod.snd ∧
      d.answer = none := by
    intro d hd
    unfold AgentConfig.sends at hd
    split at hd
    · next t batch hp =>
      rw [List.mem_singleton] at hd
      subst hd
      exact ⟨t, batch, hp, rfl, rfl, rfl, rfl⟩
    · cases hd
  constructor
  · by_cases ha : a = .enqueue
    · rw [ha] at hagent
      exact (hI.queue.enqueue hagent).1
    · exact hI.queue.step hagent ha
  · exact hagg
  · intro d hd
    rw [hsends] at hd
    rcases List.mem_append.1 hd with hd | hd
    · exact (hI.deliveries d hd).snoc
    · obtain ⟨t, batch, hp, -, hid, hmetrics, -⟩ := hnew d hd
      refine ⟨hid, fun metric hmetric => ?_⟩
      rw [hmetrics] at hmetric
      obtain ⟨p, hpb, rfl⟩ := List.mem_map.1 hmetric
      obtain ⟨kind, r, hmade, heq, -⟩ := (hfetched t batch hp).2 p hpb
      exact ⟨kind, r, hmade, heq⟩
  · intro t batch hp
    obtain ⟨⟨marked, rfl⟩, hentry⟩ := hfetched t batch hp
    refine ⟨?_, hentry⟩
    rw [hsends, hp]
    refine ⟨_, List.getLast?_concat, rfl, rfl⟩
  · intro d hd response hok metric hmetric kind hkind
    rw [hsends] at hd
    rcases List.mem_append.1 hd with hd | hd
    · obtain ⟨receivedAt, hstored⟩ := hI.accepted d hd response hok metric hmetric kind hkind
      exact ⟨receivedAt, hstored.snoc (hrows kind)⟩
    · obtain ⟨-, -, -, -, -, -, hnone⟩ := hnew d hd
      rw [hok] at hnone
      cases hnone
  · intro e' he' hsent
    obtain ⟨e, he, hid, hperiod, hcase⟩ := Agent.next_sent hI.queue hagent he' hsent
    rcases hcase with hsent₀ | ⟨hmem, status, marked, failing, rfl⟩
    · exact acknowledged_snoc (hI.sent e he hsent₀) hid.symm hperiod (fun d hd _ => hkept d hd) hrows
    · -- the server has accepted the batch, which is the last request
      obtain ⟨t, batch, hp⟩ : ∃ t batch, s.agent.point = .sending t batch := by
        by_contra hno
        rw [Point.batchIds_of_not_sending fun t b hb => hno ⟨t, b, hb⟩] at hmem
        cases hmem
      rw [hp] at hmem
      obtain ⟨p, hpb, hpid⟩ := List.mem_map.1 hmem
      obtain ⟨⟨d, hlast, hids, hmetrics⟩, hentry⟩ := hI.batch t batch hp
      obtain ⟨kind, r, hmade, heq, hper⟩ := hentry p hpb
      have hd : d ∈ s.deliveries := List.mem_of_getLast? hlast
      obtain ⟨response, hok⟩ : ∃ response, d.answer = some (.ok response) := by
        dsimp only [answers] at hanswers
        rw [hlast] at hanswers
        split at hanswers
        · next heq => exact ⟨_, congrArg Delivery.answer (Option.some.inj heq)⟩
        · cases hanswers
      have hkind : p.2.data.kind = some kind := by
        rw [heq]
        exact hmade.kind_data
      have hmetric : p.2 ∈ d.request.metrics := by
        rw [hmetrics]
        exact List.mem_map_of_mem hpb
      obtain ⟨receivedAt, hstored⟩ := hI.accepted d hd response hok p.2 hmetric kind hkind
      have hack : Acknowledged config tr s e := by
        refine ⟨d, hd, response, p.2, kind, receivedAt, hok, ?_, hkind, ?_, hstored⟩
        · rw [hids, hmetrics, List.zip_map', ← hpid]
          exact List.mem_map.2 ⟨p, hpb, rfl⟩
        · rw [hper e he hpid.symm, heq]
          rfl
      exact acknowledged_snoc hack hid.symm hperiod (fun d hd _ => hkept d hd) hrows

/-- Every step. -/
theorem Traced.step (hI : s.Traced config summary tr) (hpre : x.pre.2 = s)
    (h : s.next server config summary now x.label.2 = some s') :
    s'.Traced config summary (tr ++ [x]) := by
  cases ha : x.label.2 with
  | agent checksum a =>
    rw [ha] at h
    exact hI.agent hpre ha h
  | deliver m i =>
    rw [ha] at h
    exact hI.deliver h
  | other m request =>
    rw [ha] at h
    dsimp only [next] at h
    split at h
    · cases h
    · next r state hr =>
      obtain rfl := Option.some.inj h
      refine hI.of_server rfl rfl fun kind r hr' => ?_
      obtain ⟨added, hvalues, -⟩ := handle_gains hr kind
      rw [hvalues]
      exact .inl (List.mem_append_left _ hr')
  | serverCleanup time retentionDays done =>
    rw [ha] at h
    obtain rfl := Option.some.inj h
    refine hI.of_server rfl rfl fun kind r hr => ?_
    by_cases hexp : i64Column r.periodEnd <
        (ServerDatabase.retentionCutoff time retentionDays : Int)
    · exact .inr ⟨time, retentionDays, done, ha, hexp⟩
    · exact .inl (ServerDatabase.cleanupOldData_keeps hr time retentionDays done hexp)
  | serverRestart =>
    rw [ha] at h
    obtain rfl := Option.some.inj h
    exact hI.of_server rfl rfl fun kind r hr => .inl hr
  | edit agentId content =>
    rw [ha] at h
    obtain rfl := Option.some.inj h
    exact hI.of_server rfl rfl fun kind r hr => .inl hr
  | notice agentId =>
    rw [ha] at h
    obtain rfl := Option.some.inj h
    exact hI.of_server rfl rfl fun kind r hr => .inl hr

end Network

/-! ## Results -/

section Results

variable {server : Server} {config : AgentConfig} {summary : Summary} {tasksConfig : TasksConfig}
  {t₀ : Nat} {state : ServerState} {tr : List NetworkStep} {s : Nat × Network}

/-- The invariant holds in every state of every run. -/
theorem traced_run
    (hr : Run (networkMachine server config summary tasksConfig t₀ state) tr s) :
    s.2.Traced config summary tr := by
  induction hr with
  | nil =>
    refine ⟨queueMatches_start, ?_, ?_, ?_, ?_, ?_⟩
    · intro kind r hr
      cases hr
    · intro d hd
      cases hd
    · intro t batch hp
      cases hp
    · intro d hd
      cases hd
    · intro e he
      cases he
  | snoc _ hs ih => exact ih.step rfl (networkMachine_step hs)

/-- **What was sent was stored.**  In every state of every run, an entry that is `sent` was in a
request that the server accepted, with the aggregate of its period; and the server has the row of
it, unless a cleanup was due to delete that. -/
theorem sent_acknowledged
    (hr : Run (networkMachine server config summary tasksConfig t₀ state) tr s) :
    ∀ e ∈ s.2.agent.db.queue.rows, e.2.status = .sent → Acknowledged config tr s.2 e :=
  (traced_run hr).sent

/-- **Nothing is invented.**  Where nobody else submits metrics under the agent's id, each row that
the server has of it is an aggregate that a pass of the agent's loop made: the task was one of the
pass, the period is the minute before, and the columns are what the raw rows of the task in that
minute came to. -/
theorem held_aggregated
    (hr : Run (networkMachine server config summary tasksConfig t₀ state) tr s)
    (hinit : ∀ kind, ∀ r ∈ (state.database.metrics kind).values, r.agentId ≠ config.agentId)
    (halone : ∀ t ∈ tr, ¬ Impersonates config t) :
    ∀ kind, ∀ r ∈ (s.2.server.database.metrics kind).values, r.agentId = config.agentId →
      AggregatedIn summary tr kind r.aggregate := by
  induction hr with
  | nil =>
    intro kind r hr hid
    exact absurd hid (hinit kind r hr)
  | @snoc tr s a s' b hr hs ih =>
    have hheld := ih fun t ht => halone t (List.mem_append_left _ ht)
    have hnext := networkMachine_step hs
    have hlast := halone ⟨s, a, b, s'⟩ (by simp)
    obtain ⟨now, a⟩ := a
    intro kind r hr' hid
    dsimp only at hnext
    cases a with
    | agent checksum a =>
      rw [(Network.next_agent hnext).2.1] at hr'
      exact (hheld kind r hr' hid).snoc
    | deliver m i =>
      obtain ⟨d, answer, state', hd, hanswer, hs'⟩ := Network.next_deliver hnext
      rw [hs'] at hr'
      rcases handleMetrics_rows hanswer with ⟨response, -, hvalues⟩ | ⟨e, -, hsame⟩
      · dsimp only at hr'
        rw [hvalues kind] at hr'
        rcases List.mem_append.1 hr' with hold | hnew
        · exact (hheld kind r hold hid).snoc
        · obtain ⟨metric, hmetric, rfl⟩ := List.mem_map.1 hnew
          obtain ⟨hmetric, hkind⟩ := List.mem_filter.1 hmetric
          obtain ⟨k, row, hmade, rfl⟩ :=
            ((traced_run hr).deliveries d (List.mem_of_getElem? hd)).metrics metric hmetric
          have hk : some k = some kind := hmade.kind_data.symm.trans (beq_iff_eq.1 hkind)
          obtain rfl := Option.some.inj hk
          exact hmade.snoc
      · dsimp only at hr'
        rw [hsame] at hr'
        exact (hheld kind r hr' hid).snoc
    | other m request =>
      dsimp only [Network.next] at hnext
      split at hnext
      · cases hnext
      · next answer state' hanswer =>
        rw [← Option.some.inj hnext] at hr'
        dsimp only at hr'
        by_cases hmetrics : ∃ body, request.payload = .metrics body
        · obtain ⟨body, hbody⟩ := hmetrics
          have hne : request.payload.agentId ≠ config.agentId := by
            rw [hbody]
            exact fun he => hlast ⟨m, request, body, rfl, hbody, he⟩
          have hgain := handle_gains hanswer
          obtain ⟨added, hvalues, hadded⟩ := hgain kind
          rw [hvalues] at hr'
          rcases List.mem_append.1 hr' with hold | hnew
          · exact (hheld kind r hold hid).snoc
          · exact absurd ((hadded r hnew).symm.trans hid) hne
        · rw [handle_metrics_eq (fun body hbody => hmetrics ⟨body, hbody⟩) hanswer] at hr'
          exact (hheld kind r hr' hid).snoc
    | serverCleanup time retentionDays done =>
      rw [← Option.some.inj hnext] at hr'
      exact (hheld kind r (ServerDatabase.mem_of_cleanupOldData hr') hid).snoc
    | serverRestart =>
      rw [← Option.some.inj hnext] at hr'
      exact (hheld kind r hr' hid).snoc
    | edit agentId content =>
      rw [← Option.some.inj hnext] at hr'
      exact (hheld kind r hr' hid).snoc
    | notice agentId =>
      rw [← Option.some.inj hnext] at hr'
      exact (hheld kind r hr' hid).snoc

end Results

/-! ## The first minute -/

/-- The minute of the first row is stored, and the agent gets the answer. -/
def sentAt126 : List (Nat × NetworkAction) :=
  storedAt125 ++ byAgent [(126, .reply (.ok .stale) true [])]

theorem sent_acknowledged_first :
    ∃ tr s e, Run exampleNetwork tr s ∧ e ∈ s.2.agent.db.queue.rows ∧ e.2.status = .sent ∧
      e.2.period = ("http", "web", 60, 120) ∧ Acknowledged exampleAgentConfig tr s.2 e := by
  obtain ⟨tr, s, he, hrun⟩ := Run.exists_of_exec exampleNetwork sentAt126 (by rfl)
  have hend : (exampleNetwork.exec sentAt126).map (fun r =>
      (r.2.2.agent.db.queue.rows.head?.map fun e => (e.2.status, e.2.period))) =
      some (some (.sent, ("http", "web", 60, 120))) := by rfl
  rw [he] at hend
  obtain ⟨e, hhead, heq⟩ := Option.map_eq_some_iff.1 (Option.some.inj hend)
  obtain ⟨hsent, hperiod⟩ := Prod.mk.inj heq
  have hmem := List.mem_of_head? hhead
  exact ⟨tr, s, e, hrun, hmem, hsent, hperiod, sent_acknowledged hrun e hmem hsent⟩

/-- A request from elsewhere. -/
def NetworkAction.isOther : NetworkAction → Bool
  | .other _ _ => true
  | _ => false

theorem not_impersonates {config : AgentConfig} {tr : List NetworkStep}
    (h : (tr.map Taken.label).all (fun a => !a.2.isOther) = true) :
    ∀ t ∈ tr, ¬ Impersonates config t := by
  rintro t ht ⟨m, request, body, hlabel, -⟩
  have := List.all_eq_true.1 h t.label (List.mem_map_of_mem ht)
  rw [hlabel] at this
  cases this

theorem held_aggregated_first :
    ∃ tr s r, Run exampleNetwork tr s ∧ r ∈ (s.2.server.database.metrics .http).values ∧
      r.key = some ("agent1", "web", 60, 120) ∧
      AggregatedIn exampleSummary tr .http r.aggregate := by
  obtain ⟨tr, s, he, hrun⟩ := Run.exists_of_exec exampleNetwork storedAt125 (by rfl)
  have hend : (exampleNetwork.exec storedAt125).map (fun r =>
      ((r.2.2.server.database.metrics .http).values.head?.map MetricRow.key)) =
      some (some (some ("agent1", "web", 60, 120))) := by rfl
  have halone : ∀ t ∈ tr, ¬ Impersonates exampleAgentConfig t :=
    not_impersonates (by rw [Machine.execFrom_labels he]; rfl)
  rw [he] at hend
  obtain ⟨r, hhead, hkey⟩ := Option.map_eq_some_iff.1 (Option.some.inj hend)
  have hmem := List.mem_of_head? hhead
  have hid : r.agentId = exampleAgentConfig.agentId := congrArg Prod.fst (Option.some.inj hkey)
  refine ⟨tr, s, r, hrun, hmem, hkey, ?_⟩
  exact held_aggregated hrun (fun kind r hr => absurd hr List.not_mem_nil) halone .http r hmem hid

end LinkSense
