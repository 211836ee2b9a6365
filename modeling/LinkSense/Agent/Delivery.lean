import LinkSense.Agent.Aggregation

/-!
# Delivery of aggregates

How often a period of a task reaches the status `sent`.  An entry of the queue is known by the id
of its aggregate, and aggregating a period again replaces the aggregate under a new id: the old
entry is then dead, but a new one is made, even where the old one was sent before.

    in every state of a run each period has at most one entry that was sent or can be ↔
      no step of it enqueues a period of which an entry was sent       (oncePerPeriod_iff_unsent)
-/

namespace LinkSense

open Labelled Sql

/-! ## Periods -/

/-- Type of metric, task, start and end. -/
abbrev PeriodKey := String × String × Nat × Nat

def QueueRow.period (r : QueueRow) : PeriodKey :=
  (r.metricType, r.taskName, r.periodStart, r.periodEnd)

def AggRow.period (r : AggRow) (kind : MetricKind) : PeriodKey :=
  (kind.queueType, r.taskName, r.periodStart, r.periodEnd)

def AggregatedMetrics.period (metric : AggregatedMetrics) (kind : MetricKind) : PeriodKey :=
  (kind.queueType, metric.taskName, metric.periodStart, metric.periodEnd)

namespace AgentDatabase

/-- The entry will be sent, and its aggregate is there. -/
def delivers (db : AgentDatabase) (r : QueueRow) : Bool :=
  r.status.live && (kindOfQueueType r.metricType).any fun kind =>
    (db.loadAggregatedMetric kind r.metricRowId).isSome

/-- The periods of the entries that can still be delivered. -/
def deliverable (db : AgentDatabase) : List PeriodKey :=
  (db.queue.rows.filter fun e => db.delivers e.2).map (·.2.period)

end AgentDatabase

/-- The entry was not `sent` before. -/
def SendQueue.unsentBefore (q : SendQueue) (e : Nat × QueueRow) : Bool :=
  !(q.rows.any fun d => d.1 == e.1 && d.2.status == .sent)

/-- The periods of the entries that have become `sent`. -/
def SendQueue.newlySent (q q' : SendQueue) : List PeriodKey :=
  (q'.rows.filter fun e => e.2.status == .sent && q.unsentBefore e).map (·.2.period)

/-- The agent with the periods of all entries that have ever become `sent`. -/
def deliveryMachine (config : AgentConfig) (summary : Summary) (tasksConfig : TasksConfig)
    (t₀ : Nat) : Machine ((Nat × Agent) × List PeriodKey) (Nat × AgentAction) Unit :=
  (agentMachine config summary tasksConfig t₀).ghost [] fun sent t =>
    sent ++ SendQueue.newlySent t.pre.2.db.queue t.post.2.db.queue

/-- Of every period at most one entry was sent or can still be delivered. -/
def OncePerPeriod (s : (Nat × Agent) × List PeriodKey) : Prop :=
  ∀ key, s.2.count key + s.1.2.db.deliverable.count key ≤ 1

/-- An aggregate that is enqueued is of a period of which no entry was sent. -/
def EnqueuesUnsent (s : (Nat × Agent) × List PeriodKey) (a : Nat × AgentAction) : Prop :=
  ∀ periodEnd todo metric id, s.1.2.point = .enqueuing periodEnd todo metric id →
    a.2 = .enqueue → ∀ kind, metric.data.kind = some kind → metric.period kind ∉ s.2

/-! ## Counting -/

namespace AgentDatabase

theorem delivers_iff (db : AgentDatabase) (r : QueueRow) :
    db.delivers r = true ↔ r.status.live = true ∧ ∃ kind row,
      kindOfQueueType r.metricType = some kind ∧ (db.agg kind).get r.metricRowId = some row := by
  unfold delivers loadAggregatedMetric
  rw [Bool.and_eq_true]
  refine and_congr_right fun _ => ?_
  simp only [Option.isSome_map, Option.any_eq_true]
  constructor
  · rintro ⟨kind, hk, hrow⟩
    obtain ⟨row, hrow⟩ := Option.isSome_iff_exists.1 hrow
    exact ⟨kind, row, hk, hrow⟩
  · rintro ⟨kind, row, hk, hrow⟩
    exact ⟨kind, hk, Option.isSome_iff_exists.2 ⟨row, hrow⟩⟩

end AgentDatabase

/-- Counting a key among the rows that satisfy `p`. -/
theorem count_map_filter {α κ : Type*} [BEq κ] (l : List α) (p : α → Bool) (f : α → κ)
    (key : κ) :
    ((l.filter p).map f).count key = (l.filter fun x => p x && f x == key).length := by
  rw [List.count_eq_countP, List.countP_map, List.countP_filter, List.countP_eq_length_filter]
  refine congrArg (fun q => (l.filter q).length) (funext fun x => ?_)
  show (f x == key && p x) = (p x && f x == key)
  rw [Bool.and_comm]

theorem SendQueue.unsentBefore_iff {q : SendQueue} {e e' : Nat × QueueRow} (he : e ∈ q.rows)
    (hid : e.1 = e'.1) : q.unsentBefore e' = true ↔ e.2.status ≠ .sent := by
  unfold SendQueue.unsentBefore
  rw [Bool.not_eq_true', List.any_eq_false]
  constructor
  · intro h hs
    refine h e he ?_
    simp [hid, hs]
  · intro h d hd hds
    simp only [Bool.and_eq_true, beq_iff_eq] at hds
    have : d = e := q.id_injective hd he (hds.1.trans hid.symm)
    rw [this] at hds
    exact h hds.2

/-- Where every entry that becomes sent or can be delivered could be delivered before, no period
gains an entry. -/
theorem count_newlySent_add_le {db db' : AgentDatabase}
    (h : ∀ e' ∈ db'.queue.rows,
      (e'.2.status = .sent ∧ SendQueue.unsentBefore db.queue e' = true) ∨
        db'.delivers e'.2 = true →
      ∃ e ∈ db.queue.rows, e.1 = e'.1 ∧ e.2.period = e'.2.period ∧ db.delivers e.2 = true)
    (key : PeriodKey) :
    (SendQueue.newlySent db.queue db'.queue).count key + db'.deliverable.count key ≤
      db.deliverable.count key := by
  unfold SendQueue.newlySent AgentDatabase.deliverable
  simp only [count_map_filter]
  generalize hA : db'.queue.rows.filter _ = sent
  generalize hB : db'.queue.rows.filter _ = later
  have hsent : ∀ e ∈ sent, e ∈ db'.queue.rows ∧ (e.2.status = .sent ∧
      SendQueue.unsentBefore db.queue e = true) ∧ e.2.period = key := by
    intro e he
    rw [← hA, List.mem_filter] at he
    simpa [and_assoc] using he
  have hlater : ∀ e ∈ later, e ∈ db'.queue.rows ∧ db'.delivers e.2 = true ∧
      e.2.period = key := by
    intro e he
    rw [← hB, List.mem_filter] at he
    simpa [and_assoc] using he
  -- both lists have distinct ids, and an entry that was sent is not delivered again
  have hnodup : ((sent ++ later).map Prod.fst).Nodup := by
    rw [List.map_append, List.nodup_append]
    refine ⟨?_, ?_, ?_⟩
    · rw [← hA]
      exact db'.queue.ids_nodup.sublist (List.filter_sublist.map _)
    · rw [← hB]
      exact db'.queue.ids_nodup.sublist (List.filter_sublist.map _)
    · intro i hi j hj hij
      obtain ⟨e, he, rfl⟩ := List.mem_map.1 hi
      obtain ⟨d, hd, rfl⟩ := List.mem_map.1 hj
      obtain ⟨he', ⟨hs, -⟩, -⟩ := hsent e he
      obtain ⟨hd', hdel, -⟩ := hlater d hd
      obtain rfl := db'.queue.id_injective he' hd' hij
      have hlive := ((db'.delivers_iff _).1 hdel).1
      rw [hs] at hlive
      cases hlive
  have hsub : (sent ++ later).map Prod.fst ⊆
      (db.queue.rows.filter fun e => db.delivers e.2 && e.2.period == key).map Prod.fst := by
    intro i hi
    obtain ⟨e', he', rfl⟩ := List.mem_map.1 hi
    have hcase : e' ∈ db'.queue.rows ∧ ((e'.2.status = .sent ∧
        SendQueue.unsentBefore db.queue e' = true) ∨ db'.delivers e'.2 = true) ∧
        e'.2.period = key := by
      rcases List.mem_append.1 he' with he' | he'
      · obtain ⟨h1, h2, h3⟩ := hsent e' he'
        exact ⟨h1, .inl h2, h3⟩
      · obtain ⟨h1, h2, h3⟩ := hlater e' he'
        exact ⟨h1, .inr h2, h3⟩
    obtain ⟨hmem, hc, hkey⟩ := hcase
    obtain ⟨e, he, hid, hperiod, hdel⟩ := h e' hmem hc
    refine List.mem_map.2 ⟨e, List.mem_filter.2 ⟨he, ?_⟩, hid⟩
    simp [hdel, hperiod, hkey]
  have hle := (List.subperm_of_subset hnodup hsub).length_le
  rw [List.length_map, List.length_map, List.length_append] at hle
  exact hle

/-! ## What a step does to queue and aggregates -/

/-- The entries of the request that is on its way. -/
def Point.batchIds : Point → List Nat
  | .sending _ batch => batch.map Prod.fst
  | _ => []

theorem Point.batchIds_of_not_sending {p : Point} (h : ∀ t b, p ≠ .sending t b) :
    p.batchIds = [] := by
  cases p with
  | sending currentTime batch => exact absurd rfl (h currentTime batch)
  | _ => rfl

/-- Entries keep their status, or go on being live, or are settled with their batch; aggregates
are deleted, or stored under new ids. -/
structure QueueStep (s s' : Agent) : Prop where
  queue : SendQueue.Evolves (fun id status status' => status' = status ∨
    (status.live = true ∧ status'.live = true) ∨ id ∈ s.point.batchIds) s.db.queue s'.db.queue
  agg : ∀ kind id row, (s'.db.agg kind).get id = some row → id < (s.db.agg kind).nextId →
    (s.db.agg kind).get id = some row
  nextId : ∀ kind, (s.db.agg kind).nextId ≤ (s'.db.agg kind).nextId

theorem QueueStep.of_agg_eq {s s' : Agent} (hagg : s'.db.agg = s.db.agg)
    {R : Nat → QueueStatus → QueueStatus → Prop} (hq : SendQueue.Evolves R s.db.queue s'.db.queue)
    (hR : ∀ id st st', R id st st' →
      st' = st ∨ (st.live = true ∧ st'.live = true) ∨ id ∈ s.point.batchIds) :
    QueueStep s s' where
  queue := hq.mono hR
  agg := by
    intro kind id row h _
    rwa [hagg] at h
  nextId := by
    intro kind
    rw [hagg]

/-- A step that touches neither. -/
theorem QueueStep.of_frame {s s' : Agent} (h : s'.db.agg = s.db.agg ∧ s'.db.queue = s.db.queue) :
    QueueStep s s' := by
  refine .of_agg_eq h.1 (R := fun _ st st' => st' = st) (.of_subset fun e he => ?_)
    fun _ _ _ h => .inl h
  rwa [h.2] at he

namespace TaskScheduler

theorem flushMetricsNow_frame (s : TaskScheduler) (db : AgentDatabase) (now : Nat)
    (failAt : Option Nat) : (s.flushMetricsNow db now failAt).2.1.agg = db.agg ∧
      (s.flushMetricsNow db now failAt).2.1.queue = db.queue := by
  rw [s.flushMetricsNow_db]
  exact db.storeSome_frame failAt _

theorem handleTaskResult_frame (s : TaskScheduler) (db : AgentDatabase) (now : Nat)
    (failAt : Option Nat) (result : TaskResult) :
    (s.handleTaskResult db now failAt result).2.agg = db.agg ∧
      (s.handleTaskResult db now failAt result).2.queue = db.queue := by
  rcases s.handleTaskResult_db db now failAt result with ⟨hdb, -⟩ | ⟨metrics, hdb, -⟩
  · rw [hdb]
    exact ⟨rfl, rfl⟩
  · rw [hdb]
    exact db.storeSome_frame failAt metrics

end TaskScheduler

namespace AgentDatabase

/-- Cleanup deletes aggregates, and leaves the queue alone. -/
theorem cleanupOldData_agg (db : AgentDatabase) (now : Nat) (retentionDays : UInt32) (done : Nat) :
    (db.cleanupOldData now retentionDays done).queue = db.queue ∧
      ∀ kind, ((db.cleanupOldData now retentionDays done).agg kind).nextId =
          (db.agg kind).nextId ∧
        ∀ r ∈ ((db.cleanupOldData now retentionDays done).agg kind).rows,
          r ∈ (db.agg kind).rows := by
  refine cleanupOldData_induction (R := fun db db' => db'.queue = db.queue ∧
    ∀ kind, (db'.agg kind).nextId = (db.agg kind).nextId ∧
      ∀ r ∈ (db'.agg kind).rows, r ∈ (db.agg kind).rows) ?_ ?_ now retentionDays ?_ ?_ db done
  · intro db
    exact ⟨rfl, fun kind => ⟨rfl, fun r hr => hr⟩⟩
  · rintro db db₁ db₂ ⟨hqueue, hagg⟩ ⟨hqueue', hagg'⟩
    refine ⟨hqueue'.trans hqueue, ?_⟩
    intro kind
    obtain ⟨hnext, hrows⟩ := hagg kind
    obtain ⟨hnext', hrows'⟩ := hagg' kind
    exact ⟨hnext'.trans hnext, fun r hr => hrows r (hrows' r hr)⟩
  · intro k db
    exact ⟨rfl, fun kind => ⟨rfl, fun r hr => hr⟩⟩
  · intro k db
    refine ⟨rfl, ?_⟩
    intro kind
    by_cases hkind : kind = k
    · subst hkind
      have hupd : (cleanupAgg (now - retentionDays.toNat * 24 * 60 * 60) kind db).agg kind =
          (db.agg kind).delete _ := Function.update_self ..
      rw [hupd]
      exact ⟨rfl, fun r hr => List.mem_of_mem_filter hr⟩
    · have hother : (cleanupAgg (now - retentionDays.toNat * 24 * 60 * 60) k db).agg kind =
          db.agg kind := Function.update_of_ne hkind ..
      rw [hother]
      exact ⟨rfl, fun r hr => hr⟩

theorem loadEntries_queue (db : AgentDatabase) (entries : List (Nat × QueueRow)) :
    ∀ e ∈ (db.loadEntries entries).1.queue.rows, e ∈ db.queue.rows := by
  induction entries generalizing db with
  | nil =>
    intro e he
    exact he
  | cons entry entries ih =>
    unfold loadEntries
    split
    · intro e he
      exact he
    · split
      · intro e he
        have hrest := ih _ e he
        exact List.mem_of_mem_filter hrest
      · have hrest := ih db
        split
        · next he =>
          rw [he] at hrest
          exact hrest
        · next he =>
          rw [he] at hrest
          exact hrest

theorem loadSomeEntries_queue (db : AgentDatabase) (now batchSize n : Nat) :
    ∀ e ∈ (db.loadSomeEntries now batchSize n).queue.rows, e ∈ db.queue.rows := by
  obtain ⟨m, hm⟩ := db.loadSomeEntries_eq now batchSize n
  rw [hm]
  exact db.loadEntries_queue _

theorem getQueuedMetrics_queue (db : AgentDatabase) (now batchSize : Nat) :
    ∀ e ∈ (db.getQueuedMetrics now batchSize).1.queue.rows, e ∈ db.queue.rows := by
  rw [db.getQueuedMetrics_fst]
  exact db.loadSomeEntries_queue now batchSize _

/-- What is loaded belongs to one of the entries. -/
theorem loadEntries_batch (db : AgentDatabase) (entries : List (Nat × QueueRow))
    {batch : List (Nat × AggregatedMetrics)} (h : (db.loadEntries entries).2 = .ok batch) :
    ∀ p ∈ batch, ∃ entry kind, (p.1, entry) ∈ entries ∧
      kindOfQueueType entry.metricType = some kind ∧
      db.loadAggregatedMetric kind entry.metricRowId = some p.2 := by
  induction entries generalizing db batch with
  | nil =>
    obtain rfl := Except.ok.inj h
    simp
  | cons e entries ih =>
    obtain ⟨id, entry⟩ := e
    unfold loadEntries at h
    cases hk : kindOfQueueType entry.metricType with
    | none =>
      rw [hk] at h
      cases h
    | some kind =>
      rw [hk] at h
      dsimp only at h
      cases hl : db.loadAggregatedMetric kind entry.metricRowId with
      | none =>
        rw [hl] at h
        intro p hp
        obtain ⟨entry', kind', hmem, hrest⟩ := ih _ h p hp
        exact ⟨entry', kind', List.mem_cons_of_mem _ hmem, hrest⟩
      | some metric =>
        rw [hl] at h
        dsimp only at h
        split at h
        · cases h
        · next db' metrics he =>
          obtain rfl := Except.ok.inj h
          intro p hp
          rcases List.mem_cons.1 hp with rfl | hp
          · exact ⟨entry, kind, List.mem_cons_self, hk, hl⟩
          · have hrest : (db.loadEntries entries).2 = .ok metrics := by rw [he]
            obtain ⟨entry', kind', hmem, hrest⟩ := ih db hrest p hp
            exact ⟨entry', kind', List.mem_cons_of_mem _ hmem, hrest⟩

end AgentDatabase

namespace Agent

variable {config : AgentConfig} {summary : Summary} {s s' : Agent} {now : Nat}

/-- What is fetched was pending, and its aggregate is there. -/
theorem pending_of_fetched {batch : List (Nat × AggregatedMetrics)}
    (h : (s.db.getQueuedMetrics now config.metricsBatchSize.toNat).2 = .ok batch)
    {e : Nat × QueueRow} (he : e ∈ s.db.queue.rows) (hid : e.1 ∈ batch.map Prod.fst) :
    e.2.status = .pending ∧ ∃ kind row, kindOfQueueType e.2.metricType = some kind ∧
      (s.db.agg kind).get e.2.metricRowId = some row := by
  obtain ⟨p, hp, hpe⟩ := List.mem_map.1 hid
  rw [AgentDatabase.getQueuedMetrics_of_ok h] at h
  obtain ⟨entry, kind, hmem, hk, hload⟩ := s.db.loadEntries_batch _ h p hp
  obtain ⟨hmem, hst⟩ := SendQueue.mem_readyEntries hmem
  have hentry : (p.1, entry) = e := s.db.queue.id_injective hmem he hpe
  subst hentry
  unfold AgentDatabase.loadAggregatedMetric at hload
  obtain ⟨row, hrow, -⟩ := Option.map_eq_some_iff.1 hload
  exact ⟨hst, kind, row, hk, hrow⟩

/-- A fetched batch is of entries that can be delivered, and they stay so. -/
theorem next_fetch {marked : Bool} (h : s.next config summary now (.fetch marked) = some s') :
    s'.db.agg = s.db.agg ∧
      SendQueue.Evolves (fun _ st st' => st' = st ∨ (st.live = true ∧ st'.live = true))
        s.db.queue s'.db.queue ∧
      ∀ e ∈ s'.db.queue.rows, e.1 ∈ s'.point.batchIds → s'.db.delivers e.2 = true := by
  have hagg : (s.db.getQueuedMetrics now config.metricsBatchSize.toNat).1.agg = s.db.agg :=
    (s.db.getQueuedMetrics_frame now _).2
  have hqueue : ∀ e ∈ (s.db.getQueuedMetrics now config.metricsBatchSize.toNat).1.queue.rows,
      e ∈ s.db.queue.rows := s.db.getQueuedMetrics_queue now _
  have hsub : ∀ db : AgentDatabase, (∀ e ∈ db.queue.rows, e ∈ s.db.queue.rows) →
      SendQueue.Evolves (fun _ st st' => st' = st ∨ (st.live = true ∧ st'.live = true))
        s.db.queue db.queue := by
    intro db hdb
    exact (SendQueue.Evolves.of_subset hdb).mono fun _ _ _ h => .inl h
  rcases next_fetch_cases h with ⟨hp, hdb | hdb⟩ | ⟨batch, hbatch, hp, hdb⟩
  · rw [hp, hdb]
    refine ⟨rfl, hsub _ fun e he => he, ?_⟩
    intro e _ hid
    cases hid
  · rw [hp, hdb]
    refine ⟨hagg, hsub _ hqueue, ?_⟩
    intro e _ hid
    cases hid
  · rw [hp, hdb]
    refine ⟨hagg, ?_⟩
    dsimp only
    cases marked with
    | false =>
      refine ⟨hsub _ hqueue, ?_⟩
      intro e he hid
      obtain ⟨hst, hload⟩ := pending_of_fetched hbatch (hqueue e he) hid
      rw [AgentDatabase.delivers_iff, hst]
      dsimp only
      rw [hagg]
      exact ⟨rfl, hload⟩
    | true =>
      have hmark := SendQueue.evolves_markAsSending
        (s.db.getQueuedMetrics now config.metricsBatchSize.toNat).1.queue now (batch.map Prod.fst)
      constructor
      · intro e' he'
        obtain ⟨e, he, hid, hsm, hst⟩ := hmark e' he'
        refine ⟨e, hqueue e he, hid, hsm, ?_⟩
        rcases hst with hst | ⟨hmem, hst⟩
        · exact .inl hst
        · right
          rw [(pending_of_fetched hbatch (hqueue e he) hmem).1, hst]
          exact ⟨rfl, rfl⟩
      · intro e' he' hid
        obtain ⟨e, he, hid', hsm, hst⟩ := hmark e' he'
        rw [← hid'] at hid
        obtain ⟨hpending, hload⟩ := pending_of_fetched hbatch (hqueue e he) hid
        rw [AgentDatabase.delivers_iff, hsm.metricType, hsm.metricRowId]
        dsimp only
        rw [hagg]
        refine ⟨?_, hload⟩
        rcases hst with hst | ⟨-, hst⟩
        · rw [hst, hpending]
          rfl
        · rw [hst]
          rfl

theorem next_queueStep {a : AgentAction} (h : s.next config summary now a = some s')
    (ha : a ≠ .enqueue) : QueueStep s s' := by
  have hwrites := next_writes h
  have hbatch : ∀ t batch, s.point = .sending t batch → s.point.batchIds = batch.map Prod.fst := by
    intro t batch hp
    rw [hp]
    rfl
  generalize hdb : s'.db = db at hwrites
  cases hwrites with
  | nothing _ => exact .of_frame (by rw [hdb]; exact ⟨rfl, rfl⟩)
  | flushes failAt _ => exact .of_frame (by rw [hdb]; exact s.scheduler.flushMetricsNow_frame ..)
  | handles failAt result _ =>
    exact .of_frame (by rw [hdb]; exact s.scheduler.handleTaskResult_frame ..)
  | enqueues metric kind id => exact absurd rfl ha
  | stores metric kind _ =>
    refine ⟨?_, ?_, ?_⟩
    · rw [hdb]
      exact (SendQueue.Evolves.of_subset fun e he => he).mono fun _ _ _ h => .inl h
    · intro k id r hr hlt
      rw [hdb] at hr
      exact AgentDatabase.get_of_update_insertOrReplace hr hlt
    · intro k
      rw [hdb]
      exact AgentDatabase.nextId_le_update_insertOrReplace s.db.agg kind _ k
  | cleansQueue sentFails failedFails =>
    obtain ⟨-, -, hagg, hrows⟩ :=
      s.scheduler.cleanupSentQueueIfNeeded_frame s.db now sentFails failedFails
    rw [← hdb] at hagg hrows
    exact .of_agg_eq hagg (R := fun _ st st' => st' = st) (.of_subset hrows) fun _ _ _ h => .inl h
  | loads _ _ n =>
    have hagg := (s.db.loadSomeEntries_frame now config.metricsBatchSize.toNat n).2
    have hrows := s.db.loadSomeEntries_queue now config.metricsBatchSize.toNat n
    rw [← hdb] at hagg hrows
    exact .of_agg_eq hagg (R := fun _ st st' => st' = st) (.of_subset hrows) fun _ _ _ h => .inl h
  | fetches marked _ _ =>
    obtain ⟨hagg, hq, -⟩ := next_fetch h
    exact .of_agg_eq hagg hq fun id st st' h => h.imp_right .inl
  | marksSent _ hp =>
    refine .of_agg_eq (by rw [hdb])
      (by rw [hdb]; exact SendQueue.evolves_markAsSent s.db.queue now _) ?_
    intro id st st' h
    rw [hbatch _ _ hp]
    exact h.imp_right fun h => .inr h.1
  | marksFailed _ hp e hids =>
    refine .of_agg_eq (by rw [hdb])
      (by rw [hdb]; exact SendQueue.evolves_markAllAsFailed s.db.queue now e _ _) ?_
    intro id st st' h
    rw [hbatch _ _ hp]
    exact h.imp_right fun h => .inr (hids id h.1)
  | cleansData done _ =>
    obtain ⟨hqueue, hagg⟩ := s.db.cleanupOldData_agg now config.localDataRetentionDays done
    rw [← hdb] at hqueue hagg
    refine ⟨?_, ?_, ?_⟩
    · rw [hqueue]
      exact (SendQueue.Evolves.of_subset fun e he => he).mono fun _ _ _ h => .inl h
    · intro kind id row hr _
      rw [Table.get_eq_some_iff] at hr ⊢
      exact (hagg kind).2 _ hr
    · intro kind
      exact le_of_eq (hagg kind).1.symm
  | recovers tasksConfig =>
    refine .of_agg_eq (by rw [hdb])
      (by rw [hdb]; exact SendQueue.evolves_recoverSendingEntries s.db.queue now) ?_
    rintro id st st' (h | ⟨rfl, rfl⟩)
    · exact .inl h
    · exact .inr (.inl ⟨rfl, rfl⟩)

/-- A request is on its way after a fetch only, and an aggregate waits for the queue after it was
stored only. -/
theorem next_point {a : AgentAction} (h : s.next config summary now a = some s') :
    ((∃ marked, a = .fetch marked) ∨ ∀ t b, s'.point ≠ .sending t b) ∧
      (a = .aggregate ∨ ∀ e t m i, s'.point ≠ .enqueuing e t m i) := by
  cases a with
  | fetch marked =>
    refine ⟨.inl ⟨marked, rfl⟩, .inr ?_⟩
    rcases next_fetch_cases h with ⟨hp, -⟩ | ⟨batch, -, hp, -⟩
    · rw [hp]
      simp
    · rw [hp]
      simp
  | aggregate =>
    refine ⟨.inr ?_, .inl rfl⟩
    obtain ⟨e, task, todo, -, rfl | rfl | ⟨metric, kind, -, rfl⟩⟩ := next_aggregate h
    all_goals simp
  | enqueue =>
    obtain ⟨-, -, -, -, -, ⟨-, rfl⟩ | ⟨kind, -, rfl⟩⟩ := next_enqueue h
    · exact ⟨.inr (by simp), .inr (by simp)⟩
    · exact ⟨.inr (by simp), .inr (by simp)⟩
  | drain failAt result =>
    dsimp only [next] at h
    split at h
    · next hp =>
      cases h
      dsimp only
      cases hpt : s.point <;> rw [hpt] at hp <;> first | cases hp; done | skip
      all_goals exact ⟨.inr (by simp), .inr (by simp)⟩
    · cases h
  | stop failAt =>
    dsimp only [next] at h
    split at h
    · cases h
      dsimp only
      cases s.point <;> exact ⟨.inr (by simp [Point.stopped]), .inr (by simp [Point.stopped])⟩
    · cases h
  | restart tasksConfig =>
    cases h
    exact ⟨.inr (by simp [Agent.start, Agent.new]), .inr (by simp [Agent.start, Agent.new])⟩
  | _ =>
    simp only [next] at h
    repeat' split at h
    all_goals
      cases h
      try exact ⟨.inr (by simp), .inr (by simp)⟩

end Agent

/-! ## The invariant -/

/-- An entry points to an aggregate of its own period or to none; a batch on its way can be
delivered; and an aggregate that waits for the queue has no entry. -/
structure QueueMatches (s : Agent) : Prop where
  entry : ∀ e ∈ s.db.queue.rows, ∃ kind, e.2.metricType = kind.queueType ∧
    e.2.metricRowId < (s.db.agg kind).nextId ∧
    ∀ row, (s.db.agg kind).get e.2.metricRowId = some row → row.period kind = e.2.period
  batch : ∀ e ∈ s.db.queue.rows, e.1 ∈ s.point.batchIds → s.db.delivers e.2 = true
  enqueuing : ∀ periodEnd todo metric id, s.point = .enqueuing periodEnd todo metric id →
    ∃ kind row, metric.data.kind = some kind ∧ (s.db.agg kind).get id = some row ∧
      row.period kind = metric.period kind ∧
      ∀ e ∈ s.db.queue.rows, ¬ (e.2.metricType = kind.queueType ∧ e.2.metricRowId = id)

namespace QueueMatches

variable {config : AgentConfig} {summary : Summary} {s s' : Agent} {now : Nat} {a : AgentAction}

theorem period_of_same {r r' : QueueRow} (h : r.SameMetric r') : r'.period = r.period := by
  unfold QueueRow.period
  rw [h.metricType, h.taskName, h.periodStart, h.periodEnd]

/-- Every step but the enqueuing one. -/
theorem step (hI : QueueMatches s) (h : s.next config summary now a = some s')
    (ha : a ≠ .enqueue) : QueueMatches s' := by
  have hstep := Agent.next_queueStep h ha
  obtain ⟨hbatch, henq⟩ := Agent.next_point h
  constructor
  · intro e' he'
    obtain ⟨e, he, -, hsame, -⟩ := hstep.queue e' he'
    obtain ⟨kind, hk, hlt, hrow⟩ := hI.entry e he
    refine ⟨kind, hsame.metricType.trans hk, ?_, fun row hr => ?_⟩
    · rw [hsame.metricRowId]
      exact lt_of_lt_of_le hlt (hstep.nextId kind)
    · rw [hsame.metricRowId] at hr
      rw [period_of_same hsame]
      exact hrow row (hstep.agg kind _ row hr hlt)
  · rcases hbatch with ⟨marked, rfl⟩ | hnil
    · exact (Agent.next_fetch h).2.2
    · intro e _ hid
      rw [Point.batchIds_of_not_sending hnil] at hid
      cases hid
  · intro periodEnd todo metric id hp
    rcases henq with rfl | hno
    · obtain ⟨e, task, t, -, rfl | rfl | ⟨m, kind, hk, rfl⟩⟩ := Agent.next_aggregate h
      · cases hp
      · cases hp
      · obtain ⟨-, -, rfl, rfl⟩ := Point.enqueuing.inj hp
        refine ⟨kind, ⟨m.taskName, m.periodStart, m.periodEnd, m.sampleCount, m.data⟩, hk, ?_, rfl,
          ?_⟩
        · dsimp only
          rw [Function.update_self]
          exact (s.db.agg kind).get_insertOrReplace _
        · intro d hd hdk
          obtain ⟨k, hdk', hlt, -⟩ := hI.entry d hd
          obtain rfl := queueType_injective (hdk'.symm.trans hdk.1)
          rw [hdk.2] at hlt
          exact lt_irrefl _ hlt
    · exact absurd hp (hno _ _ _ _)

/-- Where nothing is enqueued, no period gains an entry that was sent or can be. -/
theorem owed_le (hI : QueueMatches s) (h : s.next config summary now a = some s')
    (ha : a ≠ .enqueue) (key : PeriodKey) :
    (SendQueue.newlySent s.db.queue s'.db.queue).count key + s'.db.deliverable.count key ≤
      s.db.deliverable.count key := by
  have hstep := Agent.next_queueStep h ha
  refine count_newlySent_add_le (fun e' he' hcase => ?_) key
  obtain ⟨e, he, hid, hsame, hst⟩ := hstep.queue e' he'
  refine ⟨e, he, hid, (period_of_same hsame).symm, ?_⟩
  rcases hcase with ⟨hsent, hbefore⟩ | hdel
  · have hne := (SendQueue.unsentBefore_iff he hid).1 hbefore
    rcases hst with hst | ⟨-, hlive⟩ | hids
    · exact absurd (hst.symm.trans hsent) hne
    · rw [hsent] at hlive
      cases hlive
    · exact hI.batch e he hids
  · obtain ⟨hlive, kind, row, hk, hrow⟩ := (AgentDatabase.delivers_iff _ _).1 hdel
    obtain ⟨k, hkt, hlt, -⟩ := hI.entry e he
    rw [hsame.metricType, hkt, kindOfQueueType_queueType] at hk
    obtain rfl := Option.some.inj hk
    rw [hsame.metricRowId] at hrow
    have hload : ∃ kind row, kindOfQueueType e.2.metricType = some kind ∧
        (s.db.agg kind).get e.2.metricRowId = some row := by
      refine ⟨k, row, ?_, hstep.agg k _ row hrow hlt⟩
      rw [hkt, kindOfQueueType_queueType]
    rcases hst with hst | ⟨hbefore, -⟩ | hids
    · rw [AgentDatabase.delivers_iff, ← hst]
      exact ⟨hlive, hload⟩
    · rw [AgentDatabase.delivers_iff]
      exact ⟨hbefore, hload⟩
    · exact hI.batch e he hids

/-- No entry of the period of an aggregate that waits for the queue can be delivered. -/
theorem deliverable_of_enqueuing (hI : QueueMatches s) {periodEnd : Nat} {todo : List TaskConfig}
    {metric : AggregatedMetrics} {id : Nat}
    (hp : s.point = .enqueuing periodEnd todo metric id) {kind : MetricKind}
    (hk : metric.data.kind = some kind) :
    s.db.deliverable.count (metric.period kind) = 0 := by
  obtain ⟨kind', row, hk', hrow, hperiod, hfree⟩ := hI.enqueuing _ _ _ _ hp
  rw [hk] at hk'
  obtain rfl := Option.some.inj hk'
  rw [List.count_eq_zero]
  intro hmem
  obtain ⟨e, he, hkey⟩ := List.mem_map.1 hmem
  obtain ⟨he, hdel⟩ := List.mem_filter.1 he
  obtain ⟨k, hkt, -, hper⟩ := hI.entry e he
  have hkk : k = kind := by
    have : e.2.metricType = kind.queueType := congrArg Prod.fst hkey
    exact queueType_injective (hkt.symm.trans this)
  subst hkk
  obtain ⟨-, k', row', hk', hrow'⟩ := (AgentDatabase.delivers_iff _ _).1 hdel
  rw [hkt, kindOfQueueType_queueType] at hk'
  obtain rfl := Option.some.inj hk'
  -- both aggregates are of the same period, so they are one
  have hsame : row'.period k = row.period k := (hper row' hrow').trans (hkey.trans hperiod.symm)
  have hkeys : row'.key = row.key := by
    unfold AggRow.period at hsame
    unfold AggRow.key
    rw [(Prod.mk.inj hsame).2]
  have hone := (s.db.agg k).key_injective
    (((s.db.agg k).get_eq_some_iff _ _).1 hrow') (((s.db.agg k).get_eq_some_iff _ _).1 hrow)
    (k := (row.taskName, row.periodStart, row.periodEnd)) hkeys rfl
  exact hfree e he ⟨hkt, congrArg Prod.fst hone⟩

/-- The enqueuing step adds an entry for the aggregate that waits, which is there. -/
theorem enqueue_appends (hI : QueueMatches s) (h : s.next config summary now .enqueue = some s') :
    ∃ periodEnd todo metric id kind row, s.point = .enqueuing periodEnd todo metric id ∧
      metric.data.kind = some kind ∧ (s.db.agg kind).get id = some row ∧
      row.period kind = metric.period kind ∧ s'.point = .aggregating periodEnd todo ∧
      s'.db.agg = s.db.agg ∧ s'.db.queue.rows =
        s.db.queue.rows ++ [(s.db.queue.nextId, SendQueue.newEntry now kind metric id)] := by
  obtain ⟨periodEnd, todo, metric, id, hp, hcase⟩ := Agent.next_enqueue h
  obtain ⟨kind, row, hk, hrow, hperiod, hfree⟩ := hI.enqueuing _ _ _ _ hp
  refine ⟨periodEnd, todo, metric, id, kind, row, hp, hk, hrow, hperiod, ?_⟩
  have hs' : s' = { s with
      db := { s.db with
        queue := s.db.queue.insertOrIgnore (SendQueue.newEntry now kind metric id) }
      point := .aggregating periodEnd todo } := by
    rcases hcase with ⟨hnone, -⟩ | ⟨k, hk', hs'⟩
    · rw [hk] at hnone
      cases hnone
    · rw [hk] at hk'
      obtain rfl := Option.some.inj hk'
      exact hs'
  obtain ⟨hnew, happ⟩ : ∃ hnew, s.db.queue.insertOrIgnore (SendQueue.newEntry now kind metric id) =
      s.db.queue.append (SendQueue.newEntry now kind metric id) hnew := by
    rcases s.db.queue.insertOrIgnore_eq (SendQueue.newEntry now kind metric id) with
      ⟨key, hkey, hmem, -⟩ | happ
    · obtain ⟨e, he, hek⟩ := (s.db.queue.mem_keys_iff key).1 hmem
      obtain rfl := Option.some.inj hkey
      obtain ⟨hmt, hid⟩ := Prod.mk.inj (Option.some.inj hek)
      exact absurd ⟨hmt, hid⟩ (hfree e he)
    · exact happ
  rw [hs', happ]
  exact ⟨rfl, rfl, rfl⟩

/-- The enqueuing step adds the one entry of the period that can be delivered. -/
theorem enqueue (hI : QueueMatches s) (h : s.next config summary now .enqueue = some s') :
    QueueMatches s' ∧ SendQueue.newlySent s.db.queue s'.db.queue = [] ∧
      ∃ periodEnd todo metric id kind, s.point = .enqueuing periodEnd todo metric id ∧
        metric.data.kind = some kind ∧
        s'.db.deliverable = s.db.deliverable ++ [metric.period kind] := by
  obtain ⟨periodEnd, todo, metric, id, kind, row, hp, hk, hrow, hperiod, hpoint, hagg, hrows⟩ :=
    hI.enqueue_appends h
  have hdelivers : ∀ r, s'.db.delivers r = s.db.delivers r := by
    intro r
    unfold AgentDatabase.delivers AgentDatabase.loadAggregatedMetric
    rw [hagg]
  have hnewDel : s.db.delivers (SendQueue.newEntry now kind metric id) = true := by
    rw [AgentDatabase.delivers_iff]
    exact ⟨rfl, kind, row, kindOfQueueType_queueType kind, hrow⟩
  refine ⟨⟨?_, ?_, ?_⟩, ?_, periodEnd, todo, metric, id, kind, hp, hk, ?_⟩
  · intro e he
    rw [hrows, List.mem_append, List.mem_singleton] at he
    rw [hagg]
    rcases he with he | rfl
    · exact hI.entry e he
    · refine ⟨kind, rfl, ?_, fun r hr => ?_⟩
      · exact (s.db.agg kind).ids_lt _ (((s.db.agg kind).get_eq_some_iff _ _).1 hrow)
      · have hr : (s.db.agg kind).get id = some r := hr
        rw [hrow] at hr
        obtain rfl := Option.some.inj hr
        exact hperiod
  · intro e _ hid
    rw [hpoint] at hid
    cases hid
  · intro e t m i hp'
    rw [hpoint] at hp'
    cases hp'
  · unfold SendQueue.newlySent
    rw [List.map_eq_nil_iff, List.filter_eq_nil_iff]
    intro e he hsent
    rw [Bool.and_eq_true, beq_iff_eq] at hsent
    rw [hrows, List.mem_append, List.mem_singleton] at he
    rcases he with he | rfl
    · exact (SendQueue.unsentBefore_iff he rfl).1 hsent.2 hsent.1
    · cases hsent.1
  · unfold AgentDatabase.deliverable
    rw [hrows, List.filter_append, List.map_append]
    have hold : (s.db.queue.rows.filter fun e => s'.db.delivers e.2) =
        s.db.queue.rows.filter fun e => s.db.delivers e.2 :=
      List.filter_congr fun e _ => hdelivers e.2
    rw [hold, List.filter_cons, hdelivers, hnewDel]
    rfl

end QueueMatches

/-- The invariant holds of an agent with a new database. -/
theorem queueMatches_start {config : AgentConfig} {tasksConfig : TasksConfig} {t₀ : Nat} :
    QueueMatches (.start config tasksConfig .initial t₀) := by
  refine ⟨?_, ?_, ?_⟩
  · intro e he
    cases he
  · intro e he
    cases he
  · intro e t m i hp
    cases hp

/-- The invariant holds in every state of every run. -/
theorem queueMatches_run {config : AgentConfig} {summary : Summary} {tasksConfig : TasksConfig}
    {t₀ : Nat} {tr : List AgentStep} {s : Nat × Agent}
    (hr : Run (agentMachine config summary tasksConfig t₀) tr s) : QueueMatches s.2 := by
  refine Run.invariant (I := fun s : Nat × Agent => QueueMatches s.2) queueMatches_start ?_ hr
  intro s a s' b hI hs
  obtain ⟨-, hnext, -⟩ := agentMachine_step hs
  by_cases ha : a.2 = .enqueue
  · rw [ha] at hnext
    exact (hI.enqueue hnext).1
  · exact hI.step hnext ha

/-! ## Top theorem -/

/-- **One step** keeps every period to one entry exactly when it does not enqueue a period of which
an entry was sent. -/
theorem next_oncePerPeriod {config : AgentConfig} {summary : Summary}
    {s : (Nat × Agent) × List PeriodKey} {now : Nat} {a : AgentAction} {s' : Agent}
    (hI : QueueMatches s.1.2) (hone : OncePerPeriod s)
    (h : s.1.2.next config summary now a = some s') :
    QueueMatches s' ∧ (OncePerPeriod ((now, s'),
      s.2 ++ SendQueue.newlySent s.1.2.db.queue s'.db.queue) ↔ EnqueuesUnsent s (now, a)) := by
  by_cases ha : a = .enqueue
  · subst ha
    obtain ⟨hI', hnil, periodEnd, todo, metric, id, kind, hp, hk, hdel⟩ := hI.enqueue h
    refine ⟨hI', ?_⟩
    have hzero := hI.deliverable_of_enqueuing hp hk
    unfold OncePerPeriod
    dsimp only
    rw [hnil, List.append_nil, hdel]
    simp only [List.count_append, List.count_singleton]
    constructor
    · intro hall e t m i hp' _ k hk' hmem
      rw [hp] at hp'
      obtain ⟨-, -, rfl, -⟩ := Point.enqueuing.inj hp'
      rw [hk] at hk'
      obtain rfl := Option.some.inj hk'
      have hkey := hall (metric.period kind)
      have hpos : 0 < s.2.count (metric.period kind) := List.count_pos_iff.2 hmem
      rw [if_pos (by simp)] at hkey
      omega
    · intro hunsent key
      have hnot := hunsent _ _ _ _ hp rfl kind hk
      by_cases hkey : metric.period kind = key
      · subst hkey
        rw [List.count_eq_zero.2 hnot, hzero]
        simp
      · have := hone key
        rw [if_neg (by simpa using hkey)]
        omega
  · refine ⟨hI.step h ha, ?_⟩
    constructor
    · intro _ e t m i _ he
      exact absurd he ha
    · intro _ key
      have hle := hI.owed_le h ha key
      have hkey := hone key
      show List.count key (s.2 ++ _) + List.count key s'.db.deliverable ≤ 1
      rw [List.count_append]
      omega

/-- Every run of the agent has its list of sent periods, in the order of its steps. -/
theorem deliveryMachine_run_iff {config : AgentConfig} {summary : Summary}
    {tasksConfig : TasksConfig} {t₀ : Nat} {tr : List AgentStep}
    {s : (Nat × Agent) × List PeriodKey} :
    (∃ tr', Run (deliveryMachine config summary tasksConfig t₀) tr' s ∧
        tr'.map Taken.base = tr) ↔
      Run (agentMachine config summary tasksConfig t₀) tr s.1 ∧
        s.2 = tr.flatMap fun t => SendQueue.newlySent t.pre.2.db.queue t.post.2.db.queue := by
  rw [List.flatMap_eq_foldl]
  exact Run.ghost_iff

/-- **A period is delivered once** in the states of a run, if and only if no step of it enqueues a
period of which an entry was sent before. -/
theorem oncePerPeriod_iff_unsent (config : AgentConfig) (summary : Summary)
    (tasksConfig : TasksConfig) (t₀ : Nat)
    {tr : List (Taken ((Nat × Agent) × List PeriodKey) (Nat × AgentAction) Unit)}
    {s : (Nat × Agent) × List PeriodKey}
    (hrun : Run (deliveryMachine config summary tasksConfig t₀) tr s) :
    (∀ t ∈ tr, OncePerPeriod t.post) ↔ ∀ t ∈ tr, EnqueuesUnsent t.pre t.label := by
  have hspec : ∀ {s a s' b}, QueueMatches s.1.2 → OncePerPeriod s →
      (deliveryMachine config summary tasksConfig t₀).step s a = some (s', b) →
      QueueMatches s'.1.2 ∧ (OncePerPeriod s' ↔ EnqueuesUnsent s a) := by
    intro s a s' b hI hone hs
    obtain ⟨hstep, hrec⟩ := (Machine.ghost_step_iff _ _ _ _ _ _ _).1 hs
    obtain ⟨-, hnext, hclock⟩ := agentMachine_step hstep
    obtain ⟨⟨clock, agent⟩, sent⟩ := s'
    dsimp only at hnext hclock hrec
    subst hclock hrec
    exact next_oncePerPeriod hI hone hnext
  refine Run.forall_iff (I := fun s => QueueMatches s.1.2 ∧ OncePerPeriod s) ?_ ?_ ?_ hrun
  · exact ⟨queueMatches_start, fun key => Nat.zero_le 1⟩
  · intro s a s' b hI hC hs
    obtain ⟨hI', hiff⟩ := hspec hI.1 hI.2 hs
    exact ⟨hI', hiff.2 hC⟩
  · intro s a s' b hI hs
    exact (hspec hI.1 hI.2 hs).2

/-! ## A reload in the minute of an aggregation -/

/-- The minute of the first row is aggregated at 125, sent, and the server asks for an update. -/
def sentAt125 : List (Nat × AgentAction) :=
  firstMinute (taskEvery 60) ++ wokenAt 125 ++
    [(125, .enqueue), (125, .aggregationDone), (125, .flush none),
      (125, .queueCleanup false false), (125, .fetch true), (126, .reply (.ok .stale) true [])]

/-- The new scheduler aggregates the minute again, and the batch is sent at 160. -/
def reloadAt126 : List (Nat × AgentAction) :=
  [(126, .stop none), (126, .reload ⟨[taskEvery 90]⟩), (126, .dataCleanup 18)] ++ wokenAt 127 ++
    [(127, .enqueue), (127, .aggregationDone)] ++ restOfIteration 127 ++
    [(160, .ready "web"), (160, .aggregationCheck none), (160, .flush none),
      (160, .queueCleanup false false), (160, .fetch true), (161, .reply (.ok .upToDate) true [])]

def exampleDelivery : Machine ((Nat × Agent) × List PeriodKey) (Nat × AgentAction) Unit :=
  deliveryMachine exampleAgentConfig exampleSummary ⟨[taskEvery 60]⟩ 60

/-- The aggregate that waits for the queue. -/
def Point.waitingMetric : Point → Option AggregatedMetrics
  | .enqueuing _ _ metric _ => some metric
  | _ => none

theorem oncePerPeriod_iff_unsent_sent :
    ∃ tr s, Run exampleDelivery tr s ∧ s.2 = [("http", "web", 60, 120)] ∧
      ∀ t ∈ tr, OncePerPeriod t.post := by
  obtain ⟨tr, s, he, hrun⟩ := Run.exists_of_exec exampleDelivery sentAt125 (by rfl)
  have hend : (exampleDelivery.exec sentAt125).map (fun r =>
      (r.2.2, r.1.all fun t => t.pre.1.2.point.waitingMetric.all fun metric =>
        metric.data.kind.all fun kind => decide (metric.period kind ∉ t.pre.2))) =
      some ([("http", "web", 60, 120)], true) := by rfl
  rw [he] at hend
  obtain ⟨hsent, hunsent⟩ := Prod.mk.inj (Option.some.inj hend)
  refine ⟨tr, s, hrun, hsent, (oncePerPeriod_iff_unsent _ _ _ _ hrun).2 fun t ht => ?_⟩
  intro periodEnd todo metric id hp _ kind hkind
  have h := List.all_eq_true.1 hunsent t ht
  rw [hp] at h
  simpa [Point.waitingMetric, hkind] using h

/-- A reload while the minute is young: two entries of the period reach `sent`. -/
theorem not_oncePerPeriod_reload :
    ∃ tr s, Run exampleDelivery tr s ∧
      s.2 = [("http", "web", 60, 120), ("http", "web", 60, 120)] ∧ ¬ OncePerPeriod s := by
  obtain ⟨tr, s, he, hrun⟩ := Run.exists_of_exec exampleDelivery (sentAt125 ++ reloadAt126) (by rfl)
  have hend : (exampleDelivery.exec (sentAt125 ++ reloadAt126)).map (·.2.2) =
      some [("http", "web", 60, 120), ("http", "web", 60, 120)] := by rfl
  rw [he] at hend
  have hsent : s.2 = [("http", "web", 60, 120), ("http", "web", 60, 120)] := Option.some.inj hend
  refine ⟨tr, s, hrun, hsent, fun hone => ?_⟩
  have hkey := hone ("http", "web", 60, 120)
  rw [hsent] at hkey
  have htwo : List.count ("http", "web", 60, 120)
      [("http", "web", 60, 120), (("http", "web", 60, 120) : PeriodKey)] = 2 := by rfl
  rw [htwo] at hkey
  omega

end LinkSense
