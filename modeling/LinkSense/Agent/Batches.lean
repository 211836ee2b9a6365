import LinkSense.Agent.Representation

/-!
# Batches with entries that cannot be loaded

`get_queued_metrics` of a build with some of the optional features, over tables whose rows may be
anything.  An entry whose aggregate is gone leaves the queue, and the loop goes on; an entry of a
type that the build does not know, whose row is not read, or whose count of attempts is no `i32`,
ends the call with an error.

    what is selected is the first of what is ready                         (firstReady_readyEntries)
    the call serves its batch, whatever else is in it ↔ every entry of it can be read
                                                                            (servesBatch_iff_readable)
-/

namespace LinkSense

open Sql Wire

/-! ## Builds -/

def MetricKind.enabled (features : Features) (kind : MetricKind) : Bool :=
  kind.taskType.enabled features

namespace AgentTables

variable (features : Features) (json : JsonText)

/-- `fetch_metric_by_type_and_id` of a build: the arm of a module that is not there is missing. -/
def fetchMetricByTypeAndIdIn (tables : AgentTables) (metricType : String) (rowId : Nat) :
    Except DatabaseError (Option AggregatedMetrics) :=
  match kindOfQueueType metricType with
  | none => .error (.other s!"Unknown metric type: {metricType}")
  | some kind =>
    if kind.enabled features then (tables.loadAggregatedMetric json kind rowId).mapError .sql
    else .error (.other s!"Unknown metric type: {metricType}")

/-- The loop of `get_queued_metrics` of a build. -/
def loadEntriesIn (tables : AgentTables) : List (Nat × QueueRow) →
    AgentTables × Except DatabaseError (List (Nat × AggregatedMetrics))
  | [] => (tables, .ok [])
  | (id, entry) :: entries =>
    match tables.fetchMetricByTypeAndIdIn features json entry.metricType entry.metricRowId with
    | .error e => (tables, .error e)
    | .ok none =>
      loadEntriesIn { tables with queue := SendQueue.removeFromQueue tables.queue id } entries
    | .ok (some metric) =>
      match loadEntriesIn tables entries with
      | (tables, .error e) => (tables, .error e)
      | (tables, .ok metrics) => (tables, .ok ((id, metric) :: metrics))

def getQueuedMetricsIn (tables : AgentTables) (now batchSize : Nat) :
    AgentTables × Except DatabaseError (List (Nat × AggregatedMetrics)) :=
  match SendQueue.getPendingQueueEntries tables.queue now batchSize with
  | .error e => (tables, .error (.other e))
  | .ok entries => tables.loadEntriesIn features json entries

theorem getQueuedMetricsIn_all (tables : AgentTables) (now batchSize : Nat) :
    tables.getQueuedMetricsIn ⟨true, true⟩ json now batchSize =
      tables.getQueuedMetrics json now batchSize := by
  have hfetch : ∀ (tables : AgentTables) metricType rowId,
      tables.fetchMetricByTypeAndIdIn ⟨true, true⟩ json metricType rowId =
        tables.fetchMetricByTypeAndId json metricType rowId := by
    intro tables metricType rowId
    unfold fetchMetricByTypeAndIdIn fetchMetricByTypeAndId
    cases kindOfQueueType metricType with
    | none => rfl
    | some kind => cases kind <;> rfl
  have hload : ∀ entries (tables : AgentTables),
      tables.loadEntriesIn ⟨true, true⟩ json entries = tables.loadEntries json entries := by
    intro entries
    induction entries with
    | nil => exact fun _ => rfl
    | cons e entries ih =>
      intro tables
      unfold loadEntriesIn loadEntries
      rw [hfetch]
      cases tables.fetchMetricByTypeAndId json e.2.metricType e.2.metricRowId with
      | error e => rfl
      | ok metric =>
        cases metric with
        | none => exact ih _
        | some metric =>
          rcases hrest : tables.loadEntries json entries with ⟨tables', e | metrics⟩
          · simp only [ih, hrest]
          · simp only [ih, hrest]
  unfold getQueuedMetricsIn getQueuedMetrics
  cases SendQueue.getPendingQueueEntries tables.queue now batchSize with
  | error e => rfl
  | ok entries => exact hload entries tables

end AgentTables

/-! ## What a batch should be -/

def QueueRow.Ready (now : Nat) (r : QueueRow) : Prop :=
  r.status = .pending ∧ ∃ nextRetryAt, r.nextRetryAt = some nextRetryAt ∧ nextRetryAt ≤ (now : Int)

/-- The first `batchSize` of the entries that are ready, in the order of their creation. -/
structure SendQueue.FirstReady (q : SendQueue) (now batchSize : Nat)
    (batch : List (Nat × QueueRow)) : Prop where
  ready : ∀ e ∈ batch, e ∈ q.rows ∧ e.2.Ready now
  sorted : batch.Pairwise fun e f => e.2.createdAt ≤ f.2.createdAt
  nodup : (batch.map Prod.fst).Nodup
  length_le : batch.length ≤ batchSize
  first : ∀ e ∈ q.rows, e.2.Ready now → e ∉ batch →
    batch.length = batchSize ∧ ∀ f ∈ batch, f.2.createdAt ≤ e.2.createdAt

namespace AgentTables

variable (features : Features) (json : JsonText) (tables : AgentTables)

/-- The aggregate of the entry is not there any more. -/
def Gone (r : QueueRow) : Prop :=
  ∃ kind, kindOfQueueType r.metricType = some kind ∧ (tables.agg kind).get r.metricRowId = none

/-- The build knows the type of the entry, and reads the row of its aggregate if there is one. -/
def Readable (r : QueueRow) : Prop :=
  ∃ kind, kindOfQueueType r.metricType = some kind ∧ kind.enabled features = true ∧
    ((tables.agg kind).get r.metricRowId = none ∨
      ∃ metric, tables.loadAggregatedMetric json kind r.metricRowId = .ok (some metric))

/-- The metric of an entry, if the build can load it. -/
def loadable (e : Nat × QueueRow) : Option (Nat × AggregatedMetrics) :=
  match tables.fetchMetricByTypeAndIdIn features json e.2.metricType e.2.metricRowId with
  | .ok (some metric) => some (e.1, metric)
  | _ => none

/-- The call succeeds with what can be loaded of its batch, and takes from the queue those entries of
the batch whose aggregate is gone, and nothing else. -/
def ServesBatch (now batchSize : Nat) : Prop :=
  ∃ batch, SendQueue.FirstReady tables.queue now batchSize batch ∧
    (tables.getQueuedMetricsIn features json now batchSize).2 =
      .ok (batch.filterMap (tables.loadable features json)) ∧
    (tables.getQueuedMetricsIn features json now batchSize).1.agg = tables.agg ∧
    ∀ e, e ∈ (tables.getQueuedMetricsIn features json now batchSize).1.queue.rows ↔
      e ∈ tables.queue.rows ∧ ¬ (e ∈ batch ∧ tables.Gone e.2)

/-! ## Lemmas -/

theorem loadAggregatedMetric_ne_none (json : JsonText) {tables : AgentTables} {kind : MetricKind}
    {id : Nat} {row : List Value} (h : (tables.agg kind).get id = some row) :
    tables.loadAggregatedMetric json kind id ≠ .ok none := by
  have hmodule {α : Type} {m : MetricModule α} (h : (tables.agg m.kind).get id = some row) :
      m.loadAggregatedMetric tables id ≠ .ok none := by
    unfold MetricModule.loadAggregatedMetric selectById
    rw [h]
    cases unknownColumn m.kind.schema (periodNames ++ m.selected) with
    | some name => simp
    | none =>
      dsimp only [Option.map_some]
      rcases m.readRow _ with e | metric
      · simp [Except.map]
      · simp [Except.map]
  cases kind with
  | ping => exact hmodule (m := dbPing) h
  | tcp => exact hmodule (m := dbTcp) h
  | http => exact hmodule (m := dbHttp json) h
  | tls => exact hmodule (m := dbTls) h
  | httpContent => exact hmodule (m := dbHttpContent) h
  | dns => exact hmodule (m := dbDns json) h
  | bandwidth => exact hmodule (m := dbBandwidth) h
  | sqlQuery => exact hmodule (m := dbSql) h
  | snmp => exact hmodule (m := dbSnmp) h

theorem fetchIn_cases (r : QueueRow) :
    (tables.Readable features json r ∧ tables.Gone r ∧
      tables.fetchMetricByTypeAndIdIn features json r.metricType r.metricRowId = .ok none) ∨
    (tables.Readable features json r ∧ ¬ tables.Gone r ∧ ∃ metric,
      tables.fetchMetricByTypeAndIdIn features json r.metricType r.metricRowId = .ok (some metric)) ∨
    (¬ tables.Readable features json r ∧ ∃ e,
      tables.fetchMetricByTypeAndIdIn features json r.metricType r.metricRowId = .error e) := by
  unfold fetchMetricByTypeAndIdIn Readable Gone
  cases hk : kindOfQueueType r.metricType with
  | none => exact .inr (.inr ⟨by simp, _, rfl⟩)
  | some kind =>
    dsimp only
    by_cases hen : kind.enabled features = true
    · rw [if_pos hen]
      cases hrow : (tables.agg kind).get r.metricRowId with
      | none =>
        rw [loadAggregatedMetric_none hrow]
        exact .inl ⟨⟨kind, rfl, hen, .inl hrow⟩, ⟨kind, rfl, hrow⟩, rfl⟩
      | some row =>
        have hne := loadAggregatedMetric_ne_none json hrow
        cases hload : tables.loadAggregatedMetric json kind r.metricRowId with
        | error e => exact .inr (.inr ⟨by simp [hrow, hload], .sql e, rfl⟩)
        | ok metric =>
          cases metric with
          | none => exact absurd hload hne
          | some metric =>
            refine .inr (.inl ⟨⟨kind, rfl, hen, .inr ⟨metric, hload⟩⟩, ?_, metric, rfl⟩)
            simp [hrow]
    · rw [if_neg hen]
      exact .inr (.inr ⟨by simp [hen], _, rfl⟩)

variable {features json tables}

theorem readable_congr {tables' : AgentTables} (h : tables'.agg = tables.agg) (r : QueueRow) :
    tables'.Readable features json r ↔ tables.Readable features json r := by
  unfold Readable
  simp only [h, loadAggregatedMetric_congr h]

theorem loadEntriesIn_agg (tables : AgentTables) (entries : List (Nat × QueueRow)) :
    (tables.loadEntriesIn features json entries).1.agg = tables.agg := by
  induction entries generalizing tables with
  | nil => rfl
  | cons e entries ih =>
    unfold loadEntriesIn
    split
    · rfl
    · exact ih _
    · have hrest := ih tables
      split
      · next he =>
        rw [he] at hrest
        exact hrest
      · next he =>
        rw [he] at hrest
        exact hrest

theorem loadEntriesIn_error (tables : AgentTables) {entries : List (Nat × QueueRow)}
    {e : Nat × QueueRow} (he : e ∈ entries) (hbad : ¬ tables.Readable features json e.2) :
    ∃ err, (tables.loadEntriesIn features json entries).2 = .error err := by
  induction entries generalizing tables with
  | nil => cases he
  | cons d entries ih =>
    unfold loadEntriesIn
    rcases tables.fetchIn_cases features json d.2 with
      ⟨hread, -, hfetch⟩ | ⟨hread, -, metric, hfetch⟩ | ⟨-, err, hfetch⟩
    · rw [hfetch]
      have he : e ∈ entries := by
        rcases List.mem_cons.1 he with rfl | he
        · exact absurd hread hbad
        · exact he
      refine ih _ he ?_
      rwa [readable_congr]
      rfl
    · rw [hfetch]
      have he : e ∈ entries := by
        rcases List.mem_cons.1 he with rfl | he
        · exact absurd hread hbad
        · exact he
      obtain ⟨err, hrest⟩ := ih tables he hbad
      dsimp only
      rcases htail : tables.loadEntriesIn features json entries with ⟨tables', err' | metrics⟩
      · exact ⟨err', rfl⟩
      · rw [htail] at hrest
        cases hrest
    · rw [hfetch]
      exact ⟨err, rfl⟩

/-- Where every entry can be read, the metrics that are there are returned, and the entries of those
that are gone leave the queue. -/
theorem loadEntriesIn_ok (tables : AgentTables) {entries : List (Nat × QueueRow)}
    (hread : ∀ e ∈ entries, tables.Readable features json e.2) :
    (tables.loadEntriesIn features json entries).2 =
        .ok (entries.filterMap (tables.loadable features json)) ∧
      ∀ e, e ∈ (tables.loadEntriesIn features json entries).1.queue.rows ↔
        e ∈ tables.queue.rows ∧ ¬ ∃ d ∈ entries, d.1 = e.1 ∧ tables.Gone d.2 := by
  induction entries generalizing tables with
  | nil => exact ⟨rfl, fun e => by simp [loadEntriesIn]⟩
  | cons d entries ih =>
    have hrest : ∀ e ∈ entries, tables.Readable features json e.2 :=
      fun e he => hread e (List.mem_cons_of_mem _ he)
    unfold loadEntriesIn
    rcases tables.fetchIn_cases features json d.2 with
      ⟨-, hgone, hfetch⟩ | ⟨-, hgone, metric, hfetch⟩ | ⟨hbad, -⟩
    · have hskip : tables.loadable features json d = none := by
        unfold loadable
        rw [hfetch]
      rw [hfetch, List.filterMap_cons_none hskip]
      dsimp only
      obtain ⟨hmetrics, hrows⟩ := ih { tables with
        queue := SendQueue.removeFromQueue tables.queue d.1 } hrest
      refine ⟨hmetrics, fun e => ?_⟩
      have hremoved : e ∈ (SendQueue.removeFromQueue tables.queue d.1).rows ↔
          e ∈ tables.queue.rows ∧ e.1 ≠ d.1 := by
        show e ∈ tables.queue.rows.filter _ ↔ _
        rw [List.mem_filter]
        simp
      have hmore : (∃ c ∈ d :: entries, c.1 = e.1 ∧ tables.Gone c.2) ↔
          d.1 = e.1 ∨ ∃ c ∈ entries, c.1 = e.1 ∧ tables.Gone c.2 := by
        simp [hgone]
      rw [hrows e, hremoved, hmore, not_or, and_assoc]
      exact and_congr_right fun _ => and_congr_left fun _ => ne_comm
    · have hsome : tables.loadable features json d = some (d.1, metric) := by
        unfold loadable
        rw [hfetch]
      rw [hfetch, List.filterMap_cons_some hsome]
      dsimp only
      obtain ⟨hmetrics, hrows⟩ := ih tables hrest
      have hsame : ∀ id, (∃ c ∈ d :: entries, c.1 = id ∧ tables.Gone c.2) ↔
          ∃ c ∈ entries, c.1 = id ∧ tables.Gone c.2 := by
        intro id
        simp [hgone]
      rcases htail : tables.loadEntriesIn features json entries with ⟨tables', err | metrics⟩
      · rw [htail] at hmetrics
        cases hmetrics
      · rw [htail] at hmetrics hrows
        refine ⟨?_, fun e => ?_⟩
        · rw [Except.ok.inj hmetrics]
        · rw [hsame]
          exact hrows e
    · exact absurd (hread d List.mem_cons_self) hbad

end AgentTables

theorem le_of_not_mem_take {α : Type*} {r : α → α → Prop} {l : List α} (hl : l.Pairwise r) {n : Nat}
    {x : α} (hx : x ∈ l) (hnot : x ∉ l.take n) : (l.take n).length = n ∧ ∀ y ∈ l.take n, r y x := by
  have hsplit : l.take n ++ l.drop n = l := List.take_append_drop n l
  have hdrop : x ∈ l.drop n := by
    rw [← hsplit, List.mem_append] at hx
    exact hx.resolve_left hnot
  have hlt : n < l.length := by
    by_contra hge
    rw [List.drop_eq_nil_of_le (Nat.le_of_not_lt hge)] at hdrop
    cases hdrop
  rw [← hsplit, List.pairwise_append] at hl
  refine ⟨?_, fun y hy => hl.2.2 y hy x hdrop⟩
  rw [List.length_take]
  omega

namespace SendQueue

theorem pairwise_createdAt (l : List (Nat × QueueRow)) :
    (l.insertionSort fun e f => e.2.createdAt ≤ f.2.createdAt).Pairwise
      fun e f => e.2.createdAt ≤ f.2.createdAt := by
  have : Std.Total fun e f : Nat × QueueRow => e.2.createdAt ≤ f.2.createdAt :=
    ⟨fun e f => Nat.le_total _ _⟩
  have : IsTrans (Nat × QueueRow) fun e f => e.2.createdAt ≤ f.2.createdAt :=
    ⟨fun _ _ _ => Nat.le_trans⟩
  exact List.pairwise_insertionSort _ l

/-- **What is selected** is the first of what is ready. -/
theorem firstReady_readyEntries (q : SendQueue) (now batchSize : Nat) :
    q.FirstReady now batchSize (q.readyEntries now batchSize) where
  ready e he := mem_readyEntries_due he
  sorted := (pairwise_createdAt _).sublist (List.take_sublist _ _)
  nodup := q.nodup_readyEntries now batchSize
  length_le := List.length_take_le _ _
  first := by
    rintro e he ⟨hpending, hdue⟩ hnot
    refine le_of_not_mem_take (pairwise_createdAt _) ?_ hnot
    rw [List.mem_insertionSort, List.mem_filter]
    simp only [Bool.and_eq_true, decide_eq_true_eq, Option.any_eq_true]
    exact ⟨he, hpending, hdue⟩

end SendQueue

namespace AgentTables

/-! ## Results -/

/-- **When a batch is served**: whatever the queue and the tables hold, `get_queued_metrics` serves
its batch exactly when every entry of it has a count that is an `i32`, and the build can read it. -/
theorem servesBatch_iff_readable (features : Features) (json : JsonText) (tables : AgentTables)
    (now batchSize : Nat) :
    tables.ServesBatch features json now batchSize ↔
      ∀ e ∈ SendQueue.readyEntries tables.queue now batchSize,
        e.2.CountFits ∧ tables.Readable features json e.2 := by
  unfold ServesBatch getQueuedMetricsIn
  rcases SendQueue.getPendingQueueEntries_eq tables.queue now batchSize with
    ⟨hfit, hentries⟩ | ⟨hfit, error, hentries⟩
  · rw [hentries]
    constructor
    · rintro ⟨batch, -, hok, -⟩ e he
      refine ⟨hfit e he, ?_⟩
      by_contra hbad
      obtain ⟨err, herr⟩ := tables.loadEntriesIn_error he hbad
      rw [herr] at hok
      cases hok
    · intro hread
      obtain ⟨hmetrics, hrows⟩ := tables.loadEntriesIn_ok fun e he => (hread e he).2
      have hfirst := SendQueue.firstReady_readyEntries tables.queue now batchSize
      refine ⟨_, hfirst, hmetrics, tables.loadEntriesIn_agg _, fun e => ?_⟩
      rw [hrows e]
      refine and_congr_right fun he => not_congr ?_
      constructor
      · rintro ⟨d, hd, hid, hgone⟩
        obtain rfl := tables.queue.id_injective (hfirst.ready d hd).1 he hid
        exact ⟨hd, hgone⟩
      · rintro ⟨hmem, hgone⟩
        exact ⟨e, hmem, rfl, hgone⟩
  · rw [hentries]
    constructor
    · rintro ⟨batch, -, hok, -⟩
      cases hok
    · intro hread
      exact absurd (fun e he => (hread e he).1) hfit

/-! ## A database of another build -/

/-- A build with all features stores an aggregate of a SQL query, and then one of a ping. -/
def queryThenPing : Except DatabaseError AgentTables := do
  let (tables, _) ← AgentTables.empty.storeAndEnqueueAggregatedMetrics pairText 60
    ⟨"query", .sqlQuery, 0, 60, 1, .sqlQuery default⟩
  let (tables, _) ← tables.storeAndEnqueueAggregatedMetrics pairText 61
    ⟨"ping", .ping, 0, 60, 1, .ping default⟩
  return tables

/-- A build without SQL tasks gets neither of them. -/
theorem not_servesBatch_queryThenPing :
    ∃ tables, queryThenPing = .ok tables ∧
      (tables.queue.rows.filterMap (tables.loadable ⟨false, true⟩ pairText)).length = 1 ∧
      ¬ tables.ServesBatch ⟨false, true⟩ pairText 120 50 := by
  obtain ⟨tables, htables⟩ : ∃ tables, queryThenPing = .ok tables := ⟨_, rfl⟩
  have hrun : queryThenPing.toOption.map (fun tables =>
      ((tables.queue.rows.filterMap (tables.loadable ⟨false, true⟩ pairText)).length,
        (tables.getQueuedMetricsIn ⟨false, true⟩ pairText 120 50).2.toOption.isSome)) =
      some (1, false) := by rfl
  rw [htables] at hrun
  obtain ⟨hone, herr⟩ := Prod.mk.inj (Option.some.inj hrun)
  refine ⟨tables, htables, hone, ?_⟩
  rintro ⟨batch, -, hok, -⟩
  rw [hok] at herr
  cases herr

end AgentTables

end LinkSense
