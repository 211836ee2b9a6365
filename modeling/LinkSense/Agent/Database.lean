import LinkSense.Agent.Queue
import Mathlib.Logic.Function.Basic

/-!
# The agent's database

The tables of `agent/src/database.rs` and its nine metric modules: raw measurements, per-minute
aggregates and the send queue.  The modules differ in their columns only; how the columns of an
aggregate follow from the raw rows is left open (`Summary`).

    db.generateAggregatedMetrics … = none ↔ no raw row of the task lies in the window
                                                          (generateAggregatedMetrics_eq_none_iff)
-/

namespace LinkSense

open Sql

/-! ## Tables -/

structure RawRow where
  taskName : String
  timestamp : Nat
  data : RawMetricData
deriving DecidableEq, Repr

def RawRow.key (_ : RawRow) : Option Unit := none

structure AggRow where
  taskName : String
  periodStart : Nat
  periodEnd : Nat
  sampleCount : UInt32
  data : AggregatedMetricData
deriving DecidableEq, Repr

/-- `UNIQUE(task_name, period_start, period_end)`. -/
def AggRow.key (r : AggRow) : Option (String × Nat × Nat) :=
  some (r.taskName, r.periodStart, r.periodEnd)

structure AgentDatabase where
  raw : MetricKind → Table RawRow.key
  agg : MetricKind → Table AggRow.key
  queue : SendQueue

/-- The table that a type of task writes to. -/
def TaskType.kind : TaskType → MetricKind
  | .ping => .ping
  | .tcp => .tcp
  | .httpGet => .http
  | .httpContent => .httpContent
  | .tlsHandshake => .tls
  | .dnsQuery => .dns
  | .dnsQueryDoh => .dns
  | .bandwidth => .bandwidth
  | .sqlQuery => .sqlQuery
  | .snmp => .snmp

/-- The type that a module gives its aggregates. -/
def MetricKind.taskType : MetricKind → TaskType
  | .ping => .ping
  | .tcp => .tcp
  | .http => .httpGet
  | .httpContent => .httpContent
  | .tls => .tlsHandshake
  | .dns => .dnsQuery
  | .bandwidth => .bandwidth
  | .sqlQuery => .sqlQuery
  | .snmp => .snmp

/-- The columns of an aggregate, from the raw rows of its window. -/
structure Summary where
  sampleCount : MetricKind → List RawRow → UInt32
  data : MetricKind → List RawRow → AggregatedMetricData
  kind_data : ∀ kind rows, (data kind rows).kind = some kind

namespace AgentDatabase

/-- The database of an agent that starts for the first time. -/
def initial : AgentDatabase := ⟨fun _ => .empty _, fun _ => .empty _, .empty _⟩

/-! ## Raw metrics -/

/-- `store_raw_metric`. -/
def storeRawMetric (db : AgentDatabase) (metric : MetricData) : Except String AgentDatabase :=
  match metric.data.kind with
  | none => .error "Unknown metric type cannot be stored"
  | some kind =>
    .ok { db with
      raw := Function.update db.raw kind
        ((db.raw kind).insertOrIgnore ⟨metric.taskName, metric.timestamp, metric.data⟩) }

/-- The raw rows of a task with `periodStart ≤ timestamp < periodEnd`. -/
def window (db : AgentDatabase) (kind : MetricKind) (taskName : String)
    (periodStart periodEnd : Nat) : List (Nat × RawRow) :=
  (db.raw kind).rows.filter fun r => r.2.taskName = taskName &&
    (periodStart ≤ r.2.timestamp && r.2.timestamp < periodEnd)

/-! ## Aggregates -/

/-- `generate_aggregated_metrics`. -/
def generateAggregatedMetrics (summary : Summary) (db : AgentDatabase) (taskName : String)
    (taskType : TaskType) (periodStart periodEnd : Nat) : Option AggregatedMetrics :=
  let kind := taskType.kind
  let rows := (db.window kind taskName periodStart periodEnd).map Prod.snd
  if rows = [] then none
  else some ⟨taskName, kind.taskType, periodStart, periodEnd, summary.sampleCount kind rows,
    summary.data kind rows⟩

/-- `store_aggregated_metric` of the nine modules, with the id of the new row. -/
def storeAggregatedMetric (db : AgentDatabase) (metric : AggregatedMetrics) :
    Except String (AgentDatabase × MetricKind × Nat) :=
  match metric.data.kind with
  | none => .error "Unknown metric type cannot be stored"
  | some kind =>
    let (table, id) := (db.agg kind).insertOrReplace
      ⟨metric.taskName, metric.periodStart, metric.periodEnd, metric.sampleCount, metric.data⟩
    .ok ({ db with agg := Function.update db.agg kind table }, kind, id)

def enqueueMetricForSend (db : AgentDatabase) (now : Nat) (metric : AggregatedMetrics)
    (metricRowId : Nat) : Except String AgentDatabase :=
  match SendQueue.enqueueMetricForSend db.queue now metric metricRowId with
  | .error e => .error e
  | .ok queue => .ok { db with queue := queue }

/-- `store_and_enqueue_aggregated_metrics`, when nothing comes between its two statements. -/
def storeAndEnqueueAggregatedMetrics (db : AgentDatabase) (now : Nat)
    (metric : AggregatedMetrics) : Except String AgentDatabase :=
  match db.storeAggregatedMetric metric with
  | .error e => .error e
  | .ok (db, _, id) => db.enqueueMetricForSend now metric id

/-- `load_aggregated_metric` of the nine modules. -/
def loadAggregatedMetric (db : AgentDatabase) (kind : MetricKind) (id : Nat) :
    Option AggregatedMetrics :=
  ((db.agg kind).get id).map fun r =>
    ⟨r.taskName, kind.taskType, r.periodStart, r.periodEnd, r.sampleCount, r.data⟩

/-! ## Sending -/

/-- The loop of `get_queued_metrics`: an entry whose metric is gone leaves the queue. -/
def loadEntries (db : AgentDatabase) :
    List (Nat × QueueRow) → AgentDatabase × Except String (List (Nat × AggregatedMetrics))
  | [] => (db, .ok [])
  | (id, entry) :: entries =>
    match kindOfQueueType entry.metricType with
    | none => (db, .error s!"Unknown metric type: {entry.metricType}")
    | some kind =>
      match db.loadAggregatedMetric kind entry.metricRowId with
      | none => loadEntries { db with queue := SendQueue.removeFromQueue db.queue id } entries
      | some metric =>
        match loadEntries db entries with
        | (db, .error e) => (db, .error e)
        | (db, .ok metrics) => (db, .ok ((id, metric) :: metrics))

/-- `get_queued_metrics`. -/
def getQueuedMetrics (db : AgentDatabase) (now batchSize : Nat) :
    AgentDatabase × Except String (List (Nat × AggregatedMetrics)) :=
  match SendQueue.getPendingQueueEntries db.queue now batchSize with
  | .error e => (db, .error e)
  | .ok entries => db.loadEntries entries

/-- `get_queued_metrics`, when it ends after `n` entries. -/
def loadSomeEntries (db : AgentDatabase) (now batchSize n : Nat) : AgentDatabase :=
  match SendQueue.getPendingQueueEntries db.queue now batchSize with
  | .error _ => db
  | .ok entries => (db.loadEntries (entries.take n)).1

/-! ## Retention -/

/-- The first statement of `cleanup_old_data` in a metric module. -/
def cleanupRaw (cutoffTime : Nat) (kind : MetricKind) (db : AgentDatabase) : AgentDatabase :=
  { db with
    raw := Function.update db.raw kind ((db.raw kind).delete fun _ r => r.timestamp < cutoffTime) }

/-- The second: an aggregate stays while an entry of the queue waits for it. -/
def cleanupAgg (cutoffTime : Nat) (kind : MetricKind) (db : AgentDatabase) : AgentDatabase :=
  let queued := fun id => db.queue.values.any fun e =>
    e.metricType = kind.queueType && e.metricRowId = id && e.status ≠ .sent
  { db with
    agg := Function.update db.agg kind ((db.agg kind).delete fun id r =>
      r.periodEnd < cutoffTime && !queued id) }

/-- The statements of `cleanup_old_data` in their order. -/
def cleanupStatements (cutoffTime : Nat) : List (AgentDatabase → AgentDatabase) :=
  let kinds : List MetricKind :=
    [.ping, .tcp, .http, .tls, .dns, .bandwidth, .httpContent, .sqlQuery, .snmp]
  kinds.flatMap fun kind => [cleanupRaw cutoffTime kind, cleanupAgg cutoffTime kind]

/-- `cleanup_old_data`, when it ends after `done` of its eighteen statements. -/
def cleanupOldData (db : AgentDatabase) (now : Nat) (retentionDays : UInt32) (done : Nat) :
    AgentDatabase :=
  let cutoffTime := now - retentionDays.toNat * 24 * 60 * 60
  ((cleanupStatements cutoffTime).take done).foldl (fun db statement => statement db) db

/-! ## Lemmas -/

theorem loadSomeEntries_eq (db : AgentDatabase) (now batchSize n : Nat) :
    ∃ m, db.loadSomeEntries now batchSize n =
      (db.loadEntries ((SendQueue.readyEntries db.queue now batchSize).take m)).1 := by
  unfold loadSomeEntries
  rcases SendQueue.getPendingQueueEntries_eq db.queue now batchSize with
    ⟨-, hok⟩ | ⟨-, error, herror⟩
  · rw [hok]
    exact ⟨n, rfl⟩
  · rw [herror]
    exact ⟨0, rfl⟩

theorem getQueuedMetrics_fst (db : AgentDatabase) (now batchSize : Nat) :
    (db.getQueuedMetrics now batchSize).1 = db.loadSomeEntries now batchSize
      (SendQueue.readyEntries db.queue now batchSize).length := by
  unfold getQueuedMetrics loadSomeEntries
  rcases SendQueue.getPendingQueueEntries_eq db.queue now batchSize with
    ⟨-, hok⟩ | ⟨-, error, herror⟩
  · rw [hok]
    dsimp only
    rw [List.take_length]
  · rw [herror]

theorem getQueuedMetrics_of_ok {db : AgentDatabase} {now batchSize : Nat}
    {batch : List (Nat × AggregatedMetrics)}
    (h : (db.getQueuedMetrics now batchSize).2 = .ok batch) :
    db.getQueuedMetrics now batchSize =
      db.loadEntries (SendQueue.readyEntries db.queue now batchSize) := by
  unfold getQueuedMetrics at h ⊢
  rcases SendQueue.getPendingQueueEntries_eq db.queue now batchSize with
    ⟨-, hok⟩ | ⟨-, error, herror⟩
  · rw [hok]
  · rw [herror] at h
    cases h

/-- A relation that every statement of a cleanup satisfies, and the whole then does. -/
theorem cleanupOldData_induction {R : AgentDatabase → AgentDatabase → Prop} (hrefl : ∀ db, R db db)
    (htrans : ∀ db db₁ db₂, R db db₁ → R db₁ db₂ → R db db₂) (now : Nat) (retentionDays : UInt32)
    (hraw : ∀ kind db, R db (cleanupRaw (now - retentionDays.toNat * 24 * 60 * 60) kind db))
    (hagg : ∀ kind db, R db (cleanupAgg (now - retentionDays.toNat * 24 * 60 * 60) kind db))
    (db : AgentDatabase) (done : Nat) : R db (db.cleanupOldData now retentionDays done) := by
  unfold cleanupOldData
  dsimp only
  have hall : ∀ f ∈ (cleanupStatements (now - retentionDays.toNat * 24 * 60 * 60)).take done,
      ∀ db, R db (f db) := by
    intro f hf
    obtain ⟨kind, -, hf⟩ := List.mem_flatMap.1 (List.mem_of_mem_take hf)
    rcases List.mem_cons.1 hf with rfl | hf
    · exact hraw kind
    · rw [List.mem_singleton] at hf
      rw [hf]
      exact hagg kind
  generalize List.take done _ = statements at hall ⊢
  induction statements generalizing db with
  | nil => exact hrefl db
  | cons f fs ih =>
    rw [List.foldl_cons]
    have hrest := ih (f db) fun g hg => hall g (List.mem_cons_of_mem _ hg)
    exact htrans _ _ _ (hall f List.mem_cons_self db) hrest

/-- Where an aggregate is stored, the others of its table are the old ones. -/
theorem get_of_update_insertOrReplace {agg : MetricKind → Table AggRow.key} {kind k : MetricKind}
    {x row : AggRow} {id : Nat}
    (h : (Function.update agg kind ((agg kind).insertOrReplace x).1 k).get id = some row)
    (hlt : id < (agg k).nextId) : (agg k).get id = some row := by
  by_cases hk : k = kind
  · subst hk
    rw [Function.update_self, Table.get_eq_some_iff, Table.mem_rows_insertOrReplace_iff] at h
    rcases h with h | h
    · exact ((agg k).get_eq_some_iff id row).2 h.1
    · rw [(Prod.mk.inj h).1] at hlt
      exact absurd hlt (lt_irrefl _)
  · rwa [Function.update_of_ne hk] at h

theorem nextId_le_update_insertOrReplace (agg : MetricKind → Table AggRow.key) (kind : MetricKind)
    (x : AggRow) (k : MetricKind) :
    (agg k).nextId ≤ (Function.update agg kind ((agg kind).insertOrReplace x).1 k).nextId := by
  by_cases hk : k = kind
  · subst hk
    rw [Function.update_self]
    exact Nat.le_succ _
  · rw [Function.update_of_ne hk]

theorem generateAggregatedMetrics_eq_none_iff (summary : Summary) (db : AgentDatabase)
    (taskName : String) (taskType : TaskType) (periodStart periodEnd : Nat) :
    db.generateAggregatedMetrics summary taskName taskType periodStart periodEnd = none ↔
      db.window taskType.kind taskName periodStart periodEnd = [] := by
  unfold generateAggregatedMetrics
  by_cases h : db.window taskType.kind taskName periodStart periodEnd = []
  · simp [h]
  · simp [h]

end AgentDatabase

end LinkSense
