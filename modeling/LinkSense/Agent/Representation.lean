import LinkSense.Agent.Columns

/-!
# Rows and their columns

The tables of `AgentTables` with their columns, and the database of rows that the agent's other
modules are about.  The columns of a database represent its rows, and the code that works on the
columns does what the database of rows says.

    both store and enqueue an aggregate under the same id      (Represents.storeAndEnqueue)
    both load the same aggregates                              (Represents.loadAggregatedMetric)
    both collect the same batch, and drop the same entries     (Represents.getQueuedMetrics)
-/

namespace LinkSense

open Sql Wire

/-! ## Batches -/

namespace AgentTables

variable (json : JsonText)

/-- The loop of `get_queued_metrics`, over the columns. -/
def loadEntries (tables : AgentTables) : List (Nat × QueueRow) →
    AgentTables × Except DatabaseError (List (Nat × AggregatedMetrics))
  | [] => (tables, .ok [])
  | (id, entry) :: entries =>
    match tables.fetchMetricByTypeAndId json entry.metricType entry.metricRowId with
    | .error e => (tables, .error e)
    | .ok none =>
      loadEntries { tables with queue := SendQueue.removeFromQueue tables.queue id } entries
    | .ok (some metric) =>
      match loadEntries tables entries with
      | (tables, .error e) => (tables, .error e)
      | (tables, .ok metrics) => (tables, .ok ((id, metric) :: metrics))

/-- `get_queued_metrics`. -/
def getQueuedMetrics (tables : AgentTables) (now batchSize : Nat) :
    AgentTables × Except DatabaseError (List (Nat × AggregatedMetrics)) :=
  match SendQueue.getPendingQueueEntries tables.queue now batchSize with
  | .error e => (tables, .error (.other e))
  | .ok entries => tables.loadEntries json entries

end AgentTables

/-! ## Representation -/

/-- The row that an aggregate is stored in. -/
def AggregatedMetrics.row (m : AggregatedMetrics) : AggRow :=
  ⟨m.taskName, m.periodStart, m.periodEnd, m.sampleCount, m.data⟩

/-- The columns of a row. -/
def AggRow.columns (json : JsonText) (r : AggRow) : List Value :=
  [toSql r.taskName, toSql (asI64 r.periodStart), toSql (asI64 r.periodEnd), toSql r.sampleCount] ++
    r.data.params json

/-- The columns of a kind can hold the row. -/
structure AggRow.Held (json : JsonText) (kind : MetricKind) (r : AggRow) : Prop where
  kind_eq : r.data.kind = some kind
  periodStart_lt : r.periodStart < 2 ^ 64
  periodEnd_lt : r.periodEnd < 2 ^ 64
  wellFormed : r.data.WellFormed
  fits : r.data.FitsColumns
  text : ∀ j ∈ r.data.jsonColumns, json.read (json.write j) = some j

/-- The tables hold the columns of the rows of a database. -/
structure Represents (json : JsonText) (tables : AgentTables) (db : AgentDatabase) : Prop where
  mirrors : ∀ kind, (db.agg kind).Mirrors (AggRow.columns json) (tables.agg kind)
  held : ∀ kind, ∀ r ∈ (db.agg kind).rows, r.2.Held json kind
  queue : tables.queue = db.queue

/-! ## Lemmas -/

variable {json : JsonText} {tables : AgentTables} {db : AgentDatabase}

theorem asI64_injective {m n : Nat} (hm : m < 2 ^ 64) (hn : n < 2 ^ 64) (h : asI64 m = asI64 n) :
    m = n := by
  rw [← asU64_asI64 hm, h, asU64_asI64 hn]

theorem uniqueKey_columns (json : JsonText) (kind : MetricKind) (r : AggRow) :
    uniqueKey kind.schema periodKey (r.columns json) =
      some [toSql r.taskName, toSql (asI64 r.periodStart), toSql (asI64 r.periodEnd)] := rfl

/-- Columns are in conflict where their rows are. -/
theorem conflict_iff {kind : MetricKind} {r x : AggRow} (hr : r.Held json kind)
    (hx : x.Held json kind) :
    (∃ k, uniqueKey kind.schema periodKey (r.columns json) = some k ∧
      uniqueKey kind.schema periodKey (x.columns json) = some k) ↔
    ∃ k, r.key = some k ∧ x.key = some k := by
  rw [uniqueKey_columns, uniqueKey_columns]
  constructor
  · rintro ⟨k, hrk, hxk⟩
    have heq := Option.some.inj (hrk.trans hxk.symm)
    obtain ⟨hname, heq⟩ := List.cons.inj heq
    obtain ⟨hstart, heq⟩ := List.cons.inj heq
    obtain ⟨hend, -⟩ := List.cons.inj heq
    have hname : r.taskName = x.taskName := Value.text.inj hname
    have hstart := asI64_injective hr.periodStart_lt hx.periodStart_lt (Value.integer.inj hstart)
    have hend := asI64_injective hr.periodEnd_lt hx.periodEnd_lt (Value.integer.inj hend)
    refine ⟨_, rfl, ?_⟩
    unfold AggRow.key
    rw [hname, hstart, hend]
  · rintro ⟨k, hrk, hxk⟩
    obtain ⟨hname, heq⟩ := Prod.mk.inj (Option.some.inj (hrk.trans hxk.symm))
    obtain ⟨hstart, hend⟩ := Prod.mk.inj heq
    refine ⟨_, rfl, ?_⟩
    rw [hname, hstart, hend]

/-- A row that is not there is not found in the columns. -/
theorem loadAggregatedMetric_none {kind : MetricKind} {id : Nat}
    (h : (tables.agg kind).get id = none) : tables.loadAggregatedMetric json kind id = .ok none := by
  have hmodule {α : Type} {m : MetricModule α} (hnames : m.Names)
      (h : (tables.agg m.kind).get id = none) : m.loadAggregatedMetric tables id = .ok none := by
    unfold MetricModule.loadAggregatedMetric selectById
    rw [unknownColumn_eq_none fun _ => hnames.mem_selected, h]
    rfl
  cases kind with
  | ping => exact hmodule dbPing_names h
  | tcp => exact hmodule dbTcp_names h
  | http => exact hmodule (dbHttp_names json) h
  | tls => exact hmodule dbTls_names h
  | httpContent => exact hmodule dbHttpContent_names h
  | dns => exact hmodule (dbDns_names json) h
  | bandwidth => exact hmodule dbBandwidth_names h
  | sqlQuery => exact hmodule dbSql_names h
  | snmp => exact hmodule dbSnmp_names h

theorem represents_initial (json : JsonText) : Represents json .empty .initial where
  mirrors _ := ⟨rfl, rfl⟩
  held _ := by
    intro r hr
    cases hr
  queue := rfl

namespace Represents

/-! ## Storing -/

/-- **An aggregate is stored under the same id**, and its columns represent its row. -/
theorem storeAggregatedMetric (h : Represents json tables db) {m : AggregatedMetrics}
    {kind : MetricKind} (hm : m.row.Held json kind) :
    ∃ tables' db' id, tables.storeAggregatedMetric json m = .ok (tables', id) ∧
      db.storeAggregatedMetric m = .ok (db', kind, id) ∧ Represents json tables' db' := by
  obtain ⟨α, module, a, rfl, hmodule⟩ := exists_module hm.kind_eq hm.wellFormed hm.fits hm.text
  have hparams : module.rowParams m a = m.row.columns json := by
    unfold MetricModule.rowParams AggRow.columns
    rw [← hmodule.params_eq]
    rfl
  obtain ⟨hmirrors, hid⟩ := (h.mirrors module.kind).insertOrReplace (x := m.row) fun r hr =>
    conflict_iff (h.held _ r hr) hm
  have hstored : db.storeAggregatedMetric m = .ok
      (⟨db.raw, Function.update db.agg module.kind
        ((db.agg module.kind).insertOrReplace m.row).1, db.queue⟩,
        module.kind, ((db.agg module.kind).insertOrReplace m.row).2) := by
    unfold AgentDatabase.storeAggregatedMetric
    have hkind : m.data.kind = some module.kind := hm.kind_eq
    rw [hkind]
    rfl
  have hstore : tables.storeAggregatedMetric json m = .ok
      (⟨Function.update tables.agg module.kind
        ((tables.agg module.kind).insertOrReplace (m.row.columns json)).1, tables.queue⟩,
        ((db.agg module.kind).insertOrReplace m.row).2) := by
    rw [hmodule.store tables m rfl, hmodule.matched.names.store_eq hmodule.matched.suits, hparams, hid]
    rfl
  refine ⟨_, _, _, hstore, hstored, fun kind => ?_, fun kind r hr => ?_, h.queue⟩
  · dsimp only
    by_cases hk : kind = module.kind
    · subst hk
      rw [Function.update_self, Function.update_self]
      exact hmirrors
    · rw [Function.update_of_ne hk, Function.update_of_ne hk]
      exact h.mirrors kind
  · dsimp only at hr
    by_cases hk : kind = module.kind
    · subst hk
      rw [Function.update_self, Table.mem_rows_insertOrReplace_iff] at hr
      rcases hr with hr | rfl
      · exact h.held _ r hr.1
      · exact hm
    · rw [Function.update_of_ne hk] at hr
      exact h.held kind r hr

theorem enqueueMetricForSend (h : Represents json tables db) {m : AggregatedMetrics}
    {kind : MetricKind} (hkind : m.data.kind = some kind) (now id : Nat) :
    ∃ tables' db', tables.enqueueMetricForSend now m id = .ok tables' ∧
      db.enqueueMetricForSend now m id = .ok db' ∧ Represents json tables' db' := by
  unfold AgentTables.enqueueMetricForSend AgentDatabase.enqueueMetricForSend
    SendQueue.enqueueMetricForSend
  rw [hkind, h.queue]
  exact ⟨_, _, rfl, rfl, h.mirrors, h.held, rfl⟩

/-- **Store and enqueue** come to the same over rows and over columns. -/
theorem storeAndEnqueue (h : Represents json tables db) {m : AggregatedMetrics}
    {kind : MetricKind} (hm : m.row.Held json kind) (now : Nat) :
    ∃ tables' db' id, tables.storeAndEnqueueAggregatedMetrics json now m = .ok (tables', id) ∧
      db.storeAndEnqueueAggregatedMetrics now m = .ok db' ∧ Represents json tables' db' := by
  obtain ⟨tables₁, db₁, id, hstore, hstored, h₁⟩ := h.storeAggregatedMetric hm
  obtain ⟨tables₂, db₂, henqueue, henqueued, h₂⟩ := h₁.enqueueMetricForSend hm.kind_eq now id
  refine ⟨tables₂, db₂, id, ?_, ?_, h₂⟩
  · unfold AgentTables.storeAndEnqueueAggregatedMetrics
    rw [hstore, ok_bind]
    dsimp only
    rw [henqueue]
    rfl
  · unfold AgentDatabase.storeAndEnqueueAggregatedMetrics
    rw [hstored]
    exact henqueued

/-! ## Loading -/

/-- **What is loaded from the columns** is what the row says. -/
theorem loadAggregatedMetric (h : Represents json tables db) (kind : MetricKind) (id : Nat) :
    tables.loadAggregatedMetric json kind id = .ok (db.loadAggregatedMetric kind id) := by
  have hget := (h.mirrors kind).get id
  unfold AgentDatabase.loadAggregatedMetric
  cases hrow : (db.agg kind).get id with
  | none =>
    rw [hrow] at hget
    exact loadAggregatedMetric_none hget
  | some r =>
    rw [hrow, Option.map_some] at hget
    have hr := h.held kind (id, r) (((db.agg kind).get_eq_some_iff id r).1 hrow)
    obtain ⟨α, module, a, rfl, hmodule⟩ := exists_module hr.kind_eq hr.wellFormed hr.fits hr.text
    rw [hmodule.load]
    have hcolumns : r.columns json = module.rowParams
        ⟨r.taskName, module.kind.taskType, r.periodStart, r.periodEnd, r.sampleCount, r.data⟩ a := by
      unfold MetricModule.rowParams AggRow.columns
      rw [hmodule.params_eq]
    rw [hcolumns] at hget
    exact hmodule.matched.load_eq hr.periodStart_lt hr.periodEnd_lt rfl hmodule.data_eq hget

/-- One entry after the other: the same metrics, and the same entries that leave the queue. -/
theorem loadEntries (h : Represents json tables db) (entries : List (Nat × QueueRow)) :
    Represents json (tables.loadEntries json entries).1 (db.loadEntries entries).1 ∧
      (tables.loadEntries json entries).2 = (db.loadEntries entries).2.mapError .other := by
  induction entries generalizing tables db with
  | nil => exact ⟨h, rfl⟩
  | cons e entries ih =>
    obtain ⟨id, entry⟩ := e
    unfold AgentTables.loadEntries AgentDatabase.loadEntries AgentTables.fetchMetricByTypeAndId
    cases hkind : kindOfQueueType entry.metricType with
    | none => exact ⟨h, rfl⟩
    | some kind =>
      dsimp only
      rw [h.loadAggregatedMetric]
      cases hmetric : db.loadAggregatedMetric kind entry.metricRowId with
      | none =>
        have hremoved : Represents json
            { tables with queue := SendQueue.removeFromQueue tables.queue id }
            { db with queue := SendQueue.removeFromQueue db.queue id } :=
          ⟨h.mirrors, h.held, congrArg (SendQueue.removeFromQueue · id) h.queue⟩
        exact ih hremoved
      | some metric =>
        have hrest := ih h
        dsimp only [Except.mapError]
        cases hl : tables.loadEntries json entries with
        | mk tables' result =>
          cases hd : db.loadEntries entries with
          | mk db' result' =>
            rw [hl, hd] at hrest
            obtain ⟨hrest, rfl⟩ := hrest
            cases result' with
            | error e => exact ⟨hrest, rfl⟩
            | ok metrics => exact ⟨hrest, rfl⟩

theorem getQueuedMetrics (h : Represents json tables db) (now batchSize : Nat) :
    Represents json (tables.getQueuedMetrics json now batchSize).1
        (db.getQueuedMetrics now batchSize).1 ∧
      (tables.getQueuedMetrics json now batchSize).2 =
        (db.getQueuedMetrics now batchSize).2.mapError .other := by
  unfold AgentTables.getQueuedMetrics AgentDatabase.getQueuedMetrics
  rw [h.queue]
  cases SendQueue.getPendingQueueEntries db.queue now batchSize with
  | error e => exact ⟨h, rfl⟩
  | ok entries => exact h.loadEntries entries

end Represents

end LinkSense
