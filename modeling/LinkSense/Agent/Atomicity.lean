import LinkSense.Agent.Representation

/-!
# Storing and enqueuing, interrupted

`store_and_enqueue_aggregated_metrics` is two statements of their own, in no transaction.  When it
ends after the first, by an error of the second or with its process, the aggregate is stored under an
id that no entry of the queue has.

    every aggregate of a type is stored, whatever its columns hold        (storeAggregatedMetric_eq)
    both the aggregate and an entry for it are there, or the tables are as before ↔
      the call does not end between its statements, or there already is such an entry  (atomic_iff)
-/

namespace LinkSense

open Sql Wire

namespace AgentTables

variable (json : JsonText)

/-- `store_and_enqueue_aggregated_metrics`, when it ends after `done` of its two statements. -/
def storeAndEnqueueUpTo (tables : AgentTables) (now : Nat) (metrics : AggregatedMetrics)
    (done : Nat) : AgentTables :=
  match tables.storeAggregatedMetric json metrics with
  | .error _ => tables
  | .ok (stored, rowId) =>
    if done = 0 then tables
    else if done = 1 then stored
    else
      match stored.enqueueMetricForSend now metrics rowId with
      | .error _ => stored
      | .ok enqueued => enqueued

def columnsOf (metrics : AggregatedMetrics) : List Value :=
  [toSql metrics.taskName, toSql (asI64 metrics.periodStart), toSql (asI64 metrics.periodEnd),
    toSql metrics.sampleCount] ++ metrics.data.params json

/-- There is an entry for the aggregate with this id. -/
def HasEntry (tables : AgentTables) (kind : MetricKind) (id : Nat) : Prop :=
  ∃ e ∈ tables.queue.values, e.metricType = kind.queueType ∧ e.metricRowId = id

/-- The tables are as they were, or they hold the aggregate and an entry for it. -/
def Atomic (tables tables' : AgentTables) (metrics : AggregatedMetrics) : Prop :=
  tables' = tables ∨ ∃ kind id, metrics.data.kind = some kind ∧
    (tables'.agg kind).get id = some (columnsOf json metrics) ∧ tables'.HasEntry kind id

/-! ## The statements -/

variable {json}

/-- **Storing an aggregate**, of any of the nine types. -/
theorem storeAggregatedMetric_eq (tables : AgentTables) {metrics : AggregatedMetrics}
    {kind : MetricKind} (hkind : metrics.data.kind = some kind) :
    tables.storeAggregatedMetric json metrics = .ok
      (⟨Function.update tables.agg kind
        ((tables.agg kind).insertOrReplace (columnsOf json metrics)).1, tables.queue⟩,
        (tables.agg kind).nextId) := by
  obtain ⟨taskName, taskType, periodStart, periodEnd, sampleCount, data⟩ := metrics
  have hstore {α : Type} {m : MetricModule α} {a : α} (hnames : m.Names)
      (hsuits : List.Forall₂ Column.Suits m.kind.columns (m.params a)) :
      (m.storeAggregatedMetric tables
        ⟨taskName, taskType, periodStart, periodEnd, sampleCount, data⟩ a).mapError .sql =
        (.ok (⟨Function.update tables.agg m.kind
          ((tables.agg m.kind).insertOrReplace ([toSql taskName, toSql (asI64 periodStart),
            toSql (asI64 periodEnd), toSql sampleCount] ++ m.params a)).1, tables.queue⟩,
          (tables.agg m.kind).nextId) : Except DatabaseError (AgentTables × Nat)) := by
    rw [hnames.store_eq hsuits]
    rfl
  cases data with
  | unknown => cases hkind
  | ping data =>
    obtain rfl := Option.some.inj hkind
    exact hstore dbPing_names (dbPing_matches data).suits
  | tcp data =>
    obtain rfl := Option.some.inj hkind
    exact hstore dbTcp_names (dbTcp_matches data).suits
  | httpGet data =>
    obtain rfl := Option.some.inj hkind
    exact hstore (dbHttp_names json) (by simp [dbHttp, MetricKind.columns])
  | httpContent data =>
    obtain rfl := Option.some.inj hkind
    exact hstore dbHttpContent_names (dbHttpContent_matches data).suits
  | tlsHandshake data =>
    obtain rfl := Option.some.inj hkind
    exact hstore dbTls_names (dbTls_matches data).suits
  | dnsQuery data =>
    obtain rfl := Option.some.inj hkind
    exact hstore (dbDns_names json) (by simp [dbDns, MetricKind.columns])
  | bandwidth data =>
    obtain rfl := Option.some.inj hkind
    exact hstore dbBandwidth_names (dbBandwidth_matches data).suits
  | sqlQuery data =>
    obtain rfl := Option.some.inj hkind
    exact hstore dbSql_names (by simp [dbSql, MetricKind.columns])
  | snmp data =>
    obtain rfl := Option.some.inj hkind
    exact hstore dbSnmp_names (dbSnmp_matches data).suits

theorem storeAggregatedMetric_unknown (tables : AgentTables) {metrics : AggregatedMetrics}
    (hkind : metrics.data.kind = none) : tables.storeAggregatedMetric json metrics =
      .error (.other "Unknown metric type cannot be stored") := by
  obtain ⟨taskName, taskType, periodStart, periodEnd, sampleCount, data⟩ := metrics
  cases data with
  | unknown => rfl
  | _ => cases hkind

theorem storeAndEnqueueUpTo_two (tables : AgentTables) (now : Nat) (metrics : AggregatedMetrics)
    {tables' : AgentTables} {id : Nat}
    (h : tables.storeAndEnqueueAggregatedMetrics json now metrics = .ok (tables', id)) :
    tables.storeAndEnqueueUpTo json now metrics 2 = tables' := by
  unfold storeAndEnqueueAggregatedMetrics at h
  unfold storeAndEnqueueUpTo
  cases hs : tables.storeAggregatedMetric json metrics with
  | error e =>
    rw [hs] at h
    cases h
  | ok r =>
    obtain ⟨stored, rowId⟩ := r
    rw [hs, ok_bind] at h
    dsimp only at h ⊢
    cases he : stored.enqueueMetricForSend now metrics rowId with
    | error e =>
      rw [he] at h
      cases h
    | ok enqueued =>
      rw [he] at h
      cases h
      rfl

theorem get_stored (json : JsonText) (tables : AgentTables) (kind : MetricKind)
    (metrics : AggregatedMetrics) :
    (Function.update tables.agg kind
      ((tables.agg kind).insertOrReplace (columnsOf json metrics)).1 kind).get
        (tables.agg kind).nextId = some (columnsOf json metrics) := by
  rw [Function.update_self]
  exact (tables.agg kind).get_insertOrReplace _

theorem atomic_stored_iff (tables : AgentTables) {metrics : AggregatedMetrics} {kind : MetricKind}
    (hkind : metrics.data.kind = some kind) :
    Atomic json tables ⟨Function.update tables.agg kind
      ((tables.agg kind).insertOrReplace (columnsOf json metrics)).1, tables.queue⟩ metrics ↔
        tables.HasEntry kind (tables.agg kind).nextId := by
  have hrow := get_stored json tables kind metrics
  constructor
  · rintro (hsame | ⟨k, id, hk, hget, hentry⟩)
    · -- the new row is not one of the old
      have hagg := congrFun (congrArg AgentTables.agg hsame) kind
      dsimp only at hagg
      rw [hagg, Table.get_eq_some_iff] at hrow
      exact absurd ((tables.agg kind).ids_lt _ hrow) (lt_irrefl _)
    · obtain rfl := Option.some.inj (hkind.symm.trans hk)
      -- the aggregate is there once, under its new id
      have hkey : uniqueKey kind.schema periodKey (columnsOf json metrics) =
          some [toSql metrics.taskName, toSql (asI64 metrics.periodStart),
            toSql (asI64 metrics.periodEnd)] := rfl
      rw [Table.get_eq_some_iff] at hget hrow
      have hsame := Table.key_injective _ hget hrow hkey hkey
      obtain rfl : id = (tables.agg kind).nextId := congrArg Prod.fst hsame
      exact hentry
  · intro hentry
    exact .inr ⟨kind, _, hkind, hrow, hentry⟩

/-! ## Results -/

/-- **When storing and enqueuing is atomic**: for every aggregate, all tables and every point at which
the call ends, the tables are whole unless the call ends between its statements and no entry happens
to have the new id. -/
theorem atomic_iff (json : JsonText) (tables : AgentTables) (now : Nat) (metrics : AggregatedMetrics)
    (done : Nat) :
    Atomic json tables (tables.storeAndEnqueueUpTo json now metrics done) metrics ↔
      (done = 1 → ∀ kind, metrics.data.kind = some kind →
        tables.HasEntry kind (tables.agg kind).nextId) := by
  cases hkind : metrics.data.kind with
  | none =>
    have hsame : tables.storeAndEnqueueUpTo json now metrics done = tables := by
      unfold storeAndEnqueueUpTo
      rw [storeAggregatedMetric_unknown tables hkind]
    rw [hsame]
    refine ⟨fun _ _ kind hk => ?_, fun _ => .inl rfl⟩
    cases hk
  | some kind =>
    unfold storeAndEnqueueUpTo
    rw [storeAggregatedMetric_eq tables hkind]
    dsimp only
    by_cases h0 : done = 0
    · rw [if_pos h0]
      exact ⟨fun _ h1 => by omega, fun _ => .inl rfl⟩
    · rw [if_neg h0]
      by_cases h1 : done = 1
      · rw [if_pos h1, atomic_stored_iff tables hkind]
        constructor
        · rintro hentry - kind' hkind'
          obtain rfl := Option.some.inj hkind'
          exact hentry
        · intro h
          exact h h1 kind rfl
      · rw [if_neg h1]
        refine ⟨fun _ h => absurd h h1, fun _ => .inr ⟨kind, (tables.agg kind).nextId, hkind, ?_⟩⟩
        let stored : AgentTables := ⟨Function.update tables.agg kind
          ((tables.agg kind).insertOrReplace (columnsOf json metrics)).1, tables.queue⟩
        obtain ⟨enqueued, he, hagg, hentry⟩ := stored.exists_entry hkind now (tables.agg kind).nextId
        rw [he]
        dsimp only
        rw [hagg]
        exact ⟨get_stored json tables kind metrics, hentry⟩

/-! ## An agent that ends in between -/

/-- The first aggregate of a new agent, which is killed before it is in the queue. -/
theorem not_atomic_killed :
    ¬ Atomic pairText .empty
      (AgentTables.empty.storeAndEnqueueUpTo pairText 120
        ⟨"ping", .ping, 60, 120, 1, .ping default⟩ 1)
      ⟨"ping", .ping, 60, 120, 1, .ping default⟩ := by
  rintro (hsame | ⟨kind, id, -, -, e, he, -⟩)
  · have hagg := congrArg (fun tables : AgentTables => (tables.agg .ping).nextId) hsame
    cases hagg
  · cases he

end AgentTables

end LinkSense
