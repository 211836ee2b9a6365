import LinkSense.Agent.Delivery

/-!
# The agent's database under its callers

The database with every call that the agent makes of it, in any order and at any times: the two
halves of storing an aggregate are calls of their own, so others may come between them.  A restart
forgets the aggregates that were stored and not yet enqueued.

    a run of the agent is one of these calls                               (agent_storage)
    an entry of the queue points to the aggregate it was made for, or to none; retention leaves an
    aggregate alone while an entry that is not sent points to it              (storage_integrity)
-/

namespace LinkSense

open Labelled Sql

/-! ## Calls -/

/-- The database, and the aggregates that `store_aggregated_metric` has given an id and that are not
in the queue. -/
structure Storage where
  db : AgentDatabase
  stored : List (AggregatedMetrics × Nat)

inductive StorageCall where
  | storeRawMetric (metric : MetricData)
  | storeAggregatedMetric (metric : AggregatedMetrics)
  /-- Enqueue one of the stored aggregates. -/
  | enqueueMetricForSend (metric : AggregatedMetrics) (metricRowId : Nat)
  /-- `get_queued_metrics`, which ends after `n` entries. -/
  | getQueuedMetrics (batchSize n : Nat)
  | markAsSending (queueIds : List Nat)
  | markAsSent (queueIds : List Nat)
  | markAsFailed (queueId : Nat) (errorMsg : String) (maxRetries : Int)
  | removeFromQueue (queueId : Nat)
  | cleanupSentQueueEntries (olderThanHours : Nat)
  | cleanupFailedQueueEntries (olderThanDays : Nat)
  /-- `cleanup_old_data`, which ends after `done` of its statements. -/
  | cleanupOldData (retentionDays : UInt32) (done : Nat)
  | restart
deriving DecidableEq, Repr

namespace Storage

def withQueue (s : Storage) (queue : SendQueue) : Storage :=
  { s with db := { s.db with queue := queue } }

/-- A call at the time `now`; one that fails leaves the database as it is. -/
def next (s : Storage) (now : Nat) : StorageCall → Option Storage
  | .storeRawMetric metric =>
    match s.db.storeRawMetric metric with
    | .error _ => some s
    | .ok db => some { s with db := db }
  | .storeAggregatedMetric metric =>
    match s.db.storeAggregatedMetric metric with
    | .error _ => some s
    | .ok (db, _, id) => some ⟨db, s.stored ++ [(metric, id)]⟩
  | .enqueueMetricForSend metric id =>
    if (metric, id) ∈ s.stored then
      match s.db.enqueueMetricForSend now metric id with
      | .error _ => some s
      | .ok db => some ⟨db, s.stored.erase (metric, id)⟩
    else none
  | .getQueuedMetrics batchSize n =>
    some { s with db := s.db.loadSomeEntries now batchSize n }
  | .markAsSending ids => some (s.withQueue (SendQueue.markAsSending s.db.queue now ids))
  | .markAsSent ids => some (s.withQueue (SendQueue.markAsSent s.db.queue now ids))
  | .markAsFailed id errorMsg maxRetries =>
    match SendQueue.markAsFailed s.db.queue now id errorMsg maxRetries with
    | .error _ => some s
    | .ok queue => some (s.withQueue queue)
  | .removeFromQueue id => some (s.withQueue (SendQueue.removeFromQueue s.db.queue id))
  | .cleanupSentQueueEntries hours =>
    some (s.withQueue (SendQueue.cleanupSentQueueEntries s.db.queue now hours))
  | .cleanupFailedQueueEntries days =>
    some (s.withQueue (SendQueue.cleanupFailedQueueEntries s.db.queue now days))
  | .cleanupOldData retentionDays done =>
    some { s with db := s.db.cleanupOldData now retentionDays done }
  | .restart => some ⟨{ s.db with queue := SendQueue.recoverSendingEntries s.db.queue now }, []⟩

end Storage

/-- A new database, and any calls of it. -/
def storageMachine : Machine Storage (Nat × StorageCall) Unit where
  init := ⟨.initial, []⟩
  step s a := (s.next a.1 a.2).map (·, ())

abbrev StorageStep := Taken Storage (Nat × StorageCall) Unit

theorem storageMachine_step_iff {s s' : Storage} {now : Nat} {call : StorageCall} {b : Unit} :
    storageMachine.step s (now, call) = some (s', b) ↔ s.next now call = some s' := by
  unfold storageMachine
  dsimp only
  constructor
  · intro h
    obtain ⟨s₁, hs₁, he⟩ := Option.map_eq_some_iff.1 h
    rw [hs₁, (Prod.mk.inj he).1]
  · intro h
    rw [h]
    rfl

/-! ## What a call does -/

/-- Entries stay what they are but for their status, or go; aggregates go, or come under new ids. -/
structure StorageFrame (db db' : AgentDatabase) : Prop where
  queue : SendQueue.Evolves (fun _ _ _ => True) db.queue db'.queue
  agg : ∀ kind id row, (db'.agg kind).get id = some row → id < (db.agg kind).nextId →
    (db.agg kind).get id = some row
  nextId : ∀ kind, (db.agg kind).nextId ≤ (db'.agg kind).nextId

namespace StorageFrame

theorem of_queue {db db' : AgentDatabase} {R : Nat → QueueStatus → QueueStatus → Prop}
    (hagg : db'.agg = db.agg) (hq : SendQueue.Evolves R db.queue db'.queue) :
    StorageFrame db db' where
  queue := hq.mono fun _ _ _ _ => trivial
  agg := by
    intro kind id row h _
    rwa [hagg] at h
  nextId := by
    intro kind
    rw [hagg]

theorem of_eq {db db' : AgentDatabase} (hagg : db'.agg = db.agg) (hq : db'.queue = db.queue) :
    StorageFrame db db' := by
  refine .of_queue hagg (R := fun _ s s' => s' = s) (.of_subset fun e he => ?_)
  rwa [hq] at he

theorem of_delete {db db' : AgentDatabase} (hagg : db'.agg = db.agg)
    (hq : ∀ e ∈ db'.queue.rows, e ∈ db.queue.rows) : StorageFrame db db' :=
  .of_queue hagg (.of_subset hq)

end StorageFrame

/-- Storing an aggregate puts it under a new id of the table of its kind. -/
theorem AgentDatabase.storeAggregatedMetric_frame {db db' : AgentDatabase} {kind : MetricKind}
    {id : Nat} {metric : AggregatedMetrics}
    (h : db.storeAggregatedMetric metric = .ok (db', kind, id)) :
    StorageFrame db db' ∧ metric.data.kind = some kind ∧ id < (db'.agg kind).nextId ∧
      (db.agg kind).nextId ≤ id ∧
      (db'.agg kind).get id = some ⟨metric.taskName, metric.periodStart, metric.periodEnd,
        metric.sampleCount, metric.data⟩ := by
  unfold storeAggregatedMetric at h
  cases hk : metric.data.kind with
  | none =>
    rw [hk] at h
    cases h
  | some k =>
    rw [hk] at h
    have hok := Except.ok.inj h
    have hkind : k = kind := congrArg (fun r => r.2.1) hok
    subst hkind
    generalize hrow : AggRow.mk metric.taskName metric.periodStart metric.periodEnd
      metric.sampleCount metric.data = row at hok ⊢
    have hdb : { db with agg := Function.update db.agg k ((db.agg k).insertOrReplace row).1 } =
        db' := congrArg Prod.fst hok
    have hid : ((db.agg k).insertOrReplace row).2 = id := congrArg (fun r => r.2.2) hok
    have hget := (db.agg k).get_insertOrReplace row
    rw [hid] at hget
    subst hdb
    refine ⟨⟨?_, ?_, ?_⟩, rfl, ?_, ?_, ?_⟩
    · exact (SendQueue.Evolves.of_subset fun e he => he).mono fun _ _ _ _ => trivial
    · intro kind' i row hr hlt
      exact get_of_update_insertOrReplace hr hlt
    · intro kind'
      exact nextId_le_update_insertOrReplace db.agg k _ kind'
    · dsimp only
      rw [Function.update_self]
      exact Table.ids_lt _ _ ((Table.get_eq_some_iff _ _ _).1 hget)
    · exact le_of_eq hid
    · dsimp only
      rw [Function.update_self]
      exact hget

namespace Storage

variable {s s' : Storage} {now : Nat} {call : StorageCall}

/-- **A call stores an aggregate, or enqueues one, or keeps the frame** without adding to the stored
ones. -/
theorem next_cases (h : s.next now call = some s') :
    (∃ metric kind id, call = .storeAggregatedMetric metric ∧
      s.db.storeAggregatedMetric metric = .ok (s'.db, kind, id) ∧
      s'.stored = s.stored ++ [(metric, id)]) ∨
    (∃ metric id kind, call = .enqueueMetricForSend metric id ∧ (metric, id) ∈ s.stored ∧
      metric.data.kind = some kind ∧
      s'.db = { s.db with
        queue := s.db.queue.insertOrIgnore (SendQueue.newEntry now kind metric id) } ∧
      ∀ p ∈ s'.stored, p ∈ s.stored) ∨
    (StorageFrame s.db s'.db ∧ ∀ p ∈ s'.stored, p ∈ s.stored) := by
  cases call with
  | storeRawMetric metric =>
    right
    right
    dsimp only [next] at h
    unfold AgentDatabase.storeRawMetric at h
    cases hk : metric.data.kind with
    | none =>
      rw [hk] at h
      cases h
      exact ⟨.of_eq rfl rfl, fun p hp => hp⟩
    | some kind =>
      rw [hk] at h
      cases h
      exact ⟨.of_eq rfl rfl, fun p hp => hp⟩
  | storeAggregatedMetric metric =>
    dsimp only [next] at h
    split at h
    · cases h
      exact .inr (.inr ⟨.of_eq rfl rfl, fun p hp => hp⟩)
    · next db kind id hok =>
      cases h
      exact .inl ⟨metric, kind, id, rfl, hok, rfl⟩
  | enqueueMetricForSend metric id =>
    right
    dsimp only [next] at h
    split at h
    · next hmem =>
      unfold AgentDatabase.enqueueMetricForSend SendQueue.enqueueMetricForSend at h
      cases hk : metric.data.kind with
      | none =>
        rw [hk] at h
        cases h
        exact .inr ⟨.of_eq rfl rfl, fun p hp => hp⟩
      | some kind =>
        rw [hk] at h
        cases h
        exact .inl ⟨metric, id, kind, rfl, hmem, hk, rfl, fun p hp => List.mem_of_mem_erase hp⟩
    · cases h
  | getQueuedMetrics batchSize n =>
    cases h
    refine .inr (.inr ⟨?_, fun p hp => hp⟩)
    exact .of_delete (s.db.loadSomeEntries_frame now batchSize n).2
      (s.db.loadSomeEntries_queue now batchSize n)
  | markAsSending ids =>
    cases h
    refine .inr (.inr ⟨?_, fun p hp => hp⟩)
    exact .of_queue rfl (SendQueue.evolves_markAsSending s.db.queue now ids)
  | markAsSent ids =>
    cases h
    refine .inr (.inr ⟨?_, fun p hp => hp⟩)
    exact .of_queue rfl (SendQueue.evolves_markAsSent s.db.queue now ids)
  | markAsFailed id errorMsg maxRetries =>
    right
    right
    have hall := SendQueue.evolves_markAllAsFailed s.db.queue now errorMsg maxRetries [id]
    unfold SendQueue.markAllAsFailed at hall
    dsimp only [next] at h
    split at h
    · cases h
      exact ⟨.of_eq rfl rfl, fun p hp => hp⟩
    · next queue hok =>
      cases h
      rw [hok] at hall
      exact ⟨.of_queue rfl hall, fun p hp => hp⟩
  | removeFromQueue id =>
    cases h
    exact .inr (.inr ⟨.of_delete rfl fun e he => List.mem_of_mem_filter he, fun p hp => hp⟩)
  | cleanupSentQueueEntries hours =>
    cases h
    exact .inr (.inr ⟨.of_delete rfl fun e he => List.mem_of_mem_filter he, fun p hp => hp⟩)
  | cleanupFailedQueueEntries days =>
    cases h
    exact .inr (.inr ⟨.of_delete rfl fun e he => List.mem_of_mem_filter he, fun p hp => hp⟩)
  | cleanupOldData retentionDays done =>
    cases h
    refine .inr (.inr ⟨?_, fun p hp => hp⟩)
    obtain ⟨hqueue, hagg⟩ := s.db.cleanupOldData_agg now retentionDays done
    refine ⟨?_, ?_, ?_⟩
    · dsimp only
      rw [hqueue]
      exact (SendQueue.Evolves.of_subset fun e he => he).mono fun _ _ _ _ => trivial
    · intro kind id row hr _
      rw [Table.get_eq_some_iff] at hr ⊢
      exact (hagg kind).2 _ hr
    · intro kind
      exact le_of_eq (hagg kind).1.symm
  | restart =>
    cases h
    refine .inr (.inr ⟨?_, fun p hp => by cases hp⟩)
    exact .of_queue rfl (SendQueue.evolves_recoverSendingEntries s.db.queue now)

end Storage

/-! ## Retention and the queue -/

/-- An entry that is not `sent` refers to the row. -/
def SendQueue.waitsFor (q : SendQueue) (kind : MetricKind) (id : Nat) : Prop :=
  ∃ e ∈ q.rows, e.2.metricType = kind.queueType ∧ e.2.metricRowId = id ∧ e.2.status ≠ .sent

/-- One statement of the cleanup keeps an aggregate that an entry waits for. -/
theorem AgentDatabase.cleanupAgg_keeps {db : AgentDatabase} {cutoffTime : Nat}
    {k kind : MetricKind} {id : Nat} {row : AggRow} (hrow : (db.agg kind).get id = some row)
    (hwait : SendQueue.waitsFor db.queue kind id) :
    ((cleanupAgg cutoffTime k db).agg kind).get id = some row := by
  by_cases hk : kind = k
  · subst hk
    have hupd : (cleanupAgg cutoffTime kind db).agg kind = (db.agg kind).delete _ :=
      Function.update_self ..
    rw [hupd, Table.get_eq_some_iff, Table.rows_delete, List.mem_filter]
    refine ⟨((db.agg kind).get_eq_some_iff id row).1 hrow, ?_⟩
    obtain ⟨e, he, htype, hid, hst⟩ := hwait
    have hqueued : (db.queue.values.any fun e =>
        e.metricType = kind.queueType && e.metricRowId = id && e.status ≠ .sent) = true := by
      rw [List.any_eq_true]
      exact ⟨e.2, List.mem_map_of_mem he, by simp [htype, hid, hst]⟩
    dsimp only
    rw [hqueued]
    simp
  · have hother : (cleanupAgg cutoffTime k db).agg kind = db.agg kind :=
      Function.update_of_ne hk ..
    rwa [hother]

/-- **Retention leaves alone what the queue waits for.** -/
theorem AgentDatabase.cleanupOldData_keeps (db : AgentDatabase) (now : Nat)
    (retentionDays : UInt32) (done : Nat) {kind : MetricKind} {id : Nat} {row : AggRow}
    (hrow : (db.agg kind).get id = some row) (hwait : SendQueue.waitsFor db.queue kind id) :
    ((db.cleanupOldData now retentionDays done).agg kind).get id = some row := by
  have hkeep := cleanupOldData_induction (R := fun db db' => db'.queue = db.queue ∧
    ∀ row, (db.agg kind).get id = some row → SendQueue.waitsFor db.queue kind id →
      (db'.agg kind).get id = some row) ?_ ?_ now retentionDays ?_ ?_ db done
  · exact hkeep.2 row hrow hwait
  · intro db
    exact ⟨rfl, fun row hr _ => hr⟩
  · rintro db db₁ db₂ ⟨hqueue, hagg⟩ ⟨hqueue', hagg'⟩
    refine ⟨hqueue'.trans hqueue, ?_⟩
    intro row hr hw
    refine hagg' row (hagg row hr hw) ?_
    rwa [hqueue]
  · intro k db
    exact ⟨rfl, fun row hr _ => hr⟩
  · intro k db
    exact ⟨rfl, fun row hr hw => cleanupAgg_keeps hr hw⟩

/-! ## The invariant -/

/-- Entries, and stored aggregates that wait for theirs, point to an aggregate of their own period or
to none. -/
structure StorageMatches (s : Storage) : Prop where
  entry : ∀ e ∈ s.db.queue.rows, ∃ kind, e.2.metricType = kind.queueType ∧
    e.2.metricRowId < (s.db.agg kind).nextId ∧
    ∀ row, (s.db.agg kind).get e.2.metricRowId = some row → row.period kind = e.2.period
  stored : ∀ p ∈ s.stored, ∃ kind, p.1.data.kind = some kind ∧ p.2 < (s.db.agg kind).nextId ∧
    ∀ row, (s.db.agg kind).get p.2 = some row → row.period kind = p.1.period kind

namespace StorageMatches

variable {s s' : Storage} {now : Nat} {call : StorageCall}

theorem entry_of_frame (hI : StorageMatches s) {db : AgentDatabase} (hf : StorageFrame s.db db) :
    ∀ e ∈ db.queue.rows, ∃ kind, e.2.metricType = kind.queueType ∧
      e.2.metricRowId < (db.agg kind).nextId ∧
      ∀ row, (db.agg kind).get e.2.metricRowId = some row → row.period kind = e.2.period := by
  intro e' he'
  obtain ⟨e, he, -, hsame, -⟩ := hf.queue e' he'
  obtain ⟨kind, htype, hlt, hrow⟩ := hI.entry e he
  refine ⟨kind, hsame.metricType.trans htype, ?_, ?_⟩
  · rw [hsame.metricRowId]
    exact lt_of_lt_of_le hlt (hf.nextId kind)
  · intro row hr
    rw [hsame.metricRowId] at hr
    rw [QueueMatches.period_of_same hsame]
    exact hrow row (hf.agg kind _ row hr hlt)

theorem stored_of_frame (hI : StorageMatches s) {db : AgentDatabase} (hf : StorageFrame s.db db) :
    ∀ p ∈ s.stored, ∃ kind, p.1.data.kind = some kind ∧ p.2 < (db.agg kind).nextId ∧
      ∀ row, (db.agg kind).get p.2 = some row → row.period kind = p.1.period kind := by
  intro p hp
  obtain ⟨kind, hk, hlt, hrow⟩ := hI.stored p hp
  refine ⟨kind, hk, lt_of_lt_of_le hlt (hf.nextId kind), ?_⟩
  intro row hr
  exact hrow row (hf.agg kind _ row hr hlt)

/-- **Every call** keeps entries and aggregates together. -/
theorem next (hI : StorageMatches s) (h : s.next now call = some s') : StorageMatches s' := by
  rcases Storage.next_cases h with ⟨metric, kind, id, -, hstore, hst⟩ |
    ⟨metric, id, kind, -, hmem, hk, hdb, hst⟩ | ⟨hf, hst⟩
  · obtain ⟨hf, hk, hlt, -, hget⟩ := AgentDatabase.storeAggregatedMetric_frame hstore
    refine ⟨hI.entry_of_frame hf, ?_⟩
    intro p hp
    rw [hst, List.mem_append, List.mem_singleton] at hp
    rcases hp with hp | rfl
    · exact hI.stored_of_frame hf p hp
    · refine ⟨kind, hk, hlt, ?_⟩
      intro row hr
      rw [hget] at hr
      obtain rfl := Option.some.inj hr
      rfl
  · have hagg : s'.db.agg = s.db.agg := by rw [hdb]
    have hqueue : s'.db.queue =
        s.db.queue.insertOrIgnore (SendQueue.newEntry now kind metric id) := by rw [hdb]
    refine ⟨?_, ?_⟩
    · intro e he
      rw [hagg]
      rw [hqueue] at he
      rcases s.db.queue.insertOrIgnore_eq (SendQueue.newEntry now kind metric id) with
        ⟨-, -, -, hq⟩ | ⟨hnew, hq⟩
      · rw [hq] at he
        exact hI.entry e he
      · rw [hq, Table.rows_append, List.mem_append, List.mem_singleton] at he
        rcases he with he | rfl
        · exact hI.entry e he
        · obtain ⟨kind', hk', hlt, hrow⟩ := hI.stored _ hmem
          obtain rfl := Option.some.inj (hk.symm.trans hk')
          exact ⟨kind, rfl, hlt, hrow⟩
    · intro p hp
      rw [hagg]
      exact hI.stored p (hst p hp)
  · exact ⟨hI.entry_of_frame hf, fun p hp => hI.stored_of_frame hf p (hst p hp)⟩

end StorageMatches

theorem storageMatches_run {tr : List StorageStep} {s : Storage} (hr : Run storageMachine tr s) :
    StorageMatches s := by
  have hfirst : StorageMatches storageMachine.init := by
    refine ⟨?_, ?_⟩
    · intro e he
      cases he
    · intro p hp
      cases hp
  refine Run.invariant hfirst ?_ hr
  rintro s ⟨now, call⟩ s' b hI hs
  exact hI.next (storageMachine_step_iff.1 hs)

/-! ## Entries and the calls that made them -/

/-- The entry says of its aggregate what was said when a step of the trace enqueued `metric`. -/
structure EnqueuedFor (tr : List StorageStep) (e : QueueRow) (metric : AggregatedMetrics) :
    Prop where
  call : ∃ t ∈ tr, t.label.2 = .enqueueMetricForSend metric e.metricRowId
  metricType : ∃ kind, metric.data.kind = some kind ∧ e.metricType = kind.queueType
  taskName : e.taskName = metric.taskName
  periodStart : e.periodStart = metric.periodStart
  periodEnd : e.periodEnd = metric.periodEnd

theorem EnqueuedFor.mono {tr : List StorageStep} {t : StorageStep} {e e' : QueueRow}
    {metric : AggregatedMetrics} (h : EnqueuedFor tr e metric) (hsame : e.SameMetric e') :
    EnqueuedFor (tr ++ [t]) e' metric where
  call := by
    obtain ⟨t', ht', hcall⟩ := h.call
    rw [hsame.metricRowId]
    exact ⟨t', List.mem_append_left _ ht', hcall⟩
  metricType := by
    rw [hsame.metricType]
    exact h.metricType
  taskName := hsame.taskName.trans h.taskName
  periodStart := hsame.periodStart.trans h.periodStart
  periodEnd := hsame.periodEnd.trans h.periodEnd

/-- Every entry was enqueued for some aggregate. -/
theorem enqueuedFor_run {tr : List StorageStep} {s : Storage} (hr : Run storageMachine tr s) :
    ∀ e ∈ s.db.queue.rows, ∃ metric, EnqueuedFor tr e.2 metric := by
  induction hr with
  | nil =>
    intro e he
    cases he
  | @snoc tr s a s' b hr hs ih =>
    obtain ⟨now, call⟩ := a
    intro e' he'
    have hframe : StorageFrame s.db s'.db →
        ∃ metric, EnqueuedFor (tr ++ [⟨s, (now, call), b, s'⟩]) e'.2 metric := by
      intro hf
      obtain ⟨e, he, -, hsame, -⟩ := hf.queue e' he'
      obtain ⟨metric, hm⟩ := ih e he
      exact ⟨metric, hm.mono hsame⟩
    rcases Storage.next_cases (storageMachine_step_iff.1 hs) with ⟨metric, kind, id, -, hstore, -⟩ |
      ⟨metric, id, kind, hcall, -, hk, hdb, -⟩ | ⟨hf, -⟩
    · exact hframe (AgentDatabase.storeAggregatedMetric_frame hstore).1
    · rw [hdb] at he'
      dsimp only at he'
      rcases s.db.queue.insertOrIgnore_eq (SendQueue.newEntry now kind metric id) with
        ⟨-, -, -, hq⟩ | ⟨hnew, hq⟩
      · rw [hq] at he'
        obtain ⟨metric', hm⟩ := ih e' he'
        exact ⟨metric', hm.mono (.refl _)⟩
      · rw [hq, Table.rows_append, List.mem_append, List.mem_singleton] at he'
        rcases he' with he' | rfl
        · obtain ⟨metric', hm⟩ := ih e' he'
          exact ⟨metric', hm.mono (.refl _)⟩
        · refine ⟨metric, ⟨_, List.mem_append_right _ List.mem_cons_self, hcall⟩, ⟨kind, hk, rfl⟩,
            rfl, rfl, rfl⟩
    · exact hframe hf

/-! ## The agent's calls -/

namespace Storage

theorem reaches_call {s s' : Storage} (now : Nat) (call : StorageCall)
    (h : s.next now call = some s') : storageMachine.Reaches s s' :=
  .step (a := (now, call)) (b := ()) (storageMachine_step_iff.2 h)

/-- Storing metrics one after the other, up to the first error. -/
theorem reaches_storeAll (db : AgentDatabase) (stored : List (AggregatedMetrics × Nat))
    (metrics : List MetricData) :
    storageMachine.Reaches ⟨db, stored⟩ ⟨(db.storeAll metrics).1, stored⟩ := by
  induction metrics generalizing db with
  | nil => exact .refl _
  | cons metric metrics ih =>
    unfold AgentDatabase.storeAll
    cases hs : db.storeRawMetric metric with
    | error e => exact .refl _
    | ok db₁ =>
      have hcall : (⟨db, stored⟩ : Storage).next 0 (.storeRawMetric metric) =
          some ⟨db₁, stored⟩ := by
        dsimp only [next]
        rw [hs]
      exact (reaches_call 0 _ hcall).trans (ih db₁)

theorem reaches_markAllAsFailed (db : AgentDatabase) (stored : List (AggregatedMetrics × Nat))
    (now : Nat) (errorMsg : String) (maxRetries : Int) (ids : List Nat) :
    storageMachine.Reaches ⟨db, stored⟩
      ⟨{ db with queue := SendQueue.markAllAsFailed db.queue now errorMsg maxRetries ids },
        stored⟩ := by
  induction ids generalizing db with
  | nil => exact .refl _
  | cons id ids ih =>
    unfold SendQueue.markAllAsFailed
    cases hs : SendQueue.markAsFailed db.queue now id errorMsg maxRetries with
    | error e => exact ih db
    | ok queue =>
      have hcall : (⟨db, stored⟩ : Storage).next now (.markAsFailed id errorMsg maxRetries) =
          some ⟨{ db with queue := queue }, stored⟩ := by
        dsimp only [next]
        rw [hs]
        rfl
      exact (reaches_call now _ hcall).trans (ih _)

end Storage

namespace Agent

variable {config : AgentConfig} {summary : Summary} {s s' : Agent} {now : Nat} {a : AgentAction}

theorem reaches_flush (scheduler : TaskScheduler) (db : AgentDatabase) (now : Nat)
    (failAt : Option Nat) (stored : List (AggregatedMetrics × Nat)) :
    storageMachine.Reaches ⟨db, stored⟩
      ⟨(scheduler.flushMetricsNow db now failAt).2.1, stored⟩ := by
  rw [scheduler.flushMetricsNow_db, AgentDatabase.storeSome_fst]
  exact Storage.reaches_storeAll db stored _

theorem reaches_result (scheduler : TaskScheduler) (db : AgentDatabase) (now : Nat)
    (failAt : Option Nat) (result : TaskResult) (stored : List (AggregatedMetrics × Nat)) :
    storageMachine.Reaches ⟨db, stored⟩
      ⟨(scheduler.handleTaskResult db now failAt result).2, stored⟩ := by
  rcases scheduler.handleTaskResult_db db now failAt result with ⟨hdb, -⟩ | ⟨metrics, hdb, -⟩
  · rw [hdb]
    exact .refl _
  · rw [hdb, AgentDatabase.storeSome_fst]
    exact Storage.reaches_storeAll db stored _

/-- Loading entries of a batch. -/
theorem reaches_load (db : AgentDatabase) (now batchSize n : Nat)
    (stored : List (AggregatedMetrics × Nat)) :
    storageMachine.Reaches ⟨db, stored⟩ ⟨db.loadSomeEntries now batchSize n, stored⟩ :=
  Storage.reaches_call now (.getQueuedMetrics batchSize n) rfl

theorem reaches_getQueuedMetrics (db : AgentDatabase) (now batchSize : Nat)
    (stored : List (AggregatedMetrics × Nat)) :
    storageMachine.Reaches ⟨db, stored⟩ ⟨(db.getQueuedMetrics now batchSize).1, stored⟩ := by
  rw [db.getQueuedMetrics_fst]
  exact reaches_load db now batchSize _ stored

/-- The cleanup of the queue: two calls, either of which may be left out. -/
theorem reaches_cleanupSentQueueIfNeeded (scheduler : TaskScheduler) (db : AgentDatabase)
    (now : Nat) (sentFails failedFails : Bool) (stored : List (AggregatedMetrics × Nat)) :
    storageMachine.Reaches ⟨db, stored⟩
      ⟨(scheduler.cleanupSentQueueIfNeeded db now sentFails failedFails).2, stored⟩ := by
  unfold TaskScheduler.cleanupSentQueueIfNeeded
  split
  · have hsent : storageMachine.Reaches ⟨db, stored⟩ ⟨{ db with
        queue := if sentFails = true then db.queue
          else SendQueue.cleanupSentQueueEntries db.queue now 24 }, stored⟩ := by
      split
      · exact .refl _
      · exact Storage.reaches_call now (.cleanupSentQueueEntries 24) rfl
    have hfailed : ∀ db : AgentDatabase, storageMachine.Reaches ⟨db, stored⟩ ⟨{ db with
        queue := if failedFails = true then db.queue
          else SendQueue.cleanupFailedQueueEntries db.queue now 7 }, stored⟩ := by
      intro db
      split
      · exact .refl _
      · exact Storage.reaches_call now (.cleanupFailedQueueEntries 7) rfl
    exact hsent.trans (hfailed _)
  · exact .refl _

/-- Every step but those of a pass is made of calls that leave the stored aggregates alone. -/
theorem next_reaches_same (h : s.next config summary now a = some s') (ha : a ≠ .aggregate)
    (he : a ≠ .enqueue) (stored : List (AggregatedMetrics × Nat)) :
    ∃ stored', storageMachine.Reaches ⟨s.db, stored⟩ ⟨s'.db, stored'⟩ := by
  have hwrites := next_writes h
  generalize s'.db = db at hwrites ⊢
  cases hwrites with
  | stores metric kind _ => exact absurd rfl ha
  | enqueues metric kind id => exact absurd rfl he
  | nothing _ => exact ⟨stored, .refl _⟩
  | flushes failAt _ => exact ⟨stored, reaches_flush s.scheduler s.db now failAt stored⟩
  | handles failAt result _ =>
    exact ⟨stored, reaches_result s.scheduler s.db now failAt result stored⟩
  | cleansQueue sentFails failedFails =>
    exact ⟨stored, reaches_cleanupSentQueueIfNeeded s.scheduler s.db now _ _ stored⟩
  | loads _ _ n => exact ⟨stored, reaches_load s.db now _ n stored⟩
  | fetches marked _ _ =>
    have hload := reaches_getQueuedMetrics s.db now config.metricsBatchSize.toNat stored
    exact ⟨stored, hload.trans (Storage.reaches_call now (.markAsSending _) rfl)⟩
  | marksSent _ _ => exact ⟨stored, Storage.reaches_call now (.markAsSent _) rfl⟩
  | marksFailed _ _ e _ =>
    exact ⟨stored, Storage.reaches_markAllAsFailed s.db stored now e _ _⟩
  | cleansData done _ =>
    exact ⟨stored, Storage.reaches_call now (.cleanupOldData config.localDataRetentionDays done) rfl⟩
  | recovers tasksConfig =>
    -- the process that starts holds no aggregate of the one before it
    exact ⟨[], Storage.reaches_call now (.restart) rfl⟩

/-- **A step of the agent is made of calls**; the aggregate that waits for the queue is a stored
one. -/
theorem next_reaches (h : s.next config summary now a = some s')
    {stored : List (AggregatedMetrics × Nat)}
    (hstored : ∀ periodEnd todo metric id, s.point = .enqueuing periodEnd todo metric id →
      (metric, id) ∈ stored) :
    ∃ stored', storageMachine.Reaches ⟨s.db, stored⟩ ⟨s'.db, stored'⟩ ∧
      ∀ periodEnd todo metric id, s'.point = .enqueuing periodEnd todo metric id →
        (metric, id) ∈ stored' := by
  by_cases ha : a = .aggregate
  · subst ha
    obtain ⟨e, task, todo, -, rfl | rfl | ⟨metric, kind, hk, rfl⟩⟩ := next_aggregate h
    · refine ⟨stored, .refl _, ?_⟩
      intro e t m i hp
      cases hp
    · refine ⟨stored, .refl _, ?_⟩
      intro e t m i hp
      cases hp
    · refine ⟨stored ++ [(metric, (s.db.agg kind).nextId)],
        Storage.reaches_call now (.storeAggregatedMetric metric) ?_, ?_⟩
      · dsimp only [Storage.next]
        unfold AgentDatabase.storeAggregatedMetric
        rw [hk]
        rfl
      · intro e t m i hp
        obtain ⟨-, -, rfl, rfl⟩ := Point.enqueuing.inj hp
        simp
  · have hpoint : ∀ e t m i, s'.point ≠ .enqueuing e t m i := (next_point h).2.resolve_left ha
    have hreach : ∃ stored', storageMachine.Reaches ⟨s.db, stored⟩ ⟨s'.db, stored'⟩ := by
      by_cases he : a = .enqueue
      · subst he
        obtain ⟨e, todo, metric, id, hp, ⟨-, rfl⟩ | ⟨kind, hk, rfl⟩⟩ := next_enqueue h
        · exact ⟨stored, .refl _⟩
        · have hmem := hstored _ _ _ _ hp
          refine ⟨stored.erase (metric, id),
            Storage.reaches_call now (.enqueueMetricForSend metric id) ?_⟩
          dsimp only [Storage.next]
          rw [if_pos hmem]
          unfold AgentDatabase.enqueueMetricForSend SendQueue.enqueueMetricForSend
          rw [hk]
      · exact next_reaches_same h ha he stored
    obtain ⟨stored', hreach⟩ := hreach
    exact ⟨stored', hreach, fun e t m i hp => absurd hp (hpoint e t m i)⟩

end Agent

/-- **The agent's runs are runs of calls**: the database of an agent is one that the calls can
lead to. -/
theorem agent_storage {config : AgentConfig} {summary : Summary} {tasksConfig : TasksConfig}
    {t₀ : Nat} {tr : List AgentStep} {s : Nat × Agent}
    (hr : Run (agentMachine config summary tasksConfig t₀) tr s) :
    ∃ tr' stored, Run storageMachine tr' ⟨s.2.db, stored⟩ := by
  have hsim := Run.simulated (N := storageMachine) (R := fun (s : Nat × Agent) σ =>
    σ.db = s.2.db ∧ ∀ periodEnd todo metric id, s.2.point = .enqueuing periodEnd todo metric id →
      (metric, id) ∈ σ.stored) ?_ ?_ hr
  · obtain ⟨tr', ⟨db, stored⟩, hr', rfl, -⟩ := hsim
    exact ⟨tr', stored, hr'⟩
  · refine ⟨rfl, ?_⟩
    intro e t m i hp
    cases hp
  · rintro s a s' b ⟨db, stored⟩ ⟨hdb, hstored⟩ hs
    obtain rfl : db = s.2.db := hdb
    obtain ⟨-, hnext, -⟩ := agentMachine_step hs
    obtain ⟨stored', hreach, hstored'⟩ := Agent.next_reaches hnext hstored
    exact ⟨⟨s'.2.db, stored'⟩, hreach, rfl, hstored'⟩

/-! ## Top theorem -/

/-- The entry was enqueued for some aggregate, and points to an aggregate of the same type, task and
period or to none. -/
def PointsToOwn (tr : List StorageStep) (s : Storage) (e : QueueRow) : Prop :=
  ∃ kind metric, e.metricType = kind.queueType ∧ EnqueuedFor tr e metric ∧
    ∀ row, (s.db.agg kind).get e.metricRowId = some row →
      row.taskName = metric.taskName ∧ row.periodStart = metric.periodStart ∧
        row.periodEnd = metric.periodEnd

/-- If the step is a cleanup, it deletes no aggregate that an entry waits for. -/
def RetainsWaiting (t : StorageStep) : Prop :=
  ∀ retentionDays done, t.label.2 = .cleanupOldData retentionDays done →
    ∀ kind id row, (t.pre.db.agg kind).get id = some row →
      SendQueue.waitsFor t.pre.db.queue kind id → (t.post.db.agg kind).get id = some row

/-- **The queue and its aggregates**: an entry points to the aggregate that it was made for, or to
none; and retention keeps what an entry that is not `sent` points to. -/
theorem storage_integrity {tr : List StorageStep} {s : Storage} (hr : Run storageMachine tr s) :
    (∀ e ∈ s.db.queue.rows, PointsToOwn tr s e.2) ∧ ∀ t ∈ tr, RetainsWaiting t := by
  constructor
  · intro e he
    obtain ⟨kind, htype, -, hrow⟩ := (storageMatches_run hr).entry e he
    obtain ⟨metric, hm⟩ := enqueuedFor_run hr e he
    refine ⟨kind, metric, htype, hm, ?_⟩
    intro row hr
    have hperiod := hrow row hr
    unfold AggRow.period QueueRow.period at hperiod
    obtain ⟨-, hperiod⟩ := Prod.mk.inj hperiod
    obtain ⟨hname, hperiod⟩ := Prod.mk.inj hperiod
    obtain ⟨hstart, hend⟩ := Prod.mk.inj hperiod
    exact ⟨hname.trans hm.taskName, hstart.trans hm.periodStart, hend.trans hm.periodEnd⟩
  · have hstep : ∀ s a s' b, True → storageMachine.step s a = some (s', b) →
        True ∧ RetainsWaiting ⟨s, a, b, s'⟩ := by
      rintro s ⟨now, call⟩ s' b - hs
      refine ⟨trivial, ?_⟩
      rintro retentionDays done rfl kind id row hrow hwait
      have hnext := storageMachine_step_iff.1 hs
      cases hnext
      exact s.db.cleanupOldData_keeps now retentionDays done hrow hwait
    exact (Run.invariant_taken (I := fun _ => True) trivial hstep hr).2

/-- A minute of pings. -/
def pingsOf (taskName : String) (periodEnd : Nat) : AggregatedMetrics :=
  ⟨taskName, .ping, periodEnd - 60, periodEnd, 1, .ping default⟩

/-- Two minutes are enqueued, the first is aggregated again, and the agent starts again before a
cleanup of everything that is older than a day. -/
def twoMinutes : List (Nat × StorageCall) :=
  [(125, .storeAggregatedMetric (pingsOf "gateway" 120)),
    (125, .enqueueMetricForSend (pingsOf "gateway" 120) 1),
    (185, .storeAggregatedMetric (pingsOf "gateway" 180)),
    (185, .enqueueMetricForSend (pingsOf "gateway" 180) 2),
    (186, .storeAggregatedMetric (pingsOf "gateway" 120)), (187, .restart),
    (200000, .cleanupOldData 1 18)]

theorem storage_integrity_twoMinutes :
    ∃ tr s, Run storageMachine tr s ∧
      s.db.queue.rows.map (fun e => (s.db.agg .ping).get e.2.metricRowId) =
        [none, some ⟨"gateway", 120, 180, 1, .ping default⟩] ∧
      (∀ e ∈ s.db.queue.rows, PointsToOwn tr s e.2) ∧ ∀ t ∈ tr, RetainsWaiting t := by
  obtain ⟨tr, s, he, hr⟩ := Run.exists_of_exec storageMachine twoMinutes (by rfl)
  have hend : (storageMachine.exec twoMinutes).map (fun r =>
      r.2.db.queue.rows.map fun e => (r.2.db.agg .ping).get e.2.metricRowId) =
        some [none, some ⟨"gateway", 120, 180, 1, .ping default⟩] := by rfl
  rw [he] at hend
  exact ⟨tr, s, hr, Option.some.inj hend, storage_integrity hr⟩

end LinkSense
