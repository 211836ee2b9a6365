import LinkSense.Agent.MainLoop
import LinkSense.Windows

/-!
# Aggregation of raw rows

Which raw rows of a task are in the aggregates of its minutes.  The streams are the tasks of a
kind, a pass is one task's share of an aggregation, and its ids are the raw rows of the minute if an
aggregate of exactly these was stored, and none otherwise.

The loop aggregates only the minute before the one in which it wakes, so a minute it sleeps
across is never aggregated; and a row that is flushed after its minute comes too late.

    every state of a run covers its raw rows ↔ no step of it flushes a metric whose minute has been
      passed, or passes over a row before its window that was not passed      (covered_iff_timely)
-/

namespace LinkSense

open Labelled Sql Tumbling

/-! ## The history of aggregation -/

abbrev TaskStream := MetricKind × String

/-- A raw row, as a row of its task. -/
def streamRow (kind : MetricKind) (r : Nat × RawRow) : Row TaskStream :=
  ⟨(kind, r.2.taskName), r.1, r.2.timestamp⟩

/-- The raw rows with an id that was not given before. -/
def AgentDatabase.newRows (db db' : AgentDatabase) : List (Row TaskStream) :=
  MetricKind.all.flatMap fun kind =>
    ((db'.raw kind).rows.filter fun r => (db.raw kind).nextId ≤ r.1).map (streamRow kind)

/-- The task that an action aggregates, and the end of the minute that it closes. -/
def Agent.closes (s : Agent) : AgentAction → Option (TaskStream × Nat)
  | .aggregate =>
    match s.point with
    | .aggregating periodEnd (task :: _) => some ((task.taskType.kind, task.name), periodEnd)
    | _ => none
  | _ => none

/-- The row that an aggregate of these raw rows is. -/
def Summary.aggRow (summary : Summary) (stream : TaskStream) (periodStart periodEnd : Nat)
    (rows : List RawRow) : AggRow :=
  ⟨stream.2, periodStart, periodEnd, summary.sampleCount stream.1 rows, summary.data stream.1 rows⟩

/-- The raw rows of the window, if a new aggregate of exactly these rows is in `db'`. -/
def AgentDatabase.aggregatedIds (summary : Summary) (db db' : AgentDatabase) (stream : TaskStream)
    (periodStart periodEnd : Nat) : List Nat :=
  let rows := db.window stream.1 stream.2 periodStart periodEnd
  if ((db.agg stream.1).nextId, summary.aggRow stream periodStart periodEnd (rows.map Prod.snd)) ∈
      (db'.agg stream.1).rows then rows.map Prod.fst
  else []

/-- The pass that a step makes, with the raw rows of the aggregate that it has stored. -/
def Agent.collected (summary : Summary) (s s' : Agent) (a : AgentAction) :
    Option (Pass TaskStream) :=
  (s.closes a).map fun c =>
    ⟨c.1, c.2 - 60, c.2, s.db.aggregatedIds summary s'.db c.1 (c.2 - 60) c.2⟩

/-- What a step adds to the history. -/
def recordAggregation (summary : Summary) (h : History TaskStream) (t : AgentStep) :
    History TaskStream :=
  let h := h.write (t.pre.2.db.newRows t.post.2.db)
  match t.pre.2.collected summary t.post.2 t.label.2 with
  | none => h
  | some p => h.pass p

def aggregationMachine (config : AgentConfig) (summary : Summary) (tasksConfig : TasksConfig)
    (t₀ : Nat) : Machine ((Nat × Agent) × History TaskStream) (Nat × AgentAction) Unit :=
  (agentMachine config summary tasksConfig t₀).ghost ⟨[], []⟩ (recordAggregation summary)

/-- A metric, as the row that it will be. -/
def MetricData.streamRow (metric : MetricData) (kind : MetricKind) : Row TaskStream :=
  ⟨(kind, metric.taskName), 0, metric.timestamp⟩

/-- No metric is stored whose minute has been passed, and no row before the minute that is closed is
left behind for good. -/
structure Timely (s : (Nat × Agent) × History TaskStream) (a : Nat × AgentAction) : Prop where
  flushed : ∀ metric ∈ s.1.2.flushed a.1 a.2, ∀ kind, metric.data.kind = some kind →
    s.2.passed (metric.streamRow kind) = false
  closed : ∀ stream periodEnd, s.1.2.closes a.2 = some (stream, periodEnd) →
    ∀ x ∈ s.2.written, stream = x.stream → x.time < periodEnd - 60 → s.2.passed x = true

/-! ## Lemmas -/

theorem passed_congr {h : History TaskStream} {x y : Row TaskStream} (hs : x.stream = y.stream)
    (ht : x.time = y.time) : h.passed x = h.passed y := by
  unfold History.passed Pass.spans
  rw [hs, ht]

namespace AgentDatabase

theorem mem_newRows_iff (db db' : AgentDatabase) (x : Row TaskStream) :
    x ∈ db.newRows db' ↔ ∃ r ∈ (db'.raw x.stream.1).rows,
      (db.raw x.stream.1).nextId ≤ r.1 ∧ streamRow x.stream.1 r = x := by
  unfold newRows
  rw [List.mem_flatMap]
  constructor
  · rintro ⟨kind, -, hx⟩
    obtain ⟨r, hr, rfl⟩ := List.mem_map.1 hx
    obtain ⟨hr, hid⟩ := List.mem_filter.1 hr
    exact ⟨r, hr, of_decide_eq_true hid, rfl⟩
  · rintro ⟨r, hr, hid, hx⟩
    refine ⟨x.stream.1, MetricKind.mem_all _, List.mem_map.2 ⟨r, ?_, hx⟩⟩
    exact List.mem_filter.2 ⟨hr, decide_eq_true hid⟩

/-- No new rows where the old ones are all there is. -/
theorem newRows_eq_nil {db db' : AgentDatabase}
    (h : ∀ kind, ∀ r ∈ (db'.raw kind).rows, r ∈ (db.raw kind).rows) : db.newRows db' = [] := by
  rw [List.eq_nil_iff_forall_not_mem]
  intro x hx
  obtain ⟨r, hr, hid, -⟩ := (mem_newRows_iff db db' x).1 hx
  have := (db.raw x.stream.1).ids_lt r (h _ r hr)
  omega

/-- The new rows are those of the metrics stored. -/
theorem Stores.passed_newRows_iff {db db' : AgentDatabase} {metrics : List MetricData}
    (hs : db.Stores db' metrics) (h : History TaskStream) :
    (∀ x ∈ db.newRows db', h.passed x = false) ↔
      ∀ metric ∈ metrics, ∀ kind, metric.data.kind = some kind →
        h.passed (metric.streamRow kind) = false := by
  constructor
  · intro hall metric hm kind hk
    obtain ⟨rows, hrows, hmap, hids, -⟩ := hs.raw kind
    have hrow : metric.row ∈ rows.map Prod.snd := by
      rw [hmap]
      refine List.mem_map_of_mem (List.mem_filter.2 ⟨hm, ?_⟩)
      simp [hk]
    obtain ⟨r, hr, hrm⟩ := List.mem_map.1 hrow
    have hnew : streamRow kind r ∈ db.newRows db' := by
      rw [mem_newRows_iff]
      refine ⟨r, ?_, hids r hr, rfl⟩
      show r ∈ (db'.raw kind).rows
      rw [hrows]
      exact List.mem_append_right _ hr
    have hp := hall _ hnew
    rw [passed_congr (y := metric.streamRow kind) ?_ ?_] at hp
    · exact hp
    · show (kind, r.2.taskName) = (kind, metric.taskName)
      rw [hrm]
      rfl
    · show r.2.timestamp = metric.timestamp
      rw [hrm]
      rfl
  · intro hall x hx
    obtain ⟨r, hr, hid, hrx⟩ := (mem_newRows_iff db db' x).1 hx
    generalize x.stream.1 = kind at hr hid hrx
    subst hrx
    obtain ⟨rows, hrows, hmap, -, -⟩ := hs.raw kind
    rw [hrows, List.mem_append] at hr
    rcases hr with hr | hr
    · have := (db.raw kind).ids_lt r hr
      omega
    · have hrow : r.2 ∈ rows.map Prod.snd := List.mem_map_of_mem hr
      rw [hmap] at hrow
      obtain ⟨metric, hm, hrm⟩ := List.mem_map.1 hrow
      obtain ⟨hm, hk⟩ := List.mem_filter.1 hm
      rw [passed_congr (y := metric.streamRow kind) ?_ ?_]
      · exact hall metric hm kind (of_decide_eq_true hk)
      · show (kind, r.2.taskName) = (kind, metric.taskName)
        rw [← hrm]
        rfl
      · show r.2.timestamp = metric.timestamp
        rw [← hrm]
        rfl

/-- Cleanup deletes raw rows that are older than the retention, and no others. -/
theorem cleanupOldData_raw (db : AgentDatabase) (now : Nat) (retentionDays : UInt32) (done : Nat)
    (kind : MetricKind) :
    ((db.cleanupOldData now retentionDays done).raw kind).nextId = (db.raw kind).nextId ∧
      (∀ r ∈ ((db.cleanupOldData now retentionDays done).raw kind).rows, r ∈ (db.raw kind).rows) ∧
      ∀ r ∈ (db.raw kind).rows,
        r ∈ ((db.cleanupOldData now retentionDays done).raw kind).rows ∨
          r.2.timestamp < now - retentionDays.toNat * 24 * 60 * 60 := by
  refine cleanupOldData_induction (R := fun db db' => (db'.raw kind).nextId = (db.raw kind).nextId ∧
    (∀ r ∈ (db'.raw kind).rows, r ∈ (db.raw kind).rows) ∧ ∀ r ∈ (db.raw kind).rows,
      r ∈ (db'.raw kind).rows ∨ r.2.timestamp < now - retentionDays.toNat * 24 * 60 * 60)
    (fun db => ⟨rfl, fun r hr => hr, fun r hr => .inl hr⟩) ?_ now retentionDays ?_
    (fun k db => ⟨rfl, fun r hr => hr, fun r hr => .inl hr⟩) db done
  · rintro db db₁ db₂ ⟨hnext, hsub, hkept⟩ ⟨hnext', hsub', hkept'⟩
    refine ⟨hnext'.trans hnext, fun r hr => hsub r (hsub' r hr), fun r hr => ?_⟩
    rcases hkept r hr with hr' | hold
    · exact hkept' r hr'
    · exact .inr hold
  · intro k db
    unfold cleanupRaw
    by_cases hkind : kind = k
    · subst hkind
      dsimp only
      rw [Function.update_self]
      refine ⟨rfl, fun r hr => List.mem_of_mem_filter hr, fun r hr => ?_⟩
      by_cases hold : r.2.timestamp < now - retentionDays.toNat * 24 * 60 * 60
      · exact .inr hold
      · left
        rw [Table.rows_delete, List.mem_filter]
        exact ⟨hr, by simpa using hold⟩
    · dsimp only
      rw [Function.update_of_ne hkind]
      exact ⟨rfl, fun r hr => hr, fun r hr => .inl hr⟩

end AgentDatabase

/-- The row is still in its raw table. -/
def AgentDatabase.Holds (db : AgentDatabase) (x : Row TaskStream) : Prop :=
  ∃ r ∈ (db.raw x.stream.1).rows, streamRow x.stream.1 r = x

theorem AgentDatabase.Stores.holds {db db' : AgentDatabase} {metrics : List MetricData}
    (hs : db.Stores db' metrics) {x : Row TaskStream} (h : db.Holds x) : db'.Holds x := by
  obtain ⟨r, hr, hx⟩ := h
  obtain ⟨rows, hrows, -⟩ := hs.raw x.stream.1
  refine ⟨r, ?_, hx⟩
  rw [hrows]
  exact List.mem_append_left _ hr

theorem AgentDatabase.holds_of_newRows {db db' : AgentDatabase} {x : Row TaskStream}
    (h : x ∈ db.newRows db') : db'.Holds x := by
  obtain ⟨r, hr, -, hx⟩ := (mem_newRows_iff db db' x).1 h
  exact ⟨r, hr, hx⟩

/-- The history matches the raw tables: a row that was written is there unless it is a day old,
and a pass is over a minute that ended less than a minute before it began. -/
structure HistoryMatches (s : (Nat × Agent) × History TaskStream) : Prop where
  wellFormed : s.2.WellFormed 60
  written : ∀ kind, ∀ r ∈ (s.1.2.db.raw kind).rows, streamRow kind r ∈ s.2.written
  id_lt : ∀ x ∈ s.2.written, x.id < (s.1.2.db.raw x.stream.1).nextId
  kept : ∀ x ∈ s.2.written, s.1.2.db.Holds x ∨ x.time + 86400 ≤ s.1.1
  point : ∀ periodEnd, s.1.2.point.periodEnd = some periodEnd → 60 ∣ periodEnd ∧ 60 ≤ periodEnd ∧
    ∀ x ∈ s.2.written, s.1.2.db.Holds x ∨ x.time + 86340 < periodEnd

namespace HistoryMatches

variable {s : (Nat × Agent) × History TaskStream}

/-- New rows are new to the history. -/
theorem newRows_unique (hI : HistoryMatches s) (db' : AgentDatabase) :
    ∀ x ∈ s.1.2.db.newRows db', ∀ y ∈ s.2.written ++ s.1.2.db.newRows db',
      x.stream = y.stream → x.id = y.id → x = y := by
  intro x hx y hy hs hi
  obtain ⟨r, hr, hid, hrx⟩ := (AgentDatabase.mem_newRows_iff _ _ x).1 hx
  have hrid : r.1 = x.id := congrArg Row.id hrx
  rcases List.mem_append.1 hy with hy | hy
  · have hlt := hI.id_lt y hy
    rw [← hs] at hlt
    omega
  · obtain ⟨q, hq, -, hqy⟩ := (AgentDatabase.mem_newRows_iff _ _ y).1 hy
    have hqid : q.1 = y.id := congrArg Row.id hqy
    rw [← hs] at hq hqy
    have : r = q := (db'.raw x.stream.1).id_injective hr hq (by omega)
    rw [← hrx, ← hqy, this]

theorem newRows_fresh (hI : HistoryMatches s) (db' : AgentDatabase) :
    ∀ x ∈ s.1.2.db.newRows db', ∀ y ∈ s.2.written, x.stream = y.stream → x.id ≠ y.id := by
  intro x hx y hy hs hi
  obtain ⟨r, -, hid, hrx⟩ := (AgentDatabase.mem_newRows_iff _ _ x).1 hx
  have hrid : r.1 = x.id := congrArg Row.id hrx
  have hlt := hI.id_lt y hy
  rw [← hs] at hlt
  omega

end HistoryMatches

theorem Agent.mem_closes {s : Agent} {a : AgentAction} {stream : TaskStream} {periodEnd : Nat}
    (h : s.closes a = some (stream, periodEnd)) :
    a = .aggregate ∧ ∃ task todo, s.point = .aggregating periodEnd (task :: todo) ∧
      stream = (task.taskType.kind, task.name) := by
  unfold closes at h
  repeat' split at h
  all_goals cases h
  next task todo hp => exact ⟨rfl, task, todo, hp, rfl⟩

theorem AgentDatabase.aggregatedIds_subset (summary : Summary) (db db' : AgentDatabase)
    (stream : TaskStream) (periodStart periodEnd : Nat) :
    ∀ i ∈ db.aggregatedIds summary db' stream periodStart periodEnd,
      ∃ r ∈ db.window stream.1 stream.2 periodStart periodEnd, r.1 = i := by
  intro i hi
  unfold aggregatedIds at hi
  dsimp only at hi
  split at hi
  · exact List.mem_map.1 hi
  · cases hi

/-- **What a pass stores**: the aggregate of all the raw rows of the minute, if there are any. -/
theorem Agent.aggregatedIds_of_closes {config : AgentConfig} {summary : Summary} {s s' : Agent}
    {now : Nat} {a : AgentAction} (h : s.next config summary now a = some s') {stream : TaskStream}
    {periodEnd : Nat} (hc : s.closes a = some (stream, periodEnd)) :
    s.db.aggregatedIds summary s'.db stream (periodEnd - 60) periodEnd =
      (s.db.window stream.1 stream.2 (periodEnd - 60) periodEnd).map Prod.fst := by
  obtain ⟨rfl, task, todo, hp, rfl⟩ := mem_closes hc
  dsimp only
  unfold AgentDatabase.aggregatedIds
  dsimp only
  by_cases hrows : s.db.window task.taskType.kind task.name (periodEnd - 60) periodEnd = []
  · rw [hrows, List.map_nil]
    exact ite_self _
  · refine if_pos ?_
    have hmetric := mt (s.db.generateAggregatedMetrics_eq_none_iff summary task.name task.taskType
      (periodEnd - 60) periodEnd).1 hrows
    dsimp only [next] at h
    rw [hp] at h
    dsimp only at h
    split at h
    · next hnone => exact absurd hnone hmetric
    · next metric hsome =>
      unfold AgentDatabase.generateAggregatedMetrics at hsome
      dsimp only at hsome
      split at hsome
      · cases hsome
      · obtain rfl := Option.some.inj hsome
        unfold AgentDatabase.storeAggregatedMetric at h
        rw [summary.kind_data] at h
        obtain rfl := Option.some.inj h
        dsimp only
        rw [Function.update_self]
        exact (Table.mem_rows_insertOrReplace_iff _ _ _).2 (.inr rfl)

namespace HistoryMatches

variable {s : (Nat × Agent) × History TaskStream}

/-- The rows that a pass collects are rows of its window. -/
theorem collected_ids (hI : HistoryMatches s) {summary : Summary} {s' : Agent} {a : AgentAction}
    {p : Pass TaskStream} (hp : s.1.2.collected summary s' a = some p) :
    ∀ i ∈ p.ids, ∃ x ∈ s.2.written,
      x.stream = p.stream ∧ x.id = i ∧ p.start ≤ x.time ∧ x.time < p.stop := by
  obtain ⟨⟨stream, periodEnd⟩, -, rfl⟩ := Option.map_eq_some_iff.1 hp
  intro i hi
  obtain ⟨r, hr, rfl⟩ := AgentDatabase.aggregatedIds_subset _ _ _ _ _ _ i hi
  obtain ⟨hr, hwin⟩ := List.mem_filter.1 hr
  simp only [Bool.and_eq_true, decide_eq_true_eq] at hwin
  refine ⟨_, hI.written _ r hr, ?_, rfl, hwin.2.1, hwin.2.2⟩
  show (_, r.2.taskName) = _
  rw [hwin.1]

/-- A pass is over an aligned minute, and no row of it has been deleted or was left out. -/
theorem collected_window (hI : HistoryMatches s) {config : AgentConfig} {summary : Summary}
    {now : Nat} {s' : Agent} {a : AgentAction} {p : Pass TaskStream}
    (hs : s.1.2.next config summary now a = some s')
    (hp : s.1.2.collected summary s' a = some p) : 60 ∣ p.start ∧ p.stop = p.start + 60 ∧
      ∀ x ∈ s.2.written, p.stream = x.stream → p.start ≤ x.time → x.time < p.stop →
        x.id ∈ p.ids := by
  obtain ⟨⟨stream, periodEnd⟩, hc, rfl⟩ := Option.map_eq_some_iff.1 hp
  obtain ⟨-, task, todo, hpoint, -⟩ := Agent.mem_closes hc
  obtain ⟨hdvd, hle, hheld⟩ := hI.point periodEnd (by rw [hpoint]; rfl)
  dsimp only
  rw [Agent.aggregatedIds_of_closes hs hc]
  refine ⟨(Nat.dvd_sub hdvd (dvd_refl 60)), by omega, fun x hx hsx hstart hstop => ?_⟩
  rcases hheld x hx with ⟨r, hr, hrx⟩ | hold
  · refine List.mem_map.2 ⟨r, List.mem_filter.2 ⟨?_, ?_⟩, congrArg Row.id hrx⟩
    · rw [hsx]
      exact hr
    · have hname : r.2.taskName = stream.2 :=
        (congrArg (fun y : Row TaskStream => y.stream.2) hrx).trans (congrArg Prod.snd hsx).symm
      have htime : r.2.timestamp = x.time := congrArg Row.time hrx
      simp [hname, htime, hstart, hstop]
  · omega

end HistoryMatches

/-- A pass stores nothing in the raw tables. -/
theorem Agent.flushed_of_closes {s : Agent} {now : Nat} {a : AgentAction} {c : TaskStream × Nat}
    (hc : s.closes a = some c) : s.flushed now a = [] := by
  rw [(mem_closes hc).1]
  rfl

theorem recordAggregation_written (summary : Summary) (h : History TaskStream) (t : AgentStep) :
    (recordAggregation summary h t).written = h.written ++ t.pre.2.db.newRows t.post.2.db := by
  unfold recordAggregation
  dsimp only
  split <;> rfl

/-- Every run of the agent has its history, which holds every row that was ever written. -/
theorem aggregationMachine_run {config : AgentConfig} {summary : Summary}
    {tasksConfig : TasksConfig} {t₀ : Nat} {tr : List AgentStep} {s : Nat × Agent}
    (hrun : Run (agentMachine config summary tasksConfig t₀) tr s) :
    ∃ tr' h, Run (aggregationMachine config summary tasksConfig t₀) tr' (s, h) ∧
      tr'.map Taken.base = tr ∧
      h.written = tr.flatMap fun t => t.pre.2.db.newRows t.post.2.db := by
  have hwritten : ∀ (tr : List AgentStep) (h : History TaskStream),
      (tr.foldl (recordAggregation summary) h).written =
        h.written ++ tr.flatMap fun t => t.pre.2.db.newRows t.post.2.db := by
    intro tr
    induction tr with
    | nil =>
      intro h
      simp
    | cons t tr ih =>
      intro h
      rw [List.foldl_cons, ih, recordAggregation_written, List.flatMap_cons, List.append_assoc]
  obtain ⟨tr', hr', htr⟩ := hrun.ghost_lift ⟨[], []⟩ (recordAggregation summary)
  exact ⟨tr', _, hr', htr, hwritten tr _⟩

/-- What a step makes of the raw rows: new ones have new ids, and only those that are a day old are
deleted. -/
structure RawStep (now : Nat) (db db' : AgentDatabase) : Prop where
  nextId : ∀ kind, (db.raw kind).nextId ≤ (db'.raw kind).nextId
  rows : ∀ kind, ∀ r ∈ (db'.raw kind).rows,
    r ∈ (db.raw kind).rows ∨ (db.raw kind).nextId ≤ r.1
  kept : ∀ x, db.Holds x → db'.Holds x ∨ x.time + 86400 ≤ now

theorem Agent.next_rawStep {config : AgentConfig} {summary : Summary}
    (hdays : config.localDataRetentionDays ≠ 0) {s s' : Agent} {now : Nat} {a : AgentAction}
    (h : s.next config summary now a = some s') : RawStep now s.db s'.db := by
  rcases Agent.next_stores h with hstores | ⟨done, -, -, hdb⟩
  · refine ⟨?_, ?_, fun x hx => .inl (hstores.holds hx)⟩
    · intro kind
      obtain ⟨rows, -, -, -, hnext⟩ := hstores.raw kind
      exact hnext
    · intro kind r hr
      obtain ⟨rows, happ, -, hids, -⟩ := hstores.raw kind
      rw [happ, List.mem_append] at hr
      exact hr.imp id (hids r)
  · have hraw := s.db.cleanupOldData_raw now config.localDataRetentionDays done
    rw [hdb]
    refine ⟨?_, ?_, ?_⟩
    · intro kind
      rw [(hraw kind).1]
    · intro kind r hr
      exact .inl ((hraw kind).2.1 r hr)
    · rintro x ⟨r, hr, hrx⟩
      rcases (hraw x.stream.1).2.2 r hr with hkept | hold
      · exact .inl ⟨r, hkept, hrx⟩
      · right
        have htime : r.2.timestamp = x.time := congrArg Row.time hrx
        have hpos : 0 < config.localDataRetentionDays.toNat := by
          rw [Nat.pos_iff_ne_zero]
          intro h0
          exact hdays (UInt32.toNat_inj.1 h0)
        omega

namespace HistoryMatches

variable {config : AgentConfig} {summary : Summary} {s : (Nat × Agent) × History TaskStream}
  {now : Nat} {a : AgentAction} {s' : Agent}

/-- The history goes on matching the tables while it is well formed. -/
theorem record (hI : HistoryMatches s) (hdays : config.localDataRetentionDays ≠ 0)
    (hle : s.1.1 ≤ now) (hs : s.1.2.next config summary now a = some s') {h : History TaskStream}
    (hw : h.written = s.2.written ++ s.1.2.db.newRows s'.db) (hwf : h.WellFormed 60) :
    HistoryMatches ((now, s'), h) := by
  have hraw := Agent.next_rawStep hdays hs
  have hkept : ∀ x ∈ s.2.written ++ s.1.2.db.newRows s'.db,
      s'.db.Holds x ∨ x.time + 86400 ≤ now := by
    intro x hx
    rcases List.mem_append.1 hx with hx | hx
    · rcases hI.kept x hx with hheld | hold
      · exact hraw.kept x hheld
      · exact .inr (le_trans hold hle)
    · exact .inl (AgentDatabase.holds_of_newRows hx)
  refine ⟨hwf, ?_, ?_, ?_, ?_⟩
  · intro kind r hr
    rw [hw, List.mem_append]
    rcases hraw.rows kind r hr with hr' | hid
    · exact .inl (hI.written kind r hr')
    · right
      rw [AgentDatabase.mem_newRows_iff]
      exact ⟨r, hr, hid, rfl⟩
  · rw [hw]
    intro x hx
    rcases List.mem_append.1 hx with hx | hx
    · exact lt_of_lt_of_le (hI.id_lt x hx) (hraw.nextId _)
    · obtain ⟨r, hr, -, hrx⟩ := (AgentDatabase.mem_newRows_iff _ _ x).1 hx
      have hid : r.1 = x.id := congrArg Row.id hrx
      rw [← hid]
      exact (s'.db.raw x.stream.1).ids_lt r hr
  · rw [hw]
    exact hkept
  · intro periodEnd he
    rw [hw]
    rcases Agent.next_periodEnd hs he with hsame | hdue
    · obtain ⟨hdvd, hmin, hheld⟩ := hI.point periodEnd hsame
      refine ⟨hdvd, hmin, fun x hx => ?_⟩
      rcases List.mem_append.1 hx with hx | hx
      · -- no cleanup comes in the middle of a pass
        rcases Agent.next_stores hs with hstores | ⟨done, -, hcleanup, -⟩
        · exact (hheld x hx).imp hstores.holds id
        · rw [hcleanup] at hsame
          cases hsame
      · exact .inl (AgentDatabase.holds_of_newRows hx)
    · obtain ⟨hdvd, hmin, hnow, -⟩ := TaskScheduler.dueMinute_spec hdue
      refine ⟨hdvd, hmin, fun x hx => ?_⟩
      rcases hkept x hx with hheld | hold
      · exact .inl hheld
      · right
        omega

/-- A step that is no pass keeps everything covered when no metric that it stores is late. -/
theorem write_iff (hI : HistoryMatches s) (hcov : s.2.Covered)
    (hs : s.1.2.next config summary now a = some s') (hc : s.1.2.closes a = none) :
    (s.2.write (s.1.2.db.newRows s'.db)).Covered ↔ Timely s (now, a) := by
  rw [History.write_covered_iff hI.wellFormed hcov (hI.newRows_fresh s'.db)]
  have hflushed : (∀ x ∈ s.1.2.db.newRows s'.db, s.2.passed x = false) ↔
      ∀ metric ∈ s.1.2.flushed now a, ∀ kind, metric.data.kind = some kind →
        s.2.passed (metric.streamRow kind) = false := by
    rcases Agent.next_stores hs with hstores | ⟨done, rfl, -, hdb⟩
    · exact hstores.passed_newRows_iff s.2
    · have hnil : s.1.2.db.newRows s'.db = [] := by
        refine AgentDatabase.newRows_eq_nil fun kind r hr => ?_
        rw [hdb] at hr
        exact (s.1.2.db.cleanupOldData_raw now _ done kind).2.1 r hr
      rw [hnil]
      simp [Agent.flushed]
  rw [hflushed]
  constructor
  · intro h
    refine ⟨h, ?_⟩
    intro stream periodEnd hc'
    rw [hc] at hc'
    cases hc'
  · intro h
    exact h.flushed

/-- A pass writes no raw rows. -/
theorem newRows_of_closes {c : TaskStream × Nat} (hs : s.1.2.next config summary now a = some s')
    (hc : s.1.2.closes a = some c) : s.1.2.db.newRows s'.db = [] := by
  refine AgentDatabase.newRows_eq_nil fun kind r hr => ?_
  rcases Agent.next_stores hs with hstores | ⟨done, rfl, -, -⟩
  · obtain ⟨rows, happ, hmap, -⟩ := hstores.raw kind
    rw [Agent.flushed_of_closes hc] at hmap
    have hrows : rows = [] := by simpa using hmap
    rwa [happ, hrows, List.append_nil] at hr
  · cases hc

/-- A pass keeps everything covered when it leaves no row before its window. -/
theorem pass_iff (hI : HistoryMatches s) (hcov : s.2.Covered) {p : Pass TaskStream}
    (hs : s.1.2.next config summary now a = some s')
    (hp : s.1.2.collected summary s' a = some p) :
    (s.2.pass p).Covered ↔ Timely s (now, a) := by
  obtain ⟨hdvd, hstop, hin⟩ := hI.collected_window hs hp
  rw [History.pass_covered_iff hI.wellFormed hcov hdvd hstop (hI.collected_ids hp)]
  obtain ⟨⟨stream, periodEnd⟩, hc, rfl⟩ := Option.map_eq_some_iff.1 hp
  dsimp only at hstop hin ⊢
  constructor
  · intro h
    constructor
    · intro metric hm
      rw [Agent.flushed_of_closes hc] at hm
      cases hm
    · intro stream' periodEnd' hc' x hx hsx hlt
      rw [hc] at hc'
      obtain ⟨rfl, rfl⟩ := Prod.mk.inj (Option.some.inj hc')
      have := h x hx hsx (by omega)
      rwa [if_neg (by omega)] at this
  · intro h x hx hsx hlt
    by_cases hstart : periodEnd - 60 ≤ x.time
    · rw [if_pos hstart]
      exact hin x hx hsx hstart hlt
    · rw [if_neg hstart]
      exact h.closed stream periodEnd hc x hx hsx (by omega)

end HistoryMatches

/-- **One step**: the history goes on matching the tables, and everything is still covered
exactly when the step is timely. -/
theorem next_recorded {config : AgentConfig} {summary : Summary}
    (hdays : config.localDataRetentionDays ≠ 0) {s : (Nat × Agent) × History TaskStream}
    {now : Nat} {a : AgentAction} {s' : Agent} (hI : HistoryMatches s) (hle : s.1.1 ≤ now)
    (hs : s.1.2.next config summary now a = some s') :
    HistoryMatches ((now, s'), recordAggregation summary s.2 ⟨s.1, (now, a), (), (now, s')⟩) ∧
      (s.2.Covered → ((recordAggregation summary s.2 ⟨s.1, (now, a), (), (now, s')⟩).Covered ↔
        Timely s (now, a))) := by
  have hw := recordAggregation_written summary s.2 ⟨s.1, (now, a), (), (now, s')⟩
  cases hp : s.1.2.collected summary s' a with
  | none =>
    have hrec : recordAggregation summary s.2 ⟨s.1, (now, a), (), (now, s')⟩ =
        s.2.write (s.1.2.db.newRows s'.db) := by
      unfold recordAggregation
      dsimp only
      rw [hp]
    rw [hrec] at hw ⊢
    have hwf := hI.wellFormed.write (hI.newRows_unique s'.db)
    have hc : s.1.2.closes a = none := Option.map_eq_none_iff.1 hp
    exact ⟨hI.record hdays hle hs hw hwf, fun hcov => hI.write_iff hcov hs hc⟩
  | some p =>
    obtain ⟨c, hc, -⟩ := Option.map_eq_some_iff.1 hp
    have hrec : recordAggregation summary s.2 ⟨s.1, (now, a), (), (now, s')⟩ = s.2.pass p := by
      unfold recordAggregation
      dsimp only
      rw [hp, HistoryMatches.newRows_of_closes hs hc]
      unfold History.write
      rw [List.append_nil]
    rw [hrec] at hw ⊢
    obtain ⟨hdvd, hstop, -⟩ := hI.collected_window hs hp
    have hwf := hI.wellFormed.pass hdvd hstop (hI.collected_ids hp)
    exact ⟨hI.record hdays hle hs hw hwf, fun hcov => hI.pass_iff hcov hs hp⟩

/-! ## Top theorem -/

theorem historyMatches_init (config : AgentConfig) (tasksConfig : TasksConfig) (t₀ : Nat) :
    HistoryMatches ((t₀, Agent.start config tasksConfig .initial t₀), ⟨[], []⟩) where
  wellFormed := ⟨by simp, by simp, by simp⟩
  written := by
    intro kind r hr
    cases hr
  id_lt := by simp
  kept := by simp
  point := by
    intro periodEnd he
    cases he

/-- **Every raw row of a passed minute is in exactly one aggregate** in the states of a run, if and
only if no step of it is late: none stores a metric whose minute has been passed, and none
aggregates a minute when an earlier one with rows of the task was skipped. -/
theorem covered_iff_timely (env : Externals) (config : AgentConfig) (summary : Summary)
    (tasksConfig : TasksConfig) (t₀ : Nat) (hvalid : config.validate env = .ok ())
    {tr : List (Taken ((Nat × Agent) × History TaskStream) (Nat × AgentAction) Unit)}
    {s : (Nat × Agent) × History TaskStream}
    (hrun : Run (aggregationMachine config summary tasksConfig t₀) tr s) :
    (∀ t ∈ tr, t.post.2.Covered) ↔ ∀ t ∈ tr, Timely t.pre t.label := by
  have hspec : ∀ {s a s' b}, HistoryMatches s →
      (aggregationMachine config summary tasksConfig t₀).step s a = some (s', b) →
      HistoryMatches s' ∧ (s.2.Covered → (s'.2.Covered ↔ Timely s a)) := by
    intro s a s' b hI hs
    obtain ⟨hstep, hrec⟩ := (Machine.ghost_step_iff _ _ _ _ _ _ _).1 hs
    obtain ⟨hle, hnext, hclock⟩ := agentMachine_step hstep
    obtain ⟨⟨clock, agent⟩, h⟩ := s'
    dsimp only at hnext hclock hrec
    subst hclock hrec
    exact next_recorded (AgentConfig.validate_retention hvalid) hI hle hnext
  refine Run.forall_iff (I := fun s => HistoryMatches s ∧ s.2.Covered) ?_ ?_ ?_ hrun
  · exact ⟨historyMatches_init config tasksConfig t₀, fun x hx => by cases hx⟩
  · intro s a s' b hI hC hs
    obtain ⟨hmatch, hiff⟩ := hspec hI.1 hs
    exact ⟨hmatch, (hiff hI.2).2 hC⟩
  · intro s a s' b hI hs
    exact (hspec hI.1 hs).2 hI.2

/-! ## A minute that is slept across -/

def exampleAgentConfig : AgentConfig where
  agentId := "agent1"
  centralServerUrl := "https://example.com"
  apiKey := "secret"
  localDataRetentionDays := 7
  autoUpdateTasks := true
  localOnly := false
  metricsFlushIntervalSeconds := 5
  metricsSendIntervalSeconds := 30
  metricsBatchSize := 50
  metricsMaxRetries := 2
  queueCleanupIntervalSeconds := 3600
  dataCleanupIntervalSeconds := 86400
  maxConcurrentTasks := 50
  httpResponseMaxSizeMb := 100
  httpClientTimeoutSeconds := 30
  databaseBusyTimeoutSeconds := 5
  gracefulShutdownTimeoutSeconds := 30
  channelBufferSize := 1000
  httpClientRefreshIntervalSeconds := 3600

/-- Columns that count the rows and leave the rest empty. -/
def exampleSummary : Summary where
  sampleCount := fun _ rows => UInt32.ofNat rows.length
  data := fun
    | .ping, _ => .ping default
    | .tcp, _ => .tcp default
    | .http, _ => .httpGet default
    | .tls, _ => .tlsHandshake default
    | .httpContent, _ => .httpContent default
    | .dns, _ => .dnsQuery default
    | .bandwidth, _ => .bandwidth default
    | .sqlQuery, _ => .sqlQuery default
    | .snmp, _ => .snmp default
  kind_data := by
    intro kind rows
    cases kind <;> rfl

/-- The rest of an iteration at `now`, from the flush to the wait for an event. -/
def restOfIteration (now : Nat) : List (Nat × AgentAction) :=
  [(now, .flush none), (now, .queueCleanup false false), (now, .fetch true), (now, .dataCleanup 18)]

/-- An iteration at `now` in which no minute is closed. -/
def quietIteration (now : Nat) : List (Nat × AgentAction) :=
  (now, .aggregationCheck none) :: restOfIteration now

def taskEvery (seconds : UInt32) : TaskConfig :=
  { exampleTask with scheduleSeconds := seconds }

/-- The result of an execution at `timestamp`, handled at `now`. -/
def handledAt (now timestamp : Nat) (task : TaskConfig) : List (Nat × AgentAction) :=
  (executeTask exampleExternals ⟨none, none, none⟩
    { answeringProbe 200 with timestamp := timestamp } task).map
      fun result => (now, .result none result)

/-- The agent starts at 60, runs its task at 65 and flushes the result at 66. -/
def firstMinute (task : TaskConfig) : List (Nat × AgentAction) :=
  [(60, .aggregationCheck none), (60, .aggregate), (60, .aggregationDone)] ++ restOfIteration 60 ++
    [(65, .ready "web")] ++ quietIteration 65 ++ handledAt 66 65 task ++ quietIteration 66

/-- The task is due again at `now`, and the minute before is aggregated. -/
def wokenAt (now : Nat) : List (Nat × AgentAction) :=
  [(now, .ready "web"), (now, .aggregationCheck none), (now, .aggregate)]

instance {κ : Type} [DecidableEq κ] (h : History κ) : Decidable h.Covered :=
  inferInstanceAs (Decidable (∀ x ∈ h.written, h.passed x = true →
    h.passes.countP (·.contains x) = 1))

/-- A task that is due every minute: woken at 125, the agent aggregates the minute of its row, and no
step was late. -/
theorem covered_iff_timely_awake :
    ∃ tr s, Run (aggregationMachine exampleAgentConfig exampleSummary ⟨[taskEvery 60]⟩ 60) tr s ∧
      exampleAgentConfig.validate exampleExternals = .ok () ∧
      (s.2.written.length = 1 ∧ ∀ x ∈ s.2.written, s.2.passes.countP (·.contains x) = 1) ∧
      (∀ t ∈ tr, t.post.2.Covered) ∧ ∀ t ∈ tr, Timely t.pre t.label := by
  obtain ⟨tr, s, he, hrun⟩ := Run.exists_of_exec
    (aggregationMachine exampleAgentConfig exampleSummary ⟨[taskEvery 60]⟩ 60)
    (firstMinute (taskEvery 60) ++ wokenAt 125) (by rfl)
  have hend : ((aggregationMachine exampleAgentConfig exampleSummary ⟨[taskEvery 60]⟩ 60).exec
      (firstMinute (taskEvery 60) ++ wokenAt 125)).map (fun r => (r.2.2.written.length,
        r.2.2.written.all fun x => r.2.2.passes.countP (·.contains x) = 1,
        r.1.all fun t => decide t.post.2.Covered)) = some (1, true, true) := by rfl
  rw [he] at hend
  obtain ⟨hlen, hrest⟩ := Prod.mk.inj (Option.some.inj hend)
  obtain ⟨hone, hcovered⟩ := Prod.mk.inj hrest
  have hcovered : ∀ t ∈ tr, t.post.2.Covered :=
    fun t ht => of_decide_eq_true (List.all_eq_true.1 hcovered t ht)
  refine ⟨tr, s, hrun, by rfl, ⟨hlen, fun x hx => ?_⟩, hcovered, ?_⟩
  · exact of_decide_eq_true (List.all_eq_true.1 hone x hx)
  · exact (covered_iff_timely exampleExternals _ _ _ _ (by rfl) hrun).1 hcovered

/-- A task that is due every five minutes: woken at 365, the agent aggregates the minute from 300
on, and the row of second 65 is in no aggregate. -/
theorem not_covered_asleep :
    ∃ tr s, Run (aggregationMachine exampleAgentConfig exampleSummary ⟨[taskEvery 300]⟩ 60) tr s ∧
      (exampleAgentConfig.validate exampleExternals = .ok () ∧
        TasksConfig.validate exampleExternals ⟨[taskEvery 300]⟩ = .ok ()) ∧
      ¬ ∀ t ∈ tr, t.post.2.Covered := by
  obtain ⟨tr, s, he, hrun⟩ := Run.exists_of_exec
    (aggregationMachine exampleAgentConfig exampleSummary ⟨[taskEvery 300]⟩ 60)
    (firstMinute (taskEvery 300) ++ wokenAt 365) (by rfl)
  have hend : ((aggregationMachine exampleAgentConfig exampleSummary ⟨[taskEvery 300]⟩ 60).exec
      (firstMinute (taskEvery 300) ++ wokenAt 365)).map
        (fun r => r.1.all fun t => decide t.post.2.Covered) = some false := by rfl
  rw [he] at hend
  have hlate : (tr.all fun t => decide t.post.2.Covered) = false := Option.some.inj hend
  refine ⟨tr, s, hrun, ⟨by rfl, by rfl⟩, fun hall => ?_⟩
  have : (tr.all fun t => decide t.post.2.Covered) = true :=
    List.all_eq_true.2 fun t ht => decide_eq_true (hall t ht)
  rw [this] at hlate
  cases hlate

end LinkSense
