import LinkSense.Agent.MainLoop

/-!
# What a failed flush leaves

`flush_metrics_now` takes the buffer before it stores the first metric, and leaves at the first
error.  A metric is in the database with a new row, or still in the buffer, or it is gone.

    a flush empties the buffer, writes the metrics before the failing one, and loses the others
                                                                         (flushMetricsNow_spec)
    a flush conserves the metrics ↔ it returns no error             (flushMetricsNow_conserves_iff)
-/

namespace LinkSense

open Sql

/-! ## Definitions -/

/-- The rows of `db'` that `db` has not given an id. -/
def AgentDatabase.rowsWritten (db db' : AgentDatabase) (kind : MetricKind) : List RawRow :=
  ((db'.raw kind).rows.filter fun r => (db.raw kind).nextId ≤ r.1).map Prod.snd

def AgentDatabase.newlyWritten (db db' : AgentDatabase) : List RawRow :=
  MetricKind.all.flatMap (db.rowsWritten db')

/-- What is newly in the database and what is in the buffer is, in some order, what was in the
buffer. -/
def TaskScheduler.Conserves (s : TaskScheduler) (db : AgentDatabase) (s' : TaskScheduler)
    (db' : AgentDatabase) : Prop :=
  (db.newlyWritten db' ++ s'.metricsBuffer.map MetricData.row).Perm
    (s.metricsBuffer.map MetricData.row)

/-! ## Lemmas -/

/-- Sorting by a key into the classes of all keys loses nothing. -/
theorem flatMap_filter_perm {α κ : Type*} [DecidableEq κ] {keys : List κ} (hn : keys.Nodup)
    (f : α → Option κ) (xs : List α) (h : ∀ x ∈ xs, ∃ k ∈ keys, f x = some k) :
    (keys.flatMap fun k => xs.filter fun x => f x = some k).Perm xs := by
  induction xs with
  | nil =>
    have hnil : (keys.flatMap fun _ => ([] : List α)) = [] := by simp
    simp only [List.filter_nil, hnil]
    exact .refl _
  | cons x xs ih =>
    obtain ⟨k, hk, hx⟩ := h x List.mem_cons_self
    have hrest := ih fun y hy => h y (List.mem_cons_of_mem _ hy)
    obtain ⟨before, after, rfl⟩ := List.append_of_mem hk
    -- only the class of `k` has `x`
    have hother : ∀ ks : List κ, k ∉ ks →
        (ks.flatMap fun j => (x :: xs).filter fun y => f y = some j) =
          ks.flatMap fun j => xs.filter fun y => f y = some j := by
      intro ks hks
      refine List.flatMap_congr fun j hj => ?_
      have hne : ¬ f x = some j := by
        intro he
        rw [hx] at he
        exact hks (Option.some.inj he ▸ hj)
      rw [List.filter_cons_of_neg (by simpa using hne)]
    have hbefore : k ∉ before := fun hb =>
      (List.nodup_append.1 hn).2.2 k hb k List.mem_cons_self rfl
    have hafter : k ∉ after := (List.nodup_cons.1 (List.nodup_append.1 hn).2.1).1
    rw [List.flatMap_append, List.flatMap_cons] at hrest ⊢
    rw [hother before hbefore, hother after hafter,
      List.filter_cons_of_pos (by simpa using hx)]
    exact List.perm_middle.trans (hrest.cons x)

namespace AgentDatabase

variable {db db' : AgentDatabase}

theorem Stores.rowsWritten_eq {metrics : List MetricData} (h : db.Stores db' metrics)
    (kind : MetricKind) :
    db.rowsWritten db' kind = (metrics.filter (·.data.kind = some kind)).map MetricData.row := by
  obtain ⟨rows, hrows, hmap, hids, -⟩ := h.raw kind
  have hold : (db.raw kind).rows.filter (fun r => (db.raw kind).nextId ≤ r.1) = [] := by
    rw [List.filter_eq_nil_iff]
    intro r hr
    have := (db.raw kind).ids_lt r hr
    simpa using this
  have hnew : rows.filter (fun r => (db.raw kind).nextId ≤ r.1) = rows := by
    rw [List.filter_eq_self]
    intro r hr
    simpa using hids r hr
  unfold rowsWritten
  rw [hrows, List.filter_append, hold, hnew, List.nil_append, hmap]

theorem Stores.newlyWritten_perm {metrics : List MetricData} (h : db.Stores db' metrics)
    (hk : ∀ metric ∈ metrics, metric.data.kind.isSome) :
    (db.newlyWritten db').Perm (metrics.map MetricData.row) := by
  have hsorted := flatMap_filter_perm (by decide : MetricKind.all.Nodup)
    (fun metric : MetricData => metric.data.kind) metrics (by
      intro metric hm
      obtain ⟨kind, hkind⟩ := Option.isSome_iff_exists.1 (hk metric hm)
      exact ⟨kind, kind.mem_all, hkind⟩)
  have heq : db.newlyWritten db' = (MetricKind.all.flatMap fun kind =>
      metrics.filter fun metric => metric.data.kind = some kind).map MetricData.row := by
    unfold newlyWritten
    rw [List.map_flatMap]
    exact List.flatMap_congr fun kind _ => h.rowsWritten_eq kind
  rw [heq]
  exact hsorted.map _

theorem storeAll_ok_iff (db : AgentDatabase) (metrics : List MetricData) :
    (db.storeAll metrics).2 = .ok () ↔ metrics.takeWhile (·.data.kind.isSome) = metrics := by
  induction metrics generalizing db with
  | nil => exact ⟨fun _ => rfl, fun _ => rfl⟩
  | cons metric metrics ih =>
    unfold storeAll storeRawMetric
    rw [List.takeWhile_cons]
    cases metric.data.kind with
    | none => simp
    | some kind =>
      dsimp only
      rw [ih]
      simp

/-- A loop that is not stopped from outside fails when it comes to a metric of no kind, and one that
is fails unless it has come to the end. -/
theorem storeSome_ok_iff (db : AgentDatabase) (failAt : Option Nat) (metrics : List MetricData) :
    (db.storeSome failAt metrics).2 = .ok () ↔ storedMetrics failAt metrics = metrics := by
  unfold storeSome storedMetrics
  cases failAt with
  | none => exact db.storeAll_ok_iff metrics
  | some n =>
    have hall := db.storeAll_ok_iff (metrics.take n)
    have hlen := (List.takeWhile_prefix
      (fun metric : MetricData => metric.data.kind.isSome) (l := metrics.take n)).length_le
    rw [List.length_take] at hlen
    dsimp only [Option.elim]
    by_cases hn : n < metrics.length
    · have hshort : ¬ (metrics.take n).takeWhile (·.data.kind.isSome) = metrics := by
        intro heq
        rw [heq] at hlen
        omega
      rcases db.storeAll (metrics.take n) with ⟨db', e | u⟩
      · simp [hshort]
      · simp [hn, hshort]
    · have htake : metrics.take n = metrics := List.take_of_length_le (by omega)
      rw [htake] at hall ⊢
      rw [← hall]
      rcases db.storeAll metrics with ⟨db', e | u⟩
      · rfl
      · simp [hn]

end AgentDatabase

theorem storedMetrics_isSome {failAt : Option Nat} {metrics : List MetricData} :
    ∀ metric ∈ storedMetrics failAt metrics, metric.data.kind.isSome :=
  List.all_eq_true.1 List.all_takeWhile

theorem storedMetrics_isPrefixOf (failAt : Option Nat) (metrics : List MetricData) :
    storedMetrics failAt metrics <+: metrics := by
  unfold storedMetrics
  cases failAt with
  | none => exact List.takeWhile_prefix _
  | some n => exact (List.takeWhile_prefix _).trans (List.take_prefix n metrics)

namespace TaskScheduler

/-- A flush empties the buffer, and its result is that of the loop. -/
theorem flushMetricsNow_buffer (s : TaskScheduler) (db : AgentDatabase) (now : Nat)
    (failAt : Option Nat) :
    (s.flushMetricsNow db now failAt).1.metricsBuffer = [] ∧
      (s.flushMetricsNow db now failAt).2.2 = (db.storeSome failAt s.metricsBuffer).2 := by
  unfold flushMetricsNow
  by_cases hb : s.metricsBuffer = []
  · rw [if_pos hb]
    refine ⟨hb, ?_⟩
    rw [hb]
    exact ((db.storeSome_ok_iff failAt []).2 (List.prefix_nil.1 (storedMetrics_isPrefixOf _ _))).symm
  · rw [if_neg hb]
    dsimp only
    rcases db.storeSome failAt s.metricsBuffer with ⟨db', e | u⟩
    · exact ⟨rfl, rfl⟩
    · exact ⟨rfl, rfl⟩

/-- **What a flush does**: the metrics before the failing one are written, the buffer is empty, and
what the buffer held besides is lost, which is something exactly when there is an error. -/
theorem flushMetricsNow_spec (s : TaskScheduler) (db : AgentDatabase) (now : Nat)
    (failAt : Option Nat) :
    ∃ stored lost, s.metricsBuffer = stored ++ lost ∧
      (lost = [] ↔ (s.flushMetricsNow db now failAt).2.2 = .ok ()) ∧
      (s.flushMetricsNow db now failAt).1.metricsBuffer = [] ∧
      (db.newlyWritten (s.flushMetricsNow db now failAt).2.1).Perm
        (stored.map MetricData.row) := by
  obtain ⟨hbuffer, hresult⟩ := s.flushMetricsNow_buffer db now failAt
  obtain ⟨lost, hlost⟩ := storedMetrics_isPrefixOf failAt s.metricsBuffer
  have hstores := s.flushMetricsNow_stores db now failAt
  refine ⟨_, lost, hlost.symm, ?_, hbuffer, hstores.newlyWritten_perm storedMetrics_isSome⟩
  rw [hresult, AgentDatabase.storeSome_ok_iff]
  conv => rhs; rhs; rw [← hlost]
  exact List.self_eq_append_right.symm

/-- **A flush conserves the metrics exactly when it returns no error.** -/
theorem flushMetricsNow_conserves_iff (s : TaskScheduler) (db : AgentDatabase) (now : Nat)
    (failAt : Option Nat) :
    s.Conserves db (s.flushMetricsNow db now failAt).1 (s.flushMetricsNow db now failAt).2.1 ↔
      (s.flushMetricsNow db now failAt).2.2 = .ok () := by
  obtain ⟨stored, lost, heq, hlost, hbuffer, hnew⟩ := s.flushMetricsNow_spec db now failAt
  unfold Conserves
  rw [hbuffer, List.map_nil, List.append_nil, heq, ← hlost]
  constructor
  · intro hperm
    have hlen := (hnew.symm.trans hperm).length_eq
    rw [List.length_map, List.length_map, List.length_append] at hlen
    exact List.eq_nil_of_length_eq_zero (by omega)
  · intro hnil
    rw [hnil, List.append_nil]
    exact hnew

/-- A flush that is not due fails as little as it writes. -/
theorem flushMetricsIfNeeded_conserves_iff (s : TaskScheduler) (db : AgentDatabase) (now : Nat)
    (failAt : Option Nat) :
    s.Conserves db (s.flushMetricsIfNeeded db now failAt).1
        (s.flushMetricsIfNeeded db now failAt).2.1 ↔
      (s.flushMetricsIfNeeded db now failAt).2.2 = .ok () := by
  unfold flushMetricsIfNeeded
  split
  · exact s.flushMetricsNow_conserves_iff db now failAt
  · have hnone := (AgentDatabase.Stores.of_raw_eq (rfl : db.raw = db.raw)).newlyWritten_perm
      (by simp)
    refine ⟨fun _ => rfl, fun _ => ?_⟩
    unfold Conserves
    rw [hnone.eq_nil, List.nil_append]

/-- **A failed flush never conserves the metrics**, whatever the buffer holds and wherever the
storing fails. -/
theorem failed_flush_loses (s : TaskScheduler) (db : AgentDatabase) (now : Nat)
    (failAt : Option Nat) (e : String) :
    ((s.flushMetricsNow db now failAt).2.2 = .error e →
      ¬ s.Conserves db (s.flushMetricsNow db now failAt).1
        (s.flushMetricsNow db now failAt).2.1) ∧
    ((s.flushMetricsIfNeeded db now failAt).2.2 = .error e →
      ¬ s.Conserves db (s.flushMetricsIfNeeded db now failAt).1
        (s.flushMetricsIfNeeded db now failAt).2.1) := by
  constructor
  · intro h
    rw [s.flushMetricsNow_conserves_iff db now failAt, h]
    exact fun hok => by cases hok
  · intro h
    rw [s.flushMetricsIfNeeded_conserves_iff db now failAt, h]
    exact fun hok => by cases hok

end TaskScheduler

/-! ## An example -/

/-- A measurement of a ping, taken `n` seconds after the start. -/
def examplePing (n : Nat) : MetricData :=
  ⟨"ping", .ping, n, .ping ⟨some 1, true, none, "192.0.2.1", none, none⟩⟩

/-- A scheduler that has buffered the metrics of two executions. -/
def exampleBuffered : TaskScheduler :=
  { TaskScheduler.new ⟨[]⟩ 5 30 1000 3600 with metricsBuffer := [examplePing 1, examplePing 2] }

theorem failed_flush_loses_second :
    ¬ exampleBuffered.Conserves .initial
        (exampleBuffered.flushMetricsNow .initial 60 (some 1)).1
        (exampleBuffered.flushMetricsNow .initial 60 (some 1)).2.1 ∧
      ¬ exampleBuffered.Conserves .initial
        (exampleBuffered.flushMetricsIfNeeded .initial 60 (some 1)).1
        (exampleBuffered.flushMetricsIfNeeded .initial 60 (some 1)).2.1 := by
  have h := exampleBuffered.failed_flush_loses .initial 60 (some 1) "Failed to store raw metric"
  exact ⟨h.1 rfl, h.2 rfl⟩

/-- With the second of two metrics failing, one is written and none is kept. -/
theorem not_failed_flush_conserves :
    ¬ ∀ (s : TaskScheduler) (db : AgentDatabase) (now : Nat) (failAt : Option Nat) (e : String),
      (s.flushMetricsNow db now failAt).2.2 = .error e →
        s.Conserves db (s.flushMetricsNow db now failAt).1
          (s.flushMetricsNow db now failAt).2.1 := by
  intro h
  have hperm := h exampleBuffered .initial 60 (some 1) "Failed to store raw metric" rfl
  exact absurd hperm.length_eq (by decide)

end LinkSense
