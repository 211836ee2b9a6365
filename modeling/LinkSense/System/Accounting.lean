import LinkSense.System.Compatibility
import Mathlib.Algebra.BigOperators.Group.List.Basic

/-!
# Accounts of agents

`handle_metrics` over any sequence of submissions, each of which may meet a fault of the database
in either of its two parts.  `upsert_agent` adds one to `total_metrics_received` for each of them,
before `store_metrics` begins and whatever becomes of it.

    every submission of a run is atomic ↔ each admitted one has just one metric that there is a
      table for, no key of it is held, and it is stored without a fault    (atomic_iff_storesOne)
-/

namespace LinkSense

open Labelled

/-! ## Submissions -/

/-- The error of a statement that fails: of `upsert_agent`, or of the transaction after it. -/
structure DatabaseFaults where
  upsert : Option String
  store : Option String
deriving DecidableEq, Repr

/-- A request to the metrics endpoint, and what it meets. -/
structure Submission where
  moment : Moment
  headers : HeaderMap
  request : MetricsRequest
  faults : DatabaseFaults

/-- `upsert_agent`, which may fail. -/
def tryUpsertAgent (a : Submission) : Handler Unit :=
  match a.faults.upsert with
  | some e => .fail (.database s!"Failed to update agent status: {e}")
  | none => upsertAgent a.moment a.request

/-- `store_metrics`, whose transaction may fail for another reason than its rows. -/
def tryStoreMetrics (a : Submission) : Handler Unit :=
  match a.faults.store with
  | some e =>
    if a.request.metrics = [] then .answer ()
    else .fail (.database s!"Failed to store metrics: {e}")
  | none => storeMetrics a.moment a.request

/-- `handle_metrics`. -/
def submit (server : Server) (a : Submission) : Handler MetricsResponse :=
  .andThen (admission server a.moment a.headers a.request.agentId) fun _ =>
  .andThen (tryUpsertAgent a) fun _ =>
  .andThen (tryStoreMetrics a) fun _ =>
  .andThen (readConfig server a.request.agentId) fun cached =>
  .answer (if cached.map CachedAgentConfig.hash = some a.request.configChecksum then .upToDate
    else .stale)

/-- A server with a new database, and one submission after the other. -/
def accountingMachine (server : Server) (state : ServerState) :
    Machine ServerState Submission (Except ApiError MetricsResponse) where
  init := { state with database := .initial }
  step s a := (submit server a s).map Prod.swap

abbrev AccountingStep := Taken ServerState Submission (Except ApiError MetricsResponse)

/-! ## What an account is for -/

namespace ServerDatabase

/-- `total_metrics_received` of an agent; an unknown one has sent nothing. -/
def totalMetricsReceived (db : ServerDatabase) (agentId : String) : Nat :=
  ((db.agents.values.find? fun r => r.agentId == agentId).map AgentRow.totalMetricsReceived).getD 0

/-- How many metrics of an agent are stored. -/
def storedMetrics (db : ServerDatabase) (agentId : String) : Nat :=
  (MetricKind.all.map fun kind =>
    (db.metrics kind).values.countP fun r => r.agentId == agentId).sum

/-- Each agent's total is the number of its metrics that are stored. -/
def Accounted (db : ServerDatabase) : Prop :=
  ∀ agentId, db.totalMetricsReceived agentId = db.storedMetrics agentId

end ServerDatabase

/-- The totals are right after the submission, and a failed one leaves the agents as they were. -/
structure AccountingStep.Atomic (t : AccountingStep) : Prop where
  accounted : t.post.database.Accounted
  failed : ∀ e, t.answer = .error e → t.post.database.agents = t.pre.database.agents

def AggregatedMetrics.hasTable (metric : AggregatedMetrics) : Bool := metric.data.kind.isSome

/-- A submission that is admitted, and can record its agent, has just one metric to store, and
nothing is in the way of that. -/
def StoresOne (server : Server) (s : ServerState) (a : Submission) : Prop :=
  admitted server a.moment a.headers a.request s = true → a.faults.upsert = none →
    a.faults.store = none ∧ ∃ metric,
      a.request.metrics.filter AggregatedMetrics.hasTable = [metric] ∧
        s.database.holds a.request.agentId metric = false

/-! ## Totals -/

namespace ServerDatabase

variable {db db' : ServerDatabase} {now : Nat} {a : String} {metrics : List AggregatedMetrics}

theorem find_eq_none_iff (db : ServerDatabase) (b : String) :
    (db.agents.values.find? fun r => r.agentId == b) = none ↔ db.registered b = false := by
  unfold registered
  rw [List.find?_eq_none, List.any_eq_false]

theorem total_find_update (rows : List AgentRow) (a b : String) {f : AgentRow → AgentRow}
    (hid : ∀ r, (f r).agentId = r.agentId)
    (htotal : ∀ r, (f r).totalMetricsReceived =
      r.totalMetricsReceived + if r.agentId = a then 1 else 0)
    (hmem : b = a → (rows.find? fun r => r.agentId == b).isSome) :
    (((rows.map f).find? fun r => r.agentId == b).map AgentRow.totalMetricsReceived).getD 0 =
      ((rows.find? fun r => r.agentId == b).map AgentRow.totalMetricsReceived).getD 0 +
        if b = a then 1 else 0 := by
  have hsame : (fun r : AgentRow => r.agentId == b) ∘ f = fun r => r.agentId == b := by
    funext r
    exact congrArg (· == b) (hid r)
  rw [List.find?_map, hsame]
  cases hfind : rows.find? fun r => r.agentId == b with
  | none =>
    have hba : b ≠ a := by
      intro hba
      have hsome := hmem hba
      rw [hfind] at hsome
      cases hsome
    rw [if_neg hba]
    rfl
  | some r =>
    obtain rfl : r.agentId = b := by simpa using List.find?_some hfind
    exact htotal r

theorem totalMetricsReceived_upsertAgent (db : ServerDatabase) (now : Nat) (a checksum : String)
    (version : Option String) (b : String) :
    (db.upsertAgent now a checksum version).totalMetricsReceived b =
      db.totalMetricsReceived b + if b = a then 1 else 0 := by
  unfold totalMetricsReceived upsertAgent
  by_cases hreg : db.registered a = true
  · rw [if_pos hreg]
    dsimp only
    rw [Sql.Table.values_update]
    refine total_find_update _ a b (fun r => ?_) (fun r => ?_) fun hba => ?_
    · split <;> rfl
    · split <;> rfl
    · rw [hba, ← Option.ne_none_iff_isSome, ne_eq, find_eq_none_iff, hreg]
      exact Bool.noConfusion
  · rw [if_neg hreg]
    have hnone := (db.find_eq_none_iff a).2 (eq_false_of_ne_true hreg)
    rcases db.agents.insertOrIgnore_eq ⟨a, now, now, some checksum, 1, version⟩ with
      ⟨k, hk, hm, -⟩ | ⟨hnew, he⟩
    · obtain rfl : a = k := Option.some.inj hk
      exact absurd ((db.registered_iff a).2 hm) hreg
    · dsimp only
      rw [he, Sql.Table.values_append, List.find?_append]
      by_cases hba : b = a
      · rw [hba, hnone]
        simp
      · cases db.agents.values.find? fun r => r.agentId == b with
        | none => simp [hba, Ne.symm hba]
        | some r => simp [hba]

theorem agents_storeMetrics (h : db.storeMetrics now a metrics = .ok db') :
    db'.agents = db.agents := by
  induction metrics generalizing db with
  | nil =>
    obtain rfl := Except.ok.inj h
    rfl
  | cons metric metrics ih =>
    unfold storeMetrics at h
    split at h
    · cases h
    · next db₁ hone =>
      rw [ih h]
      unfold storeOne at hone
      split at hone
      · unfold storeMetric at hone
        split at hone
        · cases hone
        · split at hone
          · obtain rfl := Except.ok.inj hone
            rfl
          · cases hone
      · obtain rfl := Except.ok.inj hone
        rfl

/-- The kinds of a batch, each metric under its own. -/
theorem sum_count_kinds (metrics : List AggregatedMetrics) :
    (MetricKind.all.map fun kind =>
      metrics.countP fun metric => metric.data.kind == some kind).sum =
      metrics.countP AggregatedMetrics.hasTable := by
  induction metrics with
  | nil => rfl
  | cons metric metrics ih =>
    have hone : (MetricKind.all.map fun kind =>
        if (metric.data.kind == some kind) = true then 1 else 0).sum =
        if metric.hasTable = true then 1 else 0 := by
      unfold AggregatedMetrics.hasTable
      cases metric.data.kind with
      | none => rfl
      | some kind => cases kind <;> rfl
    simp only [List.countP_cons]
    rw [List.sum_map_add, ih, hone]

theorem storedMetrics_storeMetrics (h : db.storeMetrics now a metrics = .ok db') (b : String) :
    db'.storedMetrics b = db.storedMetrics b +
      if b = a then (metrics.filter AggregatedMetrics.hasTable).length else 0 := by
  have hrows : ∀ kind, ((db'.metrics kind).values.countP fun r => r.agentId == b) =
      ((db.metrics kind).values.countP fun r => r.agentId == b) +
        if b = a then metrics.countP fun metric => metric.data.kind == some kind else 0 := by
    intro kind
    rw [storeMetrics_values h, List.countP_append]
    have hagent : (rowsOf kind now a metrics).countP (fun r => r.agentId == b) =
        (metrics.filter fun metric => metric.data.kind == some kind).countP fun _ => a == b :=
      List.countP_map
    rw [hagent]
    by_cases hba : b = a
    · rw [if_pos hba, hba, BEq.rfl, List.countP_true, ← List.countP_eq_length_filter]
    · rw [if_neg hba, beq_eq_false_iff_ne.2 (Ne.symm hba), List.countP_false]
      rfl
  unfold storedMetrics
  simp only [hrows]
  rw [List.sum_map_add]
  by_cases hba : b = a
  · simp only [if_pos hba]
    rw [sum_count_kinds, List.countP_eq_length_filter]
  · simp only [if_neg hba]
    rfl

/-- A batch with one metric that has a table is stored exactly when its key is not held. -/
theorem storeMetrics_isOk_of_filter {metric : AggregatedMetrics} (now : Nat)
    (hreg : db.registered a = true) (hone : metrics.filter AggregatedMetrics.hasTable = [metric]) :
    (∃ db', db.storeMetrics now a metrics = .ok db') ↔ db.holds a metric = false := by
  have hmem : metric ∈ metrics := List.mem_of_mem_filter (hone ▸ List.mem_singleton_self metric)
  have hkey : metrics.filterMap (metricKey a) = [metric].filterMap (metricKey a) := by
    rw [← hone, List.filterMap_filter]
    refine congrArg (fun f => metrics.filterMap f) (funext fun x => ?_)
    unfold metricKey AggregatedMetrics.hasTable
    cases x.data.kind <;> rfl
  rw [storeMetrics_isOk_iff now metrics hreg, hkey]
  constructor
  · rintro ⟨hnew, -⟩
    exact hnew metric hmem
  · intro hnew
    refine ⟨fun x hx => ?_, ?_⟩
    · cases hx' : x.hasTable with
      | true =>
        have : x ∈ [metric] := hone ▸ List.mem_filter.2 ⟨hx, hx'⟩
        rwa [List.mem_singleton.1 this]
      | false =>
        unfold AggregatedMetrics.hasTable at hx'
        unfold holds metricKey
        rw [Option.isNone_iff_eq_none.1 (Option.isSome_eq_false_iff.1 hx')]
        rfl
    · rw [List.filterMap_cons]
      cases metricKey a metric <;> simp

theorem accounted_initial : ServerDatabase.initial.Accounted := fun _ => rfl

end ServerDatabase

/-! ## Outcomes -/

theorem submit_noFaults (server : Server) (m : Moment) (headers : HeaderMap)
    (request : MetricsRequest) :
    submit server ⟨m, headers, request, ⟨none, none⟩⟩ = handleMetrics server m headers request := by
  unfold submit handleMetrics admission
  simp only [Handler.andThen_assoc]
  rfl

variable {server : Server} {s s' : ServerState} {a : Submission}
  {r : Except ApiError MetricsResponse}

/-- The checks read and write no table, whatever they answer. -/
theorem database_admission {m : Moment} {headers : HeaderMap} {agentId : String}
    {c : Except ApiError Unit} (h : admission server m headers agentId s = some (c, s')) :
    s'.database = s.database := by
  have hkeeps : (admission server m headers agentId).Keeps
      fun s₁ => s₁.database = s.database := by
    refine keeps_admitted server ?_
    intro s₁ r s₂ hs₁ h
    rw [limitRate_frame h]
    exact hs₁
  exact hkeeps _ _ _ rfl h

/-- The tables after the submission is recorded. -/
def Submission.recorded (a : Submission) (db : ServerDatabase) : ServerDatabase :=
  db.upsertAgent a.moment.time a.request.agentId a.request.configChecksum a.request.agentVersion

/-- What can become of a submission. -/
inductive Submission.Outcome (server : Server) (a : Submission) (s s' : ServerState) :
    Except ApiError MetricsResponse → Prop where
  /-- It is not admitted, or its agent cannot be recorded. -/
  | unrecorded (e : ApiError)
      (h : admitted server a.moment a.headers a.request s = true → a.faults.upsert ≠ none)
      (hdb : s'.database = s.database) : Submission.Outcome server a s s' (.error e)
  /-- Its agent is recorded, and it is not stored. -/
  | unstored (e : ApiError) (hadm : admitted server a.moment a.headers a.request s = true)
      (hupsert : a.faults.upsert = none)
      (h : a.faults.store ≠ none ∨ ∀ db, (a.recorded s.database).storeMetrics a.moment.time
        a.request.agentId a.request.metrics ≠ .ok db)
      (hdb : s'.database = a.recorded s.database) : Submission.Outcome server a s s' (.error e)
  | stored (response : MetricsResponse)
      (hadm : admitted server a.moment a.headers a.request s = true)
      (hupsert : a.faults.upsert = none) (h : a.faults.store = none ∨ a.request.metrics = [])
      (hdb : (a.recorded s.database).storeMetrics a.moment.time a.request.agentId
        a.request.metrics = .ok s'.database) : Submission.Outcome server a s s' (.ok response)

theorem tryStoreMetrics_cases {c : Except ApiError Unit} (h : tryStoreMetrics a s = some (c, s')) :
    (∃ e, c = .error e ∧ s' = s ∧
      (a.faults.store ≠ none ∨ ∀ db, s.database.storeMetrics a.moment.time a.request.agentId
        a.request.metrics ≠ .ok db)) ∨
    (c = .ok () ∧ (a.faults.store = none ∨ a.request.metrics = []) ∧
      s.database.storeMetrics a.moment.time a.request.agentId a.request.metrics =
        .ok s'.database) := by
  unfold tryStoreMetrics at h
  cases hfault : a.faults.store with
  | some e =>
    rw [hfault] at h
    dsimp only at h
    by_cases hnil : a.request.metrics = []
    · rw [if_pos hnil] at h
      cases h
      exact .inr ⟨rfl, .inr hnil, by rw [hnil]; rfl⟩
    · rw [if_neg hnil] at h
      cases h
      exact .inl ⟨_, rfl, rfl, .inl nofun⟩
  | none =>
    rw [hfault] at h
    rcases storeMetrics_cases h with ⟨e, he, hs', hnot⟩ | ⟨hc, -, hdb⟩
    · exact .inl ⟨e, he, hs', .inr hnot⟩
    · exact .inr ⟨hc, .inl rfl, hdb⟩

theorem submit_outcome (h : submit server a s = some (r, s')) :
    Submission.Outcome server a s s' r := by
  rcases Handler.andThen_cases h with ⟨e, hadm, rfl⟩ | ⟨⟨⟩, s₁, hadm, h⟩
  · refine .unrecorded e (fun hok => ?_) (database_admission hadm)
    obtain ⟨s₂, hs₂⟩ := admitted_iff.1 hok
    rw [hadm] at hs₂
    cases hs₂
  have hok := admitted_iff.2 ⟨s₁, hadm⟩
  have hdb₁ := database_admission hadm
  cases hupsert : a.faults.upsert with
  | some e =>
    unfold tryUpsertAgent at h
    rw [hupsert] at h
    cases h
    exact .unrecorded _ (fun _ => by simp [hupsert]) hdb₁
  | none =>
    unfold tryUpsertAgent at h
    rw [hupsert] at h
    rcases Handler.andThen_cases h with ⟨e, hrecord, -⟩ | ⟨⟨⟩, s₂, hrecord, h⟩
    · cases hrecord
    have hs₂ : s₂.database = a.recorded s.database := by
      cases hrecord
      exact congrArg a.recorded hdb₁
    rcases Handler.andThen_cases h with ⟨e, hstore, rfl⟩ | ⟨⟨⟩, s₃, hstore, h⟩
    · rcases tryStoreMetrics_cases hstore with ⟨_, -, rfl, hnot⟩ | ⟨he, -⟩
      · rw [hs₂] at hnot
        exact .unstored e hok hupsert hnot hs₂
      · cases he
    · rcases tryStoreMetrics_cases hstore with ⟨_, he, -⟩ | ⟨-, hfault, hdb⟩
      · cases he
      · rw [hs₂] at hdb
        cases h
        exact .stored _ hok hupsert hfault hdb

/-! ## Accounts after a submission -/

theorem registered_recorded (a : Submission) (db : ServerDatabase) :
    (a.recorded db).registered a.request.agentId = true :=
  ServerDatabase.registered_upsertAgent _ _ _ _ _

/-- The batch is stored exactly when one metric of it can be. -/
theorem stores_recorded_iff (a : Submission) (db : ServerDatabase) {metric : AggregatedMetrics}
    (hone : a.request.metrics.filter AggregatedMetrics.hasTable = [metric]) :
    (∃ db', (a.recorded db).storeMetrics a.moment.time a.request.agentId a.request.metrics =
      .ok db') ↔ db.holds a.request.agentId metric = false := by
  rw [ServerDatabase.storeMetrics_isOk_of_filter _ (registered_recorded a db) hone]
  unfold Submission.recorded
  rw [ServerDatabase.holds_upsertAgent]

/-- An agent that is only recorded has a metric too many on its account. -/
theorem not_accounted_recorded {db : ServerDatabase} (h : db.Accounted) (a : Submission) :
    ¬ (a.recorded db).Accounted := by
  intro h'
  have htotal := h' a.request.agentId
  have hstored : (a.recorded db).storedMetrics a.request.agentId =
      db.storedMetrics a.request.agentId := by
    unfold ServerDatabase.storedMetrics Submission.recorded
    rw [metrics_upsertAgent]
  rw [hstored, ← h a.request.agentId, Submission.recorded,
    ServerDatabase.totalMetricsReceived_upsertAgent, if_pos rfl] at htotal
  omega

/-- A batch that is stored keeps the account right exactly when it has one metric with a table. -/
theorem accounted_stored_iff {db db' : ServerDatabase} (h : db.Accounted) {a : Submission}
    (hdb : (a.recorded db).storeMetrics a.moment.time a.request.agentId a.request.metrics =
      .ok db') :
    db'.Accounted ↔ (a.request.metrics.filter AggregatedMetrics.hasTable).length = 1 := by
  have htotal (b : String) : db'.totalMetricsReceived b =
      db.totalMetricsReceived b + if b = a.request.agentId then 1 else 0 := by
    rw [← ServerDatabase.totalMetricsReceived_upsertAgent]
    unfold ServerDatabase.totalMetricsReceived
    rw [ServerDatabase.agents_storeMetrics hdb]
    rfl
  have hstored (b : String) : db'.storedMetrics b = db.storedMetrics b +
      if b = a.request.agentId then (a.request.metrics.filter AggregatedMetrics.hasTable).length
      else 0 := by
    rw [ServerDatabase.storedMetrics_storeMetrics hdb]
    congr 1
    unfold ServerDatabase.storedMetrics Submission.recorded
    rw [metrics_upsertAgent]
  constructor
  · intro h'
    have heq := h' a.request.agentId
    rw [htotal, hstored, h a.request.agentId, if_pos rfl, if_pos rfl] at heq
    omega
  · intro hone b
    rw [htotal, hstored, h b, hone]

/-- One submission is atomic exactly when the server is to store one metric, and can. -/
theorem atomic_iff_of_submit (hI : s.database.Accounted) (h : submit server a s = some (r, s')) :
    AccountingStep.Atomic ⟨s, a, r, s'⟩ ↔ StoresOne server s a := by
  cases submit_outcome h with
  | unrecorded e hnot hdb =>
    refine iff_of_true ⟨?_, fun _ _ => congrArg ServerDatabase.agents hdb⟩ fun hadm hupsert => ?_
    · rwa [hdb]
    · exact absurd hupsert (hnot hadm)
  | unstored e hadm hupsert hnot hdb =>
    refine iff_of_false (fun hatomic => ?_) fun hone => ?_
    · have := hatomic.accounted
      dsimp only at this
      rw [hdb] at this
      exact not_accounted_recorded hI a this
    · obtain ⟨hfault, metric, hmetric, hnew⟩ := hone hadm hupsert
      obtain ⟨db, hstore⟩ := (stores_recorded_iff a s.database hmetric).2 hnew
      exact hnot.elim (fun h => h hfault) fun h => h db hstore
  | stored response hadm hupsert hfault hdb =>
    have haccounted := accounted_stored_iff hI hdb
    constructor
    · intro hatomic _ _
      obtain ⟨metric, hmetric⟩ := List.length_eq_one_iff.1 (haccounted.1 hatomic.accounted)
      refine ⟨hfault.resolve_right fun hnil => ?_, metric, hmetric, ?_⟩
      · rw [hnil] at hmetric
        cases hmetric
      · exact (stores_recorded_iff a s.database hmetric).1 ⟨_, hdb⟩
    · intro hone
      obtain ⟨-, metric, hmetric, -⟩ := hone hadm hupsert
      exact ⟨haccounted.2 (congrArg List.length hmetric), nofun⟩

/-! ## Top theorem -/

/-- **Accounts are atomic with storage** in a run if and only if each submission that is admitted,
and whose agent can be recorded, has just one metric to store, which is new, and no fault is met. -/
theorem atomic_iff_storesOne (server : Server) (state : ServerState) {tr : List AccountingStep}
    {s : ServerState} (hrun : Run (accountingMachine server state) tr s) :
    (∀ t ∈ tr, t.Atomic) ↔ ∀ t ∈ tr, StoresOne server t.pre t.label := by
  have hsubmit {s s' : ServerState} {a : Submission} {r : Except ApiError MetricsResponse}
      (hs : (accountingMachine server state).step s a = some (s', r)) :
      submit server a s = some (r, s') := by
    obtain ⟨⟨r', s''⟩, hsub, heq⟩ := Option.map_eq_some_iff.1 hs
    obtain ⟨rfl, rfl⟩ := Prod.mk.inj heq
    exact hsub
  refine Run.forall_iff (I := fun s => s.database.Accounted) ?_ ?_ ?_ hrun
  · exact ServerDatabase.accounted_initial
  · intro s a s' r hI hC hs
    exact ((atomic_iff_of_submit hI (hsubmit hs)).2 hC).accounted
  · intro s a s' r hI hs
    exact atomic_iff_of_submit hI (hsubmit hs)

/-! ## Batches of one and of three -/

/-- Pings of the agent, each of its own minute, sent at `time`. -/
def pingsSent (time : Nat) (minutes : List Nat) : Submission where
  moment := ⟨0, time, none⟩
  headers := secretKey
  request :=
    { agentId := "agent1"
      timestampUtc := toString time
      configChecksum := "0"
      metrics := minutes.map fun i => ⟨"gateway", .ping, 60 * i, 60 * i + 60, 1, .ping default⟩
      agentVersion := none }
  faults := ⟨none, none⟩

/-- Whether it was answered well, the total, what is stored, and when the agents were last seen. -/
def AccountingStep.account (t : AccountingStep) : Bool × Nat × Nat × List Nat :=
  (t.answer.isOk, t.post.database.totalMetricsReceived "agent1",
    t.post.database.storedMetrics "agent1", t.post.database.agents.values.map AgentRow.lastSeen)

def accountsOf (submissions : List Submission) : Option (List (Bool × Nat × Nat × List Nat)) :=
  ((accountingMachine metricsServer newServer).exec submissions).map fun r =>
    r.1.map AccountingStep.account

instance (server : Server) (s : ServerState) (a : Submission) : Decidable (StoresOne server s a) :=
  have : Decidable (∃ metric, a.request.metrics.filter AggregatedMetrics.hasTable = [metric] ∧
      s.database.holds a.request.agentId metric = false) :=
    decidable_of_iff (∃ metric ∈ a.request.metrics.filter AggregatedMetrics.hasTable,
      a.request.metrics.filter AggregatedMetrics.hasTable = [metric] ∧
        s.database.holds a.request.agentId metric = false)
      ⟨fun ⟨metric, _, h⟩ => ⟨metric, h⟩, fun ⟨metric, h⟩ => ⟨metric, h.1 ▸ List.mem_cons_self, h⟩⟩
  inferInstanceAs (Decidable (_ → _ → _ ∧ _))

theorem atomic_iff_storesOne_minutes :
    ∃ tr s, Run (accountingMachine metricsServer newServer) tr s ∧
      tr.map AccountingStep.account = [(true, 1, 1, [125]), (true, 2, 2, [185])] ∧
      ∀ t ∈ tr, AccountingStep.Atomic t := by
  have hend : accountsOf [pingsSent 125 [1], pingsSent 185 [2]] =
      some [(true, 1, 1, [125]), (true, 2, 2, [185])] := by decide +kernel
  have hone : ((accountingMachine metricsServer newServer).exec
      [pingsSent 125 [1], pingsSent 185 [2]]).map (fun r =>
        r.1.all fun t => decide (StoresOne metricsServer t.pre t.label)) = some true := by
    decide +kernel
  obtain ⟨⟨tr, s⟩, he, haccounts⟩ := Option.map_eq_some_iff.1 hend
  rw [he] at hone
  have hrun := Run.of_exec he
  exact ⟨tr, s, hrun, haccounts, (atomic_iff_storesOne metricsServer newServer hrun).2
    fun t ht => of_decide_eq_true (List.all_eq_true.1 (Option.some.inj hone) t ht)⟩

/-- Three metrics count as one; and one of them, sent again, is refused and counted. -/
theorem not_atomic_batches :
    ∃ tr s, Run (accountingMachine metricsServer newServer) tr s ∧
      tr.map AccountingStep.account = [(true, 1, 3, [245]), (false, 2, 3, [305])] ∧
      ∀ t ∈ tr, ¬ AccountingStep.Atomic t := by
  have hend : accountsOf [pingsSent 245 [1, 2, 3], pingsSent 305 [3]] =
      some [(true, 1, 3, [245]), (false, 2, 3, [305])] := by decide +kernel
  obtain ⟨⟨tr, s⟩, he, haccounts⟩ := Option.map_eq_some_iff.1 hend
  refine ⟨tr, s, Run.of_exec he, haccounts, fun t ht hatomic => ?_⟩
  have hmem : AccountingStep.account t ∈ tr.map AccountingStep.account := List.mem_map_of_mem ht
  have heq : (AccountingStep.account t).2.1 = (AccountingStep.account t).2.2.1 :=
    hatomic.accounted "agent1"
  dsimp only at haccounts
  rw [haccounts] at hmem
  simp only [List.mem_cons, List.not_mem_nil, or_false] at hmem
  rcases hmem with hmem | hmem
  · rw [hmem] at heq
    cases heq
  · rw [hmem] at heq
    cases heq

end LinkSense
