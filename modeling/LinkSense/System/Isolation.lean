import LinkSense.Server.RateLimit
import LinkSense.Server.Retention
import LinkSense.System.Accounting
import LinkSense.Unwinding

/-!
# Isolation of agents

The server with all its requests, cleanups, restarts and edits of tasks files.  What an agent is
answered is a matter of its own requests and its own file: those of other agents, with what they
upload, submit and report, and how often they ask, never show in it.  Bandwidth tests are the
exception by design, since all agents wait in one line for them.

    two runs have the same requests of the agent, edits of its file, cleanups and restarts →
      every request of it but bandwidth tests is answered alike, and the server ends with the same
      metrics of the agent                                                              (isolated)
-/

namespace LinkSense

open Labelled Sql

/-! ## The server -/

inductive ServerAction where
  | request (m : Moment) (request : Request)
  /-- `cleanup_stale_entries` of the rate limiter. -/
  | limiterCleanup (now : Instant)
  /-- `cleanup_old_data`, which ends after `done` of its statements. -/
  | dataCleanup (time : Nat) (retentionDays : UInt32) (done : Nat)
  | restart
  /-- The tasks file of an agent is written, or removed. -/
  | edit (agentId : String) (content : Option String)
  /-- The server notices that the file has changed. -/
  | notice (agentId : String)

/-- What a request is answered with; everything else has no answer. -/
abbrev Answered := Option (Except ApiError Response)

/-- The rate limiter of the server. -/
def ServerState.limiter (server : Server) (s : ServerState) : AgentRateLimiter :=
  ⟨s.rateLimits, fromSecs server.config.rateLimitWindowSeconds.toUInt64,
    server.config.rateLimitMaxRequests.toNat⟩

/-- One step of the server. -/
def ServerState.next (server : Server) (s : ServerState) :
    ServerAction → Option (ServerState × Answered)
  | .request m request =>
    match handle server m request s with
    | none => none
    | some (answer, s) => some (s, some answer)
  | .limiterCleanup now =>
    some ({ s with rateLimits := ((s.limiter server).cleanupStaleEntries now).limits }, none)
  | .dataCleanup time retentionDays done =>
    some ({ s with database := s.database.cleanupOldData time retentionDays done }, none)
  | .restart => some (s.restarted, none)
  | .edit agentId content =>
    let m := s.configManager
    some ({ s with
      configManager := content.elim (m.removeFile agentId) (m.writeFile agentId) }, none)
  | .notice agentId =>
    some ({ s with configManager := s.configManager.updateCache server.codecs agentId }, none)

def serverMachine (server : Server) (s : ServerState) : Machine ServerState ServerAction Answered :=
  ⟨s, ServerState.next server⟩

abbrev ServerStep := Taken ServerState ServerAction Answered

/-! ## What an agent sees -/

/-- The metrics that are stored of an agent. -/
def ServerDatabase.metricsOf (db : ServerDatabase) (agentId : String) (kind : MetricKind) :
    List MetricRow :=
  (db.metrics kind).values.filter fun r => r.agentId == agentId

/-- The states agree on what is kept for the agent. -/
structure ServerState.Alike (agentId : String) (s t : ServerState) : Prop where
  file : s.configManager.files agentId = t.configManager.files agentId
  cached : s.configManager.configCache agentId = t.configManager.configCache agentId
  requests : s.rateLimits agentId = t.rateLimits agentId
  stored : s.database.metricsOf agentId = t.database.metricsOf agentId

namespace Payload

/-- The request takes part in the line for bandwidth tests. -/
def sharesLine : Payload → Bool
  | .bandwidthTest _ => true
  | .bandwidthDownload _ => true
  | _ => false

end Payload

/-- The step is one of the agent, of its file, or of the server as a whole. -/
def ServerAction.concerns (agentId : String) : ServerAction → Bool
  | .request _ r => r.payload.agentId == agentId
  | .edit x _ => x == agentId
  | .notice x => x == agentId
  | _ => true

/-- What the agent sees of an answer. -/
def ServerAction.shows (a : ServerAction) (answer : Answered) : Answered :=
  match a with
  | .request _ r => if r.payload.sharesLine then none else answer
  | _ => none

/-- The server as an agent sees it. -/
def agentView (agentId : String) : View ServerState ServerAction Answered Answered where
  alike := ServerState.Alike agentId
  visible := ServerAction.concerns agentId
  observe := ServerAction.shows

/-! ## Lemmas -/

namespace ServerState.Alike

variable {agentId : String} {s t : ServerState}

theorem refl (s : ServerState) : Alike agentId s s := ⟨rfl, rfl, rfl, rfl⟩

theorem symm (h : Alike agentId s t) : Alike agentId t s :=
  ⟨h.file.symm, h.cached.symm, h.requests.symm, h.stored.symm⟩

theorem trans {u : ServerState} (h : Alike agentId s t) (h' : Alike agentId t u) :
    Alike agentId s u :=
  ⟨h.file.trans h'.file, h.cached.trans h'.cached, h.requests.trans h'.requests,
    h.stored.trans h'.stored⟩

end ServerState.Alike

namespace ServerDatabase

variable {db db' : ServerDatabase} {agentId : String}

theorem metricsOf_congr (h : db'.metrics = db.metrics) :
    db'.metricsOf agentId = db.metricsOf agentId := by
  funext kind
  unfold metricsOf
  rw [h]

/-- A metric of the agent is refused when one of its rows has the key. -/
theorem insert_eq_none_iff_metricsOf (db : ServerDatabase) (kind : MetricKind) {r : MetricRow}
    (hr : r.agentId = agentId) :
    (db.metrics kind).insert r = none ↔ ∃ x ∈ db.metricsOf agentId kind, x.key = r.key := by
  have hkey : r.key = some (r.agentId, r.taskName, r.periodStart, r.periodEnd) := rfl
  rw [Table.insert_eq_none_iff]
  constructor
  · rintro ⟨key, hk, hmem⟩
    obtain ⟨x, hx, hxk⟩ := (Table.mem_keys_iff _ _).1 hmem
    have hsame : x.2.key = r.key := hxk.trans hk.symm
    have hid : x.2.agentId = r.agentId := (Prod.mk.inj (Option.some.inj hsame)).1
    refine ⟨x.2, List.mem_filter.2 ⟨List.mem_map_of_mem hx, ?_⟩, hsame⟩
    rw [hid, hr]
    exact beq_self_eq_true agentId
  · rintro ⟨x, hx, hk⟩
    obtain ⟨y, hy, rfl⟩ := List.mem_map.1 (List.mem_filter.1 hx).1
    exact ⟨_, hkey, (Table.mem_keys_iff _ _).2 ⟨y, hy, hk.trans hkey⟩⟩

/-- Storing the metrics of one agent adds nothing to another's. -/
theorem metricsOf_storeMetrics_of_ne {now : Nat} {x : String} {metrics : List AggregatedMetrics}
    (hx : x ≠ agentId) (h : db.storeMetrics now x metrics = .ok db') :
    db'.metricsOf agentId = db.metricsOf agentId := by
  funext kind
  unfold metricsOf
  rw [storeMetrics_values h kind, List.filter_append]
  have hnone : (rowsOf kind now x metrics).filter (fun r => r.agentId == agentId) = [] := by
    rw [List.filter_eq_nil_iff]
    intro r hr
    obtain ⟨metric, -, rfl⟩ := List.mem_map.1 hr
    simpa [metricRow] using hx
  rw [hnone, List.append_nil]

/-- The agent's metrics after one more. -/
theorem metricsOf_storeOne {now : Nat} {metric : AggregatedMetrics}
    (h : db.storeOne now agentId metric = .ok db') (kind : MetricKind) :
    db'.metricsOf agentId kind = db.metricsOf agentId kind ++
      (rowsOf kind now agentId [metric]).filter fun r => r.agentId == agentId := by
  unfold metricsOf
  rw [storeOne_values h kind, List.filter_append]

/-- Two databases in which an agent is registered, with the same metrics of it. -/
structure SameMetrics (agentId : String) (db db' : ServerDatabase) : Prop where
  stored : db.metricsOf agentId = db'.metricsOf agentId
  left : db.registered agentId = true
  right : db'.registered agentId = true

/-- Both treat a metric alike. -/
theorem SameMetrics.storeOne (h : SameMetrics agentId db db') (now : Nat)
    (metric : AggregatedMetrics) :
    (∃ e, db.storeOne now agentId metric = .error e ∧ db'.storeOne now agentId metric = .error e) ∨
      ∃ db₁ db₁', db.storeOne now agentId metric = .ok db₁ ∧
        db'.storeOne now agentId metric = .ok db₁' ∧ SameMetrics agentId db₁ db₁' := by
  have hok : ∀ {db₁ db₁'}, db.storeOne now agentId metric = .ok db₁ →
      db'.storeOne now agentId metric = .ok db₁' →
      db₁.metricsOf agentId = db₁'.metricsOf agentId := by
    intro db₁ db₁' h₁ h₂
    funext kind
    rw [metricsOf_storeOne h₁, metricsOf_storeOne h₂, h.stored]
  cases hkind : metric.data.kind with
  | none =>
    have hskip : ∀ db : ServerDatabase, db.storeOne now agentId metric = .ok db := by
      intro db
      unfold ServerDatabase.storeOne
      rw [hkind]
    exact .inr ⟨db, db', hskip db, hskip db', h⟩
  | some kind =>
    have hone : ∀ db : ServerDatabase,
        db.storeOne now agentId metric = db.storeMetric kind now agentId metric := by
      intro db
      unfold ServerDatabase.storeOne
      rw [hkind]
    have hrow : ∀ db : ServerDatabase, (db.metrics kind).insert (metricRow now agentId metric) =
        none ↔ ∃ x ∈ db.metricsOf agentId kind, x.key = (metricRow now agentId metric).key :=
      fun db => db.insert_eq_none_iff_metricsOf kind rfl
    have hnone : (db.metrics kind).insert (metricRow now agentId metric) = none ↔
        (db'.metrics kind).insert (metricRow now agentId metric) = none := by
      rw [hrow, hrow, h.stored]
    simp only [hone] at hok ⊢
    unfold storeMetric at hok ⊢
    cases hi : (db.metrics kind).insert (metricRow now agentId metric) with
    | none =>
      left
      rw [hnone.1 hi]
      exact ⟨_, rfl, rfl⟩
    | some r =>
      cases hi' : (db'.metrics kind).insert (metricRow now agentId metric) with
      | none =>
        rw [hnone.2 hi'] at hi
        cases hi
      | some r' =>
        right
        rw [hi, hi'] at hok
        dsimp only at hok ⊢
        rw [if_pos h.left, if_pos h.right] at hok ⊢
        exact ⟨_, _, rfl, rfl, hok rfl rfl, h.left, h.right⟩

/-- Both treat a batch alike. -/
theorem SameMetrics.storeMetrics (h : SameMetrics agentId db db') (now : Nat)
    (metrics : List AggregatedMetrics) :
    (∃ e, db.storeMetrics now agentId metrics = .error e ∧
        db'.storeMetrics now agentId metrics = .error e) ∨
      ∃ db₁ db₁', db.storeMetrics now agentId metrics = .ok db₁ ∧
        db'.storeMetrics now agentId metrics = .ok db₁' ∧ SameMetrics agentId db₁ db₁' := by
  induction metrics generalizing db db' with
  | nil => exact .inr ⟨db, db', rfl, rfl, h⟩
  | cons metric metrics ih =>
    unfold ServerDatabase.storeMetrics
    rcases h.storeOne now metric with ⟨e, h₁, h₂⟩ | ⟨db₁, db₁', h₁, h₂, hsame⟩
    · rw [h₁, h₂]
      exact .inl ⟨e, rfl, rfl⟩
    · rw [h₁, h₂]
      exact ih hsame

end ServerDatabase

/-! ### Reading a file -/

/-- A read may cache the file of the agent it is for. -/
theorem ConfigManager.getAgentConfig_frame (codecs : Codecs) (m : ConfigManager) (x : String) :
    (m.getAgentConfig codecs x).2.files = m.files ∧
      ∀ a, a ≠ x → (m.getAgentConfig codecs x).2.configCache a = m.configCache a := by
  unfold getAgentConfig
  split
  · exact ⟨rfl, fun _ _ => rfl⟩
  · split
    · exact ⟨rfl, fun _ _ => rfl⟩
    · exact ⟨rfl, fun a ha => Function.update_of_ne ha _ _⟩

theorem readConfig_state {server : Server} {x : String} {s s' : ServerState}
    {r : Except ApiError (Option CachedAgentConfig)} (h : readConfig server x s = some (r, s')) :
    r = .ok (s.configManager.getAgentConfig server.codecs x).1 ∧
      s' = { s with configManager := (s.configManager.getAgentConfig server.codecs x).2 } := by
  cases h
  exact ⟨rfl, rfl⟩

/-! ### Requests of other agents -/

section Others

variable {server : Server} {m : Moment} {agentId x : String} {t : ServerState}

/-- **A request of another agent** changes nothing that is kept for this one. -/
theorem handle_hidden {request : Request} (hx : request.payload.agentId ≠ agentId) :
    (handle server m request).Keeps fun s => s.Alike agentId t := by
  have hlimit : (limitRate server m request.payload.agentId).Keeps fun s => s.Alike agentId t := by
    intro s r s' hQ h
    have hother : s'.rateLimits agentId = s.rateLimits agentId := by
      unfold limitRate at h
      split at h
      · unfold checkRateLimit at h
        dsimp only at h
        split at h
        all_goals
          cases h
          exact Function.update_of_ne (Ne.symm hx) _ _
      · cases h
        rfl
    rw [limitRate_frame h]
    exact ⟨hQ.file, hQ.cached, hother.trans hQ.requests, hQ.stored⟩
  have hread : (readConfig server request.payload.agentId).Keeps fun s => s.Alike agentId t := by
    intro s r s' hQ h
    obtain ⟨hfiles, hcache⟩ :=
      s.configManager.getAgentConfig_frame server.codecs request.payload.agentId
    rw [(readConfig_state h).2]
    exact ⟨(congrFun hfiles agentId).trans hQ.file, (hcache agentId (Ne.symm hx)).trans hQ.cached,
      hQ.requests, hQ.stored⟩
  refine handle_keeps server m hlimit hread ?_ ?_ ?_ ?_
  · intro content _ s r s' hQ h
    unfold saveUpload at h
    split at h
    · cases h
      exact hQ
    · split at h
      · cases h
        exact hQ
      · cases h
        exact ⟨(Function.update_of_ne (Ne.symm hx) _ _).trans hQ.file, hQ.cached, hQ.requests,
          hQ.stored⟩
  · intro s db timestamp errorMessage hQ hlog
    have hmetrics : db.metrics = s.database.metrics := by
      unfold ServerDatabase.logConfigError at hlog
      split at hlog
      · rw [← Except.ok.inj hlog]
      · cases hlog
    exact ⟨hQ.file, hQ.cached, hQ.requests, (ServerDatabase.metricsOf_congr hmetrics).trans hQ.stored⟩
  · intro s bandwidth hQ
    exact ⟨hQ.file, hQ.cached, hQ.requests, hQ.stored⟩
  · intro body hbody
    have hx' : body.agentId ≠ agentId := by
      rw [hbody] at hx
      exact hx
    rw [hbody] at hlimit hread
    refine keeps_admitted server (Handler.keeps_andThen hlimit fun _ => ?_)
    refine Handler.keeps_andThen ?_ fun _ => Handler.keeps_andThen ?_ fun _ => ?_
    · intro s r s' hQ h
      cases h
      exact ⟨hQ.file, hQ.cached, hQ.requests,
        (ServerDatabase.metricsOf_congr (metrics_upsertAgent _ _ _ _ _)).trans hQ.stored⟩
    · intro s r s' hQ h
      rcases storeMetrics_cases h with ⟨e, -, rfl, -⟩ | ⟨-, hs', hstore⟩
      · exact hQ
      · rw [hs']
        exact ⟨hQ.file, hQ.cached, hQ.requests,
          (ServerDatabase.metricsOf_storeMetrics_of_ne hx' hstore).trans hQ.stored⟩
    · exact Handler.keeps_andThen hread fun _ => Handler.keeps_answer _

end Others

/-! ### Requests of the agent -/

namespace Handler

variable {α β : Type}

/-- From states in `R` the handler gives the same outcome, and ends in states in `R'`. -/
def Agrees (R R' : ServerState → ServerState → Prop) (h : Handler α) : Prop :=
  ∀ s t r s' q t', R s t → h s = some (r, s') → h t = some (q, t') → r = q ∧ R' s' t'

variable {R R' : ServerState → ServerState → Prop}

theorem agrees_check (c : Except ApiError α) : Agrees R R (check c) := by
  intro s t r s' q t' hR hs ht
  cases hs
  cases ht
  exact ⟨rfl, hR⟩

theorem agrees_answer (a : α) : Agrees R R (answer a) := by
  intro s t r s' q t' hR hs ht
  cases hs
  cases ht
  exact ⟨rfl, hR⟩

theorem agrees_fail (e : ApiError) : Agrees R R (fail e : Handler α) := by
  intro s t r s' q t' hR hs ht
  cases hs
  cases ht
  exact ⟨rfl, hR⟩

theorem agrees_andThen {h : Handler α} {k : α → Handler β} (hh : Agrees R R' h)
    (hk : ∀ a, Agrees R' R' (k a)) : Agrees R R' (h.andThen k) := by
  intro s t r s' q t' hR he he'
  rcases andThen_cases he with ⟨e, hs, rfl⟩ | ⟨a, s₁, hs, hs'⟩
  · rcases andThen_cases he' with ⟨e', ht, rfl⟩ | ⟨a', t₁, ht, -⟩
    · obtain ⟨hsame, hR'⟩ := hh _ _ _ _ _ _ hR hs ht
      exact ⟨by rw [Except.error.inj hsame], hR'⟩
    · cases (hh _ _ _ _ _ _ hR hs ht).1
  · rcases andThen_cases he' with ⟨e', ht, rfl⟩ | ⟨a', t₁, ht, ht'⟩
    · cases (hh _ _ _ _ _ _ hR hs ht).1
    · obtain ⟨hsame, hR'⟩ := hh _ _ _ _ _ _ hR hs ht
      obtain rfl := Except.ok.inj hsame
      exact hk a _ _ _ _ _ _ hR' hs' ht'

theorem agrees_map (f : α → β) {h : Handler α} (hh : Agrees R R' h) : Agrees R R' (h.map f) :=
  agrees_andThen hh fun a => agrees_answer (f a)

/-- From states in `R` the handler ends in states in `R`, whatever its outcomes. -/
def Relates (R : ServerState → ServerState → Prop) (h : Handler α) : Prop :=
  ∀ s t r s' q t', R s t → h s = some (r, s') → h t = some (q, t') → R s' t'

theorem relates_andThen {h : Handler α} {k : α → Handler β} (hh : Agrees R R h)
    (hk : ∀ a, Relates R (k a)) : Relates R (h.andThen k) := by
  intro s t r s' q t' hR he he'
  rcases andThen_cases he with ⟨e, hs, rfl⟩ | ⟨a, s₁, hs, hs'⟩
  · rcases andThen_cases he' with ⟨e', ht, rfl⟩ | ⟨a', t₁, ht, -⟩
    · exact (hh _ _ _ _ _ _ hR hs ht).2
    · cases (hh _ _ _ _ _ _ hR hs ht).1
  · rcases andThen_cases he' with ⟨e', ht, rfl⟩ | ⟨a', t₁, ht, ht'⟩
    · cases (hh _ _ _ _ _ _ hR hs ht).1
    · obtain ⟨hsame, hR'⟩ := hh _ _ _ _ _ _ hR hs ht
      obtain rfl := Except.ok.inj hsame
      exact hk a _ _ _ _ _ _ hR' hs' ht'

theorem relates_map (f : α → β) {h : Handler α} (hh : Relates R h) : Relates R (h.map f) := by
  intro s t r s' q t' hR he he'
  have hstate : ∀ {s r s'}, h.map f s = some (r, s') → ∃ r, h s = some (r, s') := by
    intro s r s' he
    rcases andThen_cases he with ⟨e, hs, -⟩ | ⟨a, s₁, hs, hs'⟩
    · exact ⟨_, hs⟩
    · cases hs'
      exact ⟨_, hs⟩
  obtain ⟨_, hs⟩ := hstate he
  obtain ⟨_, ht⟩ := hstate he'
  exact hh _ _ _ _ _ _ hR hs ht

end Handler

/-- The checks that most requests start with. -/
theorem agrees_admitted {α : Type} {server : Server} {headers : HeaderMap} {agentId : String}
    {R : ServerState → ServerState → Prop} {k : Handler α} (hk : k.Agrees R R) :
    Handler.Agrees R R
      (.andThen (.check (validateApiKey headers server.config.apiKey)) fun _ =>
        .andThen (.check (validateAgentId server.env agentId)) fun _ =>
        .andThen (.check (validateAgentWhitelist agentId server.config.agentIdWhitelist)) fun _ =>
          k) := by
  refine Handler.agrees_andThen (Handler.agrees_check _) fun _ => ?_
  refine Handler.agrees_andThen (Handler.agrees_check _) fun _ => ?_
  exact Handler.agrees_andThen (Handler.agrees_check _) fun _ => hk

section Own

variable (server : Server) (m : Moment) (agentId : String)

theorem limitRate_agrees :
    (limitRate server m agentId).Agrees (ServerState.Alike agentId) (ServerState.Alike agentId) := by
  unfold limitRate
  split
  · intro s t r s' q t' hR hs ht
    unfold checkRateLimit at hs ht
    rw [← hR.requests] at ht
    dsimp only at hs ht
    split at hs
    all_goals
      next hfull =>
        first | rw [if_pos hfull] at ht | rw [if_neg hfull] at ht
        cases hs
        cases ht
        refine ⟨rfl, hR.file, hR.cached, ?_, hR.stored⟩
        dsimp only
        rw [Function.update_self, Function.update_self]
  · exact Handler.agrees_answer ()

theorem readConfig_agrees :
    (readConfig server agentId).Agrees (ServerState.Alike agentId)
      (ServerState.Alike agentId) := by
  intro s t r s' q t' hR hs ht
  obtain ⟨rfl, rfl⟩ := readConfig_state hs
  obtain ⟨rfl, rfl⟩ := readConfig_state ht
  have hfiles := (s.configManager.getAgentConfig_frame server.codecs agentId).1
  have hfiles' := (t.configManager.getAgentConfig_frame server.codecs agentId).1
  have hsame : (s.configManager.getAgentConfig server.codecs agentId).1 =
      (t.configManager.getAgentConfig server.codecs agentId).1 ∧
      (s.configManager.getAgentConfig server.codecs agentId).2.configCache agentId =
        (t.configManager.getAgentConfig server.codecs agentId).2.configCache agentId := by
    unfold ConfigManager.getAgentConfig
    rw [← hR.cached, ← hR.file]
    cases hc : s.configManager.configCache agentId with
    | some cached => exact ⟨rfl, hR.cached⟩
    | none =>
      cases hf : s.configManager.files agentId with
      | none => exact ⟨rfl, hR.cached⟩
      | some content =>
        dsimp only
        rw [Function.update_self, Function.update_self]
        exact ⟨rfl, rfl⟩
  refine ⟨by rw [hsame.1], ?_, hsame.2, hR.requests, hR.stored⟩
  exact (congrFun hfiles agentId).trans (hR.file.trans (congrFun hfiles' agentId).symm)

theorem saveUpload_agrees (content : String) :
    (saveUpload m agentId content).Agrees (ServerState.Alike agentId)
      (ServerState.Alike agentId) := by
  intro s t r s' q t' hR hs ht
  unfold saveUpload at hs ht
  rw [← hR.file] at ht
  split at hs
  · next hfile =>
    rw [if_pos hfile] at ht
    cases hs
    cases ht
    exact ⟨rfl, hR⟩
  · next hfile =>
    rw [if_neg hfile] at ht
    split at hs
    · next e he =>
      rw [he] at ht
      cases hs
      cases ht
      exact ⟨rfl, hR⟩
    · next he =>
      rw [he] at ht
      cases hs
      cases ht
      refine ⟨rfl, ?_, hR.cached, hR.requests, hR.stored⟩
      dsimp only [ConfigManager.writeFile]
      rw [Function.update_self, Function.update_self]

/-- The agent registers and submits: whether it was registered before does not matter. -/
theorem submit_agrees {α : Type} (request : MetricsRequest) (hid : request.agentId = agentId)
    {k : Handler α} (hk : k.Agrees (ServerState.Alike agentId) (ServerState.Alike agentId)) :
    Handler.Agrees (ServerState.Alike agentId) (ServerState.Alike agentId)
      (.andThen (upsertAgent m request) fun _ => .andThen (storeMetrics m request) fun _ => k) := by
  intro s t r s' q t' hR hs ht
  let up : ServerState → ServerState := fun s => { s with
    database := s.database.upsertAgent m.time request.agentId request.configChecksum
      request.agentVersion }
  have hsame : ServerDatabase.SameMetrics agentId (up s).database (up t).database := by
    refine ⟨?_, ?_, ?_⟩
    · refine (ServerDatabase.metricsOf_congr (metrics_upsertAgent _ _ _ _ _)).trans ?_
      exact hR.stored.trans (ServerDatabase.metricsOf_congr (metrics_upsertAgent _ _ _ _ _)).symm
    · rw [← hid]
      exact ServerDatabase.registered_upsertAgent _ _ _ _ _
    · rw [← hid]
      exact ServerDatabase.registered_upsertAgent _ _ _ _ _
  have hup : ServerState.Alike agentId (up s) (up t) :=
    ⟨hR.file, hR.cached, hR.requests, hsame.stored⟩
  have hstore : Handler.Agrees (fun s' t' => s' = up s ∧ t' = up t) (ServerState.Alike agentId)
      (storeMetrics m request) := by
    rintro _ _ r s' q t' ⟨rfl, rfl⟩ hs ht
    unfold storeMetrics at hs ht
    split at hs
    · next hnil =>
      rw [if_pos hnil] at ht
      cases hs
      cases ht
      exact ⟨rfl, hup⟩
    · next hnil =>
      rw [if_neg hnil] at ht
      rw [hid] at hs ht
      rcases hsame.storeMetrics m.time request.metrics with ⟨e, h₁, h₂⟩ | ⟨db, db', h₁, h₂, hsame'⟩
      · rw [h₁] at hs
        rw [h₂] at ht
        cases hs
        cases ht
        exact ⟨rfl, hup⟩
      · rw [h₁] at hs
        rw [h₂] at ht
        cases hs
        cases ht
        exact ⟨rfl, hR.file, hR.cached, hR.requests, hsame'.stored⟩
  exact Handler.agrees_andThen hstore (fun _ => hk) _ _ _ _ _ _ ⟨rfl, rfl⟩ hs ht

/-- A handler that changes the line only. -/
theorem relates_of_frame {α : Type} {h : Handler α}
    (hframe : ∀ s r s', h s = some (r, s') → ∃ bandwidth, s' = { s with bandwidth := bandwidth }) :
    h.Relates (ServerState.Alike agentId) := by
  intro s t r s' q t' hR hs ht
  obtain ⟨bandwidth, rfl⟩ := hframe _ _ _ hs
  obtain ⟨bandwidth', rfl⟩ := hframe _ _ _ ht
  exact ⟨hR.file, hR.cached, hR.requests, hR.stored⟩

theorem logConfigError_alike {s : ServerState} {db : ServerDatabase}
    {time : Nat} {x timestamp errorMessage : String}
    (h : s.database.logConfigError time x timestamp errorMessage = .ok db) :
    ServerState.Alike agentId { s with database := db } s := by
  unfold ServerDatabase.logConfigError at h
  split at h
  · rw [← Except.ok.inj h]
    exact ⟨rfl, rfl, rfl, ServerDatabase.metricsOf_congr rfl⟩
  · cases h

/-- **A request of the agent itself**, other than for a bandwidth test. -/
theorem handle_agrees {request : Request} (hid : request.payload.agentId = agentId)
    (hline : request.payload.sharesLine = false) :
    (handle server m request).Agrees (ServerState.Alike agentId) (ServerState.Alike agentId) := by
  have hlimit := limitRate_agrees server m agentId
  have hread := readConfig_agrees server agentId
  subst hid
  obtain ⟨headers, payload⟩ := request
  cases payload with
  | metrics body =>
    refine Handler.agrees_map _ (agrees_admitted (Handler.agrees_andThen hlimit fun _ => ?_))
    refine submit_agrees m _ body rfl (Handler.agrees_andThen hread fun cached => ?_)
    exact Handler.agrees_answer _
  | configs params =>
    refine Handler.agrees_map _ (agrees_admitted (Handler.agrees_andThen hread fun cached => ?_))
    cases cached with
    | none => exact Handler.agrees_fail _
    | some cached => exact Handler.agrees_answer _
  | configError body =>
    refine Handler.agrees_map _ ?_
    unfold handleConfigError
    split
    · exact Handler.agrees_fail _
    · refine Handler.agrees_andThen (Handler.agrees_check _) fun _ => ?_
      -- the report is acknowledged whether it could be stored or not
      intro s t r s' q t' hR hs ht
      dsimp only at hs ht
      split at hs
      · split at ht
        · cases hs
          cases ht
          exact ⟨rfl, hR⟩
        · next db hdb =>
          cases hs
          cases ht
          exact ⟨rfl, hR.trans (logConfigError_alike _ hdb).symm⟩
      · next db hdb =>
        split at ht
        · cases hs
          cases ht
          exact ⟨rfl, (logConfigError_alike _ hdb).trans hR⟩
        · next db' hdb' =>
          cases hs
          cases ht
          exact ⟨rfl, (logConfigError_alike _ hdb).trans
            (hR.trans (logConfigError_alike _ hdb').symm)⟩
  | configVerify body =>
    refine Handler.agrees_map _ (agrees_admitted (Handler.agrees_andThen hlimit fun _ => ?_))
    refine Handler.agrees_andThen hread fun cached => ?_
    cases cached with
    | none => exact Handler.agrees_answer _
    | some cached =>
      dsimp only
      split
      · exact Handler.agrees_answer _
      · exact Handler.agrees_answer _
  | configUpload body =>
    refine Handler.agrees_map _ (agrees_admitted (Handler.agrees_andThen hlimit fun _ => ?_))
    refine Handler.agrees_andThen (Handler.agrees_check _) fun content => ?_
    split
    · exact Handler.agrees_answer _
    · exact saveUpload_agrees m _ content
  | bandwidthTest body => cases hline
  | bandwidthDownload params => cases hline

/-- **A bandwidth test** changes what is kept for the agent in the same way, whatever it is told. -/
theorem handle_relates {request : Request} (hid : request.payload.agentId = agentId)
    (hline : request.payload.sharesLine = true) :
    (handle server m request).Relates (ServerState.Alike agentId) := by
  have hlimit := limitRate_agrees server m agentId
  subst hid
  obtain ⟨headers, payload⟩ := request
  cases payload with
  | bandwidthTest body =>
    refine Handler.relates_map _ ?_
    refine Handler.relates_andThen (Handler.agrees_check _) fun _ => ?_
    refine Handler.relates_andThen (Handler.agrees_check _) fun _ => ?_
    refine Handler.relates_andThen (Handler.agrees_check _) fun _ => ?_
    refine Handler.relates_andThen hlimit fun _ => relates_of_frame _ ?_
    intro s r s' h
    dsimp only at h
    split at h
    · cases h
    · cases h
      exact ⟨_, rfl⟩
  | bandwidthDownload params =>
    refine Handler.relates_map _ ?_
    refine Handler.relates_andThen (Handler.agrees_check _) fun _ => ?_
    refine Handler.relates_andThen (Handler.agrees_check _) fun _ => relates_of_frame _ ?_
    intro s r s' h
    rcases Handler.andThen_cases h with ⟨e, hs, -⟩ | ⟨a, s₁, hs, hs'⟩
    · obtain ⟨-, rfl⟩ := Prod.mk.inj (Option.some.inj hs)
      exact ⟨s.bandwidth, rfl⟩
    · obtain ⟨-, rfl⟩ := Prod.mk.inj (Option.some.inj hs)
      cases hs'
      exact ⟨_, rfl⟩
  | _ => cases hline

end Own

/-! ### Everything else -/

/-- A statement of a cleanup deletes the same metrics of the agent from both databases. -/
theorem ServerDatabase.metricsOf_cleanupStatement {cutoffTime : Nat}
    {statement : ServerDatabase → ServerDatabase} (hmem : statement ∈ cleanupStatements cutoffTime)
    {db db' : ServerDatabase} {agentId : String}
    (h : db.metricsOf agentId = db'.metricsOf agentId) :
    (statement db).metricsOf agentId = (statement db').metricsOf agentId := by
  rcases List.mem_append.1 hmem with hmem | hmem
  · obtain ⟨kind, -, rfl⟩ := List.mem_map.1 hmem
    have hdelete : ∀ db : ServerDatabase, (cleanupMetrics cutoffTime kind db).metricsOf agentId =
        Function.update (db.metricsOf agentId) kind
          ((db.metricsOf agentId kind).filter fun r =>
            !decide (i64Column r.periodEnd < cutoffTime)) := by
      intro db
      funext k
      unfold metricsOf cleanupMetrics
      by_cases hk : k = kind
      · subst hk
        dsimp only
        rw [Function.update_self, Function.update_self, Table.values_delete, List.filter_filter,
          List.filter_filter]
        exact List.filter_congr fun r _ => Bool.and_comm _ _
      · dsimp only
        rw [Function.update_of_ne hk, Function.update_of_ne hk]
    rw [hdelete, hdelete, h]
  · rcases List.mem_cons.1 hmem with rfl | hmem
    · exact h
    · rw [List.mem_singleton] at hmem
      subst hmem
      rw [metricsOf_congr (cleanupAgents_metrics _ _), metricsOf_congr (cleanupAgents_metrics _ _)]
      exact h

theorem ServerDatabase.metricsOf_cleanupOldData {db db' : ServerDatabase} {agentId : String}
    (h : db.metricsOf agentId = db'.metricsOf agentId) (time : Nat) (retentionDays : UInt32)
    (done : Nat) : (db.cleanupOldData time retentionDays done).metricsOf agentId =
      (db'.cleanupOldData time retentionDays done).metricsOf agentId := by
  unfold cleanupOldData
  dsimp only
  have hall : ∀ statement ∈ (cleanupStatements (retentionCutoff time retentionDays)).take
      done, statement ∈ cleanupStatements (retentionCutoff time retentionDays) :=
    fun statement hmem => List.mem_of_mem_take hmem
  generalize (cleanupStatements (retentionCutoff time retentionDays)).take done =
    statements at hall
  induction statements generalizing db db' with
  | nil => exact h
  | cons statement statements ih =>
    refine ih (metricsOf_cleanupStatement (hall statement List.mem_cons_self) h) ?_
    exact fun s hs => hall s (List.mem_cons_of_mem _ hs)

/-- **The unwinding conditions** hold of the server and any agent. -/
theorem agentView_unwinds (server : Server) (agentId : String) (s₀ : ServerState) :
    (agentView agentId).Unwinds (serverMachine server s₀) where
  symm := ServerState.Alike.symm
  hidden := by
    intro s t a s' b hvis hR h
    cases a with
    | request m request =>
      have hx : request.payload.agentId ≠ agentId := beq_eq_false_iff_ne.1 hvis
      change s.next server (.request m request) = some (s', b) at h
      unfold ServerState.next at h
      dsimp only at h
      split at h
      · cases h
      · next hs =>
        cases h
        exact handle_hidden hx _ _ _ hR hs
    | edit x content =>
      have hx : agentId ≠ x := Ne.symm (beq_eq_false_iff_ne.1 hvis)
      cases h
      cases content with
      | none =>
        exact ⟨(Function.update_of_ne hx _ _).trans hR.file, hR.cached, hR.requests, hR.stored⟩
      | some c =>
        exact ⟨(Function.update_of_ne hx _ _).trans hR.file, hR.cached, hR.requests, hR.stored⟩
    | notice x =>
      have hx : agentId ≠ x := Ne.symm (beq_eq_false_iff_ne.1 hvis)
      cases h
      exact ⟨hR.file, (Function.update_of_ne hx _ _).trans hR.cached, hR.requests, hR.stored⟩
    | _ => cases hvis
  visible := by
    intro s t a s' b t' c hvis hR hs ht
    cases a with
    | request m request =>
      have hid : request.payload.agentId = agentId := beq_iff_eq.1 hvis
      change s.next server (.request m request) = some (s', b) at hs
      change t.next server (.request m request) = some (t', c) at ht
      unfold ServerState.next at hs ht
      dsimp only at hs ht
      split at hs
      · cases hs
      · next hs' =>
        split at ht
        · cases ht
        · next ht' =>
          cases hs
          cases ht
          show _ ∧ (if request.payload.sharesLine then none else _) =
            if request.payload.sharesLine then none else _
          cases hline : request.payload.sharesLine with
          | true => exact ⟨handle_relates server m agentId hid hline _ _ _ _ _ _ hR hs' ht', rfl⟩
          | false =>
            obtain ⟨rfl, hR'⟩ := handle_agrees server m agentId hid hline _ _ _ _ _ _ hR hs' ht'
            exact ⟨hR', rfl⟩
    | limiterCleanup now =>
      cases hs
      cases ht
      refine ⟨⟨hR.file, hR.cached, ?_, hR.stored⟩, rfl⟩
      unfold AgentRateLimiter.cleanupStaleEntries ServerState.limiter
      dsimp only
      rw [hR.requests]
    | dataCleanup time retentionDays done =>
      cases hs
      cases ht
      exact ⟨⟨hR.file, hR.cached, hR.requests,
        ServerDatabase.metricsOf_cleanupOldData hR.stored time retentionDays done⟩, rfl⟩
    | restart =>
      cases hs
      cases ht
      exact ⟨⟨hR.file, rfl, rfl, hR.stored⟩, rfl⟩
    | edit x content =>
      obtain rfl : x = agentId := beq_iff_eq.1 hvis
      cases hs
      cases ht
      have hset : ∀ (f : String → Option String) (new : Option String),
          Function.update f x new x = new := fun f new => Function.update_self ..
      cases content with
      | none => exact ⟨⟨(hset _ _).trans (hset _ _).symm, hR.cached, hR.requests, hR.stored⟩, rfl⟩
      | some c => exact ⟨⟨(hset _ _).trans (hset _ _).symm, hR.cached, hR.requests, hR.stored⟩, rfl⟩
    | notice x =>
      obtain rfl : x = agentId := beq_iff_eq.1 hvis
      cases hs
      cases ht
      refine ⟨⟨hR.file, ?_, hR.requests, hR.stored⟩, rfl⟩
      dsimp only [ConfigManager.updateCache]
      rw [Function.update_self, Function.update_self, hR.file]

/-! ## Top theorem -/

/-- **No agent sees another.**  Two servers that keep the same for an agent, and take the same steps
that concern it, among any others: they answer its requests alike, bandwidth tests apart, and keep
the same for it in the end. -/
theorem isolated (server : Server) {agentId : String} {s₀ t₀ : ServerState}
    (halike : s₀.Alike agentId t₀) {tr tr' : List ServerStep} {s t : ServerState}
    (hrun : Run (serverMachine server s₀) tr s) (hrun' : Run (serverMachine server t₀) tr' t)
    (hsteps : (agentView agentId).steps tr = (agentView agentId).steps tr') :
    (agentView agentId).seen tr = (agentView agentId).seen tr' ∧ s.Alike agentId t := by
  obtain ⟨h, hseen⟩ := Run.looks_same (agentView_unwinds server agentId s₀) halike hrun hrun' hsteps
  exact ⟨hseen, h⟩

/-- One request a minute. -/
def limitedServer : Server :=
  { metricsServer with config := ⟨"secret", "configs", 10, [], true, 60, 1⟩ }

/-- An agent asks for its version of the tasks file. -/
def asks (agentId : String) : ServerAction :=
  .request ⟨0, 125, none⟩ ⟨secretKey, .configVerify ⟨agentId, "0"⟩⟩

/-- `agent1` is refused its second request of the minute, and no request for the neighbour's. -/
theorem isolated_limited :
    ∃ tr s tr' t, Run (serverMachine limitedServer newServer) tr s ∧
      Run (serverMachine limitedServer newServer) tr' t ∧
      tr.map Taken.label =
        [asks "agent2", asks "agent1", asks "agent2", .notice "agent2", asks "agent1"] ∧
      (agentView "agent1").seen tr' = [some (.ok (.configVerify ⟨"error", .stale, none⟩)),
        some (.error .tooManyRequests)] ∧
      (agentView "agent1").seen tr = (agentView "agent1").seen tr' ∧ s.Alike "agent1" t := by
  obtain ⟨tr, s, he, hrun⟩ := Run.exists_of_exec (serverMachine limitedServer newServer)
    [asks "agent2", asks "agent1", asks "agent2", .notice "agent2", asks "agent1"] (by rfl)
  obtain ⟨tr', t, he', hrun'⟩ := Run.exists_of_exec (serverMachine limitedServer newServer)
    [asks "agent1", asks "agent1"] (by rfl)
  have hseen : ((serverMachine limitedServer newServer).exec [asks "agent1", asks "agent1"]).map
      (fun r => (agentView "agent1").seen r.1) =
      some [some (.ok (.configVerify ⟨"error", .stale, none⟩)),
        some (.error .tooManyRequests)] := by rfl
  rw [he'] at hseen
  have hsteps : (agentView "agent1").steps tr = (agentView "agent1").steps tr' := by
    unfold View.steps
    rw [Machine.execFrom_labels he, Machine.execFrom_labels he']
    rfl
  refine ⟨tr, s, tr', t, hrun, hrun', Machine.execFrom_labels he, Option.some.inj hseen, ?_⟩
  exact isolated limitedServer (.refl newServer) hrun hrun' hsteps

end LinkSense
