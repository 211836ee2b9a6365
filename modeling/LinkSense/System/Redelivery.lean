import LinkSense.Agent.Delivery
import LinkSense.Server.Access

/-!
# Redelivery of metrics

Agent and server, with the requests between them.  A request can be late, its answer can be lost,
and the agent can be killed at any time; it then sends the batch again, as it must when the first
request came to nothing.  But the server refuses a whole batch when it has stored one of its
metrics already, and the agent counts that as a failed attempt like any other.

    an admitted request is accepted ↔ the server holds no metric of it, and none is in it twice
                                                                      (handleMetrics_isOk_iff)
    every step of a run is harmless ↔ no step of it delivers a metric that the server holds
                                                                      (harmless_iff_deliversNew)
-/

namespace LinkSense

open Labelled Sql

/-! ## Agent, server and requests -/

/-- A request with metrics, and what became of it. -/
structure Delivery where
  queueIds : List Nat
  request : MetricsRequest
  answer : Option (Except ApiError MetricsResponse)
  /-- The request was admitted, and the server held one of its metrics already. -/
  redelivered : Bool

structure Network where
  agent : Agent
  server : ServerState
  /-- In the order they were sent. -/
  deliveries : List Delivery

inductive NetworkAction where
  /-- A step of the agent; `checksum` is that of its tasks file. -/
  | agent (checksum : String) (a : AgentAction)
  /-- The `i`-th request reaches the server, and is answered. -/
  | deliver (m : Moment) (i : Nat)
  /-- A request of any other kind or from anybody else. -/
  | other (m : Moment) (request : Request)
  | serverCleanup (time : Nat) (retentionDays : UInt32) (done : Nat)
  | serverRestart
  /-- The tasks file of an agent is written on the server, or removed. -/
  | edit (agentId : String) (content : Option String)
  /-- The server notices that the file has changed. -/
  | notice (agentId : String)

/-- `CARGO_PKG_VERSION`. -/
def agentVersion : String := "0.9.1"

/-- The headers of every request of the agent. -/
def AgentConfig.headers (config : AgentConfig) : HeaderMap :=
  [("x-api-key", utf8 config.apiKey), ("x-agent-id", utf8 config.agentId),
    ("content-type", utf8 "application/json")]

/-- `send_metrics_batch`: the request, when the step puts one on its way. -/
def AgentConfig.sends (config : AgentConfig) (checksum : String) (now : Nat) (a : AgentAction)
    (point : Point) : List Delivery :=
  match a, point with
  | .fetch _, .sending _ batch =>
    [⟨batch.map Prod.fst, ⟨config.agentId, toString now, checksum, batch.map Prod.snd,
      some agentVersion⟩, none, false⟩]
  | _, _ => []

/-- The request passes the checks that come before its effect. -/
def admitted (server : Server) (m : Moment) (headers : HeaderMap) (request : MetricsRequest)
    (s : ServerState) : Bool :=
  match admission server m headers request.agentId s with
  | some (.ok (), _) => true
  | _ => false

def ServerDatabase.holdsSome (db : ServerDatabase) (request : MetricsRequest) : Bool :=
  request.metrics.any fun metric => db.holds request.agentId metric

namespace Network

/-- The agent can only be told what the server has answered to its last request; any failure can
come between. -/
def answers (s : Network) : AgentAction → Bool
  | .reply (.ok status) _ _ =>
    match s.deliveries.getLast? with
    | some ⟨_, _, some (.ok response), _⟩ => decide (response.configStatus = status)
    | _ => false
  | _ => true

/-- One step; the agent's clock is at `now`. -/
def next (server : Server) (config : AgentConfig) (summary : Summary) (s : Network) (now : Nat) :
    NetworkAction → Option Network
  | .agent checksum a =>
    if s.answers a then
      match s.agent.next config summary now a with
      | none => none
      | some agent =>
        some { s with
          agent := agent
          deliveries := s.deliveries ++ config.sends checksum now a agent.point }
    else none
  | .deliver m i =>
    match s.deliveries[i]? with
    | some ⟨queueIds, request, none, _⟩ =>
      match handleMetrics server m config.headers request s.server with
      | none => none
      | some (answer, state) =>
        let redelivered := admitted server m config.headers request s.server &&
          s.server.database.holdsSome request
        some { s with
          server := state
          deliveries := s.deliveries.set i ⟨queueIds, request, some answer, redelivered⟩ }
    | _ => none
  | .other m request =>
    match handle server m request s.server with
    | none => none
    | some (_, state) => some { s with server := state }
  | .serverCleanup time retentionDays done =>
    some { s with
      server := { s.server with
        database := s.server.database.cleanupOldData time retentionDays done } }
  | .serverRestart => some { s with server := s.server.restarted }
  | .edit agentId content =>
    let m := s.server.configManager
    some { s with
      server := { s.server with
        configManager := content.elim (m.removeFile agentId) (m.writeFile agentId) } }
  | .notice agentId =>
    some { s with
      server := { s.server with
        configManager := s.server.configManager.updateCache server.codecs agentId } }

end Network

/-- A new agent and a server in any state, under a clock that does not go back. -/
def networkMachine (server : Server) (config : AgentConfig) (summary : Summary)
    (tasksConfig : TasksConfig) (t₀ : Nat) (state : ServerState) :
    Machine (Nat × Network) (Nat × NetworkAction) Unit :=
  Machine.clocked ⟨⟨.start config tasksConfig .initial t₀, state, []⟩,
    fun s a => (s.next server config summary a.1 a.2).map (·, ())⟩ t₀

abbrev NetworkStep := Taken (Nat × Network) (Nat × NetworkAction) Unit

/-! ## Harmless redelivery -/

/-- The attempt counted against its metrics, though the server had one of them. -/
def Delivery.blamed (d : Delivery) : Bool :=
  match d.answer with
  | some (.error _) => d.redelivered
  | _ => false

/-- No entry is `failed` that was in a request refused for a metric the server had. -/
def Network.SparesFailed (s : Network) : Prop :=
  ∀ e ∈ s.agent.db.queue.rows, e.2.status = .failed →
    ∀ d ∈ s.deliveries, e.1 ∈ d.queueIds → d.blamed = false

/-- A step that delivers a held metric in an admitted request gets it accepted, and each metric is
then stored once. -/
def AcceptsHeld (server : Server) (config : AgentConfig) (t : NetworkStep) : Prop :=
  ∀ m i d, t.label.2 = .deliver m i → t.pre.2.deliveries[i]? = some d →
    admitted server m config.headers d.request t.pre.2.server = true →
    t.pre.2.server.database.holdsSome d.request = true →
    (∃ d' r, t.post.2.deliveries[i]? = some d' ∧ d'.answer = some (.ok r)) ∧
      ∀ metric ∈ d.request.metrics, ∀ kind key,
        ServerDatabase.metricKey d.request.agentId metric = some (kind, key) →
        (t.post.2.server.database.metrics kind).keys.count key = 1

def Harmless (server : Server) (config : AgentConfig) (t : NetworkStep) : Prop :=
  AcceptsHeld server config t ∧ t.post.2.SparesFailed

/-- An admitted request that is delivered has no metric that the server holds. -/
def DeliversNew (server : Server) (config : AgentConfig) (s : Nat × Network)
    (a : Nat × NetworkAction) : Prop :=
  ∀ m i d, a.2 = .deliver m i → s.2.deliveries[i]? = some d →
    admitted server m config.headers d.request s.2.server = true →
    s.2.server.database.holdsSome d.request = false

/-! ## Lemmas -/

theorem admitted_iff {server : Server} {m : Moment} {headers : HeaderMap}
    {request : MetricsRequest} {s : ServerState} :
    admitted server m headers request s = true ↔
      ∃ s', admission server m headers request.agentId s = some (.ok (), s') := by
  unfold admitted
  constructor
  · intro h
    split at h
    · next s' hs => exact ⟨s', hs⟩
    · cases h
  · rintro ⟨s', hs⟩
    rw [hs]

theorem ServerDatabase.holdsSome_eq_false_iff (db : ServerDatabase) (request : MetricsRequest) :
    db.holdsSome request = false ↔
      ∀ metric ∈ request.metrics, db.holds request.agentId metric = false := by
  unfold holdsSome
  simp

/-- **An admitted request with a held metric is refused**, whatever else is in it. -/
theorem handleMetrics_of_holdsSome {server : Server} {m : Moment} {headers : HeaderMap}
    {request : MetricsRequest} {s s' : ServerState} {r : Except ApiError MetricsResponse}
    (hadm : admitted server m headers request s = true)
    (hheld : s.database.holdsSome request = true)
    (h : handleMetrics server m headers request s = some (r, s')) : ∃ e, r = .error e := by
  cases r with
  | error e => exact ⟨e, rfl⟩
  | ok r =>
    obtain ⟨s₁, hs₁⟩ := admitted_iff.1 hadm
    have hnew := ((handleMetrics_isOk_iff hs₁).1 ⟨r, s', h⟩).1
    have hdb : s₁.database = s.database := by rw [admission_frame hs₁]
    rw [hdb, ← ServerDatabase.holdsSome_eq_false_iff, hheld] at hnew
    cases hnew

namespace Network

variable {server : Server} {config : AgentConfig} {summary : Summary} {s s' : Network} {now : Nat}

theorem next_deliver {m : Moment} {i : Nat}
    (h : s.next server config summary now (.deliver m i) = some s') :
    ∃ d answer state, s.deliveries[i]? = some d ∧
      handleMetrics server m config.headers d.request s.server = some (answer, state) ∧
      s' = { s with
        server := state
        deliveries := s.deliveries.set i ⟨d.queueIds, d.request, some answer,
          admitted server m config.headers d.request s.server &&
            s.server.database.holdsSome d.request⟩ } := by
  dsimp only [next] at h
  split at h
  · next queueIds request r hd =>
    split at h
    · cases h
    · next answer state hs =>
      exact ⟨_, answer, state, hd, hs, (Option.some.inj h).symm⟩
  · cases h

theorem next_agent {checksum : String} {a : AgentAction}
    (h : s.next server config summary now (.agent checksum a) = some s') :
    s.agent.next config summary now a = some s'.agent ∧ s'.server = s.server ∧
      s'.deliveries = s.deliveries ++ config.sends checksum now a s'.agent.point := by
  dsimp only [next] at h
  split at h
  · split at h
    · cases h
    · next agent ha =>
      cases h
      exact ⟨ha, rfl, rfl⟩
  · cases h

/-- All other steps leave the agent alone, and the requests that were sent. -/
theorem next_frame {a : NetworkAction} (h : s.next server config summary now a = some s')
    (ha : ∀ checksum b, a ≠ .agent checksum b) :
    s'.agent = s.agent ∧
      s'.deliveries.map Delivery.request = s.deliveries.map Delivery.request := by
  cases a with
  | agent checksum b => exact absurd rfl (ha checksum b)
  | deliver m i =>
    obtain ⟨d, answer, state, hd, -, rfl⟩ := next_deliver h
    refine ⟨rfl, ?_⟩
    have hreq : (s.deliveries.map Delivery.request)[i]? = some d.request := by
      rw [List.getElem?_map, hd]
      rfl
    obtain ⟨hlt, hget⟩ := List.getElem?_eq_some_iff.1 hreq
    rw [List.map_set]
    show (s.deliveries.map Delivery.request).set i d.request = _
    rw [← hget]
    exact List.set_getElem_self hlt
  | other m request =>
    dsimp only [next] at h
    split at h
    · cases h
    · cases h
      exact ⟨rfl, rfl⟩
  | serverCleanup time retentionDays done =>
    cases h
    exact ⟨rfl, rfl⟩
  | serverRestart =>
    cases h
    exact ⟨rfl, rfl⟩
  | edit agentId content =>
    cases h
    exact ⟨rfl, rfl⟩
  | notice agentId =>
    cases h
    exact ⟨rfl, rfl⟩

theorem next_deliveries {a : NetworkAction}
    (h : s.next server config summary now a = some s') (ha : ∀ m i, a ≠ .deliver m i) :
    ∀ d ∈ s'.deliveries, d ∈ s.deliveries ∨ d.redelivered = false := by
  cases a with
  | agent checksum a =>
    obtain ⟨-, -, hsent⟩ := next_agent h
    intro d hd
    rw [hsent] at hd
    rcases List.mem_append.1 hd with hd | hd
    · exact .inl hd
    · right
      unfold AgentConfig.sends at hd
      split at hd
      · rw [List.mem_singleton] at hd
        rw [hd]
      · cases hd
  | deliver m i => exact absurd rfl (ha m i)
  | other m request =>
    dsimp only [next] at h
    split at h
    · cases h
    · cases h
      exact fun d hd => .inl hd
  | serverCleanup time retentionDays done =>
    cases h
    exact fun d hd => .inl hd
  | serverRestart =>
    cases h
    exact fun d hd => .inl hd
  | edit agentId content =>
    cases h
    exact fun d hd => .inl hd
  | notice agentId =>
    cases h
    exact fun d hd => .inl hd

end Network

theorem networkMachine_step {server : Server} {config : AgentConfig} {summary : Summary}
    {tasksConfig : TasksConfig} {t₀ : Nat} {state : ServerState} {s s' : Nat × Network}
    {a : Nat × NetworkAction} {b : Unit}
    (h : (networkMachine server config summary tasksConfig t₀ state).step s a = some (s', b)) :
    s.2.next server config summary a.1 a.2 = some s'.2 := by
  obtain ⟨-, hs, -⟩ := (Machine.clocked_step_iff _ _ _ _ _ _).1 h
  obtain ⟨s₁, hs₁, he⟩ := Option.map_eq_some_iff.1 hs
  rwa [(Prod.mk.inj he).1] at hs₁

/-! ## Top theorem -/

theorem redelivered_of_deliversNew {server : Server} {config : AgentConfig} {summary : Summary}
    {s s' : Nat × Network} {a : Nat × NetworkAction}
    (hI : ∀ d ∈ s.2.deliveries, d.redelivered = false) (hC : DeliversNew server config s a)
    (h : s.2.next server config summary a.1 a.2 = some s'.2) :
    ∀ d ∈ s'.2.deliveries, d.redelivered = false := by
  by_cases ha : ∃ m i, a.2 = .deliver m i
  · obtain ⟨m, i, ha⟩ := ha
    rw [ha] at h
    obtain ⟨d, answer, state, hd, hs, hs'⟩ := Network.next_deliver h
    rw [hs']
    intro d' hd'
    rcases List.mem_or_eq_of_mem_set hd' with hd' | rfl
    · exact hI d' hd'
    · show (admitted server m config.headers d.request s.2.server &&
        s.2.server.database.holdsSome d.request) = false
      cases hadm : admitted server m config.headers d.request s.2.server with
      | false => rfl
      | true => exact hC m i d ha hd hadm
  · intro d hd
    have ha' : ∀ m i, a.2 ≠ .deliver m i := fun m i he => ha ⟨m, i, he⟩
    rcases Network.next_deliveries h ha' d hd with hd | hd
    · exact hI d hd
    · exact hd

/-- **Redelivery is harmless** in a run if and only if there is none: no step of it delivers, in an
admitted request, a metric that the server holds. -/
theorem harmless_iff_deliversNew (server : Server) (config : AgentConfig) (summary : Summary)
    (tasksConfig : TasksConfig) (t₀ : Nat) (state : ServerState) {tr : List NetworkStep}
    {s : Nat × Network}
    (hrun : Run (networkMachine server config summary tasksConfig t₀ state) tr s) :
    (∀ t ∈ tr, Harmless server config t) ↔
      ∀ t ∈ tr, DeliversNew server config t.pre t.label := by
  refine Run.forall_iff (I := fun s => ∀ d ∈ s.2.deliveries, d.redelivered = false) ?_ ?_ ?_ hrun
  · intro d hd
    cases hd
  · intro s a s' b hI hC hs
    exact redelivered_of_deliversNew hI hC (networkMachine_step hs)
  · intro s a s' b hI hs
    have hnext := networkMachine_step hs
    constructor
    · rintro ⟨haccepts, -⟩ m i d ha hd hadm
      by_contra hheld
      rw [Bool.not_eq_false] at hheld
      obtain ⟨⟨d', r, hd', hr⟩, -⟩ := haccepts m i d ha hd hadm hheld
      rw [ha] at hnext
      obtain ⟨d₁, answer, state₁, hd₁, hanswer, hs'⟩ := Network.next_deliver hnext
      rw [hd] at hd₁
      obtain rfl := Option.some.inj hd₁
      obtain ⟨e, he⟩ := handleMetrics_of_holdsSome hadm hheld hanswer
      have hlt : i < s.2.deliveries.length := (List.getElem?_eq_some_iff.1 hd).1
      dsimp only at hd'
      rw [hs', List.getElem?_set_self hlt] at hd'
      rw [← Option.some.inj hd', he] at hr
      cases hr
    · intro hC
      refine ⟨fun m i d ha hd hadm hheld => ?_, fun e he hfailed d hd hid => ?_⟩
      · rw [hC m i d ha hd hadm] at hheld
        cases hheld
      · have := redelivered_of_deliversNew hI hC hnext d hd
        unfold Delivery.blamed
        split
        · exact this
        · rfl

/-! ## An answer that is lost -/

def metricsServer : Server :=
  { keyedServer with config := ⟨"secret", "configs", 10, [], false, 60, 100⟩ }

def newServer : ServerState :=
  ⟨.initial, ⟨fun _ => none, fun _ => none⟩, .new 120 300 30 60 30, fun _ => none⟩

def byAgent (actions : List (Nat × AgentAction)) : List (Nat × NetworkAction) :=
  actions.map fun a => (a.1, .agent "0" a.2)

/-- The rest of a pass over one task, and of the iteration up to a request. -/
def sendingAt (now : Nat) : List (Nat × AgentAction) :=
  [(now, .enqueue), (now, .aggregationDone), (now, .flush none), (now, .queueCleanup false false),
    (now, .fetch true)]

/-- The minute of the first row is sent at 125, and stored. -/
def storedAt125 : List (Nat × NetworkAction) :=
  byAgent (firstMinute (taskEvery 60) ++ wokenAt 125 ++ sendingAt 125) ++
    [(125, .deliver ⟨0, 125, none⟩ 0)]

/-- The agent gets no answer, and sends the metric again at 245, with that of the row of 185. -/
def sentAgainAt245 : List (Nat × NetworkAction) :=
  byAgent ([(125, .reply (.error "connection closed") true []), (125, .dataCleanup 18)] ++
    wokenAt 185 ++ [(185, .aggregationDone)] ++ restOfIteration 185 ++
    handledAt 186 185 (taskEvery 60) ++ quietIteration 186 ++ wokenAt 245 ++ sendingAt 245) ++
    [(245, .deliver ⟨0, 245, none⟩ 1)] ++
    byAgent [(246, .reply (.error "Server returned 500") true [])]

def exampleNetwork : Machine (Nat × Network) (Nat × NetworkAction) Unit :=
  networkMachine metricsServer exampleAgentConfig exampleSummary ⟨[taskEvery 60]⟩ 60 newServer

instance (s : Network) : Decidable s.SparesFailed :=
  inferInstanceAs (Decidable (∀ e ∈ s.agent.db.queue.rows, e.2.status = .failed →
    ∀ d ∈ s.deliveries, e.1 ∈ d.queueIds → d.blamed = false))

/-- The moment of a delivery, and which request it is of. -/
def NetworkAction.delivered : NetworkAction → Option (Moment × Nat)
  | .deliver m i => some (m, i)
  | _ => none

instance (server : Server) (config : AgentConfig) (s : Nat × Network) (a : Nat × NetworkAction) :
    Decidable (DeliversNew server config s a) :=
  decidable_of_iff (∀ x ∈ a.2.delivered, ∀ d ∈ s.2.deliveries[x.2]?,
    admitted server x.1 config.headers d.request s.2.server = true →
      s.2.server.database.holdsSome d.request = false) <| by
    constructor
    · intro h m i d ha
      exact h (m, i) (by rw [ha]; rfl) d
    · rintro h ⟨m, i⟩ hx d
      refine h m i d ?_
      cases ha : a.2 <;> rw [ha] at hx <;> cases hx
      rfl

theorem harmless_iff_deliversNew_first :
    ∃ tr s, Run exampleNetwork tr s ∧
      (s.2.server.database.metrics .http).keys = [("agent1", "web", 60, 120)] ∧
      ∀ t ∈ tr, Harmless metricsServer exampleAgentConfig t := by
  obtain ⟨tr, s, he, hrun⟩ := Run.exists_of_exec exampleNetwork storedAt125 (by rfl)
  have hend : (exampleNetwork.exec storedAt125).map (fun r =>
      ((r.2.2.server.database.metrics .http).keys,
        r.1.all fun t => decide (DeliversNew metricsServer exampleAgentConfig t.pre t.label))) =
      some ([("agent1", "web", 60, 120)], true) := by rfl
  rw [he] at hend
  obtain ⟨hkeys, hnew⟩ := Prod.mk.inj (Option.some.inj hend)
  exact ⟨tr, s, hrun, hkeys, (harmless_iff_deliversNew _ _ _ _ _ _ hrun).2
    fun t ht => of_decide_eq_true (List.all_eq_true.1 hnew t ht)⟩

/-- The answer is lost, and the batch sent again with a new metric. -/
theorem not_harmless_answerLost :
    ∃ tr s, Run exampleNetwork tr s ∧
      s.2.agent.db.queue.rows.map (fun e => (e.1, e.2.periodStart, e.2.status)) =
        [(1, 60, .failed), (2, 180, .pending)] ∧
      (s.2.server.database.metrics .http).keys = [("agent1", "web", 60, 120)] ∧
      ¬ ∀ t ∈ tr, Harmless metricsServer exampleAgentConfig t := by
  obtain ⟨tr, s, he, hrun⟩ := Run.exists_of_exec exampleNetwork (storedAt125 ++ sentAgainAt245)
    (by rfl)
  have hend : (exampleNetwork.exec (storedAt125 ++ sentAgainAt245)).map (fun r =>
      (r.2.2.agent.db.queue.rows.map (fun e => (e.1, e.2.periodStart, e.2.status)),
        (r.2.2.server.database.metrics .http).keys,
        r.1.all fun t => decide t.post.2.SparesFailed)) =
      some ([(1, 60, .failed), (2, 180, .pending)], [("agent1", "web", 60, 120)], false) := by rfl
  rw [he] at hend
  obtain ⟨hqueue, hrest⟩ := Prod.mk.inj (Option.some.inj hend)
  obtain ⟨hserver, hfailed⟩ := Prod.mk.inj hrest
  refine ⟨tr, s, hrun, hqueue, hserver, fun hall => ?_⟩
  have : (tr.all fun t => decide t.post.2.SparesFailed) = true :=
    List.all_eq_true.2 fun t ht => decide_eq_true (hall t ht).2
  rw [this] at hfailed
  cases hfailed

end LinkSense
