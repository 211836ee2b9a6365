import LinkSense.System.ConfigSync

/-!
# One update for one edit

After a tasks file was edited on the server, and the server has noticed, the agent's next request
is answered with "stale", and an update follows.  The update can fail, answers can be lost, late
requests can arrive, and either side can be started again.  But the first update that comes to its
end installs the edited file, and is the last: the server never again says "stale", whatever is
requested by whom, until the file is edited once more.

    the agent's file on the server is `content`, no update is under way, and no later step edits the
      file → every reload installs the tasks of `content`, and no step after it is answered with
      "stale", reloads or changes the tasks that run                               (updated_once)
-/

namespace LinkSense

open Labelled Sql

/-! ## The served file -/

/-- The server has this tasks file of the agent, and nothing older in its cache. -/
structure ConfigManager.Serves (codecs : Codecs) (agentId content : String) (m : ConfigManager) :
    Prop where
  file : m.files agentId = some content
  current : m.Current agentId
  cached : m.WellCached codecs

namespace ConfigManager.Serves

variable {codecs : Codecs} {agentId content : String} {m : ConfigManager}

/-- What a request of the agent is compared with. -/
theorem getAgentConfig_eq (h : m.Serves codecs agentId content) :
    (m.getAgentConfig codecs agentId).1 = some (loadAndCacheConfig codecs content) := by
  unfold getAgentConfig
  cases hc : m.configCache agentId with
  | some cached =>
    have hsame : some cached.content = some content := (h.current cached hc).symm.trans h.file
    dsimp only
    rw [h.cached agentId cached hc, Option.some.inj hsame]
  | none =>
    dsimp only
    rw [h.file]

/-- The cache gets the file of some agent, or loses its entry. -/
theorem refresh (h : m.Serves codecs agentId content) {x : String}
    {entry : Option CachedAgentConfig}
    (hentry : entry = (m.files x).map (loadAndCacheConfig codecs)) :
    Serves codecs agentId content ⟨m.files, Function.update m.configCache x entry⟩ where
  file := h.file
  current := by
    intro cached hc
    dsimp only at hc ⊢
    by_cases hx : agentId = x
    · subst hx
      rw [Function.update_self, hentry, h.file] at hc
      rw [h.file, ← Option.some.inj hc]
      rfl
    · rw [Function.update_of_ne hx] at hc
      exact h.current cached hc
  cached := by
    refine wellCached_update h.cached fun cached hc => ?_
    rw [hentry] at hc
    obtain ⟨c, -, rfl⟩ := Option.map_eq_some_iff.1 hc
    rfl

theorem getAgentConfig (h : m.Serves codecs agentId content) (x : String) :
    (m.getAgentConfig codecs x).2.Serves codecs agentId content := by
  unfold ConfigManager.getAgentConfig
  split
  · exact h
  · split
    · exact h
    · next hf => exact h.refresh (by rw [hf]; rfl)

theorem updateCache (h : m.Serves codecs agentId content) (x : String) :
    (m.updateCache codecs x).Serves codecs agentId content := h.refresh rfl

/-- The file of another agent is written, or removed. -/
theorem edit (h : m.Serves codecs agentId content) {x : String} (hx : x ≠ agentId)
    (new : Option String) :
    Serves codecs agentId content ⟨Function.update m.files x new, m.configCache⟩ where
  file := (Function.update_of_ne (Ne.symm hx) _ _).trans h.file
  current := by
    intro cached hc
    exact (Function.update_of_ne (Ne.symm hx) _ _).trans (h.current cached hc)
  cached := h.cached

theorem restarted (h : m.Serves codecs agentId content) :
    Serves codecs agentId content ⟨m.files, fun _ => none⟩ where
  file := h.file
  current := fun _ hc => by cases hc
  cached := fun _ _ hc => by cases hc

end ConfigManager.Serves

section Requests

variable (server : Server) (m : Moment) {agentId content : String}

/-- The server's version of the agent's tasks file is `content`. -/
def ServerState.Serves (agentId content : String) (s : ServerState) : Prop :=
  s.configManager.Serves server.codecs agentId content

/-- **No request changes the file** that the server has. -/
theorem handle_serves (request : Request) :
    (handle server m request).Keeps (ServerState.Serves server agentId content) := by
  have hlimit : ∀ x, (limitRate server m x).Keeps (ServerState.Serves server agentId content) := by
    intro x s r s' hQ h
    rw [limitRate_frame h]
    exact hQ
  have hread : ∀ x, (readConfig server x).Keeps (ServerState.Serves server agentId content) := by
    intro x s r s' hQ h
    cases h
    exact hQ.getAgentConfig x
  refine handle_keeps server m (hlimit _) (hread _) ?_ (fun _ _ _ _ hQ _ => hQ)
    (fun _ _ hQ => hQ) ?_
  · intro new _ s r s' hQ h
    unfold saveUpload at h
    split at h
    · cases h
      exact hQ
    · next hnone =>
      have hx : request.payload.agentId ≠ agentId := by
        intro he
        rw [he, hQ.file] at hnone
        exact hnone rfl
      split at h
      · cases h
        exact hQ
      · cases h
        exact hQ.edit hx _
  · intro body _
    refine keeps_admitted server ?_
    refine Handler.keeps_andThen (hlimit _) fun _ => ?_
    refine Handler.keeps_andThen ?_ fun _ => Handler.keeps_andThen ?_ fun _ => ?_
    · intro s r s' hQ h
      cases h
      exact hQ
    · intro s r s' hQ h
      rcases storeMetrics_cases h with ⟨e, -, rfl, -⟩ | ⟨-, hs', -⟩
      · exact hQ
      · rw [hs']
        exact hQ
    · exact Handler.keeps_andThen (hread _) fun _ => Handler.keeps_answer _

variable {server m}

theorem readConfig_eq_ok {x : String} {cached : Option CachedAgentConfig} {s s' : ServerState}
    (h : readConfig server x s = some (.ok cached, s')) :
    cached = (s.configManager.getAgentConfig server.codecs x).1 := by
  cases h
  rfl

/-- The answer to metrics compares checksums. -/
theorem handleMetrics_answer {headers : HeaderMap} {body : MetricsRequest} {s s' : ServerState}
    {r : MetricsResponse} (h : handleMetrics server m headers body s = some (.ok r, s')) :
    r = if (s.configManager.getAgentConfig server.codecs body.agentId).1.map
      CachedAgentConfig.hash = some body.configChecksum then .upToDate else .stale := by
  obtain ⟨_, s₁, hlimit, h⟩ := Handler.andThen_eq_ok (checked_eq_ok h)
  obtain ⟨_, s₂, hupsert, h⟩ := Handler.andThen_eq_ok h
  obtain ⟨_, s₃, hstore, h⟩ := Handler.andThen_eq_ok h
  obtain ⟨cached, s₄, hread, h⟩ := Handler.andThen_eq_ok h
  have hmanager : s₃.configManager = s.configManager := by
    have h₁ : s₁.configManager = s.configManager := by rw [limitRate_frame hlimit]
    cases hupsert
    rw [← h₁]
    rcases storeMetrics_cases hstore with ⟨e, he, -⟩ | ⟨-, hs₃, -⟩
    · cases he
    · rw [hs₃]
  cases h
  rw [readConfig_eq_ok hread, hmanager]

/-- **A request with the hash of the served file** is answered with "up to date". -/
theorem handleMetrics_of_serves {headers : HeaderMap} {body : MetricsRequest} {s s' : ServerState}
    {r : MetricsResponse} (hserves : ServerState.Serves server body.agentId content s)
    (hsum : body.configChecksum = server.codecs.blake3 content)
    (h : handleMetrics server m headers body s = some (.ok r, s')) :
    r.configStatus = .upToDate := by
  rw [handleMetrics_answer h, hserves.getAgentConfig_eq, hsum, Option.map_some, if_pos]
  · rfl
  · rfl

/-- **What a stale agent is given** is the served file. -/
theorem handleConfigVerify_of_serves {headers : HeaderMap} {body : ConfigVerifyRequest}
    {s s' : ServerState} {r : ConfigVerifyResponse}
    (hserves : ServerState.Serves server body.agentId content s)
    (h : handleConfigVerify server m headers body s = some (.ok r, s')) :
    r = ⟨"success", .upToDate, none⟩ ∨
      r = ⟨"success", .stale, some (compressToml server.codecs content)⟩ := by
  obtain ⟨_, s₁, hlimit, h⟩ := Handler.andThen_eq_ok (checked_eq_ok h)
  obtain ⟨cached, s₂, hread, h⟩ := Handler.andThen_eq_ok h
  have hmanager : s₁.configManager = s.configManager := by rw [limitRate_frame hlimit]
  have hcached := readConfig_eq_ok hread
  rw [hmanager, hserves.getAgentConfig_eq] at hcached
  rw [hcached] at h
  dsimp only at h
  split at h
  · cases h
    exact .inl rfl
  · cases h
    exact .inr rfl

end Requests

theorem Network.next_serves {server : Server} {config : AgentConfig} {summary : Summary}
    {s s' : Network} {now : Nat} {a : NetworkAction} {agentId content : String}
    (h : s.next server config summary now a = some s')
    (hedit : ∀ new, a ≠ .edit agentId new)
    (hserves : ServerState.Serves server agentId content s.server) :
    ServerState.Serves server agentId content s'.server := by
  cases a with
  | agent checksum a =>
    rw [(Network.next_agent h).2.1]
    exact hserves
  | deliver m i =>
    obtain ⟨d, answer, state, -, hanswer, rfl⟩ := Network.next_deliver h
    obtain ⟨r, hr⟩ := handle_map_eq_some (f := Response.metrics) hanswer
    exact handle_serves server m ⟨config.headers, .metrics d.request⟩ _ _ _ hserves hr
  | other m request =>
    dsimp only [Network.next] at h
    split at h
    · cases h
    · next hs =>
      cases h
      exact handle_serves server m request _ _ _ hserves hs
  | serverCleanup time retentionDays done =>
    cases h
    exact hserves
  | serverRestart =>
    cases h
    exact hserves.restarted
  | edit x new =>
    have hx : x ≠ agentId := by
      rintro rfl
      exact hedit new rfl
    cases h
    cases new with
    | none => exact hserves.edit hx none
    | some new => exact hserves.edit hx (some new)
  | notice x =>
    cases h
    exact hserves.updateCache x

/-! ## Before and after the update -/

/-- The tasks that run are being replaced, or are about to be. -/
def Point.replaces : Point → Bool
  | .updating _ => true
  | .restarting _ => true
  | _ => false

namespace SyncAction

/-- The step ends an update: a scheduler with the new tasks is there. -/
def reloads : SyncAction → Bool
  | .network (.agent _ (.reload _)) => true
  | _ => false

/-- The agent's file on the server is edited. -/
def edits (agentId : String) : SyncAction → Bool
  | .network (.edit x _) => x == agentId
  | _ => false

theorem ne_edit_of_edits {agentId : String} {a : NetworkAction}
    (h : edits agentId (.network a) = false) (new : Option String) : a ≠ .edit agentId new := by
  rintro rfl
  unfold edits at h
  simp at h

end SyncAction

/-- `content` is served, and an update that is under way installs it. -/
structure BringsIn (server : Server) (config : AgentConfig) (content : String) (s : ConfigSync) :
    Prop where
  serves : ServerState.Serves server config.agentId content s.network.server
  downloaded : ∀ new, s.phase = .downloaded new → new = content
  written : s.phase = .written → s.manager.tasksToml = some content
  loaded : s.phase = .loaded → s.manager.tasksToml = some content ∧
    server.codecs.tomlTasks content = .ok s.manager.tasksConfig

/-- The last request has the checksum of `content`, and was not answered with "stale". -/
def Network.AskedWith (codecs : Codecs) (agentId content : String) (s : Network) : Prop :=
  ∃ d, s.deliveries.getLast? = some d ∧ d.request.agentId = agentId ∧
    d.request.configChecksum = codecs.blake3 content ∧
    ∀ r, d.answer = some (.ok r) → r.configStatus = .upToDate

/-- `content` is served, is in the agent's file, and its tasks run. -/
structure BroughtIn (server : Server) (config : AgentConfig) (content : String) (s : ConfigSync) :
    Prop where
  serves : ServerState.Serves server config.agentId content s.network.server
  file : s.manager.tasksToml = some content
  running : server.codecs.tomlTasks content = .ok s.running
  phase : s.phase = .idle ∨ s.phase = .registering
  point : s.network.agent.point.replaces = false
  asked : s.network.agent.point.isSending = true →
    s.network.AskedWith server.codecs config.agentId content

/-- Tasks are replaced only after the answer "stale". -/
theorem Agent.next_replaces {config : AgentConfig} {summary : Summary} {s s' : Agent} {now : Nat}
    {a : AgentAction} (h : s.next config summary now a = some s')
    (hstart : s.point.replaces = false) (hstale : ∀ marked failing,
      a ≠ .reply (.ok .stale) marked failing) : s'.point.replaces = false := by
  cases a with
  | fetch marked =>
    rcases next_fetch_cases h with ⟨hp, -⟩ | ⟨batch, -, hp, -⟩
    · rw [hp]
      rfl
    · rw [hp]
      rfl
  | aggregate =>
    obtain ⟨e, task, todo, -, rfl | rfl | ⟨metric, kind, -, rfl⟩⟩ := next_aggregate h
    all_goals rfl
  | enqueue =>
    obtain ⟨-, -, -, -, -, ⟨-, rfl⟩ | ⟨kind, -, rfl⟩⟩ := next_enqueue h
    all_goals rfl
  | drain failAt result =>
    dsimp only [next] at h
    split at h
    · cases h
      exact hstart
    · cases h
  | stop failAt =>
    dsimp only [next] at h
    split at h
    · cases h
      dsimp only
      cases hp : s.point with
      | updating t =>
        rw [hp] at hstart
        cases hstart
      | _ => rfl
    · cases h
  | reply outcome marked failing =>
    dsimp only [next] at h
    split at h
    · split at h
      · next status =>
        split at h
        · next hs => exact absurd (by rw [hs.1]) (hstale marked failing)
        · cases h
          rfl
      · cases h
        rfl
    · cases h
  | restart tasksConfig =>
    cases h
    rfl
  | _ =>
    simp only [next] at h
    repeat' split at h
    all_goals
      cases h
      try rfl

/-- What an upload does: the server handles a request, if the agent can send one. -/
theorem ConfigSync.next_upload {server : Server} {config : AgentConfig} {summary : Summary}
    {s s' : ConfigSync} {now : Nat} {m : Option Moment} {received : Bool} {r : Option ConfigStatus}
    (h : s.next server config summary now (.upload m received) = some (s', r)) :
    (s.phase = .registering ∧ s'.phase = .idle ∨ s.phase = .uploading ∧ s'.phase = .finished) ∧
      r = none ∧ ∃ state, s' = ⟨{ s.network with server := state }, s.manager, s'.phase⟩ ∧
        (state = s.network.server ∨ ∃ m request answer,
          handle server m request s.network.server = some (answer, state)) := by
  dsimp only [next] at h
  cases hphase : s.phase
  case registering | uploading =>
    rw [hphase] at h
    dsimp only at h
    split at h
    · next m new _ =>
      split at h
      · cases h
      · next answer state hs =>
        obtain ⟨answer, hanswer⟩ := handle_map_eq_some (f := Response.configUpload) hs
        cases h
        exact ⟨by simp, rfl, state, rfl, .inr ⟨m, ⟨config.headers, .configUpload
          ⟨config.agentId, toString now, compressToml server.codecs new⟩⟩, answer, hanswer⟩⟩
    · cases h
      exact ⟨by simp, rfl, _, rfl, .inl rfl⟩
  all_goals
    rw [hphase] at h
    cases h

namespace BringsIn

variable {server : Server} {config : AgentConfig} {summary : Summary} {content : String}
  {s s' : ConfigSync} {now : Nat}

/-- A step that leaves the update where it is. -/
theorem frame (hI : BringsIn server config content s) {network : Network}
    (hserves : ServerState.Serves server config.agentId content network.server) :
    BringsIn server config content ⟨network, s.manager, s.phase⟩ :=
  ⟨hserves, hI.downloaded, hI.written, hI.loaded⟩

/-- No new content is on its way to the agent's file. -/
theorem of_phase {network : Network} {manager : AgentConfigManager} {phase : UpdatePhase}
    (hserves : ServerState.Serves server config.agentId content network.server)
    (hphase : (∀ new, phase ≠ .downloaded new) ∧ phase ≠ .written ∧ phase ≠ .loaded) :
    BringsIn server config content ⟨network, manager, phase⟩ :=
  ⟨hserves, fun new hp => absurd hp (hphase.1 new), fun hp => absurd hp hphase.2.1,
    fun hp => absurd hp hphase.2.2⟩

/-- **The end of the update**: the tasks of `content` run. -/
theorem reload (hI : BringsIn server config content s) {checksum : String}
    {tasksConfig : TasksConfig} {network : Network}
    (hn : s.network.next server config summary now (.agent checksum (.reload tasksConfig)) =
      some network)
    (hp : s.permits server.codecs server.env network.agent.point
      (.agent checksum (.reload tasksConfig)) = true) :
    BroughtIn server config content ⟨network, s.manager, .idle⟩ := by
  obtain ⟨hphase, hsame⟩ := ConfigSync.permits_reload hp
  obtain ⟨hfile, htasks⟩ := hI.loaded hphase
  obtain ⟨hagent, hserver, -⟩ := Network.next_agent hn
  have hrunning : network.agent.scheduler.tasksConfig = tasksConfig := by
    rcases Agent.next_tasksConfig hagent with (h | h) | ⟨h, -⟩
    · cases h
      rfl
    · cases h
    · exact absurd rfl (h tasksConfig).1
  have hpoint : network.agent.point = .dataCleanup := by
    dsimp only [Agent.next] at hagent
    split at hagent
    · rw [← Option.some.inj hagent]
    · cases hagent
  refine ⟨?_, hfile, ?_, .inl rfl, ?_, ?_⟩
  · dsimp only
    rw [hserver]
    exact hI.serves
  · show server.codecs.tomlTasks content = .ok network.agent.scheduler.tasksConfig
    rw [hrunning, hsame]
    exact htasks
  · dsimp only
    rw [hpoint]
    rfl
  · dsimp only
    rw [hpoint]
    nofun

/-- The steps of the network. -/
theorem network (hI : BringsIn server config content s) {a : NetworkAction}
    {r : Option ConfigStatus} (hedit : ∀ new, a ≠ .edit config.agentId new)
    (h : s.next server config summary now (.network a) = some (s', r)) :
    SyncAction.reloads (.network a) = true ∧ BroughtIn server config content s' ∨
      SyncAction.reloads (.network a) = false ∧ BringsIn server config content s' := by
  obtain ⟨network, hn, hp, rfl, -⟩ := ConfigSync.next_network h
  have hserves := Network.next_serves hn hedit hI.serves
  cases a with
  | agent checksum a =>
    cases a with
    | reload tasksConfig => exact .inl ⟨rfl, hI.reload hn hp⟩
    | keep => exact .inr ⟨rfl, of_phase hserves (by simp)⟩
    | reloadFails => exact .inr ⟨rfl, of_phase hserves (by simp)⟩
    | restart tasksConfig =>
      refine .inr ⟨rfl, of_phase hserves ?_⟩
      unfold AgentConfig.startPhase
      split <;> simp
    | _ => exact .inr ⟨rfl, hI.frame hserves⟩
  | _ => exact .inr ⟨rfl, hI.frame hserves⟩

/-- What the agent downloads is the served file. -/
theorem verify (hI : BringsIn server config content s) {m : Option Moment} {received : Bool}
    {r : Option ConfigStatus}
    (hround : decodeTasksToml server.codecs (compressToml server.codecs content) = .ok content)
    (h : s.next server config summary now (.verify m received) = some (s', r)) :
    BringsIn server config content s' := by
  dsimp only [ConfigSync.next] at h
  split at h
  · split at h
    · next m hash _ =>
      split at h
      · cases h
      · next answer state hs =>
        cases h
        obtain ⟨r, hr⟩ := handle_map_eq_some (f := Response.configVerify) hs
        have hserves : ServerState.Serves server config.agentId content state :=
          handle_serves server m ⟨config.headers, .configVerify ⟨config.agentId, hash⟩⟩ _ _ _
            hI.serves hr
        split
        · cases answer with
          | error e => exact of_phase hserves (by simp [afterVerify])
          | ok response =>
            have hresponse := handleConfigVerify_of_serves hI.serves hs
            rcases hresponse with rfl | rfl
            · exact of_phase hserves (by simp [afterVerify])
            · have hphase : afterVerify server.codecs
                  (.ok ⟨"success", .stale, some (compressToml server.codecs content)⟩) =
                  .downloaded content := by
                unfold afterVerify
                dsimp only
                rw [hround]
              rw [hphase]
              exact ⟨hserves, fun new hnew => (UpdatePhase.downloaded.inj hnew).symm, nofun, nofun⟩
        · exact of_phase hserves (by simp)
    · cases h
      exact of_phase hI.serves (by simp)
  · cases h

theorem upload (hI : BringsIn server config content s) {m : Option Moment} {received : Bool}
    {r : Option ConfigStatus}
    (h : s.next server config summary now (.upload m received) = some (s', r)) :
    BringsIn server config content s' := by
  obtain ⟨hphase, -, state, hs', hstate⟩ := ConfigSync.next_upload h
  rw [hs']
  refine of_phase ?_ ?_
  · rcases hstate with rfl | ⟨m, request, answer, hs⟩
    · exact hI.serves
    · exact handle_serves server m request _ _ _ hI.serves hs
  · rcases hphase with ⟨-, hphase⟩ | ⟨-, hphase⟩ <;> simp [hphase]

theorem write (hI : BringsIn server config content s) {fault : Option WriteFault}
    {r : Option ConfigStatus}
    (h : s.next server config summary now (.write fault) = some (s', r)) :
    BringsIn server config content s' := by
  dsimp only [ConfigSync.next] at h
  split at h
  · next new t hphase hpoint =>
    split at h
    · cases h
      exact of_phase hI.serves (by simp)
    · next manager hw =>
      cases h
      refine ⟨hI.serves, nofun, fun _ => ?_, nofun⟩
      rw [← hI.downloaded new hphase]
      exact AgentConfigManager.writeTasks_eq_ok hw
  · cases h

theorem load (hI : BringsIn server config content s) {agentToml : Except String Unit}
    {r : Option ConfigStatus}
    (h : s.next server config summary now (.load agentToml) = some (s', r)) :
    BringsIn server config content s' := by
  dsimp only [ConfigSync.next] at h
  split at h
  · next t hphase hpoint =>
    split at h
    · cases h
      exact of_phase hI.serves (by simp)
    · next manager hl =>
      cases h
      obtain ⟨hfile, c, hc, hparse, -⟩ := AgentConfigManager.loadConfig_eq_ok hl
      have hcontent := hI.written hphase
      refine ⟨hI.serves, nofun, nofun, fun _ => ⟨hfile.trans hcontent, ?_⟩⟩
      rw [hcontent] at hc
      rw [Option.some.inj hc]
      exact hparse
  · cases h

/-- **Every step** but a reload keeps it, and a reload is the end of the update. -/
theorem step (hI : BringsIn server config content s) {a : SyncAction} {r : Option ConfigStatus}
    (hround : decodeTasksToml server.codecs (compressToml server.codecs content) = .ok content)
    (hedit : a.edits config.agentId = false)
    (h : s.next server config summary now a = some (s', r)) :
    a.reloads = true ∧ BroughtIn server config content s' ∨
      a.reloads = false ∧ BringsIn server config content s' := by
  cases a with
  | network a => exact hI.network (SyncAction.ne_edit_of_edits hedit) h
  | verify m received => exact .inr ⟨rfl, hI.verify hround h⟩
  | upload m received => exact .inr ⟨rfl, hI.upload h⟩
  | write fault => exact .inr ⟨rfl, hI.write h⟩
  | load agentToml => exact .inr ⟨rfl, hI.load h⟩

end BringsIn

namespace BroughtIn

variable {server : Server} {config : AgentConfig} {summary : Summary} {content : String}
  {s s' : ConfigSync} {now : Nat}

/-- The request that the agent waits for was not answered with "stale". -/
theorem not_stale (hB : BroughtIn server config content s) {network : Network} {checksum : String}
    {a : AgentAction}
    (hn : s.network.next server config summary now (.agent checksum a) = some network)
    (marked : Bool) (failing : List Nat) : a ≠ .reply (.ok .stale) marked failing := by
  rintro rfl
  obtain ⟨hagent, -⟩ := Network.next_agent hn
  have hsend : s.network.agent.point.isSending = true := by
    dsimp only [Agent.next] at hagent
    split at hagent
    · next hp =>
      rw [hp]
      rfl
    · cases hagent
  obtain ⟨d, hlast, -, -, hanswer⟩ := hB.asked hsend
  have hanswers : s.network.answers (.reply (.ok .stale) marked failing) = true := by
    dsimp only [Network.next] at hn
    split at hn
    · assumption
    · cases hn
  unfold Network.answers at hanswers
  dsimp only at hanswers
  rw [hlast] at hanswers
  split at hanswers
  · next response _ heq =>
    obtain rfl := Option.some.inj heq
    have hup := hanswer response rfl
    rw [of_decide_eq_true hanswers] at hup
    cases hup
  · cases hanswers

/-- The steps of the agent. -/
theorem agent (hB : BroughtIn server config content s) {checksum : String} {a : AgentAction}
    {network : Network}
    (hn : s.network.next server config summary now (.agent checksum a) = some network)
    (hp : s.permits server.codecs server.env network.agent.point (.agent checksum a) = true) :
    BroughtIn server config content (s.advance config network (.agent checksum a)) ∧
      ∀ tasksConfig, a ≠ .reload tasksConfig := by
  have hserves := Network.next_serves hn nofun hB.serves
  obtain ⟨hagent, -, hdeliveries⟩ := Network.next_agent hn
  have hpoint := Agent.next_replaces hagent hB.point (hB.not_stale hn)
  have hkeep : a ≠ .keep := by
    rintro rfl
    rcases hB.phase with h | h <;> rw [ConfigSync.permits_keep hp] at h <;> cases h
  have hfails : a ≠ .reloadFails := by
    rintro rfl
    rcases hB.phase with h | h <;> rw [ConfigSync.permits_reloadFails hp] at h <;> cases h
  have hreload : ∀ tasksConfig, a ≠ .reload tasksConfig := by
    rintro tasksConfig rfl
    rcases hB.phase with h | h <;> rw [(ConfigSync.permits_reload hp).1] at h <;> cases h
  have hsending : network.agent.point.isSending = true →
      network.AskedWith server.codecs config.agentId content := by
    intro hsend
    obtain ⟨marked, t, b, rfl, hsent⟩ := SyncMatches.isSending_fetch hagent hsend
    obtain ⟨-, hhash⟩ := ConfigSync.permits_fetch hp
    have hsum := hhash hsend
    unfold AgentConfigManager.getTasksConfigHash at hsum
    rw [hB.file] at hsum
    refine ⟨⟨b.map Prod.fst, ⟨config.agentId, toString now, checksum, b.map Prod.snd,
      some agentVersion⟩, none, false⟩, ?_, rfl, (Except.ok.inj hsum).symm, nofun⟩
    rw [hdeliveries, hsent]
    exact List.getLast?_concat
  refine ⟨?_, hreload⟩
  rcases Agent.next_tasksConfig hagent with (h | hrestart) | ⟨hother, htasks⟩
  · exact absurd h (hreload _)
  · rw [hrestart] at hp ⊢
    obtain ⟨c, hc, hparse, -⟩ := ConfigSync.permits_restart hp
    rw [hB.file] at hc
    refine ⟨hserves, hB.file, ?_, ?_, hpoint, hsending⟩
    · rw [Option.some.inj hc]
      exact hparse
    · show config.startPhase = .idle ∨ config.startPhase = .registering
      unfold AgentConfig.startPhase
      split
      · exact .inl rfl
      · exact .inr rfl
  · rw [ConfigSync.advance_agent hkeep hfails hother]
    refine ⟨hserves, hB.file, ?_, hB.phase, hpoint, hsending⟩
    show server.codecs.tomlTasks content = .ok network.agent.scheduler.tasksConfig
    rw [htasks]
    exact hB.running

/-- A request that is delivered, late or not, is answered by comparing it with `content`. -/
theorem deliver (hB : BroughtIn server config content s) {m : Moment} {i : Nat} {network : Network}
    (hn : s.network.next server config summary now (.deliver m i) = some network) :
    BroughtIn server config content ⟨network, s.manager, s.phase⟩ := by
  have hserves := Network.next_serves hn nofun hB.serves
  obtain ⟨d, answer, state, hd, hanswer, rfl⟩ := Network.next_deliver hn
  refine ⟨hserves, hB.file, hB.running, hB.phase, hB.point, fun hsend => ?_⟩
  obtain ⟨last, hlast, hid, hsum, hup⟩ := hB.asked hsend
  unfold Network.AskedWith
  dsimp only
  rw [List.getLast?_eq_getElem?] at hlast ⊢
  rw [List.length_set]
  by_cases hi : i = s.network.deliveries.length - 1
  · rw [← hi] at hlast ⊢
    rw [hd] at hlast
    obtain rfl := Option.some.inj hlast
    rw [List.getElem?_set_self (List.getElem?_eq_some_iff.1 hd).1]
    refine ⟨_, rfl, hid, hsum, fun r hr => ?_⟩
    rw [Option.some.inj hr] at hanswer
    refine handleMetrics_of_serves ?_ hsum hanswer
    rw [hid]
    exact hB.serves
  · rw [List.getElem?_set_ne hi]
    exact ⟨last, hlast, hid, hsum, hup⟩

/-- The agent is not told "stale". -/
theorem told_ne_stale {network : Network} {manager : AgentConfigManager} {phase : UpdatePhase}
    (hB : BroughtIn server config content ⟨network, manager, phase⟩)
    (hagent : network.agent = s.network.agent) (a : NetworkAction) :
    s.told network a ≠ some .stale := by
  intro htold
  unfold ConfigSync.told at htold
  split at htold
  · split at htold
    · next hpoint hset =>
      split at htold
      · next hi =>
        have hsend : network.agent.point.isSending = true := by
          rw [hagent, hpoint]
          rfl
        obtain ⟨d, hlast, -, -, hup⟩ := hB.asked hsend
        dsimp only at hlast
        rw [List.getLast?_eq_getElem?, ← hi, Nat.add_sub_cancel, hset] at hlast
        have hanswer := hup _ (congrArg Delivery.answer (Option.some.inj hlast)).symm
        rw [Option.some.inj htold] at hanswer
        cases hanswer
      · cases htold
    · cases htold
  · cases htold

/-- The steps of the network. -/
theorem network (hB : BroughtIn server config content s) {a : NetworkAction}
    {r : Option ConfigStatus} (hedit : ∀ new, a ≠ .edit config.agentId new)
    (h : s.next server config summary now (.network a) = some (s', r)) :
    BroughtIn server config content s' ∧ r ≠ some .stale ∧
      SyncAction.reloads (.network a) = false := by
  obtain ⟨network, hn, hp, rfl, rfl⟩ := ConfigSync.next_network h
  have hserves := Network.next_serves hn hedit hB.serves
  cases a with
  | agent checksum a =>
    obtain ⟨hB', hreload⟩ := hB.agent hn hp
    refine ⟨hB', (fun he => by cases he), ?_⟩
    cases a with
    | reload tasksConfig => exact absurd rfl (hreload tasksConfig)
    | _ => rfl
  | deliver m i =>
    have hB' := hB.deliver hn
    have hagent := (Network.next_frame hn fun _ _ he => by cases he).1
    exact ⟨hB', hB'.told_ne_stale hagent (.deliver m i), rfl⟩
  | other m request =>
    dsimp only [Network.next] at hn
    split at hn
    · cases hn
    · cases hn
      exact ⟨⟨hserves, hB.file, hB.running, hB.phase, hB.point, hB.asked⟩,
        (fun he => by cases he), rfl⟩
  | _ =>
    cases hn
    exact ⟨⟨hserves, hB.file, hB.running, hB.phase, hB.point, hB.asked⟩,
      (fun he => by cases he), rfl⟩

theorem upload (hB : BroughtIn server config content s) {m : Option Moment} {received : Bool}
    {r : Option ConfigStatus}
    (h : s.next server config summary now (.upload m received) = some (s', r)) :
    BroughtIn server config content s' ∧ r ≠ some .stale := by
  obtain ⟨hphase, rfl, state, hs', hstate⟩ := ConfigSync.next_upload h
  have hserves : ServerState.Serves server config.agentId content state := by
    rcases hstate with rfl | ⟨m, request, answer, hs⟩
    · exact hB.serves
    · exact handle_serves server m request _ _ _ hB.serves hs
  have hidle : s'.phase = .idle := by
    rcases hphase with ⟨-, hphase⟩ | ⟨hno, -⟩
    · exact hphase
    · rcases hB.phase with h | h <;> rw [hno] at h <;> cases h
  rw [hs', hidle]
  exact ⟨⟨hserves, hB.file, hB.running, .inl rfl, hB.point, hB.asked⟩, nofun⟩

/-- **Every step** leaves the agent with the tasks of `content`, and undisturbed. -/
theorem step (hB : BroughtIn server config content s) {a : SyncAction} {r : Option ConfigStatus}
    (hedit : a.edits config.agentId = false)
    (h : s.next server config summary now a = some (s', r)) :
    BroughtIn server config content s' ∧ r ≠ some .stale ∧ a.reloads = false := by
  cases a with
  | network a => exact hB.network (SyncAction.ne_edit_of_edits hedit) h
  | upload m received =>
    obtain ⟨hB', hr⟩ := hB.upload h
    exact ⟨hB', hr, rfl⟩
  | verify m received =>
    dsimp only [ConfigSync.next] at h
    split at h
    · next hpoint =>
      have hreplaces := hB.point
      rw [hpoint] at hreplaces
      cases hreplaces
    · cases h
  | write fault =>
    dsimp only [ConfigSync.next] at h
    split at h
    · next hpoint =>
      have hreplaces := hB.point
      rw [hpoint] at hreplaces
      cases hreplaces
    · cases h
  | load agentToml =>
    dsimp only [ConfigSync.next] at h
    split at h
    · next hpoint =>
      have hreplaces := hB.point
      rw [hpoint] at hreplaces
      cases hreplaces
    · cases h

end BroughtIn

/-! ## Top theorem -/

/-- The server's cache belongs to its contents throughout a run. -/
theorem wellCached_run {server : Server} {config : AgentConfig} {summary : Summary}
    {manager : AgentConfigManager} {t₀ : Nat} {state : ServerState} {tr : List SyncStep}
    {s : Nat × ConfigSync} (hrun : Run (syncMachine server config summary manager t₀ state) tr s) :
    ServerState.WellCached server s.2.network.server := by
  refine Run.invariant (I := fun s => ServerState.WellCached server s.2.network.server) ?_ ?_ hrun
  · intro agentId cached hc
    cases hc
  · intro s a s' r hI hs
    rcases ConfigSync.next_refines (syncMachine_step hs) with hsame | ⟨b, hb⟩
    · rw [hsame]
      exact hI
    · exact SyncMatches.network_wellCached hI hb

/-- **One update for one edit.**  From a state in which the server has noticed the last edit of the
agent's file, and no update is under way: as long as the file is not edited again, a reload installs
its tasks, and no step after it is answered with "stale", reloads or changes the tasks. -/
theorem updated_once (server : Server) (config : AgentConfig) (summary : Summary)
    (manager : AgentConfigManager) (t₀ : Nat) (state : ServerState) {content : String}
    (hround : decodeTasksToml server.codecs (compressToml server.codecs content) = .ok content)
    {before after : List SyncStep} {s s' : Nat × ConfigSync}
    (hbefore : Run (syncMachine server config summary manager t₀ state) before s)
    (hafter : Run ((syncMachine server config summary manager t₀ state).startingAt s) after s')
    (hidle : s.2.phase = .idle)
    (hfile : s.2.network.server.configManager.files config.agentId = some content)
    (hcurrent : s.2.network.server.configManager.Current config.agentId)
    (hedits : ∀ t ∈ after, t.label.2.edits config.agentId = false) :
    (∀ t ∈ after, t.label.2.reloads = true →
        server.codecs.tomlTasks content = .ok t.post.2.running) ∧
      after.Pairwise fun x y => x.label.2.reloads = true →
        y.label.2.reloads = false ∧ y.answer ≠ some .stale ∧
          y.post.2.running = y.pre.2.running := by
  have hserves : ServerState.Serves server config.agentId content s.2.network.server :=
    ⟨hfile, hcurrent, wellCached_run hbefore⟩
  have hphases := Run.phases
    (I := fun s => BringsIn server config content s.2)
    (J := fun s => BroughtIn server config content s.2)
    (C := fun _ a => a.2.edits config.agentId = false) (E := fun t => t.label.2.reloads = true)
    (P := fun t => t.label.2.reloads = false ∧ t.answer ≠ some .stale ∧
      t.post.2.running = t.pre.2.running)
    ?_ ?_ ?_ hafter hedits
  · exact ⟨fun t ht hreload => (hphases.2.1 t ht hreload).running, hphases.2.2⟩
  · show BringsIn server config content ⟨s.2.network, s.2.manager, s.2.phase⟩
    exact BringsIn.of_phase hserves (by simp [hidle])
  · intro s a s' r hI hedit hs
    rcases hI.step hround hedit (syncMachine_step hs) with h | ⟨hno, hI'⟩
    · exact .inl h
    · exact .inr ⟨by rw [hno]; simp, hI'⟩
  · intro s a s' r hB hedit hs
    obtain ⟨hB', hr, hno⟩ := hB.step hedit (syncMachine_step hs)
    exact ⟨hB', hno, hr, Except.ok.inj (hB'.running.symm.trans hB.running)⟩

set_option maxRecDepth 4000 in
/-- The file is edited at 125; the agent reloads at 126, and is up to date at 245. -/
theorem updated_once_updated :
    ∃ before s after s', Run exampleSync before s ∧ Run (exampleSync.startingAt s) after s' ∧
      after.countP (fun t => t.label.2.reloads) = 1 ∧
      (∀ t ∈ after, t.label.2.reloads = true →
        exampleCodecs.tomlTasks (tomlEvery "90") = .ok t.post.2.running) ∧
      after.Pairwise fun x y => x.label.2.reloads = true →
        y.label.2.reloads = false ∧ y.answer ≠ some .stale ∧
          y.post.2.running = y.pre.2.running := by
  obtain ⟨before, s, he, hrun⟩ := Run.exists_of_exec exampleSync (updatedTo90.take 30) (by rfl)
  have hstart : (exampleSync.exec (updatedTo90.take 30)).map (fun r =>
      (r.2.2.phase, r.2.2.network.server.configManager.files "agent1",
        r.2.2.network.server.configManager.configCache "agent1")) =
      some (.idle, some (tomlEvery "90"),
        some (loadAndCacheConfig exampleCodecs (tomlEvery "90"))) := by rfl
  have hsome : ((exampleSync.exec (updatedTo90.take 30)).bind fun r =>
      exampleSync.execFrom r.2 (updatedTo90.drop 30)).isSome := by rfl
  have hend : ((exampleSync.exec (updatedTo90.take 30)).bind fun r =>
      (exampleSync.execFrom r.2 (updatedTo90.drop 30)).map fun r' =>
        (r'.1.countP fun t => t.label.2.reloads,
          r'.1.all fun t => t.label.2.edits "agent1" == false)) = some (1, true) := by rfl
  rw [he] at hstart hsome hend
  obtain ⟨⟨after, s'⟩, he'⟩ := Option.isSome_iff_exists.1 hsome
  rw [Option.bind_some] at he' hend
  rw [he'] at hend
  obtain ⟨hphase, hrest⟩ := Prod.mk.inj (Option.some.inj hstart)
  obtain ⟨hfile, hcache⟩ := Prod.mk.inj hrest
  obtain ⟨hcount, hall⟩ := Prod.mk.inj (Option.some.inj hend)
  have hrun' : Run (exampleSync.startingAt s) after s' :=
    .of_exec ((Machine.exec_startingAt _ _ _).trans he')
  have hcurrent : s.2.network.server.configManager.Current "agent1" := by
    intro cached hc
    rw [hcache] at hc
    rw [hfile, ← Option.some.inj hc]
    rfl
  refine ⟨before, s, after, s', hrun, hrun', hcount, ?_⟩
  exact updated_once syncServer exampleAgentConfig exampleSummary exampleManager 60 newServer
    (by rfl) hrun hrun' hphase hfile hcurrent fun t ht =>
      beq_iff_eq.1 (List.all_eq_true.1 hall t ht)

end LinkSense
