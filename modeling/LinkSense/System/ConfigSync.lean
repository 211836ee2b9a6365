import LinkSense.Agent.Config
import LinkSense.System.Redelivery

/-!
# Convergence of the configuration

The network of agent and server, with the agent's tasks file.  The agent sends the hash of the
file with its metrics; when the server says that it is stale, it downloads the served version,
writes it into the file, loads the file and starts a scheduler with its tasks.

What an update writes is validated only when the file is loaded.  When that fails the file is the
new one and the tasks are the old ones, and from then on the hash is that of the new file.

    up to date is answered → (the tasks that run are those of the served version ↔
      they are those of the agent's file)                                         (honest_iff)
    every update of a run that is written is also loaded → in every step, when up to date is
      answered, the tasks that run are those of the served version         (honest_of_applies)
    a run with the agent's files is a run of the network                     (network_of_sync)
-/

namespace LinkSense

open Labelled Sql

/-! ## Updates -/

/-- How far `download_and_apply_config` or `Agent::new` has come. -/
inductive UpdatePhase where
  | idle
  /-- `Agent::new` uploads its tasks file. -/
  | registering
  /-- The server has no file of the agent, and gets it uploaded. -/
  | uploading
  | downloaded (content : String)
  /-- The file is written, and not yet loaded. -/
  | written
  /-- The file is loaded, and the scheduler is to be replaced. -/
  | loaded
  /-- The scheduler was stopped and cannot be replaced, so the loop comes to its end. -/
  | halted
  /-- The update is over, or was given up. -/
  | finished
deriving DecidableEq, Repr

/-- The tasks that run are not being replaced. -/
def UpdatePhase.settled : UpdatePhase → Bool
  | .written => false
  | .loaded => false
  | .halted => false
  | _ => true

structure ConfigSync where
  network : Network
  manager : AgentConfigManager
  phase : UpdatePhase

inductive SyncAction where
  | network (a : NetworkAction)
  /-- The server is asked for its version, unless it is not reached. -/
  | verify (m : Option Moment) (received : Bool)
  | upload (m : Option Moment) (received : Bool)
  | write (fault : Option WriteFault)
  | load (agentToml : Except String Unit)

/-- The text of a downloaded tasks file: base64, then gzip. -/
def decodeTasksToml (codecs : Codecs) (tasksTomlCompressed : String) : Except String String :=
  match codecs.base64Decode tasksTomlCompressed with
  | .error _ => .error "Failed to decode base64 config"
  | .ok compressedData =>
    match codecs.gunzip compressedData with
    | .error _ => .error "Failed to decompress config"
    | .ok newTasksToml => .ok newTasksToml

/-- What the agent does with the answer to a `config/verify` request. -/
def afterVerify (codecs : Codecs) : Except ApiError ConfigVerifyResponse → UpdatePhase
  | .error _ => .finished
  | .ok ⟨_, .upToDate, _⟩ => .finished
  | .ok ⟨_, .stale, none⟩ => .uploading
  | .ok ⟨_, .stale, some tasksTomlCompressed⟩ =>
    match decodeTasksToml codecs tasksTomlCompressed with
    | .error _ => .finished
    | .ok newTasksToml => .downloaded newTasksToml

def Point.isSending : Point → Bool
  | .sending _ _ => true
  | _ => false

/-- Whether the agent uploads its tasks file when it starts. -/
def AgentConfig.startPhase (config : AgentConfig) : UpdatePhase :=
  if config.localOnly then .idle else .registering

namespace ConfigSync

/-- `get_tasks_config_hash` gives this hash. -/
def hashIs (codecs : Codecs) (s : ConfigSync) (checksum : String) : Bool :=
  match s.manager.getTasksConfigHash codecs with
  | .ok hash => checksum == hash
  | .error _ => false

/-- Each step of the agent has its place in an update. -/
def permits (codecs : Codecs) (env : Externals) (s : ConfigSync) (point : Point) :
    NetworkAction → Bool
  | .agent checksum a =>
    match a with
    | .fetch _ => s.phase == .idle && (!point.isSending || s.hashIs codecs checksum)
    | .keep => s.phase == .finished
    | .drain _ _ => s.phase == .loaded || s.network.agent.point == .shuttingDown
    | .stop _ => s.phase == .loaded || s.network.agent.point == .shuttingDown
    | .reload tasksConfig => s.phase == .loaded && tasksConfig == s.manager.tasksConfig
    | .reloadFails => s.phase == .loaded
    | .restart tasksConfig =>
      match s.manager.loadTasks codecs env with
      | .ok loaded => tasksConfig == loaded
      | .error _ => false
    | .shutdown => true
    | _ => s.phase == .idle || s.phase == .halted
  | _ => true

def advance (config : AgentConfig) (s : ConfigSync) (network : Network) :
    NetworkAction → ConfigSync
  | .agent _ .keep => ⟨network, s.manager, .idle⟩
  | .agent _ (.reload _) => ⟨network, s.manager, .idle⟩
  | .agent _ .reloadFails => ⟨network, s.manager, .halted⟩
  | .agent _ (.restart tasksConfig) =>
    ⟨network, { s.manager with tasksConfig := tasksConfig }, config.startPhase⟩
  | _ => ⟨network, s.manager, s.phase⟩

def told (s : ConfigSync) (network : Network) : NetworkAction → Option ConfigStatus
  | .deliver _ i =>
    match s.network.agent.point, network.deliveries[i]? with
    | .sending _ _, some ⟨_, _, some (.ok response), _⟩ =>
      if i + 1 = network.deliveries.length then some response.configStatus else none
    | _, _ => none
  | _ => none

/-- One step, with what the server has answered to a checksum that the agent has just sent. -/
def next (server : Server) (config : AgentConfig) (summary : Summary) (s : ConfigSync) (now : Nat) :
    SyncAction → Option (ConfigSync × Option ConfigStatus)
  | .network a =>
    match s.network.next server config summary now a with
    | none => none
    | some network =>
      if s.permits server.codecs server.env network.agent.point a then
        some (s.advance config network a, s.told network a)
      else none
  | .verify m received =>
    match s.phase, s.network.agent.point with
    | .idle, .updating _ =>
      match m, s.manager.getTasksConfigHash server.codecs with
      | some m, .ok hash =>
        match handleConfigVerify server m config.headers ⟨config.agentId, hash⟩
          s.network.server with
        | none => none
        | some (answer, state) =>
          let phase := if received then afterVerify server.codecs answer else .finished
          some (⟨{ s.network with server := state }, s.manager, phase⟩,
            match answer with
            | .error _ => none
            | .ok response => some response.configStatus)
      | _, _ => some (⟨s.network, s.manager, .finished⟩, none)
    | _, _ => none
  | .upload m _ =>
    let uploaded :=
      match s.phase with
      | .registering => some .idle
      | .uploading => some .finished
      | _ => none
    match uploaded with
    | none => none
    | some phase =>
      match m, s.manager.getTasksConfigContent with
      | some m, .ok content =>
        match handleConfigUpload server m config.headers
          ⟨config.agentId, toString now, compressToml server.codecs content⟩ s.network.server with
        | none => none
        | some (_, state) =>
          some (⟨{ s.network with server := state }, s.manager, phase⟩, none)
      | _, _ => some (⟨s.network, s.manager, phase⟩, none)
  | .write fault =>
    match s.phase, s.network.agent.point with
    | .downloaded content, .updating _ =>
      match s.manager.writeTasks server.codecs fault content with
      | (manager, .error _) => some (⟨s.network, manager, .finished⟩, none)
      | (manager, .ok ()) => some (⟨s.network, manager, .written⟩, none)
    | _, _ => none
  | .load agentToml =>
    match s.phase, s.network.agent.point with
    | .written, .updating _ =>
      match s.manager.loadConfig server.codecs server.env agentToml with
      | .error _ => some (⟨s.network, s.manager, .finished⟩, none)
      | .ok manager => some (⟨s.network, manager, .loaded⟩, none)
    | _, _ => none

/-- `Agent::new` with these files, and a server that was just started. -/
def start (config : AgentConfig) (manager : AgentConfigManager) (t₀ : Nat) (state : ServerState) :
    ConfigSync :=
  ⟨⟨.start config manager.tasksConfig .initial t₀, state.restarted, []⟩, manager,
    config.startPhase⟩

end ConfigSync

def syncMachine (server : Server) (config : AgentConfig) (summary : Summary)
    (manager : AgentConfigManager) (t₀ : Nat) (state : ServerState) :
    Machine (Nat × ConfigSync) (Nat × SyncAction) (Option ConfigStatus) :=
  Machine.clocked ⟨.start config manager t₀ state,
    fun s a => s.next server config summary a.1 a.2⟩ t₀

abbrev SyncStep := Taken (Nat × ConfigSync) (Nat × SyncAction) (Option ConfigStatus)

/-! ## Honest answers -/

namespace ConfigSync

/-- The tasks file of the agent that the server has, as it has last loaded it. -/
def served (config : AgentConfig) (s : ConfigSync) : Option String :=
  s.network.server.configManager.served config.agentId

def running (s : ConfigSync) : TasksConfig := s.network.agent.scheduler.tasksConfig

/-- The tasks that run are those of the server's file of the agent. -/
def Honest (codecs : Codecs) (config : AgentConfig) (s : ConfigSync) : Prop :=
  ∃ content, s.served config = some content ∧ codecs.tomlTasks content = .ok s.running ∧
    (s.network.server.configManager.Current config.agentId →
      s.network.server.configManager.files config.agentId = some content)

/-- The hash tells the agent's file from the server's. -/
def HashTells (codecs : Codecs) (config : AgentConfig) (s : ConfigSync) : Prop :=
  ∀ content content', s.manager.tasksToml = some content → s.served config = some content' →
    codecs.blake3 content = codecs.blake3 content' → content = content'

/-- An update that changes the file is loaded: the write is complete, the new content parses and
validates, and `agent.toml` is as good as before. -/
def applies (server : Server) (s : ConfigSync) : SyncAction → Bool
  | .write (some (.write left)) =>
    match s.phase with
    | .downloaded content =>
      !(server.codecs.tomlTasks content).isOk || left == s.manager.tasksToml
    | _ => true
  | .load agentToml => agentToml.isOk && (s.manager.loadTasks server.codecs server.env).isOk
  | _ => true

/-! ## Lemmas -/

variable {server : Server} {config : AgentConfig} {summary : Summary} {s s' : ConfigSync} {now : Nat}

/-- Where the agent's file has the hash of the served version, the tasks that run are those of the
server exactly when they are those of the file. -/
theorem honest_iff {codecs : Codecs} {content content' : String}
    (hfile : s.manager.tasksToml = some content) (hserved : s.served config = some content')
    (hhash : codecs.blake3 content' = codecs.blake3 content) (htells : s.HashTells codecs config) :
    s.Honest codecs config ↔ codecs.tomlTasks content = .ok s.running := by
  obtain rfl := htells content content' hfile hserved hhash.symm
  constructor
  · rintro ⟨c, hc, hparse, -⟩
    rw [hserved] at hc
    rwa [Option.some.inj hc]
  · intro hparse
    exact ⟨content, hserved, hparse, fun hcurrent => ConfigManager.files_of_current hserved hcurrent⟩

theorem permits_fetch {codecs : Codecs} {env : Externals} {point : Point} {checksum : String}
    {marked : Bool} (h : s.permits codecs env point (.agent checksum (.fetch marked)) = true) :
    s.phase = .idle ∧ (point.isSending = true →
      s.manager.getTasksConfigHash codecs = .ok checksum) := by
  unfold permits at h
  rw [Bool.and_eq_true, beq_iff_eq] at h
  refine ⟨h.1, fun hp => ?_⟩
  have hsum := h.2
  rw [hp] at hsum
  unfold hashIs at hsum
  split at hsum
  · next hash he => rw [he, beq_iff_eq.1 hsum]
  · cases hsum

theorem permits_reload {codecs : Codecs} {env : Externals} {point : Point} {checksum : String}
    {tasksConfig : TasksConfig}
    (h : s.permits codecs env point (.agent checksum (.reload tasksConfig)) = true) :
    s.phase = .loaded ∧ tasksConfig = s.manager.tasksConfig := by
  unfold permits at h
  simpa using h

theorem permits_restart {codecs : Codecs} {env : Externals} {point : Point} {checksum : String}
    {tasksConfig : TasksConfig}
    (h : s.permits codecs env point (.agent checksum (.restart tasksConfig)) = true) :
    s.manager.Holds codecs env tasksConfig := by
  unfold permits at h
  dsimp only at h
  rw [← AgentConfigManager.loadTasks_eq_ok_iff]
  split at h
  · next loaded he => rw [he, beq_iff_eq.1 h]
  · cases h

theorem permits_keep {codecs : Codecs} {env : Externals} {point : Point} {checksum : String}
    (h : s.permits codecs env point (.agent checksum .keep) = true) : s.phase = .finished := by
  unfold permits at h
  simpa using h

theorem permits_reloadFails {codecs : Codecs} {env : Externals} {point : Point} {checksum : String}
    (h : s.permits codecs env point (.agent checksum .reloadFails) = true) : s.phase = .loaded := by
  unfold permits at h
  simpa using h

theorem advance_agent {network : Network} {checksum : String} {a : AgentAction}
    (ha : a ≠ .keep) (hfails : a ≠ .reloadFails)
    (ha' : ∀ tasksConfig, a ≠ .reload tasksConfig ∧ a ≠ .restart tasksConfig) :
    s.advance config network (.agent checksum a) = ⟨network, s.manager, s.phase⟩ := by
  cases a with
  | keep => exact absurd rfl ha
  | reloadFails => exact absurd rfl hfails
  | reload tasksConfig => exact absurd rfl (ha' tasksConfig).1
  | restart tasksConfig => exact absurd rfl (ha' tasksConfig).2
  | _ => rfl

theorem next_network {a : NetworkAction} {r : Option ConfigStatus}
    (h : s.next server config summary now (.network a) = some (s', r)) :
    ∃ network, s.network.next server config summary now a = some network ∧
      s.permits server.codecs server.env network.agent.point a = true ∧
      s' = s.advance config network a ∧ r = s.told network a := by
  dsimp only [next] at h
  split at h
  · cases h
  · next network hn =>
    split at h
    · next hp =>
      cases h
      exact ⟨network, hn, hp, rfl, rfl⟩
    · cases h

end ConfigSync

/-! ## The invariant -/

/-- The file is the one whose tasks run, or an update has just loaded it; and a request that the
agent waits for carries its hash. -/
structure SyncMatches (server : Server) (config : AgentConfig) (s : ConfigSync) : Prop where
  cached : ServerState.WellCached server s.network.server
  settled : s.phase.settled = true → s.manager.Holds server.codecs server.env s.running
  loaded : s.phase = .loaded → s.manager.Holds server.codecs server.env s.manager.tasksConfig
  sending : s.network.agent.point.isSending = true → s.phase = .idle ∧
    ∃ request, (s.network.deliveries.map Delivery.request).getLast? = some request ∧
      request.agentId = config.agentId ∧
      s.manager.getTasksConfigHash server.codecs = .ok request.configChecksum

namespace SyncMatches

variable {server : Server} {config : AgentConfig} {summary : Summary} {s s' : ConfigSync} {now : Nat}

theorem isSending_fetch {agent agent' : Agent} {a : AgentAction}
    (h : agent.next config summary now a = some agent') (hp : agent'.point.isSending = true) :
    ∃ marked t b, a = .fetch marked ∧ agent'.point = .sending t b := by
  rcases (Agent.next_point h).1 with ⟨marked, rfl⟩ | hno
  · cases he : agent'.point with
    | sending t b => exact ⟨marked, t, b, rfl, rfl⟩
    | _ =>
      rw [he] at hp
      cases hp
  · cases he : agent'.point with
    | sending t b => exact absurd he (hno t b)
    | _ =>
      rw [he] at hp
      cases hp

/-- The steps of the agent. -/
theorem agent (hI : SyncMatches server config s) {checksum : String} {a : AgentAction}
    {network : Network}
    (hn : s.network.next server config summary now (.agent checksum a) = some network)
    (hp : s.permits server.codecs server.env network.agent.point (.agent checksum a) = true) :
    SyncMatches server config (s.advance config network (.agent checksum a)) := by
  obtain ⟨hagent, hserver, hdeliveries⟩ := Network.next_agent hn
  have hcached : ServerState.WellCached server network.server := by
    rw [hserver]
    exact hI.cached
  have hnot : (∀ marked, a ≠ .fetch marked) → network.agent.point.isSending = true → False := by
    intro hno hsend
    obtain ⟨marked, -, -, rfl, -⟩ := isSending_fetch hagent hsend
    exact hno marked rfl
  rcases Agent.next_tasksConfig hagent with (hreload | hrestart) | ⟨hother, htasks⟩
  · rw [hreload] at hp hnot ⊢
    obtain ⟨hphase, hsame⟩ := ConfigSync.permits_reload hp
    refine ⟨hcached, fun _ => ?_, fun h => (by cases h), fun hsend => ?_⟩
    · show s.manager.Holds server.codecs server.env network.agent.scheduler.tasksConfig
      rw [hsame]
      exact hI.loaded hphase
    · exact absurd hsend (hnot (by simp))
  · rw [hrestart] at hp hnot ⊢
    have hholds := ConfigSync.permits_restart hp
    refine ⟨hcached, fun _ => hholds, fun h => ?_, fun hsend => ?_⟩
    · have hphase : config.startPhase = .loaded := h
      unfold AgentConfig.startPhase at hphase
      split at hphase <;> cases hphase
    · exact absurd hsend (hnot (by simp))
  · by_cases hkeep : a = .keep
    · subst hkeep
      have hphase := ConfigSync.permits_keep hp
      refine ⟨hcached, fun _ => ?_, fun h => (by cases h), fun hsend => ?_⟩
      · show s.manager.Holds server.codecs server.env network.agent.scheduler.tasksConfig
        rw [htasks]
        exact hI.settled (by rw [hphase]; rfl)
      · exact absurd hsend (hnot (by simp))
    by_cases hfails : a = .reloadFails
    · subst hfails
      exact ⟨hcached, fun h => (by cases h), fun h => (by cases h),
        fun hsend => absurd hsend (hnot (by simp))⟩
    · rw [ConfigSync.advance_agent hkeep hfails hother]
      refine ⟨hcached, fun hset => ?_, hI.loaded, fun hsend => ?_⟩
      · show s.manager.Holds server.codecs server.env network.agent.scheduler.tasksConfig
        rw [htasks]
        exact hI.settled hset
      · obtain ⟨marked, t, b, rfl, hpoint⟩ := isSending_fetch hagent hsend
        obtain ⟨hphase, hhash⟩ := ConfigSync.permits_fetch hp
        refine ⟨hphase, ⟨config.agentId, toString now, checksum, b.map Prod.snd,
          some agentVersion⟩, ?_, rfl, hhash hsend⟩
        dsimp only
        rw [hdeliveries, hpoint]
        unfold AgentConfig.sends
        rw [List.map_append, List.map_singleton, List.getLast?_concat]

/-- The steps of the server, which the agent does not take part in. -/
theorem frame (hI : SyncMatches server config s) {network : Network} {manager : AgentConfigManager}
    {phase : UpdatePhase} (hcached : ServerState.WellCached server network.server)
    (hagent : network.agent = s.network.agent)
    (hdeliveries : network.deliveries.map Delivery.request =
      s.network.deliveries.map Delivery.request)
    (hmanager : phase.settled = true → s.phase.settled = true ∧
      manager.tasksToml = s.manager.tasksToml)
    (hloaded : phase = .loaded → manager.Holds server.codecs server.env manager.tasksConfig)
    (hsending : s.phase = .idle → s.network.agent.point.isSending = true → phase = .idle) :
    SyncMatches server config ⟨network, manager, phase⟩ := by
  refine ⟨hcached, fun hset => ?_, hloaded, fun hsend => ?_⟩
  · obtain ⟨hset', hfile⟩ := hmanager hset
    show manager.Holds server.codecs server.env network.agent.scheduler.tasksConfig
    rw [hagent]
    unfold AgentConfigManager.Holds
    rw [hfile]
    exact hI.settled hset'
  · dsimp only at hsend
    rw [hagent] at hsend
    obtain ⟨hidle, request, hlast, hid, hhash⟩ := hI.sending hsend
    have hphase := hsending hidle hsend
    refine ⟨hphase, request, ?_, hid, ?_⟩
    · dsimp only
      rw [hdeliveries, hlast]
    · obtain ⟨-, hfile⟩ := hmanager (by rw [hphase]; rfl)
      unfold AgentConfigManager.getTasksConfigHash at hhash ⊢
      dsimp only
      rw [hfile]
      exact hhash

theorem network_wellCached {network network' : Network} {a : NetworkAction}
    (hQ : ServerState.WellCached server network.server)
    (h : network.next server config summary now a = some network') :
    ServerState.WellCached server network'.server := by
  cases a with
  | agent checksum a =>
    rw [(Network.next_agent h).2.1]
    exact hQ
  | deliver m i =>
    obtain ⟨d, answer, state, -, hanswer, rfl⟩ := Network.next_deliver h
    exact handleMetrics_wellCached server m _ _ _ _ _ hQ hanswer
  | other m request =>
    dsimp only [Network.next] at h
    split at h
    · cases h
    · next hs =>
      cases h
      exact handle_wellCached server m request _ _ _ hQ hs
  | serverCleanup time retentionDays done =>
    cases h
    exact hQ
  | serverRestart =>
    cases h
    intro agentId cached hc
    cases hc
  | edit agentId content =>
    cases h
    cases content <;> exact hQ
  | notice agentId =>
    cases h
    exact ConfigManager.updateCache_wellCached hQ agentId

/-- The steps of the network. -/
theorem network (hI : SyncMatches server config s) {a : NetworkAction} {r : Option ConfigStatus}
    (h : s.next server config summary now (.network a) = some (s', r)) :
    SyncMatches server config s' := by
  obtain ⟨network, hn, hp, rfl, -⟩ := ConfigSync.next_network h
  by_cases ha : ∃ checksum b, a = .agent checksum b
  · obtain ⟨checksum, b, rfl⟩ := ha
    exact hI.agent hn hp
  · have ha' : ∀ checksum b, a ≠ .agent checksum b := fun c b he => ha ⟨c, b, he⟩
    obtain ⟨hagent, hdeliveries⟩ := Network.next_frame hn ha'
    have hadv : s.advance config network a = ⟨network, s.manager, s.phase⟩ := by
      cases a with
      | agent checksum b => exact absurd rfl (ha' checksum b)
      | _ => rfl
    rw [hadv]
    exact hI.frame (network_wellCached hI.cached hn) hagent hdeliveries
      (fun hset => ⟨hset, rfl⟩) hI.loaded (fun hidle _ => hidle)

theorem not_isSending {t : Nat} (hp : s.network.agent.point = .updating t) :
    s.network.agent.point.isSending ≠ true := by
  rw [hp]
  intro hs
  cases hs

theorem afterVerify_ne_loaded (codecs : Codecs) (answer : Except ApiError ConfigVerifyResponse) :
    afterVerify codecs answer ≠ .loaded := by
  intro hl
  unfold afterVerify at hl
  split at hl
  · cases hl
  · cases hl
  · cases hl
  · split at hl <;> cases hl

theorem verify (hI : SyncMatches server config s) {m : Option Moment} {received : Bool}
    {r : Option ConfigStatus}
    (h : s.next server config summary now (.verify m received) = some (s', r)) :
    SyncMatches server config s' := by
  dsimp only [ConfigSync.next] at h
  split at h
  · next hphase hpoint =>
    have hno := not_isSending hpoint
    have hset : s.phase.settled = true := by
      rw [hphase]
      rfl
    split at h
    · split at h
      · cases h
      · next answer state hs =>
        cases h
        refine hI.frame (handleConfigVerify_wellCached server _ _ _ _ _ _ hI.cached hs) rfl rfl
          (fun _ => ⟨hset, rfl⟩) ?_ (fun _ hsend => absurd hsend hno)
        intro hl
        split at hl
        · exact absurd hl (afterVerify_ne_loaded server.codecs answer)
        · cases hl
    · cases h
      exact hI.frame hI.cached rfl rfl (fun _ => ⟨hset, rfl⟩) (fun hl => by cases hl)
        (fun _ hsend => absurd hsend hno)
  · cases h

theorem upload (hI : SyncMatches server config s) {m : Option Moment} {received : Bool}
    {r : Option ConfigStatus}
    (h : s.next server config summary now (.upload m received) = some (s', r)) :
    SyncMatches server config s' := by
  dsimp only [ConfigSync.next] at h
  have hphases : ∀ phase, (match s.phase with
      | .registering => some UpdatePhase.idle
      | .uploading => some .finished
      | _ => none) = some phase →
      s.phase.settled = true ∧ phase ≠ .loaded ∧ s.phase ≠ .idle := by
    intro phase hp
    cases hs : s.phase <;> rw [hs] at hp <;> cases hp <;> simp [UpdatePhase.settled]
  split at h
  · cases h
  · next phase hp =>
    obtain ⟨hset, hloaded, hidle⟩ := hphases phase hp
    split at h
    · split at h
      · cases h
      · next state hs =>
        cases h
        exact hI.frame (handleConfigUpload_wellCached server _ _ _ _ _ _ hI.cached hs) rfl rfl
          (fun _ => ⟨hset, rfl⟩) (fun hl => absurd hl hloaded) (fun hi _ => absurd hi hidle)
    · cases h
      exact hI.frame hI.cached rfl rfl (fun _ => ⟨hset, rfl⟩) (fun hl => absurd hl hloaded)
        (fun hi _ => absurd hi hidle)

/-- A write that fails leaves the file, or what it leaves is the old content. -/
theorem write (hI : SyncMatches server config s) {fault : Option WriteFault}
    {r : Option ConfigStatus} (happlies : s.applies server (.write fault) = true)
    (h : s.next server config summary now (.write fault) = some (s', r)) :
    SyncMatches server config s' := by
  dsimp only [ConfigSync.next] at h
  split at h
  · next content t hphase hpoint =>
    have hno := not_isSending hpoint
    split at h
    · next manager e hw =>
      cases h
      have hset : s.phase.settled = true := by
        rw [hphase]
        rfl
      have hfile : manager.tasksToml = s.manager.tasksToml := by
        unfold AgentConfigManager.writeTasks at hw
        split at hw
        · cases hw
          rfl
        · next config hparse =>
          split at hw
          · cases hw
            rfl
          · cases hw
            rfl
          · next left =>
            cases hw
            unfold ConfigSync.applies at happlies
            rw [hphase] at happlies
            dsimp only at happlies
            rw [hparse] at happlies
            exact beq_iff_eq.1 happlies
          · cases hw
      exact hI.frame hI.cached rfl rfl (fun _ => ⟨hset, hfile⟩) (fun hl => by cases hl)
        (fun _ hsend => absurd hsend hno)
    · next manager hw =>
      cases h
      exact hI.frame hI.cached rfl rfl (fun hset => by cases hset) (fun hl => by cases hl)
        (fun _ hsend => absurd hsend hno)
  · cases h

/-- A file that validates is loaded. -/
theorem load (hI : SyncMatches server config s) {agentToml : Except String Unit}
    {r : Option ConfigStatus} (happlies : s.applies server (.load agentToml) = true)
    (h : s.next server config summary now (.load agentToml) = some (s', r)) :
    SyncMatches server config s' := by
  dsimp only [ConfigSync.next] at h
  split at h
  · next t hphase hpoint =>
    have hno := not_isSending hpoint
    unfold ConfigSync.applies at happlies
    rw [Bool.and_eq_true] at happlies
    split at h
    · next e hl =>
      unfold AgentConfigManager.loadConfig at hl
      split at hl
      · cases happlies.1
      · split at hl
        · next hfail =>
          rw [hfail] at happlies
          cases happlies.2
        · cases hl
    · next manager hl =>
      cases h
      obtain ⟨hfile, hloaded⟩ := AgentConfigManager.loadConfig_eq_ok hl
      have hholds : manager.Holds server.codecs server.env manager.tasksConfig := by
        unfold AgentConfigManager.Holds
        rw [hfile]
        exact hloaded
      exact hI.frame hI.cached rfl rfl (fun hset => by cases hset) (fun _ => hholds)
        (fun _ hsend => absurd hsend hno)
  · cases h

/-- **Every step** keeps the invariant, when an update that is written is loaded. -/
theorem step (hI : SyncMatches server config s) {a : SyncAction} {r : Option ConfigStatus}
    (happlies : s.applies server a = true)
    (h : s.next server config summary now a = some (s', r)) : SyncMatches server config s' := by
  cases a with
  | network a => exact hI.network h
  | verify m received => exact hI.verify h
  | upload m received => exact hI.upload h
  | write fault => exact hI.write happlies h
  | load agentToml => exact hI.load happlies h

theorem getLast?_request {deliveries : List Delivery} {i : Nat} {d : Delivery}
    (hd : deliveries[i]? = some d) (hi : i + 1 = deliveries.length) :
    (deliveries.map Delivery.request).getLast? = some d.request := by
  rw [List.getLast?_eq_getElem?, List.length_map, ← hi, Nat.add_sub_cancel, List.getElem?_map, hd]
  rfl

/-- When the agent is told "up to date", the served version has the hash of its file, which is the
one whose tasks run. -/
theorem upToDate (hI : SyncMatches server config s) {a : SyncAction}
    (h : s.next server config summary now a = some (s', some .upToDate)) :
    ∃ content content', s.manager.tasksToml = some content ∧ s.served config = some content' ∧
      s'.manager = s.manager ∧ s'.served config = some content' ∧
      server.codecs.blake3 content' = server.codecs.blake3 content ∧
      server.codecs.tomlTasks content = .ok s'.running := by
  cases a with
  | network a =>
    obtain ⟨network, hn, -, rfl, htold⟩ := ConfigSync.next_network h
    cases a with
    | deliver m i =>
      obtain ⟨d, answer, state, hd, hanswer, rfl⟩ := Network.next_deliver hn
      unfold ConfigSync.told at htold
      dsimp only at htold
      rw [List.getElem?_set_self (List.getElem?_eq_some_iff.1 hd).1] at htold
      split at htold
      · next t b queueIds request response redelivered hpoint hset =>
        split at htold
        · next hi =>
          rw [List.length_set] at hi
          cases hset
          have hsend : s.network.agent.point.isSending = true := by
            rw [hpoint]
            rfl
          obtain ⟨hidle, last, hlast, hid, hhash⟩ := hI.sending hsend
          rw [getLast?_request hd hi] at hlast
          obtain rfl := Option.some.inj hlast
          obtain ⟨content', hserved, hsum, hserved'⟩ :=
            handleMetrics_upToDate server m hI.cached hanswer (Option.some.inj htold).symm
          rw [hid] at hserved hserved'
          obtain ⟨content, hfile, hparse, -⟩ := hI.settled (by rw [hidle]; rfl)
          refine ⟨content, content', hfile, hserved, rfl, hserved', ?_, hparse⟩
          unfold AgentConfigManager.getTasksConfigHash at hhash
          rw [hfile] at hhash
          rw [hsum, ← Except.ok.inj hhash]
        · cases htold
      · cases htold
    | _ => cases htold
  | verify m received =>
    dsimp only [ConfigSync.next] at h
    split at h
    · next hphase hpoint =>
      obtain ⟨content, hfile, hparse, -⟩ := hI.settled (by rw [hphase]; rfl)
      split at h
      · next hhash =>
        split at h
        · cases h
        · next answer state hanswer =>
          obtain ⟨rfl, htold⟩ := Prod.mk.inj (Option.some.inj h)
          cases answer with
          | error e => cases htold
          | ok response =>
            obtain ⟨content', hserved, hsum, hserved'⟩ :=
              handleConfigVerify_upToDate server _ hI.cached hanswer (Option.some.inj htold)
            refine ⟨content, content', hfile, hserved, rfl, hserved', ?_, hparse⟩
            unfold AgentConfigManager.getTasksConfigHash at hhash
            rw [hfile] at hhash
            rw [hsum, ← Except.ok.inj hhash]
      · cases h
    · cases h
  | upload m received =>
    dsimp only [ConfigSync.next] at h
    repeat' split at h
    all_goals cases h
  | write fault =>
    dsimp only [ConfigSync.next] at h
    repeat' split at h
    all_goals cases h
  | load agentToml =>
    dsimp only [ConfigSync.next] at h
    repeat' split at h
    all_goals cases h

end SyncMatches

theorem syncMachine_step {server : Server} {config : AgentConfig} {summary : Summary}
    {manager : AgentConfigManager} {t₀ : Nat} {state : ServerState} {s s' : Nat × ConfigSync}
    {a : Nat × SyncAction} {r : Option ConfigStatus}
    (h : (syncMachine server config summary manager t₀ state).step s a = some (s', r)) :
    s.2.next server config summary a.1 a.2 = some (s'.2, r) :=
  ((Machine.clocked_step_iff _ _ _ _ _ _).1 h).2.1

/-! ## Top theorem -/

theorem syncMatches_start (server : Server) (config : AgentConfig) (t₀ : Nat) (state : ServerState)
    {manager : AgentConfigManager}
    (hload : manager.Holds server.codecs server.env manager.tasksConfig) :
    SyncMatches server config (.start config manager t₀ state) where
  cached := by
    intro agentId cached hc
    cases hc
  settled := by
    intro _
    show manager.Holds server.codecs server.env (config.newScheduler manager.tasksConfig).tasksConfig
    have hstart : (config.newScheduler manager.tasksConfig).tasksConfig = manager.tasksConfig :=
      TaskScheduler.start_tasksConfig _
    rw [hstart]
    exact hload
  loaded := fun _ => hload
  sending := by
    intro hsend
    cases hsend

/-- **The agent is told the truth** in every run in which each update that is written is loaded:
whenever the server answers "up to date", the tasks that run are those of its file of the agent. -/
theorem honest_of_applies (server : Server) (config : AgentConfig) (summary : Summary)
    (manager : AgentConfigManager) (t₀ : Nat) (state : ServerState)
    (hload : manager.Holds server.codecs server.env manager.tasksConfig)
    {tr : List SyncStep} {s : Nat × ConfigSync}
    (hrun : Run (syncMachine server config summary manager t₀ state) tr s)
    (happlies : ∀ t ∈ tr, t.pre.2.applies server t.label.2 = true)
    (htells : ∀ t ∈ tr, t.pre.2.HashTells server.codecs config) :
    ∀ t ∈ tr, t.answer = some .upToDate → t.post.2.Honest server.codecs config := by
  refine (Run.guarded (I := fun s => SyncMatches server config s.2)
    (C := fun s a => s.2.applies server a.2 = true ∧ s.2.HashTells server.codecs config)
    (P := fun t => t.answer = some .upToDate → t.post.2.Honest server.codecs config)
    ?_ ?_ hrun fun t ht => ⟨happlies t ht, htells t ht⟩).2
  · exact syncMatches_start server config t₀ state hload
  · intro s a s' r hI hC hs
    have hnext := syncMachine_step hs
    refine ⟨hI.step hC.1 hnext, fun hr => ?_⟩
    dsimp only at hr
    rw [hr] at hnext
    obtain ⟨content, content', hfile, hserved, hsame, hserved', hhash, hparse⟩ := hI.upToDate hnext
    have htells' : s'.2.HashTells server.codecs config := by
      intro c c' hc hc'
      rw [hsame] at hc
      rw [hserved', ← hserved] at hc'
      exact hC.2 c c' hc hc'
    rw [← hsame] at hfile
    exact (ConfigSync.honest_iff hfile hserved' hhash htells').2 hparse

/-! ## The network below -/

theorem handle_map_eq_some {α β : Type} {f : α → β} {h : Handler α} {s s' : ServerState}
    {answer : Except ApiError α} (he : h s = some (answer, s')) :
    ∃ r, h.map f s = some (r, s') := by
  unfold Handler.map Handler.andThen
  rw [he]
  cases answer with
  | error e => exact ⟨.error e, rfl⟩
  | ok a => exact ⟨.ok (f a), rfl⟩

/-- Every step is one of the network, or leaves it alone. -/
theorem ConfigSync.next_refines {server : Server} {config : AgentConfig} {summary : Summary}
    {s s' : ConfigSync} {now : Nat} {a : SyncAction} {r : Option ConfigStatus}
    (h : s.next server config summary now a = some (s', r)) :
    s'.network = s.network ∨
      ∃ b, s.network.next server config summary now b = some s'.network := by
  cases a with
  | network a =>
    obtain ⟨network, hn, -, rfl, -⟩ := next_network h
    right
    refine ⟨a, ?_⟩
    rw [hn]
    cases a with
    | agent checksum a => cases a <;> rfl
    | _ => rfl
  | verify m received =>
    dsimp only [next] at h
    split at h
    · split at h
      · next m hash _ =>
        split at h
        · cases h
        · next answer state hanswer =>
          cases h
          obtain ⟨r, hr⟩ := handle_map_eq_some (f := Response.configVerify) hanswer
          right
          refine ⟨.other m ⟨config.headers, .configVerify ⟨config.agentId, hash⟩⟩, ?_⟩
          unfold Network.next handle
          dsimp only
          rw [hr]
      · cases h
        exact .inl rfl
    · cases h
  | upload m received =>
    dsimp only [next] at h
    split at h
    · cases h
    · split at h
      · next m content _ _ =>
        split at h
        · cases h
        · next answer state hanswer =>
          cases h
          obtain ⟨r, hr⟩ := handle_map_eq_some (f := Response.configUpload) hanswer
          right
          refine ⟨.other m ⟨config.headers, .configUpload ⟨config.agentId, toString now,
            compressToml server.codecs content⟩⟩, ?_⟩
          unfold Network.next handle
          dsimp only
          rw [hr]
      · cases h
        exact .inl rfl
  | write fault =>
    left
    dsimp only [next] at h
    repeat' split at h
    all_goals
      cases h
      try rfl
  | load agentToml =>
    left
    dsimp only [next] at h
    repeat' split at h
    all_goals
      cases h
      try rfl

/-- **A run with the files is a run of the network**, so what holds of every network holds of it. -/
theorem network_of_sync {server : Server} {config : AgentConfig} {summary : Summary}
    {manager : AgentConfigManager} {t₀ : Nat} {state : ServerState} {tr : List SyncStep}
    {s : Nat × ConfigSync} (hrun : Run (syncMachine server config summary manager t₀ state) tr s) :
    ∃ tr' clock, clock ≤ s.1 ∧
      Run (networkMachine server config summary manager.tasksConfig t₀ state.restarted) tr'
        (clock, s.2.network) := by
  induction hrun with
  | nil => exact ⟨[], t₀, le_refl _, .nil⟩
  | @snoc tr s a s' r _ hs ih =>
    obtain ⟨tr', clock, hle, hrun'⟩ := ih
    obtain ⟨hnow, hnext, hclock⟩ := (Machine.clocked_step_iff _ _ _ _ _ _).1 hs
    rcases ConfigSync.next_refines hnext with hsame | ⟨b, hb⟩
    · refine ⟨tr', clock, ?_, ?_⟩
      · omega
      · rw [hsame]
        exact hrun'
    · have hstep : (networkMachine server config summary manager.tasksConfig t₀
          state.restarted).step (clock, s.2.network) (a.1, b) =
          some ((a.1, s'.2.network), ()) := by
        refine (Machine.clocked_step_iff _ _ _ _ _ _).2 ⟨le_trans hle hnow, ?_, rfl⟩
        show (s.2.network.next server config summary a.1 b).map _ = _
        rw [hb]
        rfl
      exact ⟨_, a.1, le_of_eq hclock.symm, hrun'.snoc hstep⟩

/-! ## An update that does not validate -/

/-- The tasks file of `taskEvery`. -/
def tomlEvery (seconds : String) : String :=
  "[[tasks]]\ntype = \"http_get\"\nname = \"web\"\nschedule_seconds = " ++ seconds ++
    "\nurl = \"https://example.com/\"\ntimeout_seconds = 10\nverify_ssl = true\n"

/-- Crates that know the tasks files with the periods 60, 90 and 0. -/
def exampleCodecs : Codecs where
  base64Encode := fun bytes =>
    if bytes = [60] then "PA==" else if bytes = [90] then "Wg==" else "AA=="
  base64Decode := fun text =>
    if text = "PA==" then .ok [60] else if text = "Wg==" then .ok [90] else .ok [0]
  gzip := fun content =>
    if content = tomlEvery "60" then [60] else if content = tomlEvery "90" then [90] else [0]
  gunzip := fun bytes =>
    if bytes = [60] then .ok (tomlEvery "60") else if bytes = [90] then .ok (tomlEvery "90")
    else .ok (tomlEvery "0")
  blake3 := id
  tomlTasks := fun content =>
    if content = tomlEvery "60" then .ok ⟨[taskEvery 60]⟩
    else if content = tomlEvery "90" then .ok ⟨[taskEvery 90]⟩
    else if content = tomlEvery "0" then .ok ⟨[taskEvery 0]⟩
    else .error "expected an equals, found an identifier"

def syncServer : Server :=
  { metricsServer with codecs := exampleCodecs, env := exampleExternals }

def exampleManager : AgentConfigManager :=
  ⟨"/etc/linksense", some (tomlEvery "60"), ⟨[taskEvery 60]⟩⟩

def exampleSync : Machine (Nat × ConfigSync) (Nat × SyncAction) (Option ConfigStatus) :=
  syncMachine syncServer exampleAgentConfig exampleSummary exampleManager 60 newServer

/-- Steps of the agent, while its file has this content. -/
def withFile (content : String) (actions : List (Nat × AgentAction)) : List (Nat × SyncAction) :=
  actions.map fun a => (a.1, .network (.agent content a.2))

/-- The agent uploads its file, which the server then has; at 125 it sends its first metrics, after
the file was edited on the server. -/
def editedAt125 (seconds : String) : List (Nat × SyncAction) :=
  [(60, .upload (some ⟨0, 60, none⟩) true)] ++
    withFile (tomlEvery "60") (firstMinute (taskEvery 60) ++ wokenAt 125 ++ sendingAt 125) ++
    [(125, .network (.edit "agent1" (some (tomlEvery seconds)))), (125, .network (.notice "agent1")),
      (125, .network (.deliver ⟨0, 125, none⟩ 0))] ++
    withFile (tomlEvery "60") [(126, .reply (.ok .stale) true [])] ++
    [(126, .verify (some ⟨1, 126, none⟩) true), (126, .write none), (126, .load (.ok ()))]

/-- The update is over at 126; the metrics of second 185 are sent at 245. -/
def askedAt245 (content : String) (rest : List (Nat × AgentAction)) : List (Nat × SyncAction) :=
  withFile content (rest ++ [(126, .dataCleanup 18)] ++
    wokenAt 185 ++ [(185, .aggregationDone)] ++ restOfIteration 185 ++
    handledAt 186 185 (taskEvery 60) ++ quietIteration 186 ++ wokenAt 245 ++ sendingAt 245) ++
    [(245, .network (.deliver ⟨2, 245, none⟩ 1))]

/-- A file that validates is loaded, and the scheduler replaced. -/
def updatedTo90 : List (Nat × SyncAction) :=
  editedAt125 "90" ++
    askedAt245 (tomlEvery "90") [(126, .stop none), (126, .reload ⟨[taskEvery 90]⟩)]

/-- A file whose only task has the period 0 parses, and is written; then it does not validate. -/
def refused0 : List (Nat × SyncAction) :=
  editedAt125 "0" ++ askedAt245 (tomlEvery "0") [(126, .keep)]

theorem hashTells_example (s : ConfigSync) : s.HashTells exampleCodecs exampleAgentConfig :=
  fun _ _ _ _ h => h

set_option maxRecDepth 4000 in
theorem honest_of_applies_updated :
    ∃ tr s, Run exampleSync tr s ∧
      (∃ t ∈ tr, t.answer = some .upToDate ∧ t.post.2.running = ⟨[taskEvery 90]⟩) ∧
      ∀ t ∈ tr, t.answer = some .upToDate → t.post.2.Honest exampleCodecs exampleAgentConfig := by
  obtain ⟨tr, s, he, hrun⟩ := Run.exists_of_exec exampleSync updatedTo90 (by rfl)
  have hend : (exampleSync.exec updatedTo90).map (fun r =>
      (r.1.all fun t => t.pre.2.applies syncServer t.label.2,
        r.1.getLast?.map fun t => (t.answer, t.post.2.running))) =
      some (true, some (some .upToDate, ⟨[taskEvery 90]⟩)) := by rfl
  rw [he] at hend
  obtain ⟨happlies, hlast⟩ := Prod.mk.inj (Option.some.inj hend)
  obtain ⟨t, ht, hanswer⟩ := Option.map_eq_some_iff.1 hlast
  refine ⟨tr, s, hrun, ⟨t, List.mem_of_getLast? ht, Prod.mk.inj hanswer⟩, ?_⟩
  exact honest_of_applies syncServer exampleAgentConfig exampleSummary exampleManager 60 newServer
    ⟨tomlEvery "60", rfl, by rfl, by rfl⟩ hrun (List.all_eq_true.1 happlies)
    fun t _ => hashTells_example t.pre.2

set_option maxRecDepth 4000 in
/-- The agent is told that it is up to date, and runs the tasks from before the update. -/
theorem not_honest_refused :
    ∃ tr s, Run exampleSync tr s ∧
      (∀ t ∈ tr, t.pre.2.HashTells exampleCodecs exampleAgentConfig) ∧
      ∃ t ∈ tr, t.answer = some .upToDate ∧ t.post.2.running = ⟨[taskEvery 60]⟩ ∧
        t.post.2.served exampleAgentConfig = some (tomlEvery "0") ∧
        ¬ t.post.2.Honest exampleCodecs exampleAgentConfig := by
  obtain ⟨tr, s, he, hrun⟩ := Run.exists_of_exec exampleSync refused0 (by rfl)
  have hend : (exampleSync.exec refused0).map (fun r => r.1.getLast?.map fun t =>
      (t.answer, t.post.2.running, t.post.2.served exampleAgentConfig)) =
      some (some (some .upToDate, ⟨[taskEvery 60]⟩, some (tomlEvery "0"))) := by rfl
  rw [he] at hend
  obtain ⟨t, ht, hpost⟩ := Option.map_eq_some_iff.1 (Option.some.inj hend)
  obtain ⟨hanswer, hpost⟩ := Prod.mk.inj hpost
  obtain ⟨hrunning, hserved⟩ := Prod.mk.inj hpost
  refine ⟨tr, s, hrun, fun t _ => hashTells_example t.pre.2, t, List.mem_of_getLast? ht, hanswer,
    hrunning, hserved, ?_⟩
  rintro ⟨content, hcontent, hparse, -⟩
  rw [hserved] at hcontent
  rw [← Option.some.inj hcontent, hrunning] at hparse
  have hother : exampleCodecs.tomlTasks (tomlEvery "0") = .ok ⟨[taskEvery 0]⟩ := by rfl
  rw [hother] at hparse
  cases hparse

end LinkSense
