import LinkSense.System.Convergence

/-!
# Files that were validated before

An agent writes an update before it validates it, and so an update can leave it with a file whose
tasks it does not run.  But the server validates what is uploaded, and what it is asked to apply to
its agents, and the agent starts with a file that it has loaded.  What is edited by hand is then the
only way for such an update to come about, as long as writes are whole.

    every edit of the agent's file is valid, every write is whole and `agent.toml` is good → what the
      agent writes it also loads, and whenever "up to date" is answered, the tasks that run are those
      of the served version                                                   (honest_of_vouched)
-/

namespace LinkSense

open Labelled Sql

/-! ## Valid files -/

/-- `validate_from_toml` accepts the content. -/
def Server.accepts (server : Server) (content : String) : Bool :=
  (validateFromToml server.codecs server.env content).isOk

/-- The server's file of the agent is valid, and so is what is cached of it. -/
structure ServerState.Vouched (server : Server) (agentId : String) (s : ServerState) : Prop where
  file : ∀ content, s.configManager.files agentId = some content → server.accepts content = true
  cache : ∀ cached, s.configManager.configCache agentId = some cached →
    server.accepts cached.content = true
  cached : ServerState.WellCached server s

/-- What makes an update fail after it has changed the file does not happen: an edit that does not
validate, a write that is not whole, or a bad `agent.toml`. -/
def ConfigSync.vouches (server : Server) (config : AgentConfig) (s : ConfigSync) : SyncAction → Bool
  | .network (.edit x (some content)) => x != config.agentId || server.accepts content
  | .write (some (.write left)) => left == s.manager.tasksToml
  | .load agentToml => agentToml.isOk
  | _ => true

/-- Whatever is on its way to the agent's file is valid. -/
structure Vouched (server : Server) (config : AgentConfig) (s : ConfigSync) : Prop where
  kept : ServerState.Vouched server config.agentId s.network.server
  downloaded : ∀ content, s.phase = .downloaded content → server.accepts content = true
  written : s.phase = .written → ∃ content, s.manager.tasksToml = some content ∧
    server.accepts content = true

/-! ## Lemmas -/

/-- A file is accepted exactly when `load_config` would load it. -/
theorem Server.accepts_iff_loads {server : Server} {m : AgentConfigManager} {content : String}
    (hfile : m.tasksToml = some content) :
    server.accepts content = true ↔ (m.loadTasks server.codecs server.env).isOk = true := by
  unfold accepts validateFromToml AgentConfigManager.loadTasks
  rw [hfile]
  dsimp only
  cases server.codecs.tomlTasks content with
  | error e => exact Iff.rfl
  | ok config =>
    dsimp only
    cases config.validate server.env with
    | error e => exact Iff.rfl
    | ok u => exact Iff.rfl

namespace ServerState.Vouched

variable {server : Server} {agentId x : String} {s : ServerState}

/-- The cache gets the file of some agent, or loses its entry. -/
theorem refresh (h : s.Vouched server agentId) {entry : Option CachedAgentConfig}
    (hentry : entry = (s.configManager.files x).map (loadAndCacheConfig server.codecs)) :
    Vouched server agentId { s with configManager :=
      ⟨s.configManager.files, Function.update s.configManager.configCache x entry⟩ } where
  file := h.file
  cache := by
    intro cached hc
    dsimp only at hc
    by_cases hx : agentId = x
    · subst hx
      rw [Function.update_self, hentry] at hc
      obtain ⟨content, hfile, rfl⟩ := Option.map_eq_some_iff.1 hc
      exact h.file content hfile
    · rw [Function.update_of_ne hx] at hc
      exact h.cache cached hc
  cached := by
    refine ConfigManager.wellCached_update h.cached fun cached hc => ?_
    rw [hentry] at hc
    obtain ⟨content, -, rfl⟩ := Option.map_eq_some_iff.1 hc
    rfl

theorem getAgentConfig (h : s.Vouched server agentId) :
    Vouched server agentId
      { s with configManager := (s.configManager.getAgentConfig server.codecs x).2 } := by
  unfold ConfigManager.getAgentConfig
  split
  · exact h
  · split
    · exact h
    · next hf => exact h.refresh (by rw [hf]; rfl)

/-- What the agent is compared with, and may be given. -/
theorem of_getAgentConfig (h : s.Vouched server agentId) {cached : CachedAgentConfig}
    (hc : (s.configManager.getAgentConfig server.codecs agentId).1 = some cached) :
    server.accepts cached.content = true ∧
      cached.compressed = compressToml server.codecs cached.content := by
  unfold ConfigManager.getAgentConfig at hc
  split at hc
  · next entry he =>
    obtain rfl := Option.some.inj hc
    exact ⟨h.cache entry he, congrArg CachedAgentConfig.compressed (h.cached agentId entry he)⟩
  · split at hc
    · cases hc
    · next content hf =>
      obtain rfl := Option.some.inj hc
      exact ⟨h.file content hf, rfl⟩

/-- A file is written, or removed. -/
theorem edit (h : s.Vouched server agentId) {c : Option String}
    (hnew : ∀ content, c = some content → x = agentId → server.accepts content = true) :
    Vouched server agentId { s with configManager :=
      ⟨Function.update s.configManager.files x c, s.configManager.configCache⟩ } where
  file := by
    intro content hc
    dsimp only at hc
    by_cases hx : agentId = x
    · subst hx
      rw [Function.update_self] at hc
      exact hnew content hc rfl
    · rw [Function.update_of_ne hx] at hc
      exact h.file content hc
  cache := h.cache
  cached := h.cached

theorem congr (h : s.Vouched server agentId) {s' : ServerState}
    (hsame : s'.configManager = s.configManager) : s'.Vouched server agentId := by
  refine ⟨?_, ?_, ?_⟩
  · rw [hsame]
    exact h.file
  · rw [hsame]
    exact h.cache
  · unfold WellCached
    rw [hsame]
    exact h.cached

/-- A new process has nothing cached. -/
theorem restarted (hfile : ∀ content, s.configManager.files agentId = some content →
    server.accepts content = true) : s.restarted.Vouched server agentId where
  file := hfile
  cache := fun _ hc => by cases hc
  cached := fun _ _ hc => by cases hc

end ServerState.Vouched

/-- **Every request** leaves the server with a valid file of the agent. -/
theorem handle_vouched (server : Server) (m : Moment) {agentId : String} (request : Request) :
    (handle server m request).Keeps (ServerState.Vouched server agentId) := by
  have hlimit : (limitRate server m request.payload.agentId).Keeps
      (ServerState.Vouched server agentId) := by
    intro s r s' hQ h
    refine hQ.congr ?_
    rw [limitRate_frame h]
  have hread : (readConfig server request.payload.agentId).Keeps
      (ServerState.Vouched server agentId) := by
    intro s r s' hQ h
    cases h
    exact hQ.getAgentConfig
  refine handle_keeps server m hlimit hread ?_ (fun _ _ _ _ hQ _ => hQ.congr rfl)
    (fun _ _ hQ => hQ.congr rfl) ?_
  · intro content hvalid s r s' hQ h
    unfold saveUpload at h
    split at h
    · cases h
      exact hQ
    · split at h
      · cases h
        exact hQ
      · cases h
        refine hQ.edit fun c hc _ => ?_
        rw [← Option.some.inj hc]
        exact hvalid
  · intro body hbody
    rw [hbody] at hlimit hread
    refine keeps_admitted server (Handler.keeps_andThen hlimit fun _ => ?_)
    refine Handler.keeps_andThen ?_ fun _ => Handler.keeps_andThen ?_ fun _ => ?_
    · intro s r s' hQ h
      cases h
      exact hQ.congr rfl
    · intro s r s' hQ h
      rcases storeMetrics_cases h with ⟨e, -, rfl, -⟩ | ⟨-, hs', -⟩
      · exact hQ
      · exact hQ.congr (by rw [hs'])
    · exact Handler.keeps_andThen hread fun _ => Handler.keeps_answer _

/-- What a stale agent is given is valid. -/
theorem handleConfigVerify_vouched {server : Server} {m : Moment} {headers : HeaderMap}
    {body : ConfigVerifyRequest} {s s' : ServerState} {r : ConfigVerifyResponse}
    (hvouched : s.Vouched server body.agentId)
    (h : handleConfigVerify server m headers body s = some (.ok r, s')) :
    r.tasksToml = none ∨ ∃ content, server.accepts content = true ∧
      r.tasksToml = some (compressToml server.codecs content) := by
  obtain ⟨_, s₁, hlimit, h⟩ := Handler.andThen_eq_ok (checked_eq_ok h)
  obtain ⟨cached, s₂, hread, h⟩ := Handler.andThen_eq_ok h
  have hmanager : s₁.configManager = s.configManager := by rw [limitRate_frame hlimit]
  have hcached := readConfig_eq_ok hread
  rw [hmanager] at hcached
  cases cached with
  | none =>
    cases h
    exact .inl rfl
  | some cached =>
    dsimp only at h
    split at h
    · cases h
      exact .inl rfl
    · cases h
      obtain ⟨haccepts, hcompressed⟩ := hvouched.of_getAgentConfig hcached.symm
      exact .inr ⟨cached.content, haccepts, congrArg some hcompressed⟩

theorem Network.next_vouched {server : Server} {config : AgentConfig} {summary : Summary}
    {s s' : Network} {now : Nat} {a : NetworkAction} {agentId : String}
    (h : s.next server config summary now a = some s')
    (hedit : ∀ content, a = .edit agentId (some content) → server.accepts content = true)
    (hvouched : s.server.Vouched server agentId) : s'.server.Vouched server agentId := by
  cases a with
  | agent checksum a =>
    rw [(Network.next_agent h).2.1]
    exact hvouched
  | deliver m i =>
    obtain ⟨d, answer, state, -, hanswer, rfl⟩ := Network.next_deliver h
    obtain ⟨r, hr⟩ := handle_map_eq_some (f := Response.metrics) hanswer
    exact handle_vouched server m ⟨config.headers, .metrics d.request⟩ _ _ _ hvouched hr
  | other m request =>
    dsimp only [Network.next] at h
    split at h
    · cases h
    · next hs =>
      cases h
      exact handle_vouched server m request _ _ _ hvouched hs
  | serverCleanup time retentionDays done =>
    cases h
    exact hvouched.congr rfl
  | serverRestart =>
    cases h
    exact ServerState.Vouched.restarted hvouched.file
  | edit x new =>
    cases h
    cases new with
    | none => exact hvouched.edit (x := x) (c := none) nofun
    | some new =>
      refine hvouched.edit (x := x) (c := some new) fun content hc hx => ?_
      rw [hx, hc] at hedit
      exact hedit content rfl
  | notice x =>
    cases h
    exact hvouched.refresh rfl

namespace Vouched

variable {server : Server} {config : AgentConfig} {summary : Summary} {s s' : ConfigSync} {now : Nat}

/-- Nothing is on its way to the agent's file. -/
theorem of_phase {network : Network} {manager : AgentConfigManager} {phase : UpdatePhase}
    (hkept : network.server.Vouched server config.agentId)
    (hphase : (∀ content, phase ≠ .downloaded content) ∧ phase ≠ .written) :
    Vouched server config ⟨network, manager, phase⟩ :=
  ⟨hkept, fun content hp => absurd hp (hphase.1 content), fun hp => absurd hp hphase.2⟩

/-- The steps of the network. -/
theorem network (hV : Vouched server config s) {a : NetworkAction} {r : Option ConfigStatus}
    (hvouches : s.vouches server config (.network a) = true)
    (h : s.next server config summary now (.network a) = some (s', r)) :
    Vouched server config s' := by
  obtain ⟨network, hn, -, rfl, -⟩ := ConfigSync.next_network h
  have hkept := Network.next_vouched hn (fun content he => by
    rw [he] at hvouches
    unfold ConfigSync.vouches at hvouches
    simpa using hvouches) hV.kept
  cases a with
  | agent checksum a =>
    cases a with
    | reload tasksConfig => exact of_phase hkept (by simp)
    | keep => exact of_phase hkept (by simp)
    | reloadFails => exact of_phase hkept (by simp)
    | restart tasksConfig =>
      refine of_phase hkept ?_
      unfold AgentConfig.startPhase
      split <;> simp
    | _ => exact ⟨hkept, hV.downloaded, hV.written⟩
  | _ => exact ⟨hkept, hV.downloaded, hV.written⟩

/-- What is downloaded was valid on the server. -/
theorem verify (hV : Vouched server config s) {m : Option Moment} {received : Bool}
    {r : Option ConfigStatus}
    (hround : ∀ content, server.accepts content = true →
      decodeTasksToml server.codecs (compressToml server.codecs content) = .ok content)
    (h : s.next server config summary now (.verify m received) = some (s', r)) :
    Vouched server config s' := by
  dsimp only [ConfigSync.next] at h
  split at h
  · split at h
    · next m hash _ =>
      split at h
      · cases h
      · next answer state hs =>
        cases h
        obtain ⟨r, hr⟩ := handle_map_eq_some (f := Response.configVerify) hs
        have hkept : state.Vouched server config.agentId :=
          handle_vouched server m ⟨config.headers, .configVerify ⟨config.agentId, hash⟩⟩ _ _ _
            hV.kept hr
        split
        · cases answer with
          | error e => exact of_phase hkept (by simp [afterVerify])
          | ok response =>
            obtain ⟨status, configStatus, tasksToml⟩ := response
            have hanswer := handleConfigVerify_vouched hV.kept hs
            dsimp only at hanswer
            cases configStatus with
            | upToDate => exact of_phase hkept (by simp [afterVerify])
            | stale =>
              rcases hanswer with rfl | ⟨content, haccepts, rfl⟩
              · exact of_phase hkept (by simp [afterVerify])
              · have hphase : afterVerify server.codecs
                    (.ok ⟨status, .stale, some (compressToml server.codecs content)⟩) =
                    .downloaded content := by
                  unfold afterVerify
                  dsimp only
                  rw [hround content haccepts]
                rw [hphase]
                refine ⟨hkept, fun new hnew => ?_, fun hwritten => ?_⟩
                · rw [← UpdatePhase.downloaded.inj hnew]
                  exact haccepts
                · cases hwritten
        · exact of_phase hkept (by simp)
    · cases h
      exact of_phase hV.kept (by simp)
  · cases h

theorem upload (hV : Vouched server config s) {m : Option Moment} {received : Bool}
    {r : Option ConfigStatus}
    (h : s.next server config summary now (.upload m received) = some (s', r)) :
    Vouched server config s' := by
  obtain ⟨hphase, -, state, hs', hstate⟩ := ConfigSync.next_upload h
  rw [hs']
  refine of_phase ?_ ?_
  · rcases hstate with rfl | ⟨m, request, answer, hs⟩
    · exact hV.kept
    · exact handle_vouched server m request _ _ _ hV.kept hs
  · rcases hphase with ⟨-, hphase⟩ | ⟨-, hphase⟩ <;> rw [hphase] <;> simp

theorem write (hV : Vouched server config s) {fault : Option WriteFault}
    {r : Option ConfigStatus}
    (h : s.next server config summary now (.write fault) = some (s', r)) :
    Vouched server config s' := by
  dsimp only [ConfigSync.next] at h
  split at h
  · next new t hphase hpoint =>
    split at h
    · cases h
      exact of_phase hV.kept (by simp)
    · next manager hw =>
      cases h
      refine ⟨hV.kept, nofun, fun _ => ⟨new, ?_, hV.downloaded new hphase⟩⟩
      exact AgentConfigManager.writeTasks_eq_ok hw
  · cases h

theorem load (hV : Vouched server config s) {agentToml : Except String Unit}
    {r : Option ConfigStatus}
    (h : s.next server config summary now (.load agentToml) = some (s', r)) :
    Vouched server config s' := by
  dsimp only [ConfigSync.next] at h
  split at h
  · split at h
    · cases h
      exact of_phase hV.kept (by simp)
    · cases h
      exact of_phase hV.kept (by simp)
  · cases h

theorem step (hV : Vouched server config s) {a : SyncAction} {r : Option ConfigStatus}
    (hround : ∀ content, server.accepts content = true →
      decodeTasksToml server.codecs (compressToml server.codecs content) = .ok content)
    (hvouches : s.vouches server config a = true)
    (h : s.next server config summary now a = some (s', r)) : Vouched server config s' := by
  cases a with
  | network a => exact hV.network hvouches h
  | verify m received => exact hV.verify hround h
  | upload m received => exact hV.upload h
  | write fault => exact hV.write h
  | load agentToml => exact hV.load h

/-- **An update that is written is loaded**, when what is written is valid. -/
theorem applies (hV : Vouched server config s) {a : SyncAction} {r : Option ConfigStatus}
    (hvouches : s.vouches server config a = true)
    (h : s.next server config summary now a = some (s', r)) : s.applies server a = true := by
  cases a with
  | write fault =>
    cases fault with
    | none => rfl
    | some fault =>
      cases fault with
      | write left =>
        have hwhole : (left == s.manager.tasksToml) = true := hvouches
        unfold ConfigSync.applies
        dsimp only
        split
        · rw [hwhole, Bool.or_true]
        · rfl
      | _ => rfl
  | load agentToml =>
    dsimp only [ConfigSync.next] at h
    split at h
    · next hphase _ =>
      obtain ⟨content, hfile, haccepts⟩ := hV.written hphase
      unfold ConfigSync.vouches at hvouches
      unfold ConfigSync.applies
      dsimp only at hvouches ⊢
      rw [hvouches, (Server.accepts_iff_loads hfile).1 haccepts]
      rfl
    · cases h
  | _ => rfl

end Vouched

/-- An agent that is told that it is up to date is told the truth. -/
theorem SyncMatches.honest_of_upToDate {server : Server} {config : AgentConfig} {summary : Summary}
    {s s' : ConfigSync} {now : Nat} {a : SyncAction} (hI : SyncMatches server config s)
    (htells : s.HashTells server.codecs config)
    (h : s.next server config summary now a = some (s', some .upToDate)) :
    s'.Honest server.codecs config := by
  obtain ⟨content, content', hfile, hserved, hsame, hserved', hhash, hparse⟩ := hI.upToDate h
  have htells' : s'.HashTells server.codecs config := by
    intro c c' hc hc'
    rw [hsame] at hc
    rw [hserved', ← hserved] at hc'
    exact htells c c' hc hc'
  rw [← hsame] at hfile
  exact (ConfigSync.honest_iff hfile hserved' hhash htells').2 hparse

/-! ## Top theorem -/

/-- **Files that were validated before are no danger**: when the server's file of the agent is valid
at first and after every edit, writes are whole and `agent.toml` is good, every update that the agent
writes is loaded, and an agent that is told that it is up to date runs the tasks of the served
version. -/
theorem honest_of_vouched (server : Server) (config : AgentConfig) (summary : Summary)
    (manager : AgentConfigManager) (t₀ : Nat) (state : ServerState)
    (hload : manager.Holds server.codecs server.env manager.tasksConfig)
    (hround : ∀ content, server.accepts content = true →
      decodeTasksToml server.codecs (compressToml server.codecs content) = .ok content)
    (hvalid : ∀ content, state.configManager.files config.agentId = some content →
      server.accepts content = true)
    {tr : List SyncStep} {s : Nat × ConfigSync}
    (hrun : Run (syncMachine server config summary manager t₀ state) tr s)
    (hvouches : ∀ t ∈ tr, t.pre.2.vouches server config t.label.2 = true)
    (htells : ∀ t ∈ tr, t.pre.2.HashTells server.codecs config) :
    ∀ t ∈ tr, t.pre.2.applies server t.label.2 = true ∧
      (t.answer = some .upToDate → t.post.2.Honest server.codecs config) := by
  refine (Run.guarded (I := fun s => SyncMatches server config s.2 ∧ Vouched server config s.2)
    (C := fun s a => s.2.vouches server config a.2 = true ∧ s.2.HashTells server.codecs config)
    (P := fun t => t.pre.2.applies server t.label.2 = true ∧
      (t.answer = some .upToDate → t.post.2.Honest server.codecs config))
    ?_ ?_ hrun fun t ht => ⟨hvouches t ht, htells t ht⟩).2
  · refine ⟨syncMatches_start server config t₀ state hload, Vouched.of_phase ?_ ?_⟩
    · exact ServerState.Vouched.restarted hvalid
    · unfold AgentConfig.startPhase
      split <;> simp
  · rintro s a s' r ⟨hI, hV⟩ hC hs
    have hnext := syncMachine_step hs
    have happlies := hV.applies hC.1 hnext
    refine ⟨⟨hI.step happlies hnext, hV.step hround hC.1 hnext⟩, happlies, fun hr => ?_⟩
    dsimp only at hr
    rw [hr] at hnext
    exact hI.honest_of_upToDate hC.2 hnext

set_option maxRecDepth 4000 in
/-- The file with the period 90 is valid, and the agent comes to run it. -/
theorem honest_of_vouched_updated :
    ∃ tr s, Run exampleSync tr s ∧
      (∃ t ∈ tr, t.answer = some .upToDate ∧ t.post.2.running = ⟨[taskEvery 90]⟩) ∧
      ∀ t ∈ tr, t.pre.2.applies syncServer t.label.2 = true ∧
        (t.answer = some .upToDate → t.post.2.Honest exampleCodecs exampleAgentConfig) := by
  obtain ⟨tr, s, he, hrun⟩ := Run.exists_of_exec exampleSync updatedTo90 (by rfl)
  have hend : (exampleSync.exec updatedTo90).map (fun r =>
      (r.1.all fun t => t.pre.2.vouches syncServer exampleAgentConfig t.label.2,
        r.1.getLast?.map fun t => (t.answer, t.post.2.running))) =
      some (true, some (some .upToDate, ⟨[taskEvery 90]⟩)) := by rfl
  rw [he] at hend
  obtain ⟨hvouches, hlast⟩ := Prod.mk.inj (Option.some.inj hend)
  obtain ⟨t, ht, hanswer⟩ := Option.map_eq_some_iff.1 hlast
  refine ⟨tr, s, hrun, ⟨t, List.mem_of_getLast? ht, Prod.mk.inj hanswer⟩, ?_⟩
  have hround : ∀ content, syncServer.accepts content = true →
      decodeTasksToml exampleCodecs (compressToml exampleCodecs content) = .ok content := by
    intro content hc
    by_cases h60 : content = tomlEvery "60"
    · rw [h60]
      rfl
    · by_cases h90 : content = tomlEvery "90"
      · rw [h90]
        rfl
      · exfalso
        by_cases h0 : content = tomlEvery "0"
        · have hinvalid : syncServer.accepts (tomlEvery "0") = false := by rfl
          rw [h0, hinvalid] at hc
          cases hc
        · have hparse : syncServer.codecs.tomlTasks content =
              .error "expected an equals, found an identifier" := by
            show (if content = tomlEvery "60" then _ else _) = _
            rw [if_neg h60, if_neg h90, if_neg h0]
          unfold Server.accepts validateFromToml at hc
          rw [hparse] at hc
          cases hc
  exact honest_of_vouched syncServer exampleAgentConfig exampleSummary exampleManager 60 newServer
    ⟨tomlEvery "60", rfl, by rfl, by rfl⟩ hround nofun hrun (List.all_eq_true.1 hvouches)
    fun t _ => hashTells_example t.pre.2

end LinkSense
