import LinkSense.Server.Api

/-!
# Requests without the key

A request that does not carry the configured key must change nothing that the server stores and
be answered from nothing stored.  Five endpoints check the key first and are safe;
`config/error` and `bandwidth_download` check no key, and are safe only when they refuse the
agent by its id or the whitelist.

    ¬ CarriesKey server request → (Sealed server m request ↔
      request.payload.ChecksKey ∨ AgentRefused server request.payload.agentId)      (sealed_iff)
-/

namespace LinkSense

/-! ## Access -/

/-- Some header gives the configured key. -/
def CarriesKey (server : Server) (request : Request) : Prop :=
  ∃ value, ("x-api-key", value) ∈ request.headers ∧
    headerToStr value = some server.config.apiKey

/-- The request changes no stored state, and its answer depends on none. -/
def Sealed (server : Server) (m : Moment) (request : Request) : Prop :=
  (∀ s r s', handle server m request s = some (r, s') → s' = s) ∧
    ∀ s t, (handle server m request s).map Prod.fst = (handle server m request t).map Prod.fst

/-- The endpoints whose handler looks at the key. -/
def Payload.ChecksKey : Payload → Prop
  | .metrics _ => True
  | .configs _ => True
  | .configError _ => False
  | .configVerify _ => True
  | .configUpload _ => True
  | .bandwidthTest _ => True
  | .bandwidthDownload _ => False

/-- The agent that a request names. -/
def Payload.agentId : Payload → String
  | .metrics body => body.agentId
  | .configs params => (params "agent_id").getD ""
  | .configError body => body.agentId
  | .configVerify body => body.agentId
  | .configUpload body => body.agentId
  | .bandwidthTest body => body.agentId
  | .bandwidthDownload params => (params "agent_id").getD ""

/-- The agent id is malformed or not on the whitelist. -/
def AgentRefused (server : Server) (agentId : String) : Prop :=
  ¬ (validateAgentId server.env agentId = .ok () ∧
    validateAgentWhitelist agentId server.config.agentIdWhitelist = .ok ())

/-! ## Lemmas -/

/-- **What every request keeps**: the parts of the handlers keep it, one by one. -/
theorem handle_keeps (server : Server) (m : Moment) {Q : ServerState → Prop} {request : Request}
    (hlimit : (limitRate server m request.payload.agentId).Keeps Q)
    (hread : (readConfig server request.payload.agentId).Keeps Q)
    (hsave : ∀ content, (validateFromToml server.codecs server.env content).isOk = true →
      (saveUpload m request.payload.agentId content).Keeps Q)
    (hlog : ∀ s db timestamp errorMessage, Q s →
      s.database.logConfigError m.time request.payload.agentId timestamp errorMessage = .ok db →
      Q { s with database := db })
    (hbandwidth : ∀ s bandwidth, Q s → Q { s with bandwidth := bandwidth })
    (hmetrics : ∀ body, request.payload = .metrics body →
      (handleMetrics server m request.headers body).Keeps Q) :
    (handle server m request).Keeps Q := by
  have hmap : ∀ {α β : Type} (f : α → β) {h : Handler α}, h.Keeps Q → (h.map f).Keeps Q :=
    fun f _ hh => Handler.keeps_andThen hh fun _ => Handler.keeps_answer _
  obtain ⟨headers, payload⟩ := request
  cases payload with
  | metrics body => exact hmap _ (hmetrics body rfl)
  | configs params =>
    refine hmap _ (keeps_admitted server ?_)
    refine Handler.keeps_andThen hread fun cached => ?_
    cases cached with
    | none => exact Handler.keeps_fail _
    | some cached => exact Handler.keeps_answer _
  | configError body =>
    refine hmap _ ?_
    unfold handleConfigError
    split
    · exact Handler.keeps_fail _
    · refine Handler.keeps_andThen (Handler.keeps_check _) fun _ => ?_
      intro s r s' hQ h
      dsimp only at h
      split at h
      · cases h
        exact hQ
      · next db hdb =>
        cases h
        exact hlog s db _ _ hQ hdb
  | configVerify body =>
    refine hmap _ (keeps_admitted server ?_)
    refine Handler.keeps_andThen hlimit fun _ => ?_
    refine Handler.keeps_andThen hread fun cached => ?_
    cases cached with
    | none => exact Handler.keeps_answer _
    | some cached =>
      dsimp only
      split
      · exact Handler.keeps_answer _
      · exact Handler.keeps_answer _
  | configUpload body =>
    refine hmap _ (keeps_admitted server ?_)
    refine Handler.keeps_andThen hlimit fun _ => ?_
    refine Handler.keeps_andThen (Handler.keeps_check _) fun content => ?_
    split
    · exact Handler.keeps_answer _
    · next hvalid => exact hsave content (by rw [hvalid]; rfl)
  | bandwidthTest body =>
    refine hmap _ (keeps_admitted server ?_)
    refine Handler.keeps_andThen hlimit fun _ => ?_
    intro s r s' hQ h
    dsimp only at h
    split at h
    · cases h
    · cases h
      exact hbandwidth s _ hQ
  | bandwidthDownload params =>
    refine hmap _ ?_
    unfold handleBandwidthDownload
    refine Handler.keeps_andThen (Handler.keeps_check _) fun _ => ?_
    refine Handler.keeps_andThen (Handler.keeps_check _) fun _ => ?_
    refine Handler.keeps_andThen ?_ fun _ => ?_
    · intro s r s' hQ h
      cases h
      exact hQ
    · intro s r s' hQ h
      cases h
      exact hbandwidth s _ hQ

theorem check_error_andThen {α β : Type} (e : ApiError) (k : α → Handler β) (s : ServerState) :
    Handler.andThen (.check (.error e)) k s = some (.error e, s) := rfl

theorem check_ok_andThen {α β : Type} (a : α) (k : α → Handler β) (s : ServerState) :
    Handler.andThen (.check (.ok a)) k s = k a s := rfl

theorem map_of_error {α β : Type} {f : α → β} {h : Handler α} {e : ApiError}
    {s s' : ServerState} (hs : h s = some (.error e, s')) :
    h.map f s = some (.error e, s') := by
  unfold Handler.map Handler.andThen
  rw [hs]

theorem map_of_ok {α β : Type} {f : α → β} {h : Handler α} {a : α} {s s' : ServerState}
    (hs : h s = some (.ok a, s')) : h.map f s = some (.ok (f a), s') := by
  unfold Handler.map Handler.andThen
  rw [hs]
  rfl

theorem mem_of_get {headers : HeaderMap} {name : String} {value : List UInt8}
    (h : headers.get name = some value) : (name, value) ∈ headers := by
  unfold HeaderMap.get at h
  obtain ⟨e, he, rfl⟩ := Option.map_eq_some_iff.1 h
  have hn : e.1 = name := by simpa using List.find?_some he
  have := List.mem_of_find?_eq_some he
  rwa [← hn]

/-- A request without the key is unauthorized. -/
theorem validateApiKey_of_not_carries {server : Server} {request : Request}
    (h : ¬ CarriesKey server request) :
    validateApiKey request.headers server.config.apiKey = .error .unauthorized := by
  unfold validateApiKey
  cases hg : request.headers.get "x-api-key" with
  | none => rfl
  | some value =>
    cases hs : headerToStr value with
    | none => simp [hs]
    | some key =>
      have : key ≠ server.config.apiKey := by
        rintro rfl
        exact h ⟨value, mem_of_get hg, hs⟩
      simp [hs, this]

/-- A handler that fails before it reads the state seals the request. -/
theorem sealed_of_error {server : Server} {m : Moment} {request : Request} {e : ApiError}
    (h : ∀ s, handle server m request s = some (.error e, s)) : Sealed server m request := by
  refine ⟨fun s r s' hs => ?_, fun s t => ?_⟩
  · rw [h s, Option.some.injEq, Prod.mk.injEq] at hs
    exact hs.2.symm
  · rw [h s, h t]
    rfl

/-- Five handlers look at the key first. -/
theorem handle_of_checksKey {server : Server} {m : Moment} {request : Request}
    (hkey : ¬ CarriesKey server request) (hc : request.payload.ChecksKey) (s : ServerState) :
    handle server m request s = some (.error .unauthorized, s) := by
  have hv := validateApiKey_of_not_carries hkey
  unfold handle
  cases hp : request.payload with
  | metrics body =>
    apply map_of_error
    unfold handleMetrics
    rw [hv, check_error_andThen]
  | configs params =>
    apply map_of_error
    unfold handleConfigs
    rw [hv, check_error_andThen]
  | configVerify body =>
    apply map_of_error
    unfold handleConfigVerify
    rw [hv, check_error_andThen]
  | configUpload body =>
    apply map_of_error
    unfold handleConfigUpload
    rw [hv, check_error_andThen]
  | bandwidthTest body =>
    apply map_of_error
    unfold handleBandwidthTest
    rw [hv, check_error_andThen]
  | configError body => simp [hp, Payload.ChecksKey] at hc
  | bandwidthDownload params => simp [hp, Payload.ChecksKey] at hc

/-- The other two look at the agent first. -/
theorem handle_of_refused {server : Server} {m : Moment} {request : Request}
    (hc : ¬ request.payload.ChecksKey) (hr : AgentRefused server request.payload.agentId) :
    ∃ e, ∀ s, handle server m request s = some (.error e, s) := by
  unfold AgentRefused at hr
  unfold handle
  cases hp : request.payload with
  | configError body =>
    rw [hp] at hr
    cases hid : validateAgentId server.env body.agentId with
    | error e =>
      refine ⟨_, fun s => map_of_error (e := .badRequest "Invalid agent ID") ?_⟩
      unfold handleConfigError
      rw [hid]
      rfl
    | ok u =>
      cases hw : validateAgentWhitelist body.agentId server.config.agentIdWhitelist with
      | error e =>
        refine ⟨_, fun s => map_of_error (e := e) ?_⟩
        unfold handleConfigError
        rw [hid, hw]
        rfl
      | ok v => exact absurd ⟨hid, hw⟩ hr
  | bandwidthDownload params =>
    rw [hp] at hr
    cases hid : validateAgentId server.env ((params "agent_id").getD "") with
    | error e =>
      refine ⟨_, fun s => map_of_error (e := e) ?_⟩
      unfold handleBandwidthDownload
      simp only [hid, check_error_andThen]
    | ok u =>
      cases hw : validateAgentWhitelist ((params "agent_id").getD "")
          server.config.agentIdWhitelist with
      | error e =>
        refine ⟨_, fun s => map_of_error (e := e) ?_⟩
        unfold handleBandwidthDownload
        simp only [hid, hw, check_error_andThen, check_ok_andThen]
      | ok v => exact absurd ⟨hid, hw⟩ hr
  | metrics body => simp [hp, Payload.ChecksKey] at hc
  | configs params => simp [hp, Payload.ChecksKey] at hc
  | configVerify body => simp [hp, Payload.ChecksKey] at hc
  | configUpload body => simp [hp, Payload.ChecksKey] at hc
  | bandwidthTest body => simp [hp, Payload.ChecksKey] at hc

/-! ## States that give the request away -/

/-- A server that knows `agentId` and has given it the slot. -/
def givingAway (now : Instant) (agentId : String) : ServerState where
  database := ServerDatabase.initial.upsertAgent 0 agentId "" none
  configManager := ⟨fun _ => none, fun _ => none⟩
  bandwidth := { BandwidthTestState.new 120 300 30 60 30 with currentTest := some (agentId, now) }
  rateLimits := fun _ => none

/-- A reported error is stored, whoever reports it. -/
theorem configError_changes {server : Server} {m : Moment} {request : Request}
    {body : ConfigErrorRequest} (hp : request.payload = .configError body)
    (hid : validateAgentId server.env body.agentId = .ok ())
    (hw : validateAgentWhitelist body.agentId server.config.agentIdWhitelist = .ok ()) :
    ∃ r s', handle server m request (givingAway m.now body.agentId) = some (r, s') ∧
      s' ≠ givingAway m.now body.agentId := by
  have hreg : (givingAway m.now body.agentId).database.registered body.agentId = true :=
    ServerDatabase.registered_upsertAgent _ _ _ _ _
  obtain ⟨db, hdb, hlen⟩ := ServerDatabase.logConfigError_of_registered m.time
    body.timestampUtc body.errorMessage hreg
  refine ⟨.ok .accepted, { givingAway m.now body.agentId with database := db }, ?_, fun he => ?_⟩
  · unfold handle
    rw [hp]
    have hok : handleConfigError server m body (givingAway m.now body.agentId) =
        some (.ok (), { givingAway m.now body.agentId with database := db }) := by
      unfold handleConfigError
      rw [hid, hw]
      simp only [check_ok_andThen, hdb]
    exact map_of_ok hok
  · have hc : db = (givingAway m.now body.agentId).database := congrArg ServerState.database he
    rw [hc] at hlen
    omega

/-- A download ends the test of the agent it names, whoever asks for it. -/
theorem bandwidthDownload_changes {server : Server} {m : Moment} {request : Request}
    {params : String → Option String} (hp : request.payload = .bandwidthDownload params)
    (hid : validateAgentId server.env ((params "agent_id").getD "") = .ok ())
    (hw : validateAgentWhitelist ((params "agent_id").getD "") server.config.agentIdWhitelist =
      .ok ()) :
    ∃ r s', handle server m request (givingAway m.now ((params "agent_id").getD "")) =
      some (r, s') ∧ s' ≠ givingAway m.now ((params "agent_id").getD "") := by
  generalize ha : (params "agent_id").getD "" = a at hid hw ⊢
  have hadmit : admitDownload ((givingAway m.now a).bandwidth.getStatus m.now) a = .ok () := by
    simp [givingAway, BandwidthTestState.getStatus, admitDownload]
  refine ⟨.ok (.bandwidthDownload (downloadChunks (downloadSize server.config.bandwidthTestSizeMb))),
    { givingAway m.now a with
      bandwidth := (givingAway m.now a).bandwidth.completeTest m.now a }, ?_, fun he => ?_⟩
  · unfold handle
    rw [hp]
    apply map_of_ok
    unfold handleBandwidthDownload
    simp only [ha, hid, hw, check_ok_andThen]
    simp only [Handler.andThen, hadmit, Handler.check]
  · have hb : (givingAway m.now a).bandwidth.completeTest m.now a =
        (givingAway m.now a).bandwidth := congrArg ServerState.bandwidth he
    have hh : ((givingAway m.now a).bandwidth.completeTest m.now a).currentTest = none := by
      simp [givingAway, BandwidthTestState.completeTest, BandwidthTestState.holder,
        BandwidthTestState.new]
    rw [hb] at hh
    simp [givingAway] at hh

/-! ## Top theorems -/

/-- **Requests without the key are sealed off by exactly the checks that are made.** -/
theorem sealed_iff (server : Server) (m : Moment) (request : Request)
    (hkey : ¬ CarriesKey server request) :
    Sealed server m request ↔
      request.payload.ChecksKey ∨ AgentRefused server request.payload.agentId := by
  constructor
  · intro hsealed
    by_contra hnot
    rw [not_or] at hnot
    obtain ⟨hc, hr⟩ := hnot
    obtain ⟨hid, hw⟩ := not_not.1 hr
    cases hp : request.payload with
    | configError body =>
      rw [hp] at hid hw
      obtain ⟨r, s', hs, hne⟩ := configError_changes (m := m) hp hid hw
      exact hne (hsealed.1 _ _ _ hs)
    | bandwidthDownload params =>
      rw [hp] at hid hw
      obtain ⟨r, s', hs, hne⟩ := bandwidthDownload_changes (m := m) hp hid hw
      exact hne (hsealed.1 _ _ _ hs)
    | metrics body => simp [hp, Payload.ChecksKey] at hc
    | configs params => simp [hp, Payload.ChecksKey] at hc
    | configVerify body => simp [hp, Payload.ChecksKey] at hc
    | configUpload body => simp [hp, Payload.ChecksKey] at hc
    | bandwidthTest body => simp [hp, Payload.ChecksKey] at hc
  · rintro (hc | hr)
    · exact sealed_of_error (handle_of_checksKey hkey hc)
    · by_cases hc : request.payload.ChecksKey
      · exact sealed_of_error (handle_of_checksKey hkey hc)
      · obtain ⟨e, he⟩ := handle_of_refused (m := m) hc hr
        exact sealed_of_error he

/-! ## A stranger's requests -/

/-- A server with key `k3y`, no whitelist and no rate limit. -/
def keyedServer : Server where
  config := ⟨"k3y", "configs", 10, [], false, 60, 100⟩
  codecs := ⟨fun _ => "", fun _ => .error "", fun _ => [], fun _ => .error "", id,
    fun _ => .error ""⟩
  env := ⟨fun _ => .error "", fun _ => .error "", Char.isAlphanum⟩
  earliest := 0

/-- An error report about agent `a` that carries no key. -/
def strangerReport : Request where
  headers := [("content-type", utf8 "application/json")]
  payload := .configError ⟨"a", "2024-01-01T00:00:00Z", "made up"⟩

/-- A download in the name of agent `a` that carries no key. -/
def strangerDownload : Request where
  headers := []
  payload := .bandwidthDownload fun name => if name = "agent_id" then some "a" else none

theorem not_carries_strangerReport : ¬ CarriesKey keyedServer strangerReport := by
  rintro ⟨value, hm, -⟩
  simp [strangerReport] at hm

theorem not_carries_strangerDownload : ¬ CarriesKey keyedServer strangerDownload := by
  rintro ⟨value, hm, -⟩
  simp [strangerDownload] at hm

/-- **A stranger's report is stored, and a stranger's download ends the agent's test.** -/
theorem not_sealed_stranger :
    (¬ CarriesKey keyedServer strangerReport ∧
      ¬ Sealed keyedServer ⟨0, 0, none⟩ strangerReport) ∧
    (¬ CarriesKey keyedServer strangerDownload ∧
      ¬ Sealed keyedServer ⟨0, 0, none⟩ strangerDownload) := by
  refine ⟨⟨not_carries_strangerReport, fun h => ?_⟩,
    ⟨not_carries_strangerDownload, fun h => ?_⟩⟩
  · have hrows : (handle keyedServer ⟨0, 0, none⟩ strangerReport (givingAway 0 "a")).map
        (fun x => x.2.database.configErrors.rows.length) = some 1 := by decide
    obtain ⟨⟨r, s'⟩, hs, hl⟩ := Option.map_eq_some_iff.1 hrows
    rw [h.1 _ _ _ hs] at hl
    have hnone : (givingAway 0 "a").database.configErrors.rows.length = 0 := by decide
    exact absurd (hl.symm.trans hnone) (by decide)
  · have hslot : (handle keyedServer ⟨0, 0, none⟩ strangerDownload (givingAway 0 "a")).map
        (fun x => x.2.bandwidth.currentTest) = some none := by decide
    obtain ⟨⟨r, s'⟩, hs, ht⟩ := Option.map_eq_some_iff.1 hslot
    rw [h.1 _ _ _ hs] at ht
    have hheld : (givingAway 0 "a").bandwidth.currentTest = some ("a", 0) := by decide
    exact absurd (ht.symm.trans hheld) (by decide)

/-- A stranger who asks for a configuration gets nothing. -/
theorem sealed_iff_stranger :
    ¬ CarriesKey keyedServer ⟨[], .configVerify ⟨"a", "0"⟩⟩ ∧
      Sealed keyedServer ⟨0, 0, none⟩ ⟨[], .configVerify ⟨"a", "0"⟩⟩ := by
  have hkey : ¬ CarriesKey keyedServer ⟨[], .configVerify ⟨"a", "0"⟩⟩ := by
    rintro ⟨value, hm, -⟩
    simp at hm
  exact ⟨hkey, (sealed_iff keyedServer ⟨0, 0, none⟩ _ hkey).2 (.inl trivial)⟩

end LinkSense
