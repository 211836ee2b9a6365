import LinkSense.Shared.Utils
import Mathlib.Logic.Function.Basic

/-!
# Agents' task files on the server

The directory of task files, one per agent, and the cache over it (`server/src/config.rs`).
A read fills the cache and never refreshes it; the directory watcher does that.

    every entry of the cache belongs to its content, before and after each operation   (WellCached)
    what getAgentConfig returns has the content that is served from then on
                                                                        (getAgentConfig_served)
-/

namespace LinkSense

/-- A cached tasks file with its hash and compressed form. -/
structure CachedAgentConfig where
  content : String
  hash : String
  compressed : String
deriving DecidableEq, Repr

/-- The files by agent, and the cache by agent. -/
structure ConfigManager where
  files : String → Option String
  configCache : String → Option CachedAgentConfig

/-- `load_and_cache_config`, of a file's content. -/
def loadAndCacheConfig (codecs : Codecs) (content : String) : CachedAgentConfig where
  content := content
  hash := codecs.blake3 content
  compressed := compressToml codecs content

namespace ConfigManager

/-- `get_agent_config`: from the cache, or from the file and then cached. -/
def getAgentConfig (codecs : Codecs) (m : ConfigManager) (agentId : String) :
    Option CachedAgentConfig × ConfigManager :=
  match m.configCache agentId with
  | some cached => (some cached, m)
  | none =>
    match m.files agentId with
    | none => (none, m)
    | some content =>
      let cached := loadAndCacheConfig codecs content
      (some cached, { m with configCache := Function.update m.configCache agentId (some cached) })

/-- `spawn_cache_updater` on one change notice: reload the file, or forget it. -/
def updateCache (codecs : Codecs) (m : ConfigManager) (agentId : String) : ConfigManager :=
  { m with
    configCache :=
      Function.update m.configCache agentId ((m.files agentId).map (loadAndCacheConfig codecs)) }

/-- A tasks file is written. -/
def writeFile (m : ConfigManager) (agentId content : String) : ConfigManager :=
  { m with files := Function.update m.files agentId (some content) }

/-- A tasks file is removed. -/
def removeFile (m : ConfigManager) (agentId : String) : ConfigManager :=
  { m with files := Function.update m.files agentId none }

/-! ## The served version -/

/-- The content that an agent is compared with: the cached one, or that of the file. -/
def served (m : ConfigManager) (agentId : String) : Option String :=
  match m.configCache agentId with
  | some cached => some cached.content
  | none => m.files agentId

/-- No cached version is older than the file. -/
def Current (m : ConfigManager) (agentId : String) : Prop :=
  ∀ cached, m.configCache agentId = some cached → m.files agentId = some cached.content

/-- Hash and compressed form of every entry are those of its content. -/
def WellCached (codecs : Codecs) (m : ConfigManager) : Prop :=
  ∀ agentId cached, m.configCache agentId = some cached →
    cached = loadAndCacheConfig codecs cached.content

theorem wellCached_update {codecs : Codecs} {m : ConfigManager} (h : m.WellCached codecs)
    {files : String → Option String} {agentId : String} {entry : Option CachedAgentConfig}
    (hentry : ∀ cached, entry = some cached → cached = loadAndCacheConfig codecs cached.content) :
    WellCached codecs ⟨files, Function.update m.configCache agentId entry⟩ := by
  intro a cached hc
  dsimp only at hc
  by_cases ha : a = agentId
  · subst ha
    rw [Function.update_self] at hc
    exact hentry cached hc
  · rw [Function.update_of_ne ha] at hc
    exact h a cached hc

theorem getAgentConfig_wellCached {codecs : Codecs} {m : ConfigManager} (h : m.WellCached codecs)
    (agentId : String) : (m.getAgentConfig codecs agentId).2.WellCached codecs := by
  unfold getAgentConfig
  split
  · exact h
  · split
    · exact h
    · refine wellCached_update h fun cached hc => ?_
      obtain rfl := Option.some.inj hc
      rfl

theorem updateCache_wellCached {codecs : Codecs} {m : ConfigManager} (h : m.WellCached codecs)
    (agentId : String) : (m.updateCache codecs agentId).WellCached codecs := by
  refine wellCached_update h fun cached hc => ?_
  obtain ⟨content, -, rfl⟩ := Option.map_eq_some_iff.1 hc
  rfl

theorem files_of_current {m : ConfigManager} {agentId content : String}
    (hs : m.served agentId = some content) (hc : m.Current agentId) :
    m.files agentId = some content := by
  unfold served at hs
  split at hs
  · next cached he =>
    rw [hc cached he, hs]
  · exact hs

/-- A read gives the served version with its hash, and leaves it the served one. -/
theorem getAgentConfig_served {codecs : Codecs} {m : ConfigManager} (h : m.WellCached codecs)
    {agentId : String} {cached : CachedAgentConfig}
    (hc : (m.getAgentConfig codecs agentId).1 = some cached) :
    m.served agentId = some cached.content ∧ cached.hash = codecs.blake3 cached.content ∧
      (m.getAgentConfig codecs agentId).2.served agentId = some cached.content := by
  unfold getAgentConfig served at *
  cases hm : m.configCache agentId with
  | some entry =>
    rw [hm] at hc
    obtain rfl := Option.some.inj hc
    refine ⟨rfl, ?_, ?_⟩
    · exact congrArg CachedAgentConfig.hash (h agentId entry hm)
    · dsimp only
      rw [hm]
  | none =>
    rw [hm] at hc
    dsimp only at hc ⊢
    cases hf : m.files agentId with
    | none =>
      rw [hf] at hc
      cases hc
    | some content =>
      rw [hf] at hc
      obtain rfl := Option.some.inj hc
      refine ⟨rfl, rfl, ?_⟩
      dsimp only
      rw [Function.update_self]

end ConfigManager

end LinkSense
