import LinkSense.Machine
import LinkSense.Server.Config

/-!
# The cache of agents' task files, step by step

What `server/src/config.rs` does to the cache, split at every read of a file and every lock: the
initial load, which holds the lock throughout, the updater that follows the directory watcher, and
any number of calls of `get_agent_config`.  A file can change at any time; the watcher reports a
change from the moment it runs, and the report waits until the updater comes to it.

    one after the other, the steps of the updater are `updateCache`        (next_updateCache)
    one after the other, the steps of a call are `getAgentConfig`          (next_getAgentConfig)
    every step is guarded → whenever the watcher runs and nothing is under way, the cache holds what
      the files hold                                                        (coherent_of_guarded)
-/

namespace LinkSense

open Labelled

/-! ## State -/

inductive Startup where
  | starting
  /-- `load_all_agent_configs` has the lock, and may have read a file that it has not cached. -/
  | loading (read : Option (String × CachedAgentConfig))
  | loaded
  | watching

/-- Where in its loop the updater is. -/
inductive Updater where
  | idle
  | received (agentId : String)
  | existing (agentId : String)
  | read (agentId : String) (cached : CachedAgentConfig)
  | missing (agentId : String)

/-- Where a call of `get_agent_config` is. -/
inductive ConfigCall where
  | checking (agentId : String)
  | missed (agentId : String)
  | existing (agentId : String)
  | read (agentId : String) (cached : CachedAgentConfig)

structure CacheSystem where
  manager : ConfigManager
  startup : Startup
  /-- The reports that the updater has not received. -/
  events : List String
  updater : Updater
  calls : List ConfigCall

inductive CacheAction where
  | writeFile (agentId content : String)
  | removeFile (agentId : String)
  /-- The watcher reports a change that is none. -/
  | notify (agentId : String)
  | beginLoad
  /-- The load comes to a file, and reads it unless that fails. -/
  | loadFile (agentId : String) (fails : Bool)
  | cacheFile
  | endLoad
  /-- There is no directory, or it cannot be read. -/
  | skipLoad
  | startConfigWatcher
  | receive
  /-- `path.exists()`, which is also false on an error. -/
  | updaterExists (found : Bool)
  | updaterRead (fails : Bool)
  | updaterCache
  | call (agentId : String)
  | callCheck (i : Nat)
  | callExists (i : Nat) (found : Bool)
  | callRead (i : Nat) (fails : Bool)
  | callCache (i : Nat)

namespace Startup

def locked : Startup → Bool
  | .loading _ => true
  | _ => false

def watches : Startup → Bool
  | .watching => true
  | _ => false

/-- The file that the load has read. -/
def pending : Startup → Option (String × CachedAgentConfig)
  | .loading read => read
  | _ => none

end Startup

def Updater.agentId : Updater → Option String
  | .idle => none
  | .received agentId => some agentId
  | .existing agentId => some agentId
  | .read agentId _ => some agentId
  | .missing agentId => some agentId

/-! ## Steps -/

def ConfigManager.readFile (codecs : Codecs) (m : ConfigManager) (agentId : String)
    (fails : Bool) : Option CachedAgentConfig :=
  if fails then none else (m.files agentId).map (loadAndCacheConfig codecs)

/-- `cache.insert`, or `cache.remove`. -/
def ConfigManager.setCache (m : ConfigManager) (agentId : String)
    (cached : Option CachedAgentConfig) : ConfigManager :=
  { m with configCache := Function.update m.configCache agentId cached }

namespace CacheSystem

/-- The watcher reports, if it runs. -/
def report (s : CacheSystem) (agentId : String) : CacheSystem :=
  if s.startup.watches then { s with events := s.events ++ [agentId] } else s

/-- One step; `none` when it cannot be taken. -/
def next (codecs : Codecs) (s : CacheSystem) : CacheAction → Option CacheSystem
  | .writeFile agentId content =>
    some ({ s with manager := s.manager.writeFile agentId content }.report agentId)
  | .removeFile agentId => some ({ s with manager := s.manager.removeFile agentId }.report agentId)
  | .notify agentId => some (s.report agentId)
  | .beginLoad =>
    match s.startup with
    | .starting => some { s with startup := .loading none }
    | _ => none
  | .loadFile agentId fails =>
    match s.startup with
    | .loading none =>
      some { s with
        startup := .loading ((s.manager.readFile codecs agentId fails).map (agentId, ·)) }
    | _ => none
  | .cacheFile =>
    match s.startup with
    | .loading (some (agentId, cached)) =>
      some { s with manager := s.manager.setCache agentId (some cached), startup := .loading none }
    | _ => none
  | .endLoad =>
    match s.startup with
    | .loading none => some { s with startup := .loaded }
    | _ => none
  | .skipLoad =>
    match s.startup with
    | .starting => some { s with startup := .loaded }
    | _ => none
  | .startConfigWatcher =>
    match s.startup with
    | .loaded => some { s with startup := .watching }
    | _ => none
  | .receive =>
    match s.updater, s.events with
    | .idle, agentId :: events => some { s with events := events, updater := .received agentId }
    | _, _ => none
  | .updaterExists found =>
    match s.updater with
    | .received agentId =>
      if found then
        if (s.manager.files agentId).isSome then some { s with updater := .existing agentId }
        else none
      else some { s with updater := .missing agentId }
    | _ => none
  | .updaterRead fails =>
    match s.updater with
    | .existing agentId =>
      match s.manager.readFile codecs agentId fails with
      | some cached => some { s with updater := .read agentId cached }
      | none => some { s with updater := .idle }
    | _ => none
  | .updaterCache =>
    match s.updater with
    | .read agentId cached =>
      some { s with manager := s.manager.setCache agentId (some cached), updater := .idle }
    | .missing agentId =>
      some { s with manager := s.manager.setCache agentId none, updater := .idle }
    | _ => none
  | .call agentId => some { s with calls := s.calls ++ [.checking agentId] }
  | .callCheck i =>
    match s.calls[i]? with
    | some (.checking agentId) =>
      if s.startup.locked then none
      else
        match s.manager.configCache agentId with
        | some _ => some { s with calls := s.calls.eraseIdx i }
        | none => some { s with calls := s.calls.set i (.missed agentId) }
    | _ => none
  | .callExists i found =>
    match s.calls[i]? with
    | some (.missed agentId) =>
      if found then
        if (s.manager.files agentId).isSome then
          some { s with calls := s.calls.set i (.existing agentId) }
        else none
      else some { s with calls := s.calls.eraseIdx i }
    | _ => none
  | .callRead i fails =>
    match s.calls[i]? with
    | some (.existing agentId) =>
      match s.manager.readFile codecs agentId fails with
      | some cached => some { s with calls := s.calls.set i (.read agentId cached) }
      | none => some { s with calls := s.calls.eraseIdx i }
    | _ => none
  | .callCache i =>
    match s.calls[i]? with
    | some (.read agentId cached) =>
      if s.startup.locked then none
      else
        some { s with
          manager := s.manager.setCache agentId (some cached)
          calls := s.calls.eraseIdx i }
    | _ => none

end CacheSystem

/-- A server that starts with these files and an empty cache. -/
def cacheMachine (codecs : Codecs) (files : String → Option String) :
    Machine CacheSystem CacheAction Unit where
  init := ⟨⟨files, fun _ => none⟩, .starting, [], .idle, []⟩
  step s a := (s.next codecs a).map (·, ())

/-! ## Coherence -/

/-- The entry is what the file of the agent gives. -/
def ConfigManager.Fresh (codecs : Codecs) (m : ConfigManager) (agentId : String)
    (cached : CachedAgentConfig) : Prop :=
  ∃ content, m.files agentId = some content ∧ cached = loadAndCacheConfig codecs content

namespace CacheSystem

/-- A report about the agent waits, or the updater works on one. -/
def Noticed (s : CacheSystem) (agentId : String) : Prop :=
  agentId ∈ s.events ∨ s.updater.agentId = some agentId

/-- The watcher runs, no report waits or is worked on, and no call is in progress. -/
structure Quiet (s : CacheSystem) : Prop where
  startup : s.startup = .watching
  events : s.events = []
  updater : s.updater = .idle
  calls : s.calls = []

/-- Every cached entry has the content of the file, and its hash. -/
def Coherent (codecs : Codecs) (s : CacheSystem) : Prop :=
  ∀ agentId cached, s.manager.configCache agentId = some cached →
    ∃ content, s.manager.files agentId = some content ∧ cached.content = content ∧
      cached.hash = codecs.blake3 content

/-- The step does not leave a stale entry behind unnoticed: no cached file changes before the watcher
runs; a call caches what it has read only as long as that is what the file has, or while a report is
under way; and the updater does not fail to read a file whose entry is stale, unless one more report
waits. -/
def Guarded (codecs : Codecs) (s : CacheSystem) : CacheAction → Prop
  | .writeFile agentId content => s.startup.watches = false →
      ∀ cached, s.manager.configCache agentId = some cached ∨
        s.startup.pending = some (agentId, cached) → cached = loadAndCacheConfig codecs content
  | .removeFile agentId => s.startup.watches = false →
      ∀ cached, s.manager.configCache agentId ≠ some cached ∧
        s.startup.pending ≠ some (agentId, cached)
  | .callCache i => ∀ agentId cached, s.calls[i]? = some (.read agentId cached) →
      s.manager.Fresh codecs agentId cached ∨ s.Noticed agentId
  | .updaterRead fails => fails = true → ∀ agentId, s.updater = .existing agentId →
      (∀ cached, s.manager.configCache agentId = some cached →
        s.manager.Fresh codecs agentId cached) ∨ agentId ∈ s.events
  | _ => True

/-- An entry is fresh, or a report about it is under way; and so is what is about to be cached. -/
structure CacheInvariant (codecs : Codecs) (s : CacheSystem) : Prop where
  cached : ∀ agentId cached, s.manager.configCache agentId = some cached →
    s.manager.Fresh codecs agentId cached ∨ s.Noticed agentId
  pending : ∀ agentId cached, s.startup.pending = some (agentId, cached) →
    s.manager.Fresh codecs agentId cached
  unwatched : s.startup.watches = false → s.events = [] ∧ s.updater = .idle
  read : ∀ agentId cached, s.updater = .read agentId cached →
    s.manager.Fresh codecs agentId cached ∨ agentId ∈ s.events
  existing : ∀ agentId, s.updater = .existing agentId →
    (s.manager.files agentId).isSome ∨ agentId ∈ s.events

/-! ## Lemmas -/

variable {codecs : Codecs} {s s' : CacheSystem}

theorem fresh_of_files {m m' : ConfigManager} {a : String} {cached : CachedAgentConfig}
    (h : m.Fresh codecs a cached) (hfiles : m'.files a = m.files a) :
    m'.Fresh codecs a cached := by
  obtain ⟨content, hc, hl⟩ := h
  exact ⟨content, hfiles.trans hc, hl⟩

theorem fresh_of_read {m : ConfigManager} {a : String} {fails : Bool} {cached : CachedAgentConfig}
    (h : m.readFile codecs a fails = some cached) : m.Fresh codecs a cached := by
  unfold ConfigManager.readFile at h
  cases fails with
  | true => cases h
  | false =>
    obtain ⟨content, hc, rfl⟩ := Option.map_eq_some_iff.1 h
    exact ⟨content, hc, rfl⟩

/-- Before the watcher runs there is nothing to notice. -/
theorem CacheInvariant.not_noticed (h : s.CacheInvariant codecs)
    (hw : s.startup.watches = false) (a : String) : ¬ s.Noticed a := by
  obtain ⟨hevents, hupdater⟩ := h.unwatched hw
  unfold Noticed
  rw [hevents, hupdater]
  rintro (ha | ha)
  · cases ha
  · cases ha

/-- A change of one agent's file, with its report. -/
theorem CacheInvariant.changed (h : s.CacheInvariant codecs) {agentId : String}
    {m : ConfigManager} (hcache : m.configCache = s.manager.configCache)
    (hfiles : ∀ a, a ≠ agentId → m.files a = s.manager.files a)
    (hunwatched : s.startup.watches = false → ∀ cached,
      s.manager.configCache agentId = some cached ∨ s.startup.pending = some (agentId, cached) →
        m.Fresh codecs agentId cached) :
    ({ s with manager := m }.report agentId).CacheInvariant codecs := by
  unfold report
  cases hw : s.startup.watches with
  | true =>
    rw [if_pos rfl]
    have hself : agentId ∈ s.events ++ [agentId] := by simp
    have hnoticed : ∀ a, s.Noticed a →
        a ∈ s.events ++ [agentId] ∨ s.updater.agentId = some a := by
      rintro a (ha | ha)
      · exact .inl (List.mem_append_left _ ha)
      · exact .inr ha
    have hpending : s.startup.pending = none := by
      cases hs : s.startup with
      | watching => rfl
      | _ =>
        rw [hs] at hw
        cases hw
    refine ⟨?_, ?_, ?_, ?_, ?_⟩
    · intro a cached hc
      by_cases ha : a = agentId
      · rw [ha]
        exact .inr (.inl hself)
      · dsimp only at hc
        rw [hcache] at hc
        rcases h.cached a cached hc with hfresh | hn
        · exact .inl (fresh_of_files hfresh (hfiles a ha))
        · exact .inr (hnoticed a hn)
    · intro a cached hp
      have hp' : s.startup.pending = some (a, cached) := hp
      rw [hpending] at hp'
      cases hp'
    · intro hw'
      have hw'' : s.startup.watches = false := hw'
      rw [hw] at hw''
      cases hw''
    · intro a cached hr
      by_cases ha : a = agentId
      · rw [ha]
        exact .inr hself
      · rcases h.read a cached hr with hfresh | hm
        · exact .inl (fresh_of_files hfresh (hfiles a ha))
        · exact .inr (List.mem_append_left _ hm)
    · intro a he
      by_cases ha : a = agentId
      · rw [ha]
        exact .inr hself
      · rcases h.existing a he with hf | hm
        · left
          show (m.files a).isSome
          rw [hfiles a ha]
          exact hf
        · exact .inr (List.mem_append_left _ hm)
  | false =>
    rw [if_neg Bool.false_ne_true]
    obtain ⟨hevents, hupdater⟩ := h.unwatched hw
    refine ⟨?_, ?_, ?_, ?_, ?_⟩
    · intro a cached hc
      left
      dsimp only at hc
      rw [hcache] at hc
      by_cases ha : a = agentId
      · subst ha
        exact hunwatched hw cached (.inl hc)
      · rcases h.cached a cached hc with hfresh | hn
        · exact fresh_of_files hfresh (hfiles a ha)
        · exact absurd hn (h.not_noticed hw a)
    · intro a cached hp
      by_cases ha : a = agentId
      · subst ha
        exact hunwatched hw cached (.inr hp)
      · exact fresh_of_files (h.pending a cached hp) (hfiles a ha)
    · intro _
      exact ⟨hevents, hupdater⟩
    · intro a cached hr
      have hr' : s.updater = .read a cached := hr
      rw [hupdater] at hr'
      cases hr'
    · intro a he
      have he' : s.updater = .existing a := he
      rw [hupdater] at he'
      cases he'

theorem CacheInvariant.cached_set (h : s.CacheInvariant codecs) {agentId : String}
    {cached : CachedAgentConfig}
    (hentry : s.manager.Fresh codecs agentId cached ∨ s.Noticed agentId) :
    ∀ a entry, (s.manager.setCache agentId (some cached)).configCache a = some entry →
      s.manager.Fresh codecs a entry ∨ s.Noticed a := by
  intro a entry hc
  unfold ConfigManager.setCache at hc
  dsimp only at hc
  by_cases ha : a = agentId
  · subst ha
    rw [Function.update_self] at hc
    obtain rfl := Option.some.inj hc
    exact hentry
  · rw [Function.update_of_ne ha] at hc
    exact h.cached a entry hc

theorem CacheInvariant.startup (h : s.CacheInvariant codecs) {startup : Startup}
    (hw : s.startup.watches = false)
    (hp : ∀ a cached, startup.pending = some (a, cached) → s.manager.Fresh codecs a cached) :
    CacheInvariant codecs { s with startup := startup } :=
  ⟨h.cached, hp, fun _ => h.unwatched hw, h.read, h.existing⟩

/-- What the updater does when it keeps the report it works on. -/
theorem CacheInvariant.updater (h : s.CacheInvariant codecs) {updater : Updater}
    (hw : s.startup.watches = true) (ha : updater.agentId = s.updater.agentId)
    (hread : ∀ a cached, updater = .read a cached → s.manager.Fresh codecs a cached)
    (hexisting : ∀ a, updater = .existing a → (s.manager.files a).isSome) :
    CacheInvariant codecs { s with updater := updater } where
  cached := by
    intro a cached hc
    rcases h.cached a cached hc with hfresh | hm | hu
    · exact .inl hfresh
    · exact .inr (.inl hm)
    · exact .inr (.inr (ha.trans hu))
  pending := h.pending
  unwatched := by
    intro hw'
    have hw'' : s.startup.watches = false := hw'
    rw [hw] at hw''
    cases hw''
  read := fun a cached hr => .inl (hread a cached hr)
  existing := fun a he => .inl (hexisting a he)

/-- What the updater does when it has finished with a report. -/
theorem CacheInvariant.finished (h : s.CacheInvariant codecs) (agentId : String)
    {cache : String → Option CachedAgentConfig} (hagent : s.updater.agentId = some agentId)
    (hself : ∀ cached, cache agentId = some cached →
      s.manager.Fresh codecs agentId cached ∨ agentId ∈ s.events)
    (hother : ∀ a, a ≠ agentId → cache a = s.manager.configCache a) :
    CacheInvariant codecs
      { s with manager := { s.manager with configCache := cache }, updater := .idle } where
  cached := by
    intro a cached hc
    by_cases ha : a = agentId
    · subst ha
      rcases hself cached hc with hfresh | hm
      · exact .inl hfresh
      · exact .inr (.inl hm)
    · have hc' : s.manager.configCache a = some cached := (hother a ha).symm.trans hc
      rcases h.cached a cached hc' with hfresh | hm | hu
      · exact .inl hfresh
      · exact .inr (.inl hm)
      · rw [hagent] at hu
        exact absurd (Option.some.inj hu).symm ha
  pending := h.pending
  unwatched := fun hw => ⟨(h.unwatched hw).1, rfl⟩
  read := by
    intro a cached hr
    cases hr
  existing := by
    intro a he
    cases he

theorem CacheInvariant.watches_of_updater (h : s.CacheInvariant codecs) {agentId : String}
    (hagent : s.updater.agentId = some agentId) : s.startup.watches = true := by
  by_contra hw
  rw [Bool.not_eq_true] at hw
  rw [(h.unwatched hw).2] at hagent
  cases hagent

theorem CacheInvariant.receive (h : s.CacheInvariant codecs)
    (hs : s.next codecs .receive = some s') : s'.CacheInvariant codecs := by
  dsimp only [next] at hs
  split at hs
  · next agentId events hu he =>
    obtain rfl := Option.some.inj hs
    refine ⟨?_, h.pending, ?_, ?_, ?_⟩
    · intro b cached hc
      rcases h.cached b cached hc with hfresh | hm | hu'
      · exact .inl hfresh
      · rw [he] at hm
        rcases List.mem_cons.1 hm with rfl | hm
        · exact .inr (.inr rfl)
        · exact .inr (.inl hm)
      · rw [hu] at hu'
        cases hu'
    · intro hw
      have := (h.unwatched hw).1
      rw [he] at this
      cases this
    · intro b cached hr
      cases hr
    · intro b hb
      cases hb
  · cases hs

theorem CacheInvariant.updaterExists (h : s.CacheInvariant codecs) {found : Bool}
    (hs : s.next codecs (.updaterExists found) = some s') : s'.CacheInvariant codecs := by
  dsimp only [next] at hs
  split at hs
  · next agentId hu =>
    have hagent : s.updater.agentId = some agentId := by
      rw [hu]
      rfl
    have hw : s.startup.watches = true := h.watches_of_updater hagent
    split at hs
    · split at hs
      · next hf =>
        obtain rfl := Option.some.inj hs
        apply h.updater hw
        · rw [hu]
          rfl
        · intro b cached hr
          cases hr
        · intro b hb
          obtain rfl := Updater.existing.inj hb
          exact hf
      · cases hs
    · obtain rfl := Option.some.inj hs
      apply h.updater hw
      · rw [hu]
        rfl
      · intro b cached hr
        cases hr
      · intro b hb
        cases hb
  · cases hs

theorem CacheInvariant.updaterRead (h : s.CacheInvariant codecs) {fails : Bool}
    (hg : s.Guarded codecs (.updaterRead fails))
    (hs : s.next codecs (.updaterRead fails) = some s') : s'.CacheInvariant codecs := by
  dsimp only [next] at hs
  split at hs
  · next agentId hu =>
    have hagent : s.updater.agentId = some agentId := by
      rw [hu]
      rfl
    split at hs
    · next cached hread =>
      obtain rfl := Option.some.inj hs
      apply h.updater (h.watches_of_updater hagent)
      · rw [hu]
        rfl
      · intro b entry hr
        obtain ⟨rfl, rfl⟩ := Updater.read.inj hr
        exact fresh_of_read hread
      · intro b hb
        cases hb
    · next hread =>
      obtain rfl := Option.some.inj hs
      apply h.finished agentId hagent
      · intro cached hc
        unfold ConfigManager.readFile at hread
        cases fails with
        | true =>
          rcases hg rfl agentId hu with hfresh | hm
          · exact .inl (hfresh cached hc)
          · exact .inr hm
        | false =>
          -- the file is gone since the updater has seen it
          have hgone : s.manager.files agentId = none := Option.map_eq_none_iff.1 hread
          rcases h.existing agentId hu with hf | hm
          · rw [hgone] at hf
            cases hf
          · exact .inr hm
      · exact fun _ _ => rfl
  · cases hs

theorem CacheInvariant.updaterCache (h : s.CacheInvariant codecs)
    (hs : s.next codecs .updaterCache = some s') : s'.CacheInvariant codecs := by
  dsimp only [next] at hs
  split at hs
  · next agentId cached hu =>
    obtain rfl := Option.some.inj hs
    apply h.finished agentId
    · rw [hu]
      rfl
    · intro entry hc
      rw [Function.update_self] at hc
      obtain rfl := Option.some.inj hc
      exact h.read agentId cached hu
    · intro b hb
      exact Function.update_of_ne hb _ _
  · next agentId hu =>
    obtain rfl := Option.some.inj hs
    apply h.finished agentId
    · rw [hu]
      rfl
    · intro entry hc
      rw [Function.update_self] at hc
      cases hc
    · intro b hb
      exact Function.update_of_ne hb _ _
  · cases hs

/-- **A guarded step keeps the invariant.** -/
theorem next_invariant {a : CacheAction} (h : s.CacheInvariant codecs) (hg : s.Guarded codecs a)
    (hs : s.next codecs a = some s') : s'.CacheInvariant codecs := by
  cases a with
  | writeFile agentId content =>
    obtain rfl := Option.some.inj hs
    apply h.changed
    · rfl
    · intro b hb
      exact Function.update_of_ne hb _ _
    · intro hw cached hc
      exact ⟨content, Function.update_self _ _ _, hg hw cached hc⟩
  | removeFile agentId =>
    obtain rfl := Option.some.inj hs
    apply h.changed
    · rfl
    · intro b hb
      exact Function.update_of_ne hb _ _
    · rintro hw cached (hc | hp)
      · exact absurd hc (hg hw cached).1
      · exact absurd hp (hg hw cached).2
  | notify agentId =>
    obtain rfl := Option.some.inj hs
    apply h.changed
    · rfl
    · exact fun _ _ => rfl
    · rintro hw cached (hc | hp)
      · rcases h.cached agentId cached hc with hfresh | hn
        · exact hfresh
        · exact absurd hn (h.not_noticed hw agentId)
      · exact h.pending agentId cached hp
  | beginLoad | endLoad | skipLoad | startConfigWatcher =>
    dsimp only [next] at hs
    split at hs
    · next hst =>
      obtain rfl := Option.some.inj hs
      apply h.startup
      · rw [hst]
        rfl
      · intro b cached hp
        cases hp
    · cases hs
  | loadFile agentId fails =>
    dsimp only [next] at hs
    split at hs
    · next hst =>
      obtain rfl := Option.some.inj hs
      apply h.startup
      · rw [hst]
        rfl
      · intro b cached hp
        obtain ⟨entry, hread, hpair⟩ := Option.map_eq_some_iff.1 hp
        obtain ⟨rfl, rfl⟩ := Prod.mk.inj hpair
        exact fresh_of_read hread
    · cases hs
  | cacheFile =>
    dsimp only [next] at hs
    split at hs
    · next agentId cached hst =>
      obtain rfl := Option.some.inj hs
      have hfresh : s.manager.Fresh codecs agentId cached := by
        apply h.pending
        rw [hst]
        rfl
      have hw : s.startup.watches = false := by
        rw [hst]
        rfl
      refine ⟨h.cached_set (.inl hfresh), ?_, fun _ => h.unwatched hw, h.read, h.existing⟩
      intro b entry hp
      cases hp
    · cases hs
  | receive => exact h.receive hs
  | updaterExists found => exact h.updaterExists hs
  | updaterRead fails => exact h.updaterRead hg hs
  | updaterCache => exact h.updaterCache hs
  | callCache i =>
    dsimp only [next] at hs
    split at hs
    · next agentId cached hcall =>
      split at hs
      · cases hs
      · obtain rfl := Option.some.inj hs
        exact ⟨h.cached_set (hg agentId cached hcall), h.pending, h.unwatched, h.read, h.existing⟩
    · cases hs
  | call agentId =>
    obtain rfl := Option.some.inj hs
    exact ⟨h.cached, h.pending, h.unwatched, h.read, h.existing⟩
  | _ =>
    dsimp only [next] at hs
    repeat' split at hs
    all_goals
      first
      | cases hs; done
      | obtain rfl := Option.some.inj hs
        exact ⟨h.cached, h.pending, h.unwatched, h.read, h.existing⟩

/-- The invariant gives coherence where nothing is under way. -/
theorem CacheInvariant.coherent (h : s.CacheInvariant codecs) (hq : s.Quiet) :
    s.Coherent codecs := by
  intro a cached hc
  rcases h.cached a cached hc with ⟨content, hf, rfl⟩ | hm | hu
  · exact ⟨content, hf, rfl, rfl⟩
  · rw [hq.events] at hm
    cases hm
  · rw [hq.updater] at hu
    cases hu

/-! ## Steps in a row -/

/-- The steps of the updater on one report. -/
def updaterRound (found : Bool) : List CacheAction :=
  [.receive, .updaterExists found] ++ (if found then [.updaterRead false] else []) ++
    [.updaterCache]

/-- One after the other, the steps of the updater are `updateCache`. -/
theorem next_updateCache {agentId : String} {events : List String} (hu : s.updater = .idle)
    (he : s.events = agentId :: events) :
    (updaterRound (s.manager.files agentId).isSome).foldlM (next codecs) s =
      some { s with manager := s.manager.updateCache codecs agentId, events := events } := by
  have hs : s = ⟨s.manager, s.startup, agentId :: events, .idle, s.calls⟩ := by
    rw [← hu, ← he]
  rw [hs]
  unfold updaterRound ConfigManager.updateCache
  cases hf : s.manager.files agentId with
  | none => simp [next, ConfigManager.setCache]
  | some content => simp [next, ConfigManager.readFile, ConfigManager.setCache, hf]

/-- The steps of call `i`. -/
def callRound (i : Nat) (agentId : String) (cached found : Bool) : List CacheAction :=
  [.call agentId, .callCheck i] ++
    if cached then []
    else .callExists i found :: if found then [.callRead i false, .callCache i] else []

/-- One after the other, the steps of a call are `getAgentConfig`. -/
theorem next_getAgentConfig (agentId : String) (hl : s.startup.locked = false) :
    (callRound s.calls.length agentId (s.manager.configCache agentId).isSome
        (s.manager.files agentId).isSome).foldlM (next codecs) s =
      some { s with manager := (s.manager.getAgentConfig codecs agentId).2 } := by
  have hlast : ∀ call, (s.calls ++ [call]).eraseIdx s.calls.length = s.calls := by
    intro call
    rw [List.eraseIdx_append_of_length_le (Nat.le_refl _), Nat.sub_self]
    exact List.append_nil _
  unfold callRound ConfigManager.getAgentConfig
  cases hc : s.manager.configCache agentId with
  | some cached => simp [next, hl, hc, hlast]
  | none =>
    cases hf : s.manager.files agentId with
    | none => simp [next, hl, hc, hlast]
    | some content =>
      simp [next, hl, hc, hf, hlast, ConfigManager.readFile, ConfigManager.setCache]

end CacheSystem

/-! ## Results -/

/-- **When the cache is coherent**: after a run whose steps are all guarded, if the watcher runs, no
report waits and no call is in progress, the cache holds what the files hold. -/
theorem coherent_of_guarded {codecs : Codecs} {files : String → Option String}
    {tr : List (Taken CacheSystem CacheAction Unit)} {s : CacheSystem}
    (hr : Run (cacheMachine codecs files) tr s)
    (hg : ∀ t ∈ tr, t.pre.Guarded codecs t.label) (hq : s.Quiet) : s.Coherent codecs := by
  have hinit : (cacheMachine codecs files).init.CacheInvariant codecs := by
    refine ⟨?_, ?_, fun _ => ⟨rfl, rfl⟩, ?_, ?_⟩
    · intro a cached hc
      cases hc
    · intro a cached hp
      cases hp
    · intro a cached hread
      cases hread
    · intro a he
      cases he
  have hstep : ∀ s a s' b, s.CacheInvariant codecs → s.Guarded codecs a →
      (cacheMachine codecs files).step s a = some (s', b) → s'.CacheInvariant codecs ∧ True := by
    intro s a s' b h hga hs
    obtain ⟨s₁, hs₁, he⟩ := Option.map_eq_some_iff.1 hs
    obtain ⟨rfl, -⟩ := Prod.mk.inj he
    exact ⟨CacheSystem.next_invariant h hga hs₁, trivial⟩
  have hinv := (Run.guarded (P := fun _ => True) hinit hstep hr hg).1
  exact hinv.coherent hq

/-! ## A call that is overtaken -/

/-- Codecs that leave a text as it is. -/
def identityCodecs : Codecs where
  base64Encode := fun _ => ""
  base64Decode := fun _ => .ok []
  gzip := utf8
  gunzip := fun _ => .ok ""
  blake3 := id
  tomlTasks := fun _ => .ok ⟨[]⟩

def watchingEmpty : List CacheAction := [.beginLoad, .endLoad, .startConfigWatcher]

/-- A file is written and its report worked on. -/
def reportedWrite (content : String) : List CacheAction :=
  .writeFile "agent1" content :: CacheSystem.updaterRound true

/-- A call misses the cache and reads the file; before it caches what it has read the file is written
again, and both reports are worked on. -/
def overtakenCall : List CacheAction :=
  watchingEmpty ++ [.writeFile "agent1" "old", .call "agent1", .callCheck 0, .callExists 0 true,
    .callRead 0 false, .writeFile "agent1" "new"] ++ CacheSystem.updaterRound true ++
    CacheSystem.updaterRound true ++ [.callCache 0]

def exampleCacheMachine : Machine CacheSystem CacheAction Unit :=
  cacheMachine identityCodecs fun _ => none

/-- What the agent's file and its cache entry are after these steps, if nothing is under way. -/
def endsWith (actions : List CacheAction) : Option (Option String × Option String) :=
  (exampleCacheMachine.exec actions).bind fun r =>
    match r.2.startup, r.2.events, r.2.updater, r.2.calls with
    | .watching, [], .idle, [] =>
      some (r.2.manager.files "agent1",
        (r.2.manager.configCache "agent1").map CachedAgentConfig.content)
    | _, _, _, _ => none

/-- A step for which its kind says that it is guarded: the watcher runs, no read of the updater
fails, and no call caches anything. -/
def calm (s : CacheSystem) : CacheAction → Bool
  | .writeFile _ _ => s.startup.watches
  | .removeFile _ => s.startup.watches
  | .callCache _ => false
  | .updaterRead fails => !fails
  | _ => true

theorem guarded_of_calm {codecs : Codecs} {s : CacheSystem} {a : CacheAction}
    (h : calm s a = true) : s.Guarded codecs a := by
  cases a with
  | writeFile agentId content =>
    intro hw
    have hw' : s.startup.watches = true := h
    rw [hw] at hw'
    cases hw'
  | removeFile agentId =>
    intro hw
    have hw' : s.startup.watches = true := h
    rw [hw] at hw'
    cases hw'
  | callCache i => cases h
  | updaterRead fails =>
    intro hf
    rw [hf] at h
    cases h
  | _ => trivial

theorem exists_quiet (actions : List CacheAction) (r : Option String × Option String)
    (h : endsWith actions = some r) :
    ∃ tr s, exampleCacheMachine.exec actions = some (tr, s) ∧ Run exampleCacheMachine tr s ∧
      s.Quiet ∧ s.manager.files "agent1" = r.1 ∧
      (s.manager.configCache "agent1").map CachedAgentConfig.content = r.2 := by
  obtain ⟨⟨tr, s⟩, he, h⟩ := Option.bind_eq_some_iff.1 h
  dsimp only at h
  split at h
  · next hstartup hevents hupdater hcalls =>
    obtain rfl := Option.some.inj h
    exact ⟨tr, s, he, .of_exec he, ⟨hstartup, hevents, hupdater, hcalls⟩, rfl, rfl⟩
  · cases h

/-- Two writes, each reported, and a call that finds the entry of the second. -/
theorem coherent_of_guarded_reported :
    ∃ tr s, Run exampleCacheMachine tr s ∧ s.manager.files "agent1" = some "new" ∧ s.Quiet ∧
      s.Coherent identityCodecs := by
  let actions := watchingEmpty ++ reportedWrite "old" ++ reportedWrite "new" ++
    [.call "agent1", .callCheck 0]
  obtain ⟨tr, s, he, hr, hq, hfile, -⟩ :=
    exists_quiet actions (some "new", some "new") (by rfl)
  have hcalm : (exampleCacheMachine.exec actions).map
      (fun r => r.1.all fun t => calm t.pre t.label) = some true := by rfl
  rw [he] at hcalm
  have hall := List.all_eq_true.1 (Option.some.inj hcalm)
  exact ⟨tr, s, hr, hfile, hq,
    coherent_of_guarded hr (fun t ht => guarded_of_calm (hall t ht)) hq⟩

/-- The call leaves the old content in the cache, and nothing is under way that would replace it. -/
theorem not_coherent_overtaken :
    ∃ tr s, Run exampleCacheMachine tr s ∧ s.Quiet ∧ ¬ s.Coherent identityCodecs := by
  obtain ⟨tr, s, -, hr, hq, hfile, hcache⟩ :=
    exists_quiet overtakenCall (some "new", some "old") (by rfl)
  refine ⟨tr, s, hr, hq, ?_⟩
  intro h
  obtain ⟨cached, hc, hold⟩ := Option.map_eq_some_iff.1 hcache
  obtain ⟨content, hf, hcontent, -⟩ := h "agent1" cached hc
  rw [hfile] at hf
  obtain rfl := Option.some.inj hf
  rw [hold] at hcontent
  exact absurd hcontent (by decide)

end LinkSense
