import LinkSense.Shared.Utils

/-!
# Change detection

`load_config` and `reload_config` of `agent/src/config.rs` with the checksum of both files.
`calculate_checksum` feeds one file after the other into a hash, without a mark between them.

    the checksum of what was loaded last is kept    (loadConfig_loadedFrom, reloadConfig_loadedFrom)
    every change from one pair of files to another is seen ↔ the bytes of both files in a row
      change, or those of agent.toml are as many as before                     (seesChange_iff)
-/

namespace LinkSense

/-! ## Checksums -/

/-- `calculate_checksum`, for the hash of a byte string as text. -/
def calculateChecksum (blake3 : List UInt8 → String) (agentToml tasksToml : String) : String :=
  blake3 (utf8 agentToml ++ utf8 tasksToml)

/-- The two files, or why they cannot be read. -/
structure ConfigFiles where
  agentToml : Except String String
  tasksToml : Except String String
deriving DecidableEq

structure ConfigReaders where
  blake3 : List UInt8 → String
  tomlAgent : String → Except String AgentConfig
  tomlTasks : String → Except String TasksConfig
  env : Externals

/-- `ConfigManager` with all that it has loaded. -/
structure LoadedManager where
  configDir : String
  agentConfig : Option AgentConfig
  tasksConfig : Option TasksConfig
  currentChecksum : Option String
deriving DecidableEq, Repr

namespace LoadedManager

/-- `config_dir` has no separator at its end. -/
def agentPath (m : LoadedManager) : String := m.configDir ++ "/agent.toml"

def tasksPath (m : LoadedManager) : String := m.configDir ++ "/tasks.toml"

/-- `load_config`; an error is shown with its context only. -/
def loadConfig (r : ConfigReaders) (files : ConfigFiles) (m : LoadedManager) :
    Except String LoadedManager := do
  let agentToml ← files.agentToml.mapError fun _ => s!"Failed to read {m.agentPath}"
  let agentConfig ← (r.tomlAgent agentToml).mapError fun _ =>
    s!"Failed to parse {m.agentPath} - TOML syntax error in agent configuration file"
  (agentConfig.validate r.env).mapError fun _ =>
    s!"Validation failed for agent configuration in {m.agentPath}"
  let tasksToml ← files.tasksToml.mapError fun _ => s!"Failed to read {m.tasksPath}"
  let tasksConfig ← (r.tomlTasks tasksToml).mapError fun _ =>
    s!"Failed to parse {m.tasksPath} - TOML syntax error in tasks configuration file"
  (tasksConfig.validate r.env).mapError fun _ =>
    s!"Validation failed for tasks configuration in {m.tasksPath}"
  return { m with
    agentConfig := some agentConfig
    tasksConfig := some tasksConfig
    currentChecksum := some (calculateChecksum r.blake3 agentToml tasksToml) }

/-- The manager that `reload_config` changes to; `none` when it finds the files unchanged. -/
def changed (r : ConfigReaders) (files : ConfigFiles) (m : LoadedManager) :
    Except String (Option LoadedManager) := do
  let agentToml ← files.agentToml.mapError fun _ => s!"Failed to read {m.agentPath}"
  let tasksToml ← files.tasksToml.mapError fun _ => s!"Failed to read {m.tasksPath}"
  let newChecksum := calculateChecksum r.blake3 agentToml tasksToml
  if m.currentChecksum = some newChecksum then return none else
    let agentConfig ← (r.tomlAgent agentToml).mapError fun _ => s!"Failed to parse {m.agentPath}"
    (agentConfig.validate r.env).mapError fun _ =>
      s!"Invalid agent configuration in {m.agentPath}"
    let tasksConfig ← (r.tomlTasks tasksToml).mapError fun _ => s!"Failed to parse {m.tasksPath}"
    (tasksConfig.validate r.env).mapError fun _ =>
      s!"Invalid tasks configuration in {m.tasksPath}"
    return some { m with
      agentConfig := some agentConfig
      tasksConfig := some tasksConfig
      currentChecksum := some newChecksum }

/-- `reload_config`. -/
def reloadConfig (r : ConfigReaders) (files : ConfigFiles) (m : LoadedManager) :
    LoadedManager × Except String Bool :=
  match m.changed r files with
  | .error e => (m, .error e)
  | .ok none => (m, .ok false)
  | .ok (some m') => (m', .ok true)

/-- The checksum is that of these files, which were loaded last. -/
def LoadedFrom (r : ConfigReaders) (agentToml tasksToml : String) (m : LoadedManager) : Prop :=
  m.currentChecksum = some (calculateChecksum r.blake3 agentToml tasksToml)

/-- From the loaded files to these every change is seen: the checksums are equal exactly when the
files are, and a reload answers that nothing has changed only then. -/
structure SeesChange (r : ConfigReaders) (m : LoadedManager)
    (agentToml tasksToml agentToml' tasksToml' : String) : Prop where
  checksums : calculateChecksum r.blake3 agentToml tasksToml =
      calculateChecksum r.blake3 agentToml' tasksToml' ↔
    agentToml = agentToml' ∧ tasksToml = tasksToml'
  unchanged : (m.reloadConfig r ⟨.ok agentToml', .ok tasksToml'⟩).2 = .ok false →
    agentToml' = agentToml ∧ tasksToml' = tasksToml

/-! ## Lemmas -/

variable {r : ConfigReaders} {m m' : LoadedManager} {agentToml tasksToml : String}

theorem mapError_eq_ok {ε ε' α : Type} {f : ε → ε'} {x : Except ε α} {a : α}
    (h : x.mapError f = .ok a) : x = .ok a := by
  cases x with
  | error e => cases h
  | ok b => exact congrArg Except.ok (Except.ok.inj h)

theorem loadConfig_loadedFrom {files : ConfigFiles} (h : m.loadConfig r files = .ok m') :
    ∃ agentToml tasksToml, files = ⟨.ok agentToml, .ok tasksToml⟩ ∧
      m'.LoadedFrom r agentToml tasksToml := by
  obtain ⟨agentFile, tasksFile⟩ := files
  unfold loadConfig at h
  obtain ⟨agentToml, hagent, h⟩ := Except.bind_eq_ok h
  obtain ⟨agentConfig, -, h⟩ := Except.bind_eq_ok h
  obtain ⟨-, h⟩ := Except.seq_ok h
  obtain ⟨tasksToml, htasks, h⟩ := Except.bind_eq_ok h
  obtain ⟨tasksConfig, -, h⟩ := Except.bind_eq_ok h
  obtain ⟨-, h⟩ := Except.seq_ok h
  obtain rfl := Except.ok.inj h
  obtain rfl := mapError_eq_ok hagent
  obtain rfl := mapError_eq_ok htasks
  exact ⟨agentToml, tasksToml, rfl, rfl⟩

theorem changed_cases (r : ConfigReaders) (m : LoadedManager) (agentToml tasksToml : String) :
    (m.LoadedFrom r agentToml tasksToml ∧
      m.changed r ⟨.ok agentToml, .ok tasksToml⟩ = .ok none) ∨
    (¬ m.LoadedFrom r agentToml tasksToml ∧
      ∀ c, m.changed r ⟨.ok agentToml, .ok tasksToml⟩ = .ok c →
        ∃ m', c = some m' ∧ m'.LoadedFrom r agentToml tasksToml) := by
  by_cases h : m.LoadedFrom r agentToml tasksToml
  · exact .inl ⟨h, if_pos h⟩
  · refine .inr ⟨h, fun c hc => ?_⟩
    unfold changed at hc
    obtain ⟨_, ha, hc⟩ := Except.bind_eq_ok hc
    obtain rfl := Except.ok.inj ha
    obtain ⟨_, ht, hc⟩ := Except.bind_eq_ok hc
    obtain rfl := Except.ok.inj ht
    have hne : m.currentChecksum ≠ some (calculateChecksum r.blake3 agentToml tasksToml) := h
    dsimp only at hc
    rw [if_neg hne] at hc
    obtain ⟨agentConfig, -, hc⟩ := Except.bind_eq_ok hc
    obtain ⟨-, hc⟩ := Except.seq_ok hc
    obtain ⟨tasksConfig, -, hc⟩ := Except.bind_eq_ok hc
    obtain ⟨-, hc⟩ := Except.seq_ok hc
    exact ⟨_, (Except.ok.inj hc).symm, rfl⟩

/-- A reload finds the files unchanged exactly when they have the checksum that is kept. -/
theorem reloadConfig_unchanged_iff (r : ConfigReaders) (m : LoadedManager)
    (agentToml tasksToml : String) :
    (m.reloadConfig r ⟨.ok agentToml, .ok tasksToml⟩).2 = .ok false ↔
      m.LoadedFrom r agentToml tasksToml := by
  unfold reloadConfig
  rcases changed_cases r m agentToml tasksToml with ⟨h, hc⟩ | ⟨h, hc⟩
  · rw [hc]
    exact iff_of_true rfl h
  · cases hr : m.changed r ⟨.ok agentToml, .ok tasksToml⟩ with
    | error e => exact iff_of_false nofun h
    | ok c =>
      obtain ⟨m', rfl, -⟩ := hc c hr
      exact iff_of_false nofun h

/-- A reload that succeeds leaves the checksum of the files that it has read, and one that fails
leaves the manager alone. -/
theorem reloadConfig_loadedFrom (r : ConfigReaders) (m : LoadedManager)
    (agentToml tasksToml : String) :
    ((m.reloadConfig r ⟨.ok agentToml, .ok tasksToml⟩).2.isOk →
      (m.reloadConfig r ⟨.ok agentToml, .ok tasksToml⟩).1.LoadedFrom r agentToml tasksToml) ∧
    ((m.reloadConfig r ⟨.ok agentToml, .ok tasksToml⟩).2.isOk = false →
      (m.reloadConfig r ⟨.ok agentToml, .ok tasksToml⟩).1 = m) := by
  unfold reloadConfig
  rcases changed_cases r m agentToml tasksToml with ⟨h, hc⟩ | ⟨-, hc⟩
  · rw [hc]
    exact ⟨fun _ => h, fun _ => rfl⟩
  · cases hr : m.changed r ⟨.ok agentToml, .ok tasksToml⟩ with
    | error e => exact ⟨nofun, fun _ => rfl⟩
    | ok c =>
      obtain ⟨m', rfl, hm'⟩ := hc c hr
      exact ⟨fun _ => hm', nofun⟩

end LoadedManager

theorem utf8_injective : Function.Injective utf8 := by
  intro s t h
  exact String.toByteArray_inj.1 (ByteArray.ext (Array.toList_inj.1 h))

/-- Two texts in a row have the bytes of two others and the same cut when they are the same. -/
theorem utf8_append_inj_iff {a b a' b' : String} :
    (utf8 a ++ utf8 b = utf8 a' ++ utf8 b' ∧ (utf8 a).length = (utf8 a').length) ↔
      a = a' ∧ b = b' := by
  constructor
  · rintro ⟨happend, hlength⟩
    obtain ⟨ha, hb⟩ := List.append_inj happend hlength
    exact ⟨utf8_injective ha, utf8_injective hb⟩
  · rintro ⟨rfl, rfl⟩
    exact ⟨rfl, rfl⟩

/-! ## Top theorems -/

/-- **Exactly which changes are seen**: those of the bytes of both files in a row, and no change at
all; text that goes from one file to the other is not seen. -/
theorem seesChange_iff (r : ConfigReaders) (hhash : Function.Injective r.blake3)
    (m : LoadedManager) (agentToml tasksToml agentToml' tasksToml' : String)
    (hm : m.LoadedFrom r agentToml tasksToml) :
    m.SeesChange r agentToml tasksToml agentToml' tasksToml' ↔
      (utf8 agentToml).length = (utf8 agentToml').length ∨
        utf8 agentToml ++ utf8 tasksToml ≠ utf8 agentToml' ++ utf8 tasksToml' := by
  have hsum : calculateChecksum r.blake3 agentToml tasksToml =
      calculateChecksum r.blake3 agentToml' tasksToml' ↔
        utf8 agentToml ++ utf8 tasksToml = utf8 agentToml' ++ utf8 tasksToml' := hhash.eq_iff
  constructor
  · intro h
    by_cases happend : utf8 agentToml ++ utf8 tasksToml = utf8 agentToml' ++ utf8 tasksToml'
    · obtain ⟨rfl, -⟩ := h.checksums.1 (hsum.2 happend)
      exact .inl rfl
    · exact .inr happend
  · intro h
    have hfiles (happend : utf8 agentToml ++ utf8 tasksToml =
        utf8 agentToml' ++ utf8 tasksToml') : agentToml = agentToml' ∧ tasksToml = tasksToml' :=
      utf8_append_inj_iff.1 ⟨happend, h.resolve_right (not_not.2 happend)⟩
    refine ⟨⟨fun he => hfiles (hsum.1 he), ?_⟩, fun hr => ?_⟩
    · rintro ⟨rfl, rfl⟩
      rfl
    · have hm' := (LoadedManager.reloadConfig_unchanged_iff r m _ _).1 hr
      rw [LoadedManager.LoadedFrom, hm] at hm'
      obtain ⟨ha, ht⟩ := hfiles (hsum.1 (Option.some.inj hm'))
      exact ⟨ha.symm, ht.symm⟩

/-! ## A task that changes files -/

/-- A text that tells all the bytes. -/
def bytesText (bytes : List UInt8) : String := .ofList (bytes.map Char.ofUInt8)

theorem bytesText_injective : Function.Injective bytesText := by
  intro a b h
  have hchar : Function.Injective Char.ofUInt8 := fun x y hxy =>
    UInt8.toUInt32_inj.1 (congrArg Char.val hxy)
  exact List.map_injective_iff.2 hchar (String.ofList_injective h)

/-- The beginning of `agent.toml`, whose other settings have their defaults. -/
def agentText : String :=
  "agent_id = \"web-1\"\nlocal_data_retention_days = 30\nlocal_only = true\n"

def taskText (name : String) : String :=
  "[[tasks]]\ntype = \"ping\"\nname = \"" ++ name ++
    "\"\nschedule_seconds = 60\nhost = \"192.0.2.1\"\ntimeout_seconds = 5\n"

def pingTask (name : String) : TaskConfig := ⟨.ping, 60, name, none, .ping ⟨"192.0.2.1", 5, none⟩⟩

/-- Crates that know these files; a table that `agent.toml` has no use for is passed over. -/
def textReaders : ConfigReaders where
  blake3 := bytesText
  tomlAgent := fun content =>
    if content = agentText ∨ content = agentText ++ taskText "gateway" then
      .ok ⟨"web-1", "", "", 30, false, true, 5, 30, 50, 10, 3600, 86400, 50, 100, 30, 5, 30, 1000,
        3600⟩
    else .error "missing field agent_id"
  tomlTasks := fun content =>
    if content = taskText "gateway" ++ taskText "router" then
      .ok ⟨[pingTask "gateway", pingTask "router"]⟩
    else if content = taskText "router" then .ok ⟨[pingTask "router"]⟩
    else .error "missing field tasks"
  env := ⟨fun _ => .error "relative URL without a base", fun _ => .ok (), Char.isAlphanum⟩

/-- The manager after it has loaded both tasks. -/
def twoTasks : LoadedManager where
  configDir := "/etc/linksense"
  agentConfig := some ⟨"web-1", "", "", 30, false, true, 5, 30, 50, 10, 3600, 86400, 50, 100, 30, 5,
    30, 1000, 3600⟩
  tasksConfig := some ⟨[pingTask "gateway", pingTask "router"]⟩
  currentChecksum := some
    (calculateChecksum bytesText agentText (taskText "gateway" ++ taskText "router"))

/-- A task that is taken out of `tasks.toml` is missed. -/
theorem seesChange_removed :
    twoTasks.SeesChange textReaders agentText (taskText "gateway" ++ taskText "router") agentText
      (taskText "router") :=
  (seesChange_iff textReaders bytesText_injective twoTasks _ _ _ _ rfl).2 (.inl rfl)

/-- A task that goes from `tasks.toml` to the end of `agent.toml` is not: a reload finds the files
unchanged, though one task is left in them. -/
theorem not_seesChange_moved :
    (LoadedManager.loadConfig textReaders
      ⟨.ok agentText, .ok (taskText "gateway" ++ taskText "router")⟩
      ⟨"/etc/linksense", none, none, none⟩ = .ok twoTasks) ∧
    (textReaders.tomlTasks (taskText "router") = .ok ⟨[pingTask "router"]⟩) ∧
    twoTasks.reloadConfig textReaders
      ⟨.ok (agentText ++ taskText "gateway"), .ok (taskText "router")⟩ = (twoTasks, .ok false) ∧
    ¬ twoTasks.SeesChange textReaders agentText (taskText "gateway" ++ taskText "router")
      (agentText ++ taskText "gateway") (taskText "router") := by
  have hreload : twoTasks.reloadConfig textReaders
      ⟨.ok (agentText ++ taskText "gateway"), .ok (taskText "router")⟩ = (twoTasks, .ok false) := by
    decide +kernel
  refine ⟨by decide +kernel, by decide +kernel, hreload, fun h => ?_⟩
  have hsame := h.unchanged (congrArg Prod.snd hreload)
  exact absurd hsame.1 (by decide +kernel)

end LinkSense
