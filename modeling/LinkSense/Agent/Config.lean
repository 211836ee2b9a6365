import LinkSense.Shared.Utils

/-!
# The agent's configuration files

`ConfigManager` of `agent/src/config.rs`, as far as the tasks file goes: the file itself and the
tasks that were loaded from it.  The file is read each time its hash is asked for; the loaded
tasks change with `load_config` only.  What becomes of `agent.toml` is given from outside.

    m.updateTasksConfig … new … = (m', .ok ()) → m' has the file new and its tasks
                                                                       (updateTasksConfig_ok)
    m.updateTasksConfig … new … = (m', .error e) → m' has the tasks of m   (updateTasksConfig_error)
-/

namespace LinkSense

/-! ## Files and loaded tasks -/

structure AgentConfigManager where
  configDir : String
  /-- The content of `tasks.toml`, when there is one. -/
  tasksToml : Option String
  tasksConfig : TasksConfig
deriving DecidableEq, Repr

/-- What can go wrong on disk while an update is written. -/
inductive WriteFault where
  | createDir
  | backup (timestamp : Nat)
  /-- The new content is not written, and this is left in the file. -/
  | write (left : Option String)
deriving DecidableEq, Repr

namespace AgentConfigManager

def tasksPath (m : AgentConfigManager) : String := m.configDir ++ "/tasks.toml"

/-! ## Operations -/

/-- The second half of `load_config`: read, parse and validate the tasks file. -/
def loadTasks (codecs : Codecs) (env : Externals) (m : AgentConfigManager) :
    Except String TasksConfig :=
  match m.tasksToml with
  | none => .error s!"Failed to read {m.tasksPath}"
  | some content =>
    match codecs.tomlTasks content with
    | .error _ =>
      .error s!"Failed to parse {m.tasksPath} - TOML syntax error in tasks configuration file"
    | .ok config =>
      match config.validate env with
      | .error _ => .error s!"Validation failed for tasks configuration in {m.tasksPath}"
      | .ok () => .ok config

/-- `load_config`. -/
def loadConfig (codecs : Codecs) (env : Externals) (agentToml : Except String Unit)
    (m : AgentConfigManager) : Except String AgentConfigManager :=
  match agentToml with
  | .error e => .error e
  | .ok () =>
    match m.loadTasks codecs env with
    | .error e => .error e
    | .ok config => .ok { m with tasksConfig := config }

/-- `get_tasks_config_hash`. -/
def getTasksConfigHash (codecs : Codecs) (m : AgentConfigManager) : Except String String :=
  match m.tasksToml with
  | none => .error "tasks.toml not found"
  | some content => .ok (codecs.blake3 content)

/-- `get_tasks_config_content`. -/
def getTasksConfigContent (m : AgentConfigManager) : Except String String :=
  match m.tasksToml with
  | none => .error "tasks.toml not found"
  | some content => .ok content

/-- `update_tasks_config` up to its `load_config`: parse, back up, write. -/
def writeTasks (codecs : Codecs) (fault : Option WriteFault) (m : AgentConfigManager)
    (newTasksToml : String) : AgentConfigManager × Except String Unit :=
  match codecs.tomlTasks newTasksToml with
  | .error _ => (m, .error "New tasks.toml content is not valid TOML")
  | .ok _ =>
    match fault with
    | some .createDir =>
      (m, .error s!"Failed to create previous_configs directory: {m.configDir}/previous_configs")
    | some (.backup timestamp) =>
      (m, .error s!"Failed to backup current tasks.toml to {m.configDir}/previous_configs/tasks.toml.{timestamp}")
    | some (.write left) =>
      ({ m with tasksToml := left }, .error s!"Failed to write new tasks.toml to {m.tasksPath}")
    | none => ({ m with tasksToml := some newTasksToml }, .ok ())

/-- `update_tasks_config`. -/
def updateTasksConfig (codecs : Codecs) (env : Externals) (fault : Option WriteFault)
    (agentToml : Except String Unit) (m : AgentConfigManager) (newTasksToml : String) :
    AgentConfigManager × Except String Unit :=
  match m.writeTasks codecs fault newTasksToml with
  | (m, .error e) => (m, .error e)
  | (m, .ok ()) =>
    match m.loadConfig codecs env agentToml with
    | .error e => (m, .error e)
    | .ok m => (m, .ok ())

/-! ## Lemmas -/

/-- The file is one that `load_config` accepts, with these tasks. -/
def Holds (codecs : Codecs) (env : Externals) (m : AgentConfigManager) (config : TasksConfig) :
    Prop :=
  ∃ content, m.tasksToml = some content ∧ codecs.tomlTasks content = .ok config ∧
    config.validate env = .ok ()

theorem loadTasks_eq_ok_iff {codecs : Codecs} {env : Externals} {m : AgentConfigManager}
    {config : TasksConfig} : m.loadTasks codecs env = .ok config ↔ m.Holds codecs env config := by
  unfold loadTasks Holds
  constructor
  · intro h
    split at h
    · cases h
    · next content hc =>
      split at h
      · cases h
      · next c hp =>
        split at h
        · cases h
        · next hv =>
          obtain rfl := Except.ok.inj h
          exact ⟨content, hc, hp, hv⟩
  · rintro ⟨content, hc, hp, hv⟩
    rw [hc]
    dsimp only
    rw [hp]
    dsimp only
    rw [hv]

theorem loadConfig_eq_ok {codecs : Codecs} {env : Externals} {agentToml : Except String Unit}
    {m m' : AgentConfigManager} (h : m.loadConfig codecs env agentToml = .ok m') :
    m'.tasksToml = m.tasksToml ∧ m.Holds codecs env m'.tasksConfig := by
  unfold loadConfig at h
  split at h
  · cases h
  · split at h
    · cases h
    · next config hl =>
      obtain rfl := Except.ok.inj h
      exact ⟨rfl, loadTasks_eq_ok_iff.1 hl⟩

/-- Writing leaves the loaded tasks alone. -/
theorem writeTasks_tasksConfig (codecs : Codecs) (fault : Option WriteFault)
    (m : AgentConfigManager) (newTasksToml : String) :
    (m.writeTasks codecs fault newTasksToml).1.tasksConfig = m.tasksConfig := by
  unfold writeTasks
  repeat' split
  all_goals rfl

theorem writeTasks_eq_ok {codecs : Codecs} {fault : Option WriteFault}
    {m m' : AgentConfigManager} {newTasksToml : String}
    (h : m.writeTasks codecs fault newTasksToml = (m', .ok ())) :
    m'.tasksToml = some newTasksToml := by
  unfold writeTasks at h
  repeat' split at h
  all_goals cases h
  rfl

/-- **After an update** the file is the new one, and the tasks are what it says. -/
theorem updateTasksConfig_ok {codecs : Codecs} {env : Externals} {fault : Option WriteFault}
    {agentToml : Except String Unit} {m m' : AgentConfigManager} {newTasksToml : String}
    (h : m.updateTasksConfig codecs env fault agentToml newTasksToml = (m', .ok ())) :
    m'.tasksToml = some newTasksToml ∧ m'.Holds codecs env m'.tasksConfig := by
  unfold updateTasksConfig at h
  split at h
  · cases h
  · next m₁ hw =>
    split at h
    · cases h
    · next m₂ hl =>
      cases h
      obtain ⟨hfile, hholds⟩ := loadConfig_eq_ok hl
      have hnew : m'.tasksToml = some newTasksToml := hfile.trans (writeTasks_eq_ok hw)
      refine ⟨hnew, ?_⟩
      unfold Holds
      rw [hfile]
      exact hholds

/-- **A failed update** keeps the tasks, whatever the file says by then. -/
theorem updateTasksConfig_error {codecs : Codecs} {env : Externals} {fault : Option WriteFault}
    {agentToml : Except String Unit} {m m' : AgentConfigManager} {newTasksToml e : String}
    (h : m.updateTasksConfig codecs env fault agentToml newTasksToml = (m', .error e)) :
    m'.tasksConfig = m.tasksConfig := by
  have hkeep := m.writeTasks_tasksConfig codecs fault newTasksToml
  unfold updateTasksConfig at h
  split at h
  · next hw =>
    rw [hw] at hkeep
    cases h
    exact hkeep
  · next hw =>
    rw [hw] at hkeep
    split at h
    · cases h
      exact hkeep
    · cases h

/-- The file is replaced before its content is validated: content that parses and does not
validate stays in the file, though it was refused. -/
theorem updateTasksConfig_of_invalid {codecs : Codecs} {env : Externals}
    {agentToml : Except String Unit} {m : AgentConfigManager} {newTasksToml e : String}
    {config : TasksConfig} (hparse : codecs.tomlTasks newTasksToml = .ok config)
    (hinvalid : config.validate env = .error e) :
    ∃ e', m.updateTasksConfig codecs env none agentToml newTasksToml =
      ({ m with tasksToml := some newTasksToml }, .error e') := by
  unfold updateTasksConfig writeTasks
  rw [hparse]
  dsimp only
  cases hl : loadConfig codecs env agentToml { m with tasksToml := some newTasksToml } with
  | error e' => exact ⟨e', rfl⟩
  | ok m' =>
    obtain ⟨-, content, hc, hp, hv⟩ := loadConfig_eq_ok hl
    obtain rfl := Option.some.inj hc
    rw [hparse] at hp
    rw [← Except.ok.inj hp, hinvalid] at hv
    cases hv

end AgentConfigManager

end LinkSense
