import LinkSense.Agent.Config
import LinkSense.Files
import LinkSense.Machine

/-!
# Updates of the agent's tasks file, with their backups

`update_tasks_config` of `agent/src/config.rs` with the folder `previous_configs` it copies the
old file to.  A backup is named after the second it is made in.  Each update comes with what
the disk makes of it: whether the folder can be made, how the copy and the write end, and
whether the files can be read back.

    on file and memory it is the `updateTasksConfig` of a manager alone   (updateTasksConfig_manager)
    an update is all or nothing ↔ it ends before the write, or its content validates and the
      write and the load go well, or the file is left with what was in it;
    its backup is kept ↔ no later update of the same second copies another content
                                                                              (allOrNothing_iff)
-/

namespace LinkSense

open Files Labelled

/-! ## The configuration folder -/

structure ConfigFolder where
  manager : AgentConfigManager
  /-- The files `tasks.toml.{timestamp}`, by their timestamps, when there is a folder. -/
  previousConfigs : Option (Folder Nat String)

/-- A call of `update_tasks_config`: its argument, and what it meets. -/
structure UpdateCall where
  newTasksToml : String
  /-- Seconds since the epoch, when the copy is named. -/
  timestamp : Nat
  createDirFails : Bool
  copy : Outcome String
  write : Outcome String
  /-- `agent.toml` as `load_config` finds it, or an error of reading the tasks file back. -/
  agentToml : Except String Unit

/-- What the write leaves in the file. -/
def UpdateCall.written (call : UpdateCall) (old : Option String) : Option String :=
  match call.write with
  | .done => some call.newTasksToml
  | .failed left => left.or old

namespace ConfigFolder

def backup (s : ConfigFolder) (timestamp : Nat) : Option String :=
  s.previousConfigs.bind fun folder => folder.lookup timestamp

/-! ## Operations -/

/-- The folder `previous_configs`, made when it is missing. -/
def ensurePrevious (call : UpdateCall) (s : ConfigFolder) : Option (Folder Nat String) :=
  match s.previousConfigs with
  | some folder => some folder
  | none => if call.createDirFails then none else some ∅

/-- Copy the current file, when there is one. -/
def backUp (call : UpdateCall) (s : ConfigFolder) : ConfigFolder × Except String Unit :=
  match s.ensurePrevious call with
  | none =>
    (s, .error s!"Failed to create previous_configs directory: {s.manager.configDir}/previous_configs")
  | some folder =>
    match s.manager.tasksToml with
    | none => ({ s with previousConfigs := some folder }, .ok ())
    | some current =>
      ({ s with previousConfigs := some (write call.copy call.timestamp current folder) },
        if call.copy.isDone then .ok ()
        else .error s!"Failed to backup current tasks.toml to {s.manager.configDir}/previous_configs/tasks.toml.{call.timestamp}")

/-- Write the new file. -/
def writeNew (call : UpdateCall) (s : ConfigFolder) : ConfigFolder × Except String Unit :=
  ({ s with manager := { s.manager with tasksToml := call.written s.manager.tasksToml } },
    if call.write.isDone then .ok ()
    else .error s!"Failed to write new tasks.toml to {s.manager.tasksPath}")

/-- The second half of `update_tasks_config`: write, and load what was written. -/
def writeAndLoad (codecs : Codecs) (env : Externals) (call : UpdateCall) (s : ConfigFolder) :
    ConfigFolder × Except String Unit :=
  match s.writeNew call with
  | (s, .error e) => (s, .error e)
  | (s, .ok ()) =>
    match s.manager.loadConfig codecs env call.agentToml with
    | .error e => (s, .error e)
    | .ok manager => ({ s with manager := manager }, .ok ())

/-- `update_tasks_config`. -/
def updateTasksConfig (codecs : Codecs) (env : Externals) (call : UpdateCall) (s : ConfigFolder) :
    ConfigFolder × Except String Unit :=
  match codecs.tomlTasks call.newTasksToml with
  | .error _ => (s, .error "New tasks.toml content is not valid TOML")
  | .ok _ =>
    match s.backUp call with
    | (s, .error e) => (s, .error e)
    | (s, .ok ()) => s.writeAndLoad codecs env call

/-- Any sequence of updates, at any times. -/
def updates (codecs : Codecs) (env : Externals) (first : ConfigFolder) :
    Machine ConfigFolder UpdateCall (Except String Unit) where
  init := first
  step s call := some (s.updateTasksConfig codecs env call)

end ConfigFolder

/-! ## What an update promises, and when -/

/-- After an error file and memory are as before; else both are new. -/
def AllOrNothing (codecs : Codecs) (x : Taken ConfigFolder UpdateCall (Except String Unit)) :
    Prop :=
  match x.answer with
  | .error _ =>
    x.post.manager.tasksToml = x.pre.manager.tasksToml ∧
      x.post.manager.tasksConfig = x.pre.manager.tasksConfig
  | .ok () =>
    x.post.manager.tasksToml = some x.label.newTasksToml ∧
      codecs.tomlTasks x.label.newTasksToml = .ok x.post.manager.tasksConfig

/-- The content that was replaced is in its backup. -/
def BackedUp (x : Taken ConfigFolder UpdateCall (Except String Unit)) (s : ConfigFolder) : Prop :=
  x.answer = .ok () → ∀ old, x.pre.manager.tasksToml = some old →
    s.backup x.label.timestamp = some old

namespace UpdateCall

/-- The folder is there, or can be made, and the copy succeeds. -/
def canBackUp (call : UpdateCall) (s : ConfigFolder) : Bool :=
  (s.ensurePrevious call).isSome && (s.manager.tasksToml.isNone || call.copy.isDone)

/-- The call comes to write the new file. -/
def comesToWrite (codecs : Codecs) (call : UpdateCall) (s : ConfigFolder) : Bool :=
  (codecs.tomlTasks call.newTasksToml).isOk && call.canBackUp s

/-- What is written can be loaded. -/
def loads (codecs : Codecs) (env : Externals) (call : UpdateCall) : Bool :=
  call.write.isDone && call.agentToml.isOk && (validateFromToml codecs env call.newTasksToml).isOk

def Safe (codecs : Codecs) (env : Externals) (call : UpdateCall) (s : ConfigFolder) : Prop :=
  call.comesToWrite codecs s = true →
    call.loads codecs env = true ∨ call.written s.manager.tasksToml = s.manager.tasksToml

/-- What the call leaves under its second in `previous_configs`, when it comes to copy. -/
def copied (codecs : Codecs) (call : UpdateCall) (s : ConfigFolder) : Option String :=
  if (codecs.tomlTasks call.newTasksToml).isOk && (s.ensurePrevious call).isSome then
    s.manager.tasksToml.bind fun current =>
      match call.copy with
      | .done => some current
      | .failed left => left
  else none

end UpdateCall

/-- The call does not replace the backup of the update `x` by something else. -/
def SparesBackup (codecs : Codecs) (env : Externals)
    (x : Taken ConfigFolder UpdateCall (Except String Unit)) (s : ConfigFolder)
    (call : UpdateCall) : Prop :=
  x.label.comesToWrite codecs x.pre = true → x.label.loads codecs env = true →
    call.timestamp = x.label.timestamp → ∀ old, x.pre.manager.tasksToml = some old →
      ∀ content, call.copied codecs s = some content → content = old

/-! ## Lemmas -/

namespace ConfigFolder

variable {codecs : Codecs} {env : Externals} {call : UpdateCall} {s : ConfigFolder}

theorem ensurePrevious_lookup {folder : Folder Nat String}
    (h : s.ensurePrevious call = some folder) (timestamp : Nat) :
    folder.lookup timestamp = s.backup timestamp := by
  unfold ensurePrevious at h
  unfold backup
  split at h
  · next hs =>
    rw [hs, ← Option.some.inj h]
    rfl
  · next hs =>
    split at h
    · cases h
    · rw [hs, ← Option.some.inj h]
      rfl

@[simp] theorem backUp_manager (call : UpdateCall) (s : ConfigFolder) :
    (s.backUp call).1.manager = s.manager := by
  unfold backUp
  repeat' split
  all_goals rfl

theorem backUp_ok_iff : (s.backUp call).2 = .ok () ↔ call.canBackUp s = true := by
  unfold backUp UpdateCall.canBackUp
  cases s.ensurePrevious call with
  | none => simp
  | some folder =>
    cases s.manager.tasksToml with
    | none => simp
    | some current => cases call.copy.isDone <;> simp

/-- A file that was just written is loaded when `agent.toml` is and its content validates. -/
theorem loadConfig_written (codecs : Codecs) (env : Externals) (m : AgentConfigManager)
    (agentToml : Except String Unit) (content : String) :
    (∃ config, codecs.tomlTasks content = .ok config ∧ agentToml.isOk = true ∧
        (validateFromToml codecs env content).isOk = true ∧
        { m with tasksToml := some content }.loadConfig codecs env agentToml =
          .ok { m with tasksToml := some content, tasksConfig := config }) ∨
      (agentToml.isOk && (validateFromToml codecs env content).isOk) = false ∧
        ∃ e, { m with tasksToml := some content }.loadConfig codecs env agentToml = .error e := by
  unfold AgentConfigManager.loadConfig AgentConfigManager.loadTasks validateFromToml
  cases agentToml with
  | error e => exact .inr ⟨rfl, e, rfl⟩
  | ok _ =>
    dsimp only
    cases hparse : codecs.tomlTasks content with
    | error e => exact .inr ⟨rfl, _, rfl⟩
    | ok config =>
      dsimp only
      cases hvalid : config.validate env with
      | error e => exact .inr ⟨rfl, _, rfl⟩
      | ok _ => exact .inl ⟨config, rfl, rfl, rfl, rfl⟩

theorem writeAndLoad_cases (codecs : Codecs) (env : Externals) (call : UpdateCall)
    (s : ConfigFolder) :
    (call.loads codecs env = false ∧ (∃ e, (s.writeAndLoad codecs env call).2 = .error e) ∧
        (s.writeAndLoad codecs env call).1.manager =
          { s.manager with tasksToml := call.written s.manager.tasksToml }) ∨
      (call.loads codecs env = true ∧ (s.writeAndLoad codecs env call).2 = .ok () ∧
        ∃ config, codecs.tomlTasks call.newTasksToml = .ok config ∧
          (s.writeAndLoad codecs env call).1.manager =
            { s.manager with tasksToml := some call.newTasksToml, tasksConfig := config }) := by
  unfold writeAndLoad writeNew UpdateCall.loads UpdateCall.written
  cases call.write with
  | failed left => exact .inl ⟨rfl, ⟨_, rfl⟩, rfl⟩
  | done =>
    simp only [Outcome.isDone, if_true, Bool.true_and]
    rcases loadConfig_written codecs env s.manager call.agentToml call.newTasksToml with
      ⟨config, hparse, hagent, hvalid, hload⟩ | ⟨hnot, e, hload⟩
    · rw [hload, hagent, hvalid]
      exact .inr ⟨rfl, rfl, config, hparse, rfl⟩
    · rw [hload]
      exact .inl ⟨hnot, ⟨e, rfl⟩, rfl⟩

/-- **What an update does** to the file and the memory: nothing, or it writes and fails to load, or
both are new. -/
theorem updateTasksConfig_cases (codecs : Codecs) (env : Externals) (call : UpdateCall)
    (s : ConfigFolder) :
    (call.comesToWrite codecs s = false ∧
        (∃ e, (s.updateTasksConfig codecs env call).2 = .error e) ∧
        (s.updateTasksConfig codecs env call).1.manager = s.manager) ∨
      (call.comesToWrite codecs s = true ∧ call.loads codecs env = false ∧
        (∃ e, (s.updateTasksConfig codecs env call).2 = .error e) ∧
        (s.updateTasksConfig codecs env call).1.manager =
          { s.manager with tasksToml := call.written s.manager.tasksToml }) ∨
      (call.comesToWrite codecs s = true ∧ call.loads codecs env = true ∧
        (s.updateTasksConfig codecs env call).2 = .ok () ∧
        ∃ config, codecs.tomlTasks call.newTasksToml = .ok config ∧
          (s.updateTasksConfig codecs env call).1.manager =
            { s.manager with tasksToml := some call.newTasksToml, tasksConfig := config }) := by
  have hbackUp : (s.backUp call).2 = .ok () ↔ call.canBackUp s = true := backUp_ok_iff
  have hmanager := backUp_manager call s
  unfold updateTasksConfig UpdateCall.comesToWrite
  cases hparse : codecs.tomlTasks call.newTasksToml with
  | error e => exact .inl ⟨rfl, ⟨_, rfl⟩, rfl⟩
  | ok config =>
    have hok : (Except.ok config : Except String TasksConfig).isOk = true := rfl
    rw [hok, Bool.true_and]
    dsimp only
    split
    · next s₁ e hb =>
      rw [hb] at hbackUp hmanager
      exact .inl ⟨by simpa using hbackUp, ⟨e, rfl⟩, hmanager⟩
    · next s₁ hb =>
      rw [hb] at hbackUp hmanager
      right
      rw [← hmanager]
      have hcan : call.canBackUp s = true := hbackUp.1 rfl
      rcases writeAndLoad_cases codecs env call s₁ with ⟨hl, he, hm⟩ | ⟨hl, he, config', hp, hm⟩
      · exact .inl ⟨hcan, hl, he, hm⟩
      · exact .inr ⟨hcan, hl, he, config', hparse.symm.trans hp, hm⟩

/-- A copy changes the backup of its own second only. -/
theorem backup_backUp (s : ConfigFolder)
    (hparse : (codecs.tomlTasks call.newTasksToml).isOk = true) (timestamp : Nat) :
    (s.backUp call).1.backup timestamp =
      if timestamp = call.timestamp then (call.copied codecs s).or (s.backup timestamp)
      else s.backup timestamp := by
  unfold backUp UpdateCall.copied
  rw [hparse]
  cases hfolder : s.ensurePrevious call with
  | none => simp
  | some folder =>
    have hlookup := ensurePrevious_lookup hfolder
    cases s.manager.tasksToml with
    | none => simpa [backup] using hlookup timestamp
    | some current =>
      show (write call.copy call.timestamp current folder).lookup timestamp = _
      split
      · next ht =>
        subst ht
        unfold write
        rcases call.copy with _ | (_ | left)
        · simp
        · simpa using hlookup call.timestamp
        · simp
      · next ht => rw [lookup_write_ne _ _ _ ht, hlookup timestamp]

@[simp] theorem writeAndLoad_previousConfigs (codecs : Codecs) (env : Externals)
    (call : UpdateCall) (s : ConfigFolder) :
    (s.writeAndLoad codecs env call).1.previousConfigs = s.previousConfigs := by
  unfold writeAndLoad writeNew
  cases call.write.isDone with
  | false => rfl
  | true =>
    rw [if_pos rfl]
    dsimp only
    split
    all_goals rfl

theorem backup_updateTasksConfig (codecs : Codecs) (env : Externals) (call : UpdateCall)
    (s : ConfigFolder) (timestamp : Nat) :
    (s.updateTasksConfig codecs env call).1.backup timestamp =
      if timestamp = call.timestamp then (call.copied codecs s).or (s.backup timestamp)
      else s.backup timestamp := by
  unfold updateTasksConfig
  cases hparse : codecs.tomlTasks call.newTasksToml with
  | error e =>
    have hnone : call.copied codecs s = none := by
      unfold UpdateCall.copied
      rw [hparse]
      rfl
    simp [hnone]
  | ok config =>
    have hparsed : (codecs.tomlTasks call.newTasksToml).isOk = true := by
      rw [hparse]
      rfl
    have hbackUp := backup_backUp s hparsed timestamp
    rw [← hbackUp]
    dsimp only
    split
    · next hb => rw [hb]
    · next hb =>
      rw [hb]
      unfold backup
      rw [writeAndLoad_previousConfigs]

/-! ## The manager alone -/

/-- What goes wrong with the write, as the manager alone sees it. -/
def writeFault (call : UpdateCall) (s : ConfigFolder) : Option WriteFault :=
  if call.write.isDone then none else some (.write (call.written s.manager.tasksToml))

/-- What goes wrong with the call. -/
def fault (call : UpdateCall) (s : ConfigFolder) : Option WriteFault :=
  if (s.ensurePrevious call).isNone then some .createDir
  else if s.manager.tasksToml.isSome && !call.copy.isDone then some (.backup call.timestamp)
  else s.writeFault call

theorem writeAndLoad_manager (env : Externals) {config : TasksConfig}
    (hparse : codecs.tomlTasks call.newTasksToml = .ok config) (s : ConfigFolder) :
    ((s.writeAndLoad codecs env call).1.manager, (s.writeAndLoad codecs env call).2) =
      s.manager.updateTasksConfig codecs env (s.writeFault call) call.agentToml
        call.newTasksToml := by
  unfold writeAndLoad AgentConfigManager.updateTasksConfig AgentConfigManager.writeTasks writeNew
    writeFault UpdateCall.written
  rw [hparse]
  cases call.write with
  | failed left => rfl
  | done =>
    simp only [Outcome.isDone, if_true]
    cases AgentConfigManager.loadConfig codecs env call.agentToml
      { s.manager with tasksToml := some call.newTasksToml } with
    | error e => rfl
    | ok m => rfl

/-- **The backups only watch**: file, memory and answer are those of the manager alone. -/
theorem updateTasksConfig_manager (codecs : Codecs) (env : Externals) (call : UpdateCall)
    (s : ConfigFolder) :
    ((s.updateTasksConfig codecs env call).1.manager, (s.updateTasksConfig codecs env call).2) =
      s.manager.updateTasksConfig codecs env (s.fault call) call.agentToml call.newTasksToml := by
  cases hparse : codecs.tomlTasks call.newTasksToml with
  | error e =>
    unfold updateTasksConfig AgentConfigManager.updateTasksConfig AgentConfigManager.writeTasks
    rw [hparse]
  | ok config =>
    have hrest := writeAndLoad_manager env hparse
    unfold updateTasksConfig backUp fault
    rw [hparse]
    cases s.ensurePrevious call with
    | none => simp [AgentConfigManager.updateTasksConfig, AgentConfigManager.writeTasks, hparse]
    | some folder =>
      cases hfile : s.manager.tasksToml with
      | none => exact hrest { s with previousConfigs := some folder }
      | some current =>
        cases call.copy.isDone with
        | true => exact hrest { s with
            previousConfigs := some (write call.copy call.timestamp current folder) }
        | false => simp [AgentConfigManager.updateTasksConfig, AgentConfigManager.writeTasks, hparse]

/-! ## Runs -/

theorem updateTasksConfig_ok_iff (codecs : Codecs) (env : Externals) (call : UpdateCall)
    (s : ConfigFolder) :
    (s.updateTasksConfig codecs env call).2 = .ok () ↔
      call.comesToWrite codecs s = true ∧ call.loads codecs env = true := by
  rcases updateTasksConfig_cases codecs env call s with ⟨hno, ⟨e, he⟩, -⟩ |
    ⟨-, hno, ⟨e, he⟩, -⟩ | ⟨hcomes, hloads, he, -⟩
  · simp [he, hno]
  · simp [he, hno]
  · simp [he, hcomes, hloads]

theorem allOrNothing_iff_safe {s' : ConfigFolder} {b : Except String Unit}
    (h : s.updateTasksConfig codecs env call = (s', b)) :
    AllOrNothing codecs ⟨s, call, b, s'⟩ ↔ call.Safe codecs env s := by
  have hcases := updateTasksConfig_cases codecs env call s
  rw [h] at hcases
  unfold AllOrNothing UpdateCall.Safe
  rcases hcases with ⟨hno, ⟨e, he⟩, hm⟩ | ⟨hcomes, hno, ⟨e, he⟩, hm⟩ |
    ⟨hcomes, hloads, he, config, hparse, hm⟩
  all_goals
    dsimp only at he hm ⊢
    subst he
  · simp [hno, hm]
  · simp [hcomes, hno, hm]
  · simp [hcomes, hloads, hm, hparse]

/-- A call that comes to write has copied the file. -/
theorem copied_of_comesToWrite {old : String} (hcomes : call.comesToWrite codecs s = true)
    (hold : s.manager.tasksToml = some old) : call.copied codecs s = some old := by
  unfold UpdateCall.comesToWrite UpdateCall.canBackUp at hcomes
  unfold UpdateCall.copied
  simp only [hold, Option.isNone_some, Bool.false_or, Bool.and_eq_true] at hcomes
  obtain ⟨hparse, hfolder, hcopy⟩ := hcomes
  rw [hparse, hfolder, hold]
  cases hc : call.copy with
  | done => rfl
  | failed left =>
    rw [hc] at hcopy
    cases hcopy

/-- An update that succeeds has its backup. -/
theorem backedUp_post {s' : ConfigFolder} {b : Except String Unit}
    (h : s.updateTasksConfig codecs env call = (s', b)) : BackedUp ⟨s, call, b, s'⟩ s' := by
  intro hok old hold
  have hanswer := updateTasksConfig_ok_iff codecs env call s
  have hbackup := backup_updateTasksConfig codecs env call s call.timestamp
  rw [h] at hanswer hbackup
  rw [hbackup, if_pos rfl, copied_of_comesToWrite (hanswer.1 hok).1 hold]
  rfl

/-- A later call keeps a backup exactly when it spares it. -/
theorem backedUp_iff_spares (x : Taken ConfigFolder UpdateCall (Except String Unit))
    (hx : x.pre.updateTasksConfig codecs env x.label = (x.post, x.answer)) (hkept : BackedUp x s)
    {s' : ConfigFolder} {b : Except String Unit}
    (h : s.updateTasksConfig codecs env call = (s', b)) :
    BackedUp x s' ↔ SparesBackup codecs env x s call := by
  have hanswer := updateTasksConfig_ok_iff codecs env x.label x.pre
  have hbackup := backup_updateTasksConfig codecs env call s x.label.timestamp
  rw [hx] at hanswer
  rw [h] at hbackup
  unfold BackedUp SparesBackup
  unfold BackedUp at hkept
  simp only [hanswer, hbackup, and_imp] at hkept ⊢
  refine forall₂_congr fun hcomes hloads => ?_
  constructor
  · intro hafter htime old hold content hcopied
    have := hafter old hold
    rw [if_pos htime.symm, hcopied] at this
    exact Option.some.inj this
  · intro hspares old hold
    have hbefore := hkept hcomes hloads old hold
    split
    · next htime =>
      cases hcopied : call.copied codecs s with
      | none => exact hbefore
      | some content => rw [hspares htime.symm old hold content hcopied]; rfl
    · exact hbefore

end ConfigFolder

open ConfigFolder

/-- **Updates** are all or nothing exactly when each is safe, and keep their backups exactly when
none replaces an earlier one of the same second. -/
theorem allOrNothing_iff (codecs : Codecs) (env : Externals) (first : ConfigFolder)
    {tr : List (Taken ConfigFolder UpdateCall (Except String Unit))} {s : ConfigFolder}
    (hr : Run (updates codecs env first) tr s) :
    ((∀ x ∈ tr, AllOrNothing codecs x ∧ BackedUp x x.post) ∧
        tr.Pairwise fun x y => BackedUp x y.post) ↔
      (∀ x ∈ tr, x.label.Safe codecs env x.pre) ∧
        tr.Pairwise fun x y => SparesBackup codecs env x y.pre y.label := by
  have hstep : ∀ s call s' b, (updates codecs env first).step s call = some (s', b) →
      s.updateTasksConfig codecs env call = (s', b) := fun s call s' b h => Option.some.inj h
  refine and_congr ?_ (Run.kept_iff (fun s call s' b h => backedUp_post (hstep s call s' b h))
    (fun x s call s' b hx hkept h => backedUp_iff_spares x (hstep _ _ _ _ hx) hkept
      (hstep s call s' b h)) hr)
  refine forall₂_congr fun x hx => ?_
  have htaken := hstep _ _ _ _ (hr.step_of_mem hx)
  rw [allOrNothing_iff_safe htaken]
  exact and_iff_left (backedUp_post htaken)

/-! ## Updates of one task -/

/-- A tasks file with one ping. -/
def pingToml (seconds : String) : String :=
  "[[tasks]]\ntype = \"ping\"\nname = \"gateway\"\nschedule_seconds = " ++ seconds ++
    "\nhost = \"192.0.2.1\"\ntimeout_seconds = 5\n"

def pingEvery (seconds : UInt32) : TasksConfig :=
  ⟨[⟨.ping, seconds, "gateway", none, .ping ⟨"192.0.2.1", 5, none⟩⟩]⟩

/-- Crates that know the tasks files with the periods 60, 90, 120 and 0. -/
def pingCodecs : Codecs where
  base64Encode := fun _ => ""
  base64Decode := fun _ => .error "Encoded text cannot have a 6-bit remainder."
  gzip := fun _ => []
  gunzip := fun _ => .error "invalid gzip header"
  blake3 := id
  tomlTasks := fun content =>
    if content = pingToml "60" then .ok (pingEvery 60)
    else if content = pingToml "90" then .ok (pingEvery 90)
    else if content = pingToml "120" then .ok (pingEvery 120)
    else if content = pingToml "0" then .ok (pingEvery 0)
    else .error "expected an equals, found an identifier"

def pingExternals : Externals :=
  ⟨fun _ => .error "relative URL without a base", fun _ => .ok (), Char.isAlphanum⟩

def pingFolder : ConfigFolder := ⟨⟨"/etc/linksense", some (pingToml "60"), pingEvery 60⟩, none⟩

/-- An update in this second, where all goes well on disk. -/
def updateAt (timestamp : Nat) (content : String) : UpdateCall :=
  ⟨content, timestamp, false, .done, .done, .ok ()⟩

def pingUpdate (s : ConfigFolder) (call : UpdateCall) :
    Taken ConfigFolder UpdateCall (Except String Unit) :=
  ⟨s, call, (s.updateTasksConfig pingCodecs pingExternals call).2,
    (s.updateTasksConfig pingCodecs pingExternals call).1⟩

theorem run_pingUpdates (a b : UpdateCall) :
    Run (updates pingCodecs pingExternals pingFolder)
      [pingUpdate pingFolder a, pingUpdate (pingUpdate pingFolder a).post b]
      (pingUpdate (pingUpdate pingFolder a).post b).post :=
  (Run.nil.snoc rfl).snoc rfl

theorem allOrNothing_twoSeconds :
    (∀ x ∈ [pingUpdate pingFolder (updateAt 100 (pingToml "90")),
        pingUpdate (pingUpdate pingFolder (updateAt 100 (pingToml "90"))).post
          (updateAt 101 (pingToml "120"))], AllOrNothing pingCodecs x ∧ BackedUp x x.post) ∧
      [pingUpdate pingFolder (updateAt 100 (pingToml "90")),
        pingUpdate (pingUpdate pingFolder (updateAt 100 (pingToml "90"))).post
          (updateAt 101 (pingToml "120"))].Pairwise fun x y => BackedUp x y.post := by
  refine (allOrNothing_iff pingCodecs pingExternals pingFolder (run_pingUpdates _ _)).2 ⟨?_, ?_⟩
  · intro x hx _
    left
    rcases List.mem_pair.1 hx with rfl | rfl
    · rfl
    · rfl
  · rw [List.pairwise_pair]
    intro _ _ htime
    cases htime

/-- Content that parses and does not validate is refused, and stays in the file.  Of two updates in
one second the second takes the backup of the first. -/
theorem not_allOrNothing_invalid :
    (∃ tr s, Run (updates pingCodecs pingExternals pingFolder) tr s ∧
        ∃ x ∈ tr, x.answer =
            .error "Validation failed for tasks configuration in /etc/linksense/tasks.toml" ∧
          x.pre.manager.tasksToml = some (pingToml "60") ∧
          x.post.manager.tasksToml = some (pingToml "0") ∧ ¬ AllOrNothing pingCodecs x) ∧
      ∃ tr s, Run (updates pingCodecs pingExternals pingFolder) tr s ∧
        (∀ x ∈ tr, x.answer = .ok ()) ∧ ¬ tr.Pairwise fun x y => BackedUp x y.post := by
  refine ⟨⟨_, _, Run.nil.snoc (a := updateAt 100 (pingToml "0")) rfl, _, List.mem_singleton_self _,
    by rfl, rfl, by rfl, ?_⟩, _, _,
    run_pingUpdates (updateAt 100 (pingToml "90")) (updateAt 100 (pingToml "120")), ?_, ?_⟩
  · rintro ⟨hfile, -⟩
    revert hfile
    decide
  · intro x hx
    rcases List.mem_pair.1 hx with rfl | rfl
    · rfl
    · rfl
  · rw [List.pairwise_pair]
    intro h
    have := h (by rfl) (pingToml "60") rfl
    revert this
    decide

end LinkSense
