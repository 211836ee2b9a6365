import LinkSense.Files
import LinkSense.Machine
import LinkSense.Shared.Utils
import Mathlib.Algebra.Ring.Nat

/-!
# Reconfiguration of several agents

`ReconfigureManager` of `server/src/reconfigure.rs`, and the check cycles that run over a request.
Every call of the file system may fail.

    every application has room → the content from before the request is in the agent's file or in
      one of its backups                                                  (reconfigure_keeps)
-/

namespace LinkSense

open Files Labelled

/-! ## State -/

abbrev Directory := Folder String String

/-- The folder of requests and the folder of the agents' tasks files. -/
structure ServerFiles where
  reconfigureDir : Directory
  agentConfigsDir : Directory

/-- The two folders as messages show them, and the library functions. -/
structure ReconfigureManager where
  reconfigurePath : String
  agentConfigsPath : String
  codecs : Codecs
  env : Externals
  isWhitespace : Char → Bool

/-- What the file system does while the request is applied to one agent; `now` is a `u128`. -/
structure ApplyFaults where
  now : Fin (2 ^ 128)
  hidden : Bool
  copy : Outcome String
  listing : Except String (Listing String)
  stuck : String → Bool
  write : Outcome String

/-- What it does in one cycle; `applying i` is for the agent at place `i`. -/
structure CycleFaults where
  /-- The error of `is_reconfigure_folder_empty`. -/
  folder : Option String
  hidden : String → Bool
  unreadable : String → Bool
  stuck : String → Bool
  agents : Except String (Listing String)
  applying : Nat → ApplyFaults
  /-- `to_rfc3339` of the time of the error. -/
  time : String
  errorOpens : Bool
  errorWrite : Outcome String

/-! ## Names -/

def agentListFile : String := "agent_list.txt"

def tasksConfigFile : String := "tasks.toml"

def errorFile : String := "error.txt"

def allAgentsMarker : String := "ALL AGENTS"

def maxBackupFiles : Nat := 10

def configName (agentId : String) : String := agentId ++ ".toml"

def backupPrefix (baseName : String) : String := baseName ++ ".backup."

def backupName (fileName : String) (timestamp : Nat) : String :=
  backupPrefix fileName ++ toString timestamp

/-- `parse::<u128>`. -/
def parseU128 (s : List Char) : Option Nat :=
  let digits := match s with
    | '+' :: rest => rest
    | s => s
  if digits.isEmpty || !digits.all Char.isDigit then none
  else if Nat.ofDigitChars 10 digits 0 < 2 ^ 128 then some (Nat.ofDigitChars 10 digits 0)
  else none

/-- The timestamp of a backup of this file. -/
def backupTimestamp (baseName name : String) : Option Nat :=
  if (backupPrefix baseName).toList.isPrefixOf name.toList then
    parseU128 (name.toList.drop (backupPrefix baseName).toList.length)
  else none

/-- The backups of a file among these names, with their timestamps. -/
def backupsOf (baseName : String) (names : List String) : List (Nat × String) :=
  names.filterMap fun name => (backupTimestamp baseName name).map (·, name)

/-- `trim_end_matches(".toml")`, from the end. -/
def dropTomls : List Char → List Char
  | 'l' :: 'm' :: 'o' :: 't' :: '.' :: rest => dropTomls rest
  | s => s

/-- `validate_agent_id` of `shared/src/utils.rs`. -/
def Utils.validateAgentId (env : Externals) (agentId : String) : Except String Unit :=
  if agentId = "" then .error "Validation error: Agent ID cannot be empty"
  else if agentId.utf8ByteSize > 64 then
    .error "Validation error: Agent ID cannot be longer than 64 characters"
  else if !agentId.toList.all fun c => env.isAlphanumeric c || c == '-' || c == '_' then
    .error ("Validation error: Agent ID can only contain alphanumeric characters, hyphens, " ++
      "and underscores")
  else .ok ()

namespace ReconfigureManager

variable (m : ReconfigureManager)

def requestPath (name : String) : String := s!"{m.reconfigurePath}/{name}"

def agentPath (name : String) : String := s!"{m.agentConfigsPath}/{name}"

/-! ## Reading the request -/

def readAndValidateTasksConfig (f : CycleFaults) (d : Directory) : Except String String :=
  match d.lookup tasksConfigFile, f.hidden tasksConfigFile with
  | some content, false =>
    if f.unreadable tasksConfigFile then .error s!"Failed to read {m.requestPath tasksConfigFile}"
    else match validateFromToml m.codecs m.env content with
      | .error _ => .error "Tasks configuration validation failed"
      | .ok _ => .ok content
  | _, _ => .error s!"Required file '{tasksConfigFile}' not found in reconfigure folder"

def trim (s : List Char) : String :=
  .ofList ((s.dropWhile m.isWhitespace).reverse.dropWhile m.isWhitespace).reverse

/-- The lines that are not blank; `trim` takes the `\r` that `lines` takes. -/
def linesOf (content : String) : List String :=
  ((content.toList.splitOn '\n').map m.trim).filter fun line => line != ""

/-- Each line in turn, after those that were `seen`. -/
def validateLines (seen : List String) : List String → Except String (List String)
  | [] => .ok seen
  | line :: lines =>
    if line ∈ seen then
      .error s!"Duplicate agent ID '{line}' found at line {seen.length + 1}"
    else match Utils.validateAgentId m.env line with
      | .error _ => .error s!"Invalid agent ID '{line}' at line {seen.length + 1}"
      | .ok () => validateLines (seen ++ [line]) lines

/-- `get_all_agent_ids`; a name may end in `.toml` several times, so an agent may be there twice. -/
def getAllAgentIds (f : CycleFaults) (d : Directory) : Except String (List String) :=
  match f.agents with
  | .error e => .error e
  | .ok listing =>
    let names := (listing.order d.keys).filter fun name =>
      !f.hidden name && ".toml".toList.isSuffixOf name.toList
    let agentIds := (names.map fun name => String.ofList (dropTomls name.toList.reverse).reverse).filter
      fun agentId => (Utils.validateAgentId m.env agentId).isOk
    if agentIds.isEmpty then .error s!"No agent configuration files found in {m.agentConfigsPath}"
    else .ok agentIds

def readAndValidateAgentList (f : CycleFaults) (s : ServerFiles) : Except String (List String) :=
  match s.reconfigureDir.lookup agentListFile, f.hidden agentListFile with
  | some content, false =>
    if f.unreadable agentListFile then .error s!"Failed to read {m.requestPath agentListFile}"
    else
      let lines := m.linesOf content
      if lines.isEmpty then .error "Agent list file is empty"
      else if lines = [allAgentsMarker] then m.getAllAgentIds f s.agentConfigsDir
      else m.validateLines [] lines
  | _, _ => .error s!"Required file '{agentListFile}' not found in reconfigure folder"

/-! ## Applying it -/

/-- Removals that fail are only logged. -/
def cleanupOldBackups (f : ApplyFaults) (baseName : String) (d : Directory) :
    Except String Unit × Directory :=
  match f.listing with
  | .error e => (.error e, d)
  | .ok listing =>
    let backups := backupsOf baseName (listing.order d.keys)
    (.ok (), removeEach f.stuck ((oldest Prod.fst maxBackupFiles backups).map Prod.snd) d)

def backupAgentConfig (f : ApplyFaults) (fileName : String) (d : Directory) :
    Except String Unit × Directory :=
  let backup := backupName fileName f.now
  let failure := s!"Failed to backup configuration to {m.agentPath backup}"
  match d.lookup fileName with
  | none => (.error failure, d)
  | some content =>
    let d' := write f.copy backup content d
    match f.copy with
    | .failed _ => (.error failure, d')
    | .done => cleanupOldBackups f fileName d'

def applyConfigurationToAgent (f : ApplyFaults) (agentId content : String) (d : Directory) :
    Except String Unit × Directory :=
  let fileName := configName agentId
  if f.hidden || fileName ∉ d then
    (.error s!"Agent configuration file not found: {m.agentPath fileName}", d)
  else
    match m.backupAgentConfig f fileName d with
    | (.error e, d') => (.error e, d')
    | (.ok (), d') =>
      match f.write with
      | .failed _ => (.error s!"Failed to write configuration for agent '{agentId}'",
          write f.write fileName content d')
      | .done => (.ok (), write f.write fileName content d')

/-- How far the loop over the agents has come. -/
structure Progress where
  successCount : Nat
  errors : List String
  agentConfigsDir : Directory

/-- A round of the loop of `apply_configuration_to_agents`. -/
def applyNext (applying : Nat → ApplyFaults) (content : String) (p : Progress)
    (agentId : String) : Progress :=
  match m.applyConfigurationToAgent (applying (p.successCount + p.errors.length)) agentId content
      p.agentConfigsDir with
  | (.ok (), d) => ⟨p.successCount + 1, p.errors, d⟩
  | (.error e, d) =>
    ⟨p.successCount, p.errors ++ [s!"Failed to update agent '{agentId}': {e}"], d⟩

def applyConfigurationToAgents (f : CycleFaults) (content : String) (agentIds : List String)
    (d : Directory) : Except String Unit × Directory :=
  let p := agentIds.foldl (m.applyNext f.applying content) ⟨0, [], d⟩
  if p.errors.isEmpty then (.ok (), p.agentConfigsDir)
  else
    let errors := "; ".intercalate p.errors
    (.error (s!"Reconfiguration partially failed. Updated {p.successCount} agents, failed for " ++
      s!"{p.errors.length} agents. Errors: {errors}"), p.agentConfigsDir)

/-! ## Cycles -/

/-- What is asked for: the tasks and the agents. -/
def request (f : CycleFaults) (s : ServerFiles) : Except String (String × List String) :=
  match m.readAndValidateTasksConfig f s.reconfigureDir with
  | .error e => .error e
  | .ok content =>
    match m.readAndValidateAgentList f s with
    | .error e => .error e
    | .ok agentIds => .ok (content, agentIds)

def processReconfiguration (f : CycleFaults) (s : ServerFiles) : Except String Unit × ServerFiles :=
  match m.request f s with
  | .error e => (.error e, s)
  | .ok (content, agentIds) =>
    let (result, d) := m.applyConfigurationToAgents f content agentIds s.agentConfigsDir
    (result, { s with agentConfigsDir := d })

def clearErrorFile (f : CycleFaults) (d : Directory) : Except String Unit × Directory :=
  if errorFile ∈ d ∧ f.hidden errorFile = false then
    if f.stuck errorFile then
      (.error s!"Failed to remove error file: {m.requestPath errorFile}", d)
    else (.ok (), d.erase errorFile)
  else (.ok (), d)

/-- The loop of `cleanup_processed_files`. -/
def cleanupFiles (f : CycleFaults) (d : Directory) : List String → Except String Unit × Directory
  | [] => (.ok (), d)
  | name :: names =>
    if name ∈ d ∧ f.hidden name = false then
      if f.stuck name then
        (.error s!"Failed to remove processed file: {m.requestPath name}", d)
      else cleanupFiles f (d.erase name) names
    else cleanupFiles f d names

/-- `write_error`: the message goes to the end of the file. -/
def writeError (f : CycleFaults) (message : String) (d : Directory) :
    Except String Unit × Directory :=
  if !f.errorOpens then
    (.error s!"Failed to open error file: {m.requestPath errorFile}", d)
  else
    let content := (d.lookup errorFile).getD "" ++ s!"[{f.time}] {message}\n"
    match f.errorWrite with
    | .failed _ => (.error s!"Failed to write error file: {m.requestPath errorFile}",
        write f.errorWrite errorFile content d)
    | .done => (.ok (), write f.errorWrite errorFile content d)

/-- `check_and_process`. -/
def checkAndProcess (f : CycleFaults) (s : ServerFiles) : Except String Unit × ServerFiles :=
  match f.folder with
  | some e => (.error e, s)
  | none =>
    if s.reconfigureDir.keys.isEmpty then (.ok (), s)
    else
      match m.clearErrorFile f s.reconfigureDir with
      | (.error e, d) => (.error e, { s with reconfigureDir := d })
      | (.ok (), d) =>
        match m.processReconfiguration f { s with reconfigureDir := d } with
        | (.ok (), s') =>
          let (result, d') := m.cleanupFiles f s'.reconfigureDir [agentListFile, tasksConfigFile]
          (result, { s' with reconfigureDir := d' })
        | (.error e, s') =>
          let (result, d') := m.writeError f e s'.reconfigureDir
          (result, { s' with reconfigureDir := d' })

end ReconfigureManager

/-- The server's check cycles, from these files on. -/
def reconfigureMachine (m : ReconfigureManager) (files : ServerFiles) :
    Machine ServerFiles CycleFaults (Except String Unit) where
  init := files
  step s f := some ((m.checkAndProcess f s).2, (m.checkAndProcess f s).1)

/-! ## What the cycles are to keep -/

/-- The agent's file or one of its backups has the content. -/
def Directory.Keeps (d : Directory) (agentId content : String) : Prop :=
  d.lookup (configName agentId) = some content ∨
    ∃ name, (backupTimestamp (configName agentId) name).isSome ∧ d.lookup name = some content

/-- How many backups the file has that were not there in `d₀`. -/
def madeSince (d₀ : Directory) (fileName : String) (d : Directory) : Nat :=
  (backupsOf fileName d.keys).countP fun b => decide (b.2 ∉ d₀)

/-- The agent has no file, or the clock is past the timestamps of its backups, now and in `d₀`, and
its file is as in `d₀` or fewer than ten backups have been made since. -/
def hasRoom (d₀ : Directory) (f : ApplyFaults) (agentId : String) (d : Directory) : Bool :=
  let fileName := configName agentId
  decide (fileName ∉ d) ||
    ((backupsOf fileName (d.keys ++ d₀.keys)).all fun b => b.1 < f.now) &&
      (d.lookup fileName == d₀.lookup fileName || madeSince d₀ fileName d < maxBackupFiles)

namespace ReconfigureManager

variable (m : ReconfigureManager)

/-- What a cycle goes on to apply, if it comes so far. -/
def requested (f : CycleFaults) (s : ServerFiles) : Option (String × List String) :=
  if f.folder.isSome || s.reconfigureDir.keys.isEmpty then none
  else
    match m.clearErrorFile f s.reconfigureDir with
    | (.error _, _) => none
    | (.ok (), d) => (m.request f { s with reconfigureDir := d }).toOption

/-- Each round of the loop has room. -/
def eachHasRoom (d₀ : Directory) (applying : Nat → ApplyFaults) (content : String)
    (p : Progress) : List String → Bool
  | [] => true
  | agentId :: agentIds =>
    hasRoom d₀ (applying (p.successCount + p.errors.length)) agentId p.agentConfigsDir &&
      eachHasRoom d₀ applying content (m.applyNext applying content p agentId) agentIds

/-- Each application of the cycle has room. -/
def cycleHasRoom (d₀ : Directory) (f : CycleFaults) (s : ServerFiles) : Bool :=
  match m.requested f s with
  | none => true
  | some (content, agentIds) =>
    m.eachHasRoom d₀ f.applying content ⟨0, [], s.agentConfigsDir⟩ agentIds

end ReconfigureManager

/-! ## Names -/

theorem append_cons_inj_of_notMem {α : Type*} {x y p q : List α} {a : α} (hp : a ∉ p)
    (hq : a ∉ q) (h : x ++ a :: p = y ++ a :: q) : x = y ∧ p = q := by
  rcases List.append_eq_append_iff.1 h with ⟨as, hy, hcons⟩ | ⟨bs, hx, hcons⟩
  · cases as with
    | nil => simp_all
    | cons b as =>
      obtain ⟨-, rfl⟩ := List.cons.inj hcons
      simp at hp
  · cases bs with
    | nil => simp_all
    | cons b bs =>
      obtain ⟨-, rfl⟩ := List.cons.inj hcons
      simp at hq

theorem not_dot_mem_of_parseU128 {s : List Char} {n : Nat} (h : parseU128 s = some n) :
    '.' ∉ s := by
  have hdigits : ∀ ds : List Char, ds.all Char.isDigit = true → '.' ∉ ds := by
    intro ds hall hm
    exact absurd (List.all_eq_true.1 hall _ hm) (by decide)
  unfold parseU128 at h
  dsimp only at h
  split at h
  · next rest =>
    split at h
    · cases h
    · next hall =>
      have := hdigits rest (by simp_all)
      simpa using this
  · split at h
    · cases h
    · next hall => exact hdigits s (by simp_all)

theorem parseU128_toDigits {n : Nat} (h : n < 2 ^ 128) :
    parseU128 (Nat.toDigits 10 n) = some n := by
  have hall : ∀ c ∈ Nat.toDigits 10 n, c.isDigit := fun c hc =>
    Nat.isDigit_of_mem_toDigits (by omega) (by omega) hc
  have hvalue : Nat.ofDigitChars 10 (Nat.toDigits 10 n) 0 = n := Nat.ofDigitChars_ten_toDigits
  unfold parseU128
  cases hds : Nat.toDigits 10 n with
  | nil => exact absurd hds Nat.toDigits_ne_nil
  | cons c ds =>
    rw [hds] at hall hvalue
    have hplus : c ≠ '+' := by
      rintro rfl
      exact absurd (hall '+' (by simp)) (by decide)
    have hdigits : (c :: ds).all Char.isDigit = true := List.all_eq_true.2 hall
    split
    · next rest he => exact absurd (List.cons.inj he).1 hplus
    · dsimp only
      rw [hdigits, hvalue, if_pos h]
      rfl

theorem backupTimestamp_eq_some {baseName name : String} {n : Nat}
    (h : backupTimestamp baseName name = some n) :
    ∃ s, name.toList = (baseName.toList ++ ".backup".toList) ++ '.' :: s ∧
      parseU128 s = some n := by
  unfold backupTimestamp at h
  split at h
  · next hprefix =>
    obtain ⟨s, hs⟩ := List.isPrefixOf_iff_prefix.1 hprefix
    refine ⟨s, ?_, ?_⟩
    · rw [← hs]
      simp [backupPrefix]
    · rw [← hs, List.drop_left] at h
      exact h
  · cases h

theorem backupTimestamp_backupName (fileName : String) (now : Fin (2 ^ 128)) :
    backupTimestamp fileName (backupName fileName now) = some now.val := by
  have hlist : (backupName fileName now).toList =
      (backupPrefix fileName).toList ++ Nat.toDigits 10 now := by
    unfold backupName
    rw [String.toList_append, Nat.toString_eq_ofList_toDigits, String.toList_ofList]
  unfold backupTimestamp
  rw [hlist, if_pos (List.isPrefixOf_iff_prefix.2 (List.prefix_append _ _)), List.drop_left]
  exact parseU128_toDigits now.isLt

/-- A backup is one of one file. -/
theorem backupTimestamp_inj {x y name : String} {n k : Nat}
    (hx : backupTimestamp x name = some n) (hy : backupTimestamp y name = some k) : x = y := by
  obtain ⟨s, hs, hn⟩ := backupTimestamp_eq_some hx
  obtain ⟨t, ht, hk⟩ := backupTimestamp_eq_some hy
  rw [hs] at ht
  obtain ⟨hbase, -⟩ :=
    append_cons_inj_of_notMem (not_dot_mem_of_parseU128 hn) (not_dot_mem_of_parseU128 hk) ht
  exact String.toList_inj.1 (List.append_cancel_right hbase)

/-- A tasks file is no backup. -/
theorem backupTimestamp_configName (x agentId : String) :
    backupTimestamp x (configName agentId) = none := by
  cases h : backupTimestamp x (configName agentId) with
  | none => rfl
  | some n =>
    obtain ⟨s, hs, hn⟩ := backupTimestamp_eq_some h
    have hname : (configName agentId).toList = agentId.toList ++ '.' :: "toml".toList := by
      unfold configName
      rw [String.toList_append]
      rfl
    rw [hname] at hs
    obtain ⟨-, rfl⟩ :=
      append_cons_inj_of_notMem (by decide) (not_dot_mem_of_parseU128 hn) hs
    cases hn

theorem configName_inj {x y : String} (h : configName x = configName y) : x = y := by
  have hlist := congrArg String.toList h
  unfold configName at hlist
  rw [String.toList_append, String.toList_append] at hlist
  exact String.toList_inj.1 (List.append_cancel_right hlist)

theorem mem_backupsOf {baseName : String} {names : List String} {b : Nat × String} :
    b ∈ backupsOf baseName names ↔ b.2 ∈ names ∧ backupTimestamp baseName b.2 = some b.1 := by
  unfold backupsOf
  rw [List.mem_filterMap]
  constructor
  · rintro ⟨name, hm, hb⟩
    obtain ⟨n, hn, rfl⟩ := Option.map_eq_some_iff.1 hb
    exact ⟨hm, hn⟩
  · rintro ⟨hm, hb⟩
    exact ⟨b.2, hm, by rw [hb]; rfl⟩

/-! ## One application -/

namespace ReconfigureManager

variable {m : ReconfigureManager}

/-- A backup touches timestamped backups of its file only. -/
theorem lookup_backupAgentConfig (f : ApplyFaults) {fileName name : String} (d : Directory)
    (hbackup : backupTimestamp fileName name = none) :
    (m.backupAgentConfig f fileName d).2.lookup name = d.lookup name := by
  have hcleanup : ∀ d : Directory,
      (cleanupOldBackups f fileName d).2.lookup name = d.lookup name := by
    intro d
    unfold cleanupOldBackups
    split
    · rfl
    · apply lookup_removeEach
      intro hm
      obtain ⟨b, hb, rfl⟩ := List.mem_map.1 hm
      have := (mem_backupsOf.1 (mem_of_mem_oldest hb)).2
      rw [hbackup] at this
      cases this
  have hnew : name ≠ backupName fileName f.now := by
    rintro rfl
    rw [backupTimestamp_backupName] at hbackup
    cases hbackup
  unfold backupAgentConfig
  dsimp only
  split
  · rfl
  · next old _ =>
    have hcopy := lookup_write_ne f.copy old d hnew
    split
    · exact hcopy
    · exact (hcleanup _).trans hcopy

/-- An application changes the agent's file and its backups only. -/
theorem lookup_applyConfigurationToAgent (f : ApplyFaults) {agentId name : String} (content : String)
    (d : Directory) (hfile : name ≠ configName agentId)
    (hbackup : backupTimestamp (configName agentId) name = none) :
    (m.applyConfigurationToAgent f agentId content d).2.lookup name = d.lookup name := by
  have hbackup := m.lookup_backupAgentConfig f d hbackup
  unfold applyConfigurationToAgent
  dsimp only
  split
  · rfl
  · split
    · next he => rwa [he] at hbackup
    · next d' he =>
      rw [he] at hbackup
      have hwrite := lookup_write_ne f.write content d' hfile
      split
      · exact hwrite.trans hbackup
      · exact hwrite.trans hbackup

/-- Rotation keeps a backup that is in `p`, where at most ten are, which are newer than the others. -/
theorem lookup_cleanupOldBackups (f : ApplyFaults) {fileName : String} {d : Directory}
    {p : Nat × String → Bool} (hcount : (backupsOf fileName d.keys).countP p ≤ maxBackupFiles)
    (hnewer : ∀ x ∈ backupsOf fileName d.keys, ∀ y ∈ backupsOf fileName d.keys, p x = true →
      p y = false → y.1 < x.1)
    {b : Nat × String} (hb : backupTimestamp fileName b.2 = some b.1) (hp : p b = true) :
    (cleanupOldBackups f fileName d).2.lookup b.2 = d.lookup b.2 := by
  unfold cleanupOldBackups
  split
  · rfl
  · next listing _ =>
    have hperm : (backupsOf fileName (listing.order d.keys)).Perm (backupsOf fileName d.keys) :=
      (listing.perm d.keys).filterMap _
    apply lookup_removeEach
    intro hm
    obtain ⟨b', hb', hname⟩ := List.mem_map.1 hm
    have htime := (mem_backupsOf.1 (mem_of_mem_oldest hb')).2
    rw [hname, hb] at htime
    have heq : b' = b := Prod.ext (Option.some.inj htime).symm hname
    rw [heq] at hb'
    refine not_mem_oldest ?_ ?_ hp hb'
    · rwa [hperm.countP_eq]
    · intro x hx y hy
      exact hnewer x (hperm.mem_iff.1 hx) y (hperm.mem_iff.1 hy)

end ReconfigureManager

/-! ## What an application keeps -/

/-- The backups made since `d₀` are newer than those from before. -/
def NewerSince (d₀ d : Directory) (fileName : String) : Prop :=
  ∀ b ∈ backupsOf fileName d.keys, ∀ c ∈ backupsOf fileName d.keys, b.2 ∉ d₀ → c.2 ∈ d₀ → c.1 < b.1

/-- A backup made since `d₀` has the content. -/
def CopiedSince (d₀ d : Directory) (fileName content : String) : Prop :=
  ∃ name, name ∉ d₀ ∧ (backupTimestamp fileName name).isSome ∧ d.lookup name = some content

/-- What the cycles know of an agent whose file had the content in `d₀`. -/
structure Retains (d₀ d : Directory) (agentId content : String) : Prop where
  newer : NewerSince d₀ d (configName agentId)
  copied : d.lookup (configName agentId) = some content ∨
    CopiedSince d₀ d (configName agentId) content

theorem NewerSince.mono {d₀ d d' : Directory} {fileName : String} (h : NewerSince d₀ d fileName)
    (hsub : ∀ b ∈ backupsOf fileName d'.keys, b ∈ backupsOf fileName d.keys) :
    NewerSince d₀ d' fileName :=
  fun b hb c hc => h b (hsub b hb) c (hsub c hc)

/-- The agent's file and its backups are as before. -/
theorem Retains.frame {d₀ d d' : Directory} {agentId content : String}
    (h : Retains d₀ d agentId content)
    (hfile : d'.lookup (configName agentId) = d.lookup (configName agentId))
    (hbackups : ∀ name, (backupTimestamp (configName agentId) name).isSome →
      d'.lookup name = d.lookup name) : Retains d₀ d' agentId content where
  newer := by
    apply h.newer.mono
    intro b hb
    obtain ⟨hm, ht⟩ := mem_backupsOf.1 hb
    have hsame := hbackups b.2 (by rw [ht]; rfl)
    exact mem_backupsOf.2 ⟨(mem_iff_of_lookup hsame).1 hm, ht⟩
  copied := by
    rw [hfile]
    refine h.copied.imp_right ?_
    rintro ⟨name, hnew, ht, hl⟩
    exact ⟨name, hnew, ht, (hbackups name ht).trans hl⟩

/-- An application to another agent. -/
theorem Retains.apply_other {m : ReconfigureManager} {d₀ d : Directory} {agentId other old : String}
    (h : Retains d₀ d agentId old) (hne : agentId ≠ other) (f : ApplyFaults) (content : String) :
    Retains d₀ (m.applyConfigurationToAgent f other content d).2 agentId old := by
  refine h.frame ?_ fun name hname => ?_
  · apply m.lookup_applyConfigurationToAgent
    · exact fun he => hne (configName_inj he)
    · exact backupTimestamp_configName _ _
  · obtain ⟨n, hn⟩ := Option.isSome_iff_exists.1 hname
    apply m.lookup_applyConfigurationToAgent
    · rintro rfl
      rw [backupTimestamp_configName] at hn
      cases hn
    · cases ht : backupTimestamp (configName other) name with
      | none => rfl
      | some k => exact absurd (configName_inj (backupTimestamp_inj hn ht)) hne

section Apply

variable {d₀ d : Directory} {f : ApplyFaults} {agentId old content : String}

/-- The clock is past every backup that is there, so the new one has a name of its own. -/
theorem backupName_notMem {fileName : String} {d : Directory}
    (hclock : ∀ b ∈ backupsOf fileName d.keys, b.1 < f.now.val) :
    backupName fileName f.now ∉ d := by
  intro hm
  have := hclock (f.now, backupName fileName f.now)
    (mem_backupsOf.2 ⟨hm, backupTimestamp_backupName fileName f.now⟩)
  exact Nat.lt_irrefl _ this

/-- The copy into a backup, whether it succeeds or not. -/
theorem Retains.write_backup (h : Retains d₀ d agentId old)
    (hclock : ∀ b ∈ backupsOf (configName agentId) d.keys, b.1 < f.now.val)
    (hclock₀ : ∀ b ∈ backupsOf (configName agentId) d₀.keys, b.1 < f.now.val)
    (outcome : Outcome String) (content : String) :
    Retains d₀ (write outcome (backupName (configName agentId) f.now) content d) agentId old := by
  have hnew := backupName_notMem hclock
  have hnew₀ := backupName_notMem hclock₀
  have hfile : configName agentId ≠ backupName (configName agentId) f.now := by
    intro he
    have ht := backupTimestamp_backupName (configName agentId) f.now
    rw [← he, backupTimestamp_configName] at ht
    cases ht
  have hold : ∀ b ∈ backupsOf (configName agentId)
      (write outcome (backupName (configName agentId) f.now) content d).keys,
      b.2 ≠ backupName (configName agentId) f.now → b ∈ backupsOf (configName agentId) d.keys := by
    intro b hb hne
    obtain ⟨hm, ht⟩ := mem_backupsOf.1 hb
    exact mem_backupsOf.2
      ⟨(mem_iff_of_lookup (lookup_write_ne outcome content d hne)).1 hm, ht⟩
  constructor
  · intro b hb c hc hb₀ hc₀
    have hcne : c.2 ≠ backupName (configName agentId) f.now := by
      intro he
      rw [he] at hc₀
      exact hnew₀ hc₀
    by_cases hbe : b.2 = backupName (configName agentId) f.now
    · have ht := (mem_backupsOf.1 hb).2
      rw [hbe, backupTimestamp_backupName] at ht
      have hlt := hclock c (hold c hc hcne)
      rwa [← Option.some.inj ht]
    · exact h.newer b (hold b hb hbe) c (hold c hc hcne) hb₀ hc₀
  · rw [lookup_write_ne outcome content d hfile]
    refine h.copied.imp_right ?_
    rintro ⟨name, hname, ht, hl⟩
    refine ⟨name, hname, ht, ?_⟩
    rw [lookup_write_ne outcome content d, hl]
    rintro rfl
    apply hnew
    rw [← AList.lookup_isSome, hl]
    rfl

theorem countP_backupsOf_insert {fileName name : String} {n : Nat} {d : Directory}
    (hnew : name ∉ d) (ht : backupTimestamp fileName name = some n) (content : String)
    (p : Nat × String → Bool) :
    (backupsOf fileName (d.insert name content).keys).countP p =
      (backupsOf fileName d.keys).countP p + if p (n, name) then 1 else 0 := by
  rw [AList.keys_insert, List.erase_of_not_mem (mt AList.mem_keys.2 hnew)]
  have hcons : backupsOf fileName (name :: d.keys) = (n, name) :: backupsOf fileName d.keys := by
    unfold backupsOf
    rw [List.filterMap_cons_some (b := (n, name))]
    rw [ht]
    rfl
  rw [hcons, List.countP_cons]

/-- **What rotation leaves**: with room, a copy made since `d₀` is still there. -/
theorem Retains.cleanup (h : Retains d₀ d agentId old)
    (h₀ : d₀.lookup (configName agentId) = some old)
    (hclock : ∀ b ∈ backupsOf (configName agentId) d.keys, b.1 < f.now.val)
    (hclock₀ : ∀ b ∈ backupsOf (configName agentId) d₀.keys, b.1 < f.now.val)
    (hroom : d.lookup (configName agentId) = d₀.lookup (configName agentId) ∨
      madeSince d₀ (configName agentId) d < maxBackupFiles)
    (hfile : d.lookup (configName agentId) = some content) :
    CopiedSince d₀ (ReconfigureManager.cleanupOldBackups f (configName agentId)
      (d.insert (backupName (configName agentId) f.now) content)).2 (configName agentId) old := by
  set fileName := configName agentId
  set backup := backupName fileName f.now
  have hnew : backup ∉ d := backupName_notMem hclock
  have hnew₀ : backup ∉ d₀ := backupName_notMem hclock₀
  have ht : backupTimestamp fileName backup = some f.now.val := backupTimestamp_backupName _ _
  have hinsert : (d.insert backup content).lookup backup = some content := AList.lookup_insert d
  have hcount := countP_backupsOf_insert hnew ht content
  rcases hroom with hsame | hmade
  · -- the copy is the newest backup of all
    have hcontent : content = old := by
      rw [hfile, h₀] at hsame
      exact Option.some.inj hsame
    refine ⟨backup, hnew₀, by rw [ht]; rfl, ?_⟩
    rw [← hcontent, ← hinsert]
    refine ReconfigureManager.lookup_cleanupOldBackups f (p := fun b => decide (f.now.val ≤ b.1))
      (b := (f.now.val, backup)) ?_ ?_ ht ?_
    · have hzero : (backupsOf fileName d.keys).countP (fun b => decide (f.now.val ≤ b.1)) = 0 := by
        rw [List.countP_eq_zero]
        intro b hb
        have := hclock b hb
        simp only [decide_eq_true_eq]
        omega
      rw [hcount, hzero]
      simp [maxBackupFiles]
    · intro x _ y _ hx hy
      simp only [decide_eq_true_eq, decide_eq_false_iff_not] at hx hy
      omega
    · simp
  · -- every backup made since `d₀` stays
    have hretains := h.write_backup hclock hclock₀ .done content
    have hcopied : CopiedSince d₀ (d.insert backup content) fileName old := by
      rcases hretains.copied with hold | hold
      · have hsame : (d.insert backup content).lookup fileName = d.lookup fileName := by
          apply AList.lookup_insert_ne
          intro he
          have hbackup := backupTimestamp_configName fileName agentId
          rw [show configName agentId = backup from he, ht] at hbackup
          cases hbackup
        have hcontent : content = old := by
          have : (d.insert backup content).lookup fileName = some old := hold
          rw [hsame, hfile] at this
          exact Option.some.inj this
        exact ⟨backup, hnew₀, by rw [ht]; rfl, by rw [hinsert, hcontent]⟩
      · exact hold
    obtain ⟨name, hname, hts, hl⟩ := hcopied
    obtain ⟨n, hn⟩ := Option.isSome_iff_exists.1 hts
    refine ⟨name, hname, hts, ?_⟩
    rw [← hl]
    refine ReconfigureManager.lookup_cleanupOldBackups f (p := fun b => decide (b.2 ∉ d₀))
      (b := (n, name)) ?_ ?_ hn ?_
    · rw [hcount]
      unfold madeSince at hmade
      split <;> omega
    · intro x hx y hy hpx hpy
      simp only [decide_eq_true_eq, decide_eq_false_iff_not, Decidable.not_not] at hpx hpy
      exact hretains.newer x hx y hy hpx hpy
    · simpa using hname

/-- `backup_agent_config`: only when it succeeds, the file is written next. -/
theorem Retains.backup {m : ReconfigureManager} (h : Retains d₀ d agentId old)
    (h₀ : d₀.lookup (configName agentId) = some old)
    (hclock : ∀ b ∈ backupsOf (configName agentId) d.keys, b.1 < f.now.val)
    (hclock₀ : ∀ b ∈ backupsOf (configName agentId) d₀.keys, b.1 < f.now.val)
    (hroom : d.lookup (configName agentId) = d₀.lookup (configName agentId) ∨
      madeSince d₀ (configName agentId) d < maxBackupFiles) :
    Retains d₀ (m.backupAgentConfig f (configName agentId) d).2 agentId old ∧
      ((m.backupAgentConfig f (configName agentId) d).1 = .ok () →
        CopiedSince d₀ (m.backupAgentConfig f (configName agentId) d).2 (configName agentId)
          old) := by
  unfold ReconfigureManager.backupAgentConfig
  dsimp only
  split
  · refine ⟨h, fun he => ?_⟩
    cases he
  · next current hfile =>
    have hwrite := h.write_backup hclock hclock₀ f.copy current
    split
    · refine ⟨hwrite, fun he => ?_⟩
      cases he
    · next hcopy =>
      rw [hcopy] at hwrite ⊢
      have hcopied := h.cleanup (f := f) h₀ hclock hclock₀ hroom hfile
      refine ⟨⟨?_, .inr hcopied⟩, fun _ => hcopied⟩
      apply hwrite.newer.mono
      intro b hb
      obtain ⟨hm, ht⟩ := mem_backupsOf.1 hb
      refine mem_backupsOf.2 ⟨?_, ht⟩
      unfold ReconfigureManager.cleanupOldBackups at hm
      split at hm
      · exact hm
      · exact mem_of_mem_removeEach hm

/-- **One application keeps what was before the request**, if it has room. -/
theorem Retains.apply {m : ReconfigureManager} (h : Retains d₀ d agentId old)
    (h₀ : d₀.lookup (configName agentId) = some old) (hroom : hasRoom d₀ f agentId d = true) :
    Retains d₀ (m.applyConfigurationToAgent f agentId content d).2 agentId old := by
  unfold ReconfigureManager.applyConfigurationToAgent
  dsimp only
  split
  · exact h
  · next hfound =>
    have hmem : configName agentId ∈ d := by
      by_contra hm
      simp [hm] at hfound
    simp only [hasRoom, hmem, not_true, decide_false, Bool.false_or, Bool.and_eq_true,
      Bool.or_eq_true, List.all_eq_true, decide_eq_true_eq, beq_iff_eq] at hroom
    obtain ⟨hclock, hroom⟩ := hroom
    have hpast : ∀ names : List String, (∀ name ∈ names, name ∈ d.keys ++ d₀.keys) →
        ∀ b ∈ backupsOf (configName agentId) names, b.1 < f.now.val := by
      intro names hnames b hb
      obtain ⟨hm, ht⟩ := mem_backupsOf.1 hb
      exact hclock b (mem_backupsOf.2 ⟨hnames _ hm, ht⟩)
    obtain ⟨hbackup, hcopied⟩ := h.backup (m := m) h₀
      (hpast d.keys fun _ => List.mem_append_left _)
      (hpast d₀.keys fun _ => List.mem_append_right _) hroom
    split
    · next he => rwa [he] at hbackup
    · next d' he =>
      rw [he] at hbackup hcopied
      obtain ⟨name, hname, ht, hl⟩ := hcopied rfl
      have hother : ∀ name, (backupTimestamp (configName agentId) name).isSome →
          (write f.write (configName agentId) content d').lookup name = d'.lookup name := by
        intro name ht
        apply lookup_write_ne
        rintro rfl
        rw [backupTimestamp_configName] at ht
        cases ht
      have hwritten : Retains d₀ (write f.write (configName agentId) content d') agentId old := by
        constructor
        · apply hbackup.newer.mono
          intro b hb
          obtain ⟨hm, hb⟩ := mem_backupsOf.1 hb
          have hsame := hother b.2 (by rw [hb]; rfl)
          exact mem_backupsOf.2 ⟨(mem_iff_of_lookup hsame).1 hm, hb⟩
        · exact .inr ⟨name, hname, ht, (hother name ht).trans hl⟩
      split
      · exact hwritten
      · exact hwritten

end Apply

/-! ## Cycles -/

namespace ReconfigureManager

variable {m : ReconfigureManager}

theorem agentConfigsDir_applyNext (applying : Nat → ApplyFaults) (content : String) (p : Progress)
    (agentId : String) : (m.applyNext applying content p agentId).agentConfigsDir =
      (m.applyConfigurationToAgent (applying (p.successCount + p.errors.length)) agentId content
        p.agentConfigsDir).2 := by
  unfold applyNext
  split
  · next he => rw [he]
  · next he => rw [he]

/-- The loop over the agents. -/
theorem retains_applyEach {d₀ : Directory} {applying : Nat → ApplyFaults} {agentId old : String}
    (content : String) (h₀ : d₀.lookup (configName agentId) = some old) {agentIds : List String}
    {p : Progress} (h : Retains d₀ p.agentConfigsDir agentId old)
    (hroom : m.eachHasRoom d₀ applying content p agentIds = true) :
    Retains d₀ (agentIds.foldl (m.applyNext applying content) p).agentConfigsDir agentId old := by
  induction agentIds generalizing p with
  | nil => exact h
  | cons next rest ih =>
    unfold eachHasRoom at hroom
    rw [Bool.and_eq_true] at hroom
    rw [List.foldl_cons]
    refine ih ?_ hroom.2
    rw [agentConfigsDir_applyNext]
    by_cases he : agentId = next
    · rw [← he] at hroom ⊢
      exact h.apply h₀ hroom.1
    · exact h.apply_other he _ content

/-- What a cycle does to the agents' files. -/
theorem agentConfigsDir_checkAndProcess (f : CycleFaults) (s : ServerFiles) :
    (m.checkAndProcess f s).2.agentConfigsDir =
      match m.requested f s with
      | none => s.agentConfigsDir
      | some (content, agentIds) =>
        (agentIds.foldl (m.applyNext f.applying content)
          ⟨0, [], s.agentConfigsDir⟩).agentConfigsDir := by
  unfold checkAndProcess requested
  cases f.folder with
  | some e => rfl
  | none =>
    by_cases hempty : s.reconfigureDir.keys.isEmpty = true
    · simp [hempty]
    · rw [if_neg hempty, if_neg (by simpa using hempty)]
      rcases m.clearErrorFile f s.reconfigureDir with ⟨_ | _, d⟩
      · rfl
      · dsimp only [processReconfiguration]
        cases m.request f { s with reconfigureDir := d } with
        | error e => rfl
        | ok asked =>
          obtain ⟨content, agentIds⟩ := asked
          dsimp only [applyConfigurationToAgents, Except.toOption]
          split
          · next he =>
            have hs := congrArg (fun r => r.2.agentConfigsDir) he
            dsimp only at hs ⊢
            rw [← hs]
            split <;> rfl
          · next he =>
            have hs := congrArg (fun r => r.2.agentConfigsDir) he
            dsimp only at hs ⊢
            rw [← hs]
            split <;> rfl

theorem retains_checkAndProcess {d₀ : Directory} {f : CycleFaults} {s : ServerFiles}
    {agentId old : String} (h₀ : d₀.lookup (configName agentId) = some old)
    (h : Retains d₀ s.agentConfigsDir agentId old) (hroom : m.cycleHasRoom d₀ f s = true) :
    Retains d₀ (m.checkAndProcess f s).2.agentConfigsDir agentId old := by
  rw [agentConfigsDir_checkAndProcess]
  unfold cycleHasRoom at hroom
  split
  · exact h
  · next content agentIds he =>
    rw [he] at hroom
    exact retains_applyEach content h₀ h hroom

end ReconfigureManager

/-! ## Results -/

/-- **When a request destroys nothing**: in a run of check cycles whose applications all have room,
the content an agent's file had before is in the file or in one of the agent's backups. -/
theorem reconfigure_keeps {m : ReconfigureManager} {files s : ServerFiles}
    {tr : List (Taken ServerFiles CycleFaults (Except String Unit))}
    (hr : Run (reconfigureMachine m files) tr s)
    (hroom : ∀ t ∈ tr, m.cycleHasRoom files.agentConfigsDir t.label t.pre = true)
    {agentId content : String}
    (h₀ : files.agentConfigsDir.lookup (configName agentId) = some content) :
    s.agentConfigsDir.Keeps agentId content := by
  have hinit : Retains files.agentConfigsDir files.agentConfigsDir agentId content := by
    constructor
    · intro b hb c hc hb₀
      exact absurd (AList.mem_keys.2 (mem_backupsOf.1 hb).1) hb₀
    · exact .inl h₀
  have hstep : ∀ s f s' b, Retains files.agentConfigsDir s.agentConfigsDir agentId content →
      m.cycleHasRoom files.agentConfigsDir f s = true →
      (reconfigureMachine m files).step s f = some (s', b) →
      Retains files.agentConfigsDir s'.agentConfigsDir agentId content ∧ True := by
    intro s f s' b h hf hs
    obtain ⟨rfl, -⟩ := Prod.mk.inj (Option.some.inj hs)
    exact ⟨ReconfigureManager.retains_checkAndProcess h₀ h hf, trivial⟩
  have hretains := (Run.guarded (P := fun _ => True) hinit hstep hr hroom).1
  refine hretains.copied.imp_right ?_
  rintro ⟨name, -, ht, hl⟩
  exact ⟨name, ht, hl⟩

/-! ## A list with an agent that is not there -/

/-- A server to which `tasks = []` is a tasks file. -/
def plainManager : ReconfigureManager where
  reconfigurePath := "/srv/reconfigure"
  agentConfigsPath := "/srv/agent-configs"
  codecs := ⟨fun _ => "", fun _ => .ok [], fun _ => [], fun _ => .ok "", fun _ => "",
    fun s => if s = "tasks = []" then .ok ⟨[]⟩ else .error "invalid type"⟩
  env := ⟨fun _ => .error "invalid", fun _ => .ok (), Char.isAlphanum⟩
  isWhitespace := Char.isWhitespace

/-- A cycle in which no call of the file system fails. -/
def cycleAt (now : Nat) : CycleFaults where
  folder := none
  hidden := fun _ => false
  unreadable := fun _ => false
  stuck := fun _ => false
  agents := .ok .plain
  applying := fun _ => ⟨Fin.ofNat _ now, false, .done, .ok .plain, fun _ => false, .done⟩
  time := "2025-01-01T00:00:00+00:00"
  errorOpens := true
  errorWrite := .done

/-- The request names an agent that has a file and one that has none. -/
def ghostFiles : ServerFiles where
  reconfigureDir := [⟨agentListFile, "a\nghost\n"⟩, ⟨tasksConfigFile, "tasks = []"⟩].toAList
  agentConfigsDir := [⟨configName "a", "[[tasks]]"⟩].toAList

theorem reconfigure_keeps_ten :
    ∃ tr s, Run (reconfigureMachine plainManager ghostFiles) tr s ∧ tr.length = 10 ∧
      s.agentConfigsDir.lookup (configName "a") = some "tasks = []" ∧
      s.agentConfigsDir.Keeps "a" "[[tasks]]" := by
  obtain ⟨tr, s, he, hr⟩ := Run.exists_of_exec (reconfigureMachine plainManager ghostFiles)
    ((List.range 10).map cycleAt) (by decide +kernel)
  have hend : ((reconfigureMachine plainManager ghostFiles).exec ((List.range 10).map cycleAt)).map
      (fun r => (r.1.length, r.2.agentConfigsDir.lookup (configName "a"),
        r.1.all fun t => plainManager.cycleHasRoom ghostFiles.agentConfigsDir t.label t.pre)) =
      some (10, some "tasks = []", true) := by
    decide +kernel
  rw [he] at hend
  obtain ⟨hlength, hend⟩ := Prod.mk.inj (Option.some.inj hend)
  obtain ⟨hfile, hroom⟩ := Prod.mk.inj hend
  exact ⟨tr, s, hr, hlength, hfile,
    reconfigure_keeps hr (List.all_eq_true.1 hroom) (by decide +kernel)⟩

/-- The eleventh cycle removes the only backup of what the file had before. -/
theorem not_reconfigure_keeps_eleven :
    ∃ tr s, Run (reconfigureMachine plainManager ghostFiles) tr s ∧ tr.length = 11 ∧
      ghostFiles.agentConfigsDir.lookup (configName "a") = some "[[tasks]]" ∧
      ¬ s.agentConfigsDir.Keeps "a" "[[tasks]]" := by
  obtain ⟨tr, s, he, hr⟩ := Run.exists_of_exec (reconfigureMachine plainManager ghostFiles)
    ((List.range 11).map cycleAt) (by decide +kernel)
  have hend : ((reconfigureMachine plainManager ghostFiles).exec ((List.range 11).map cycleAt)).map
      (fun r => (r.1.length, r.2.agentConfigsDir.entries.all fun e => e.2 != "[[tasks]]")) =
      some (11, true) := by
    decide +kernel
  rw [he] at hend
  obtain ⟨hlength, hgone⟩ := Prod.mk.inj (Option.some.inj hend)
  refine ⟨tr, s, hr, hlength, by decide +kernel, ?_⟩
  have hnone : ∀ name, s.agentConfigsDir.lookup name ≠ some "[[tasks]]" := by
    intro name hl
    have := List.all_eq_true.1 hgone _ (AList.mem_lookup_iff.1 hl)
    simp at this
  rintro (hl | ⟨name, -, hl⟩)
  · exact hnone _ hl
  · exact hnone _ hl

end LinkSense
