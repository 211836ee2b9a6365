import LinkSense.Server.AgentFiles

/-!
# What a reconfiguration changes

A check cycle in which no operation on a file fails, for any content of the two folders.

    valid tasks and a list that names somebody → who is on it and has a file gets the tasks, nothing
      else changes, and the request is kept if one of them has none             (fulfils_request)
    no valid tasks, or no such list → the agents' files are as before
-/

namespace LinkSense

open Files

/-! ## Requests -/

/-- The file is found, copied and written, and the backups are listed. -/
structure ApplyFaults.Succeeds (f : ApplyFaults) : Prop where
  visible : f.hidden = false
  copied : f.copy = .done
  listed : ∃ listing, f.listing = .ok listing
  written : f.write = .done

/-- The operations on the files that are there succeed; what is `unreadable` is not text. -/
structure CycleFaults.Succeeds (f : CycleFaults) : Prop where
  folder : f.folder = none
  visible : ∀ name, f.hidden name = false
  removed : ∀ name, f.stuck name = false
  agents : ∃ listing, f.agents = .ok listing
  applying : ∀ i, (f.applying i).Succeeds
  errorOpens : f.errorOpens = true
  errorWritten : f.errorWrite = .done

/-- The agents that `ALL AGENTS` stands for: those whose id is valid and that have a file. -/
def Directory.HasAgent (env : Externals) (d : Directory) (agentId : String) : Prop :=
  Utils.validateAgentId env agentId = .ok () ∧ configName agentId ∈ d

namespace ReconfigureManager

variable (m : ReconfigureManager)

def Lists (lines : List String) (d : Directory) (agentId : String) : Prop :=
  if lines = [allAgentsMarker] then d.HasAgent m.env agentId else agentId ∈ lines

/-- The folder has valid tasks, and a list without duplicates and invalid ids. -/
structure Asks (f : CycleFaults) (d : Directory) (content : String) (lines : List String) :
    Prop where
  tasks : d.lookup tasksConfigFile = some content
  tasksText : f.unreadable tasksConfigFile = false
  valid : (validateFromToml m.codecs m.env content).isOk
  list : ∃ text, d.lookup agentListFile = some text ∧ m.linesOf text = lines
  listText : f.unreadable agentListFile = false
  nonempty : lines ≠ []
  nodup : lines.Nodup
  ids : lines ≠ [allAgentsMarker] → ∀ line ∈ lines, (Utils.validateAgentId m.env line).isOk

/-- Every agent on the list has a file. -/
def AllThere (lines : List String) (d : Directory) : Prop :=
  ∀ agentId, m.Lists lines d agentId → configName agentId ∈ d

/-- What a cycle from `s` to `s'` is to do for the agents on the list. -/
structure Fulfils (s s' : ServerFiles) (content : String) (lines : List String) : Prop where
  updated : ∀ agentId, m.Lists lines s.agentConfigsDir agentId →
    configName agentId ∈ s.agentConfigsDir →
      s'.agentConfigsDir.lookup (configName agentId) = some content
  notCreated : ∀ agentId, m.Lists lines s.agentConfigsDir agentId →
    configName agentId ∉ s.agentConfigsDir → configName agentId ∉ s'.agentConfigsDir
  others : ∀ agentId, ¬ m.Lists lines s.agentConfigsDir agentId →
    s'.agentConfigsDir.lookup (configName agentId) = s.agentConfigsDir.lookup (configName agentId)
  listRemoved : agentListFile ∉ s'.reconfigureDir ↔ m.AllThere lines s.agentConfigsDir
  tasksRemoved : tasksConfigFile ∉ s'.reconfigureDir ↔ m.AllThere lines s.agentConfigsDir
  errorWritten : errorFile ∈ s'.reconfigureDir ↔ ¬ m.AllThere lines s.agentConfigsDir

/-! ## Reading the request -/

variable {m} {f : CycleFaults} {s : ServerFiles} {content : String} {lines : List String}

theorem lists_of_eq {d : Directory} {agentId : String} (h : lines = [allAgentsMarker]) :
    m.Lists lines d agentId ↔ d.HasAgent m.env agentId := by
  unfold Lists
  rw [if_pos h]

theorem lists_of_ne {d : Directory} {agentId : String} (h : lines ≠ [allAgentsMarker]) :
    m.Lists lines d agentId ↔ agentId ∈ lines := by
  unfold Lists
  rw [if_neg h]

theorem validateLines_eq_ok_iff {seen agentIds : List String} :
    m.validateLines seen lines = .ok agentIds ↔
      agentIds = seen ++ lines ∧ lines.Nodup ∧ (∀ line ∈ lines, line ∉ seen) ∧
        ∀ line ∈ lines, (Utils.validateAgentId m.env line).isOk := by
  induction lines generalizing seen with
  | nil =>
    unfold validateLines
    simp only [Except.ok.injEq, List.append_nil, List.nodup_nil, List.not_mem_nil, false_implies,
      implies_true, and_true]
    exact eq_comm
  | cons line lines ih =>
    unfold validateLines
    split
    · next hseen =>
      constructor
      · intro h
        cases h
      · rintro ⟨-, -, hnew, -⟩
        exact absurd hseen (hnew line List.mem_cons_self)
    · next hseen =>
      split
      · next hinvalid =>
        constructor
        · intro h
          cases h
        · rintro ⟨-, -, -, hvalid⟩
          have := hvalid line List.mem_cons_self
          rw [hinvalid] at this
          cases this
      · next hvalid =>
        rw [ih, List.append_assoc, List.singleton_append, List.nodup_cons]
        have hline : (Utils.validateAgentId m.env line).isOk := by rw [hvalid]; rfl
        simp only [List.mem_append, List.mem_singleton, List.forall_mem_cons, not_or, hline,
          hseen, not_false_eq_true, true_and]
        constructor
        · rintro ⟨he, hnodup, hnew, hrest⟩
          exact ⟨he, ⟨fun hm => (hnew line hm).2 rfl, hnodup⟩, fun x hx => (hnew x hx).1, hrest⟩
        · rintro ⟨he, ⟨hline, hnodup⟩, hnew, hrest⟩
          refine ⟨he, hnodup, fun x hx => ⟨hnew x hx, ?_⟩, hrest⟩
          rintro rfl
          exact hline hx

/-- What `ALL AGENTS` is expanded to: valid ids, and those of all agents with a file. -/
theorem getAllAgentIds_spec (hf : f.Succeeds) (d : Directory) :
    ∃ agentIds, (∀ agentId ∈ agentIds, Utils.validateAgentId m.env agentId = .ok ()) ∧
      (m.env.isAlphanumeric '.' = false → d.PlainNames m.env →
        ∀ agentId, agentId ∈ agentIds ↔ d.HasAgent m.env agentId) ∧
      m.getAllAgentIds f d = if agentIds.isEmpty then
        .error s!"No agent configuration files found in {m.agentConfigsPath}" else .ok agentIds := by
  obtain ⟨listing, hlisting⟩ := hf.agents
  unfold getAllAgentIds
  rw [hlisting]
  refine ⟨_, fun agentId hmem => ?_, fun hdot hplain agentId => ?_, rfl⟩
  · exact validateAgentId_utils_isOk.1 (List.mem_filter.1 hmem).2
  · simp only [List.mem_filter, List.mem_map, hf.visible, Bool.not_false, Bool.true_and,
      Directory.HasAgent, (listing.perm d.keys).mem_iff, AList.mem_keys, validateAgentId_utils_isOk]
    constructor
    · rintro ⟨⟨name, ⟨hm, hsuffix⟩, rfl⟩, hvalid⟩
      refine ⟨hvalid, ?_⟩
      obtain ⟨k, hk⟩ := exists_eq_tomlName hsuffix
      -- the file's own id has no further `.toml`
      cases k with
      | zero =>
        rw [hk, tomlName_one] at hm
        exact hm
      | succ k =>
        rw [hk] at hm
        exact absurd hm (hplain _ _ hvalid (by omega))
    · rintro ⟨hvalid, hm⟩
      rw [← tomlName_one] at hm
      have hstrip := stripToml_tomlName hdot (validateAgentId_utils_iff.1 hvalid).1 1
      exact ⟨⟨tomlName agentId 1, ⟨hm, isSuffixOf_tomlName agentId 0⟩, hstrip⟩, hvalid⟩

theorem readAndValidateAgentList_of_asks (hf : f.Succeeds)
    (hasks : m.Asks f s.reconfigureDir content lines) (hdot : m.env.isAlphanumeric '.' = false)
    (hplain : lines = [allAgentsMarker] → s.agentConfigsDir.PlainNames m.env)
    (hnamed : ∃ agentId, m.Lists lines s.agentConfigsDir agentId) :
    ∃ agentIds, m.readAndValidateAgentList f s = .ok agentIds ∧
      ∀ agentId, agentId ∈ agentIds ↔ m.Lists lines s.agentConfigsDir agentId := by
  obtain ⟨text, htext, hlines⟩ := hasks.list
  have hempty : ¬ lines.isEmpty = true := by simpa using hasks.nonempty
  have hread : m.readAndValidateAgentList f s =
      if lines = [allAgentsMarker] then m.getAllAgentIds f s.agentConfigsDir
      else m.validateLines [] lines := by
    unfold readAndValidateAgentList
    rw [htext, hf.visible]
    dsimp only
    rw [hasks.listText, if_neg Bool.false_ne_true, hlines, if_neg hempty]
  rw [hread]
  by_cases hall : lines = [allAgentsMarker]
  · rw [if_pos hall]
    simp only [lists_of_eq hall] at hnamed ⊢
    obtain ⟨agentIds, -, hmem, he⟩ := getAllAgentIds_spec (m := m) hf s.agentConfigsDir
    have hmem := hmem hdot (hplain hall)
    obtain ⟨agentId, hagent⟩ := hnamed
    have hsome : ¬ agentIds.isEmpty = true := by
      rw [List.isEmpty_iff]
      exact List.ne_nil_of_mem ((hmem agentId).2 hagent)
    rw [if_neg hsome] at he
    exact ⟨agentIds, he, hmem⟩
  · refine ⟨lines, ?_, fun _ => (lists_of_ne hall).symm⟩
    rw [if_neg hall]
    exact validateLines_eq_ok_iff.2 ⟨rfl, hasks.nodup, by simp, hasks.ids hall⟩

theorem request_of_asks (hf : f.Succeeds) (hasks : m.Asks f s.reconfigureDir content lines)
    (hdot : m.env.isAlphanumeric '.' = false)
    (hplain : lines = [allAgentsMarker] → s.agentConfigsDir.PlainNames m.env)
    (hnamed : ∃ agentId, m.Lists lines s.agentConfigsDir agentId) :
    ∃ agentIds, m.request f s = .ok (content, agentIds) ∧
      ∀ agentId, agentId ∈ agentIds ↔ m.Lists lines s.agentConfigsDir agentId := by
  obtain ⟨agentIds, hread, hmem⟩ := readAndValidateAgentList_of_asks hf hasks hdot hplain hnamed
  refine ⟨agentIds, ?_, hmem⟩
  have htasks : m.readAndValidateTasksConfig f s.reconfigureDir = .ok content := by
    unfold readAndValidateTasksConfig
    rw [hasks.tasks, hf.visible]
    dsimp only
    rw [hasks.tasksText, if_neg Bool.false_ne_true]
    have hvalid := hasks.valid
    split
    · next he =>
      rw [he] at hvalid
      cases hvalid
    · rfl
  unfold request
  rw [htasks]
  dsimp only
  rw [hread]

theorem tasks_of_readAndValidateTasksConfig {d : Directory}
    (h : m.readAndValidateTasksConfig f d = .ok content) :
    d.lookup tasksConfigFile = some content ∧ f.unreadable tasksConfigFile = false ∧
      (validateFromToml m.codecs m.env content).isOk := by
  unfold readAndValidateTasksConfig at h
  split at h
  · next text _ hlookup _ =>
    split at h
    · cases h
    · next htext =>
      split at h
      · cases h
      · next hvalid =>
        cases h
        refine ⟨hlookup, by simpa using htext, ?_⟩
        rw [hvalid]
        rfl
  · cases h

/-- The branches that give a list. -/
theorem list_of_readAndValidateAgentList {agentIds : List String}
    (h : m.readAndValidateAgentList f s = .ok agentIds) :
    ∃ text, s.reconfigureDir.lookup agentListFile = some text ∧
      f.unreadable agentListFile = false ∧ m.linesOf text ≠ [] ∧
      ((m.linesOf text = [allAgentsMarker] ∧ m.getAllAgentIds f s.agentConfigsDir = .ok agentIds) ∨
        (m.linesOf text ≠ [allAgentsMarker] ∧
          m.validateLines [] (m.linesOf text) = .ok agentIds)) := by
  unfold readAndValidateAgentList at h
  split at h
  · next text hlookup _ =>
    split at h
    · cases h
    · next htext =>
      dsimp only at h
      split at h
      · cases h
      · next hempty =>
        refine ⟨text, hlookup, by simpa using htext, by simpa using hempty, ?_⟩
        split at h
        · next hall => exact .inl ⟨hall, h⟩
        · next hall => exact .inr ⟨hall, h⟩
  · cases h

/-- What is applied was asked for, or is for agents without a file. -/
theorem asks_of_request (hf : f.Succeeds) {agentIds : List String}
    (h : m.request f s = .ok (content, agentIds)) :
    (∃ lines, m.Asks f s.reconfigureDir content lines ∧
      ∃ agentId, m.Lists lines s.agentConfigsDir agentId) ∨
    ∀ agentId ∈ agentIds, configName agentId ∉ s.agentConfigsDir := by
  unfold request at h
  split at h
  · cases h
  · next htasks =>
    split at h
    · cases h
    · next hread =>
      cases h
      obtain ⟨hlookup, htext, hvalid⟩ := tasks_of_readAndValidateTasksConfig htasks
      obtain ⟨text, hlist, hlistText, hnonempty, hcases⟩ := list_of_readAndValidateAgentList hread
      rcases hcases with ⟨hall, hexpand⟩ | ⟨hall, hlines⟩
      · have hasks : m.Asks f s.reconfigureDir content (m.linesOf text) :=
          ⟨hlookup, htext, hvalid, ⟨text, hlist, rfl⟩, hlistText, hnonempty,
            by rw [hall]; exact List.nodup_singleton _, fun hne => absurd hall hne⟩
        obtain ⟨expanded, hids, -, he⟩ := getAllAgentIds_spec (m := m) hf s.agentConfigsDir
        rw [hexpand] at he
        split at he
        · cases he
        · cases he
          by_cases hfile : ∃ agentId ∈ agentIds, configName agentId ∈ s.agentConfigsDir
          · obtain ⟨agentId, hmem, hfile⟩ := hfile
            exact .inl ⟨_, hasks, agentId, (lists_of_eq hall).2 ⟨hids agentId hmem, hfile⟩⟩
          · exact .inr fun agentId hmem hm => hfile ⟨agentId, hmem, hm⟩
      · obtain ⟨-, hnodup, -, hids⟩ := validateLines_eq_ok_iff.1 hlines
        obtain ⟨line, hline⟩ := List.exists_mem_of_ne_nil _ hnonempty
        exact .inl ⟨m.linesOf text, ⟨hlookup, htext, hvalid, ⟨text, hlist, rfl⟩, hlistText,
          hnonempty, hnodup, fun _ => hids⟩, line, (lists_of_ne hall).2 hline⟩

/-! ## Applying it -/

theorem cleanupOldBackups_of_listed {a : ApplyFaults} (h : ∃ listing, a.listing = .ok listing)
    (fileName : String) (d : Directory) : (cleanupOldBackups a fileName d).1 = .ok () := by
  obtain ⟨listing, hlisting⟩ := h
  unfold cleanupOldBackups
  rw [hlisting]

theorem applyConfigurationToAgent_of_notMem (a : ApplyFaults) {agentId : String} {d : Directory}
    (h : configName agentId ∉ d) :
    m.applyConfigurationToAgent a agentId content d =
      (.error s!"Agent configuration file not found: {m.agentPath (configName agentId)}", d) := by
  unfold applyConfigurationToAgent
  simp [h]

theorem applyConfigurationToAgent_of_mem {a : ApplyFaults} (ha : a.Succeeds) (content : String)
    {agentId : String} {d : Directory} (h : configName agentId ∈ d) :
    ∃ d', m.applyConfigurationToAgent a agentId content d = (.ok (), d') ∧
      d'.lookup (configName agentId) = some content := by
  obtain ⟨old, hold⟩ := Option.isSome_iff_exists.1 (AList.lookup_isSome.2 h)
  have hbackup : (m.backupAgentConfig a (configName agentId) d).1 = .ok () := by
    unfold backupAgentConfig
    dsimp only
    rw [hold, ha.copied]
    exact cleanupOldBackups_of_listed ha.listed _ _
  unfold applyConfigurationToAgent
  dsimp only
  rw [ha.visible, if_neg (by simpa using h)]
  split
  · next he =>
    rw [he] at hbackup
    cases hbackup
  · next d' _ =>
    rw [ha.written]
    exact ⟨_, rfl, AList.lookup_insert d'⟩

/-- One agent of the loop. -/
theorem lookup_applyNext {applying : Nat → ApplyFaults} (ha : ∀ i, (applying i).Succeeds)
    (p : Progress) (agentId other : String) :
    (m.applyNext applying content p agentId).agentConfigsDir.lookup (configName other) =
      if other = agentId then (p.agentConfigsDir.lookup (configName other)).map fun _ => content
      else p.agentConfigsDir.lookup (configName other) := by
  rw [agentConfigsDir_applyNext]
  split
  · next he =>
    subst he
    by_cases hm : configName other ∈ p.agentConfigsDir
    · obtain ⟨d', he, hl⟩ := applyConfigurationToAgent_of_mem (m := m)
        (ha (p.successCount + p.errors.length)) content hm
      obtain ⟨old, hold⟩ := Option.isSome_iff_exists.1 (AList.lookup_isSome.2 hm)
      rw [he, hl, hold, Option.map_some]
    · rw [applyConfigurationToAgent_of_notMem _ hm, AList.lookup_eq_none.2 hm, Option.map_none]
  · next hne =>
    apply lookup_applyConfigurationToAgent
    · exact fun he => hne (configName_inj he)
    · exact backupTimestamp_configName _ _

theorem errors_applyNext {applying : Nat → ApplyFaults} (ha : ∀ i, (applying i).Succeeds)
    (p : Progress) (agentId : String) :
    (m.applyNext applying content p agentId).errors = [] ↔
      p.errors = [] ∧ configName agentId ∈ p.agentConfigsDir := by
  unfold applyNext
  by_cases hm : configName agentId ∈ p.agentConfigsDir
  · obtain ⟨d', he, -⟩ := applyConfigurationToAgent_of_mem (m := m)
      (ha (p.successCount + p.errors.length)) content hm
    rw [he]
    simp [hm]
  · rw [applyConfigurationToAgent_of_notMem _ hm]
    simp [hm]

/-- Which agents have a file stays as it is. -/
theorem mem_applyNext {applying : Nat → ApplyFaults} (ha : ∀ i, (applying i).Succeeds)
    (p : Progress) (agentId other : String) :
    configName other ∈ (m.applyNext applying content p agentId).agentConfigsDir ↔
      configName other ∈ p.agentConfigsDir := by
  rw [← AList.lookup_isSome, ← AList.lookup_isSome, lookup_applyNext ha]
  split
  · rw [Option.isSome_map]
  · rfl

/-- **The loop**: the agents of the list that have a file get the content, the others keep theirs. -/
theorem lookup_applyEach {applying : Nat → ApplyFaults} (ha : ∀ i, (applying i).Succeeds)
    (agentIds : List String) (p : Progress) (other : String) :
    (agentIds.foldl (m.applyNext applying content) p).agentConfigsDir.lookup (configName other) =
      if other ∈ agentIds then (p.agentConfigsDir.lookup (configName other)).map fun _ => content
      else p.agentConfigsDir.lookup (configName other) := by
  induction agentIds generalizing p with
  | nil => rfl
  | cons agentId agentIds ih =>
    rw [List.foldl_cons, ih, lookup_applyNext ha]
    by_cases he : other = agentId
    · subst he
      rw [if_pos rfl, if_pos List.mem_cons_self, Option.map_map]
      split
      · rfl
      · rfl
    · rw [if_neg he]
      simp only [List.mem_cons, he, false_or]

/-- Where none of them has a file, nothing is written. -/
theorem agentConfigsDir_applyEach {applying : Nat → ApplyFaults} {agentIds : List String}
    {d : Directory} (h : ∀ agentId ∈ agentIds, configName agentId ∉ d) (p : Progress)
    (hp : p.agentConfigsDir = d) :
    (agentIds.foldl (m.applyNext applying content) p).agentConfigsDir = d := by
  induction agentIds generalizing p with
  | nil => exact hp
  | cons agentId agentIds ih =>
    obtain ⟨hfirst, hrest⟩ := List.forall_mem_cons.1 h
    refine ih hrest _ ?_
    rw [agentConfigsDir_applyNext, hp, applyConfigurationToAgent_of_notMem _ hfirst]

theorem errors_applyEach {applying : Nat → ApplyFaults} (ha : ∀ i, (applying i).Succeeds)
    (agentIds : List String) (p : Progress) :
    (agentIds.foldl (m.applyNext applying content) p).errors = [] ↔
      p.errors = [] ∧ ∀ agentId ∈ agentIds, configName agentId ∈ p.agentConfigsDir := by
  induction agentIds generalizing p with
  | nil => simp
  | cons agentId agentIds ih =>
    rw [List.foldl_cons, ih, errors_applyNext ha, List.forall_mem_cons, and_assoc]
    simp only [mem_applyNext ha]

/-! ## The cycle -/

theorem clearErrorFile_spec (hf : f.Succeeds) (d : Directory) :
    ∃ d', m.clearErrorFile f d = (.ok (), d') ∧ errorFile ∉ d' ∧
      ∀ name, name ≠ errorFile → d'.lookup name = d.lookup name := by
  unfold clearErrorFile
  rw [hf.visible, hf.removed, if_neg Bool.false_ne_true]
  split
  · refine ⟨_, rfl, fun hm => (AList.mem_erase.1 hm).1 rfl, fun name hne => ?_⟩
    exact AList.lookup_erase_ne hne
  · next hm => exact ⟨d, rfl, fun h => hm ⟨h, rfl⟩, fun _ _ => rfl⟩

theorem cleanupFiles_spec (hf : f.Succeeds) (names : List String) (d : Directory) :
    ∃ d', m.cleanupFiles f d names = (.ok (), d') ∧
      ∀ name, name ∈ d' ↔ name ∈ d ∧ name ∉ names := by
  induction names generalizing d with
  | nil => exact ⟨d, rfl, by simp⟩
  | cons first rest ih =>
    unfold cleanupFiles
    rw [hf.visible, hf.removed, if_neg Bool.false_ne_true]
    split
    · obtain ⟨d', he, hmem⟩ := ih (d.erase first)
      refine ⟨d', he, fun name => ?_⟩
      rw [hmem, AList.mem_erase, List.mem_cons]
      tauto
    · next hm =>
      obtain ⟨d', he, hmem⟩ := ih d
      refine ⟨d', he, fun name => ?_⟩
      rw [hmem, List.mem_cons, not_or]
      constructor
      · rintro ⟨hd, hrest⟩
        refine ⟨hd, ?_, hrest⟩
        rintro rfl
        exact hm ⟨hd, rfl⟩
      · rintro ⟨hd, -, hrest⟩
        exact ⟨hd, hrest⟩

theorem writeError_spec (hf : f.Succeeds) (message : String) (d : Directory) :
    ∃ content, m.writeError f message d = (.ok (), d.insert errorFile content) := by
  unfold writeError
  rw [hf.errorOpens, hf.errorWritten]
  exact ⟨_, rfl⟩

/-- `error.txt` is no part of the request. -/
theorem Asks.congr {d d' : Directory} (hasks : m.Asks f d content lines)
    (h : ∀ name, name ≠ errorFile → d'.lookup name = d.lookup name) :
    m.Asks f d' content lines where
  tasks := (h tasksConfigFile (by decide)).trans hasks.tasks
  tasksText := hasks.tasksText
  valid := hasks.valid
  list := by
    obtain ⟨text, htext, hlines⟩ := hasks.list
    exact ⟨text, (h agentListFile (by decide)).trans htext, hlines⟩
  listText := hasks.listText
  nonempty := hasks.nonempty
  nodup := hasks.nodup
  ids := hasks.ids

/-- The request is not one to apply. -/
theorem agentConfigsDir_of_not_asked (hf : f.Succeeds)
    (h : ¬ ∃ content lines, m.Asks f s.reconfigureDir content lines ∧
      ∃ agentId, m.Lists lines s.agentConfigsDir agentId) :
    (m.checkAndProcess f s).2.agentConfigsDir = s.agentConfigsDir := by
  rw [agentConfigsDir_checkAndProcess]
  split
  · rfl
  · next content agentIds hrequested =>
    unfold requested at hrequested
    split at hrequested
    · cases hrequested
    · obtain ⟨d', he, -, hlookup⟩ := clearErrorFile_spec (m := m) hf s.reconfigureDir
      rw [he] at hrequested
      dsimp only at hrequested
      cases hrequest : m.request f { s with reconfigureDir := d' } with
      | error e =>
        rw [hrequest] at hrequested
        cases hrequested
      | ok asked =>
        rw [hrequest] at hrequested
        obtain rfl := Option.some.inj hrequested
        rcases asks_of_request hf hrequest with ⟨lines, hasks, hnamed⟩ | hnone
        · have hasks' := hasks.congr fun name hne => (hlookup name hne).symm
          exact absurd ⟨content, lines, hasks', hnamed⟩ h
        · exact agentConfigsDir_applyEach hnone _ rfl

/-- The request is applied, and then removed, or kept with an error. -/
theorem checkAndProcess_of_asks (hf : f.Succeeds)
    (hasks : m.Asks f s.reconfigureDir content lines) (hdot : m.env.isAlphanumeric '.' = false)
    (hplain : lines = [allAgentsMarker] → s.agentConfigsDir.PlainNames m.env)
    (hnamed : ∃ agentId, m.Lists lines s.agentConfigsDir agentId) :
    ∃ (agentIds : List String) (p : Progress),
      (∀ agentId, agentId ∈ agentIds ↔ m.Lists lines s.agentConfigsDir agentId) ∧
      p = agentIds.foldl (m.applyNext f.applying content) ⟨0, [], s.agentConfigsDir⟩ ∧
      (m.checkAndProcess f s).2.agentConfigsDir = p.agentConfigsDir ∧
      (agentListFile ∉ (m.checkAndProcess f s).2.reconfigureDir ↔ p.errors = []) ∧
      (tasksConfigFile ∉ (m.checkAndProcess f s).2.reconfigureDir ↔ p.errors = []) ∧
      (errorFile ∈ (m.checkAndProcess f s).2.reconfigureDir ↔ p.errors ≠ []) := by
  obtain ⟨d', hclear, herror, hlookup⟩ := clearErrorFile_spec (m := m) hf s.reconfigureDir
  have hasks' : m.Asks f d' content lines := hasks.congr hlookup
  obtain ⟨agentIds, hrequest, hmem⟩ :=
    request_of_asks (s := { s with reconfigureDir := d' }) hf hasks' hdot hplain hnamed
  have hlist : agentListFile ∈ d' := by
    obtain ⟨text, htext, -⟩ := hasks'.list
    rw [← AList.lookup_isSome, htext]
    rfl
  have htasks : tasksConfigFile ∈ d' := by
    rw [← AList.lookup_isSome, hasks'.tasks]
    rfl
  have hsome : ¬ s.reconfigureDir.keys.isEmpty = true := by
    rw [List.isEmpty_iff]
    apply List.ne_nil_of_mem (a := tasksConfigFile)
    apply AList.mem_keys.1
    rw [← AList.lookup_isSome, hasks.tasks]
    rfl
  refine ⟨agentIds, _, hmem, rfl, ?_⟩
  unfold checkAndProcess processReconfiguration applyConfigurationToAgents
  rw [hf.folder]
  dsimp only
  rw [if_neg hsome, hclear]
  dsimp only
  rw [hrequest]
  dsimp only
  by_cases herrors : (agentIds.foldl (m.applyNext f.applying content)
    ⟨0, [], s.agentConfigsDir⟩).errors = []
  · rw [herrors]
    obtain ⟨d'', he, hrest⟩ := cleanupFiles_spec (m := m) hf [agentListFile, tasksConfigFile] d'
    simp [he, hrest, herror]
  · have hnonempty : ¬ (agentIds.foldl (m.applyNext f.applying content)
      ⟨0, [], s.agentConfigsDir⟩).errors.isEmpty = true := by simpa using herrors
    rw [if_neg hnonempty]
    dsimp only
    obtain ⟨text, he⟩ := writeError_spec (m := m) hf _ d'
    rw [he]
    simp [herrors, hlist, htasks]

/-! ## Results -/

/-- **A reconfiguration changes what was asked for**: a valid request changes the files of the
agents it lists and no others, and is kept when one of them has no file; any other request changes
no agent's file. -/
theorem fulfils_request (m : ReconfigureManager) (f : CycleFaults) (s : ServerFiles)
    (hf : f.Succeeds) (hdot : m.env.isAlphanumeric '.' = false) :
    (∀ content lines, m.Asks f s.reconfigureDir content lines →
      (lines = [allAgentsMarker] → s.agentConfigsDir.PlainNames m.env) →
      (∃ agentId, m.Lists lines s.agentConfigsDir agentId) →
        m.Fulfils s (m.checkAndProcess f s).2 content lines) ∧
    ((¬ ∃ content lines, m.Asks f s.reconfigureDir content lines ∧
      ∃ agentId, m.Lists lines s.agentConfigsDir agentId) →
        (m.checkAndProcess f s).2.agentConfigsDir = s.agentConfigsDir) := by
  refine ⟨?_, agentConfigsDir_of_not_asked hf⟩
  · intro content lines hasks hplain hnamed
    obtain ⟨agentIds, p, hmem, hp, hdir, hlist, htasks, herror⟩ :=
      checkAndProcess_of_asks hf hasks hdot hplain hnamed
    have hlookup : ∀ agentId, p.agentConfigsDir.lookup (configName agentId) =
        if agentId ∈ agentIds then
          (s.agentConfigsDir.lookup (configName agentId)).map fun _ => content
        else s.agentConfigsDir.lookup (configName agentId) := by
      intro agentId
      rw [hp]
      exact lookup_applyEach hf.applying agentIds _ agentId
    have hthere : p.errors = [] ↔ m.AllThere lines s.agentConfigsDir := by
      rw [hp, errors_applyEach hf.applying]
      simp only [true_and, hmem]
      rfl
    constructor
    · intro agentId hlists hfile
      obtain ⟨old, hold⟩ := Option.isSome_iff_exists.1 (AList.lookup_isSome.2 hfile)
      rw [hdir, hlookup, if_pos ((hmem agentId).2 hlists), hold, Option.map_some]
    · intro agentId hlists hfile
      rw [← AList.lookup_eq_none] at hfile ⊢
      rw [hdir, hlookup, if_pos ((hmem agentId).2 hlists), hfile, Option.map_none]
    · intro agentId hlists
      rw [hdir, hlookup, if_neg (mt (hmem agentId).1 hlists)]
    · rw [hlist, hthere]
    · rw [htasks, hthere]
    · rw [herror, ← hthere]

end ReconfigureManager

/-! ## Requests for two agents, and for all -/

theorem succeeds_cycleAt (now : Nat) : (cycleAt now).Succeeds :=
  ⟨rfl, fun _ => rfl, fun _ => rfl, ⟨_, rfl⟩, fun _ => ⟨rfl, rfl, ⟨_, rfl⟩, rfl⟩, rfl, rfl⟩

def allAgentsRequest : Directory :=
  [⟨agentListFile, allAgentsMarker⟩, ⟨tasksConfigFile, "tasks = []"⟩].toAList

theorem asks_allAgentsRequest :
    plainManager.Asks (cycleAt 0) allAgentsRequest "tasks = []" [allAgentsMarker] :=
  ⟨by decide +kernel, rfl, by decide +kernel,
    ⟨allAgentsMarker, by decide +kernel, by decide +kernel⟩,
    rfl, by decide, by decide, fun hne => absurd rfl hne⟩

/-- One of two agents has no file; and all agents, of which there is one. -/
theorem fulfils_request_ghost :
    plainManager.Fulfils ghostFiles (plainManager.checkAndProcess (cycleAt 0) ghostFiles).2
        "tasks = []" ["a", "ghost"] ∧
      plainManager.Fulfils ⟨allAgentsRequest, oneAgentDir⟩
        (plainManager.checkAndProcess (cycleAt 0) ⟨allAgentsRequest, oneAgentDir⟩).2 "tasks = []"
        [allAgentsMarker] := by
  have hlines : plainManager.linesOf "a\nghost\n" = ["a", "ghost"] := by decide +kernel
  have hasks : plainManager.Asks (cycleAt 0) ghostFiles.reconfigureDir "tasks = []"
      ["a", "ghost"] :=
    ⟨by decide +kernel, rfl, by decide +kernel, ⟨"a\nghost\n", by decide +kernel, hlines⟩, rfl,
      by decide, by decide, fun _ => by decide +kernel⟩
  have hnamed : plainManager.Lists ["a", "ghost"] ghostFiles.agentConfigsDir "a" :=
    (ReconfigureManager.lists_of_ne (by decide)).2 (by decide)
  have hall : plainManager.Lists [allAgentsMarker] oneAgentDir "a" :=
    (ReconfigureManager.lists_of_eq rfl).2 ⟨by decide +kernel, by decide +kernel⟩
  exact ⟨(ReconfigureManager.fulfils_request plainManager (cycleAt 0) ghostFiles
      (succeeds_cycleAt 0) rfl).1 _ _ hasks (fun h => absurd h (by decide)) ⟨"a", hnamed⟩,
    (ReconfigureManager.fulfils_request plainManager (cycleAt 0) ⟨allAgentsRequest, oneAgentDir⟩
      (succeeds_cycleAt 0) rfl).1 _ _ asks_allAgentsRequest (fun _ => plainNames_oneAgentDir)
      ⟨"a", hall⟩⟩

/-- Where there is no agent, every listed agent has a file, and yet the request stays, with an
error. -/
theorem not_fulfils_allAgents :
    plainManager.Asks (cycleAt 0) allAgentsRequest "tasks = []" [allAgentsMarker] ∧
      ¬ plainManager.Fulfils ⟨allAgentsRequest, ∅⟩
        (plainManager.checkAndProcess (cycleAt 0) ⟨allAgentsRequest, ∅⟩).2 "tasks = []"
        [allAgentsMarker] := by
  refine ⟨asks_allAgentsRequest, fun h => ?_⟩
  have hthere : plainManager.AllThere [allAgentsMarker] ∅ := by
    intro agentId hlists
    exact absurd ((ReconfigureManager.lists_of_eq rfl).1 hlists).2 (AList.notMem_empty _)
  have hkept : agentListFile ∈
      (plainManager.checkAndProcess (cycleAt 0) ⟨allAgentsRequest, ∅⟩).2.reconfigureDir := by
    decide +kernel
  exact h.listRemoved.2 hthere hkept

end LinkSense
