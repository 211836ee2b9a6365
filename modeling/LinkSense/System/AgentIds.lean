import LinkSense.Server.AgentFiles
import LinkSense.Server.Api

/-!
# Agent ids

Three functions say what the id of an agent is: the agent's own configuration, the server's API, and
the reconfiguration.  And a reconfiguration of all agents reads their ids off the names of files.

    the agent, the server and the reconfiguration agree on an id ↔ it is none by its characters, or
      has at most 64 bytes, and no hyphen or underscore at its ends       (validators_agree_iff)
    all agents are those with a file ↔ no id of a file has `.toml` stripped twice
                                                                      (getAllAgentIds_exact_iff)
-/

namespace LinkSense

open Files

/-! ## What an id is -/

variable {env : Externals} {agentId : String}

/-- `AgentConfig::validate` accepts this id. -/
def AgentAccepts (env : Externals) (agentId : String) : Prop :=
  ∃ config : AgentConfig, config.agentId = agentId ∧ config.validate env = .ok ()

/-- No hyphen or underscore begins or ends it. -/
def PlainEnds (agentId : String) : Prop :=
  (agentId.toList.head?.any (fun c => c == '-' || c == '_') ||
    agentId.toList.getLast?.any fun c => c == '-' || c == '_') = false

theorem validateAgentId_iff : validateAgentId env agentId = .ok () ↔
    IdCharacters env agentId ∧ agentId.utf8ByteSize ≤ 128 ∧ PlainEnds agentId := by
  unfold validateAgentId PlainEnds
  simp only [← Bool.or_assoc]
  split_ifs with hempty hlong hchars hends
  · exact ⟨(nomatch ·), fun h => absurd hempty h.1.nonempty⟩
  · exact ⟨(nomatch ·), fun h => absurd hlong (not_lt.2 h.2.1)⟩
  · refine ⟨(nomatch ·), fun h => ?_⟩
    rw [h.1.allowed] at hchars
    cases hchars
  · refine ⟨(nomatch ·), fun h => ?_⟩
    rw [h.2.2] at hends
    cases hends
  · rw [Bool.not_eq_true', Bool.not_eq_false] at hchars
    rw [Bool.not_eq_true] at hends
    exact ⟨fun _ => ⟨⟨hempty, hchars⟩, not_lt.1 hlong, hends⟩, fun _ => rfl⟩

/-- The configuration of an agent without a server. -/
def localConfig (agentId : String) : AgentConfig :=
  ⟨agentId, "", "", 7, true, true, 5, 30, 50, 10, 3600, 86400, 50, 100, 30, 5, 30, 1000, 3600⟩

theorem agentAccepts_iff : AgentAccepts env agentId ↔ IdCharacters env agentId := by
  constructor
  · rintro ⟨config, rfl, h⟩
    unfold AgentConfig.validate requireField reject at h
    by_cases hempty : config.agentId = ""
    · rw [decide_eq_true hempty] at h
      cases h
    by_cases hchars : config.agentId.toList.all
        (fun c => env.isAlphanumeric c || c == '-' || c == '_') = true
    · exact ⟨hempty, hchars⟩
    · rw [Bool.not_eq_true] at hchars
      rw [decide_eq_false hempty, hchars] at h
      cases h
  · rintro ⟨hempty, hchars⟩
    refine ⟨localConfig agentId, rfl, ?_⟩
    unfold AgentConfig.validate requireField reject localConfig
    dsimp only
    rw [decide_eq_false hempty, hchars]
    rfl

/-- **The validators agree** on the ids that are short and have plain ends. -/
theorem validators_agree_iff (env : Externals) (agentId : String) :
    ((AgentAccepts env agentId → validateAgentId env agentId = .ok ()) ∧
      (validateAgentId env agentId = .ok () → Utils.validateAgentId env agentId = .ok ())) ↔
    (IdCharacters env agentId → agentId.utf8ByteSize ≤ 64 ∧ PlainEnds agentId) := by
  rw [agentAccepts_iff, validateAgentId_iff, validateAgentId_utils_iff]
  constructor
  · rintro ⟨hserver, hutils⟩ hid
    have hadmitted := hserver hid
    exact ⟨(hutils hadmitted).2, hadmitted.2.2⟩
  · intro h
    refine ⟨fun hid => ?_, fun hadmitted => ⟨hadmitted.1, (h hadmitted.1).1⟩⟩
    obtain ⟨hsize, hends⟩ := h hid
    exact ⟨hid, hsize.trans (by omega), hends⟩

/-- Any url and any pattern, and the letters and digits of ASCII. -/
def asciiExternals : Externals :=
  ⟨fun _ => .ok ⟨"https", some "example.com", "", none⟩, fun _ => .ok (), Char.isAlphanum⟩

/-- An agent whose id the server refuses, and one that the server knows and cannot reconfigure. -/
theorem validators_disagree :
    (AgentAccepts asciiExternals "-web" ∧
      validateAgentId asciiExternals "-web" =
        .error (.badRequest "Agent ID cannot start or end with hyphens or underscores")) ∧
    validateAgentId asciiExternals (.ofList (List.replicate 65 'a')) = .ok () ∧
      Utils.validateAgentId asciiExternals (.ofList (List.replicate 65 'a')) =
        .error "Validation error: Agent ID cannot be longer than 64 characters" := by
  refine ⟨⟨⟨localConfig "-web", rfl, ?_⟩, ?_⟩, ?_, ?_⟩
  · decide +kernel
  · rfl
  · rfl
  · rfl

/-! ## All agents -/

/-- A regular file with the configuration of a valid id. -/
structure HasConfig (env : Externals) (f : CycleFaults) (d : Directory) (agentId : String) :
    Prop where
  valid : Utils.validateAgentId env agentId = .ok ()
  file : configName agentId ∈ d
  regular : f.hidden (configName agentId) = false

namespace ReconfigureManager

variable {m : ReconfigureManager} {f : CycleFaults} {d : Directory}

/-- The ids with a file, each once, and an error if there are none. -/
def ExpandsExactly (m : ReconfigureManager) (f : CycleFaults) (d : Directory) : Prop :=
  match m.getAllAgentIds f d with
  | .ok ids => ids ≠ [] ∧ ids.Nodup ∧ ∀ agentId, agentId ∈ ids ↔ HasConfig m.env f d agentId
  | .error _ => ∀ agentId, ¬ HasConfig m.env f d agentId

/-- The files that are taken for those of agents. -/
def tomlFiles (f : CycleFaults) (listing : Listing String) (d : Directory) : List String :=
  (listing.order d.keys).filter fun name => !f.hidden name && ".toml".toList.isSuffixOf name.toList

/-- What `get_all_agent_ids` makes of them. -/
def idsOfFiles (m : ReconfigureManager) (f : CycleFaults) (listing : Listing String)
    (d : Directory) : List String :=
  ((tomlFiles f listing d).map stripToml).filter fun agentId =>
    (Utils.validateAgentId m.env agentId).isOk

theorem getAllAgentIds_eq {listing : Listing String} (h : f.agents = .ok listing) :
    m.getAllAgentIds f d =
      if (idsOfFiles m f listing d).isEmpty then
        .error s!"No agent configuration files found in {m.agentConfigsPath}"
      else .ok (idsOfFiles m f listing d) := by
  unfold getAllAgentIds
  rw [h]
  rfl

theorem mem_tomlFiles {listing : Listing String} {name : String} :
    name ∈ tomlFiles f listing d ↔
      name ∈ d ∧ f.hidden name = false ∧ ".toml".toList.isSuffixOf name.toList = true := by
  unfold tomlFiles
  rw [List.mem_filter, (listing.perm d.keys).mem_iff, AList.mem_keys, Bool.and_eq_true,
    Bool.not_eq_true']

theorem nodup_tomlFiles (f : CycleFaults) (listing : Listing String) (d : Directory) :
    (tomlFiles f listing d).Nodup :=
  ((listing.perm d.keys).nodup_iff.2 d.keys_nodup).filter _

theorem mem_idsOfFiles (hdot : m.env.isAlphanumeric '.' = false) {listing : Listing String}
    {agentId : String} : agentId ∈ idsOfFiles m f listing d ↔
      Utils.validateAgentId m.env agentId = .ok () ∧
        ∃ k, tomlName agentId (k + 1) ∈ tomlFiles f listing d := by
  unfold idsOfFiles
  rw [List.mem_filter, validateAgentId_utils_isOk, List.mem_map, and_comm]
  refine and_congr_right fun hvalid => ⟨?_, ?_⟩
  · rintro ⟨name, hname, rfl⟩
    obtain ⟨k, hk⟩ := exists_eq_tomlName (mem_tomlFiles.1 hname).2.2
    refine ⟨k, ?_⟩
    rwa [← hk]
  · rintro ⟨k, hk⟩
    exact ⟨_, hk, stripToml_tomlName hdot (validateAgentId_utils_iff.1 hvalid).1 _⟩

theorem hasConfig_iff (listing : Listing String) {agentId : String} :
    HasConfig m.env f d agentId ↔ Utils.validateAgentId m.env agentId = .ok () ∧
      tomlName agentId 1 ∈ tomlFiles f listing d := by
  rw [mem_tomlFiles, tomlName_one]
  constructor
  · rintro ⟨hvalid, hfile, hregular⟩
    exact ⟨hvalid, hfile, hregular, tomlName_one agentId ▸ isSuffixOf_tomlName agentId 0⟩
  · rintro ⟨hvalid, hfile, hregular, -⟩
    exact ⟨hvalid, hfile, hregular⟩

theorem idsOfFiles_eq_map (m : ReconfigureManager) (f : CycleFaults) (listing : Listing String)
    (d : Directory) : idsOfFiles m f listing d =
      ((tomlFiles f listing d).filter fun name =>
        (Utils.validateAgentId m.env (stripToml name)).isOk).map stripToml := by
  unfold idsOfFiles
  rw [List.filter_map]
  rfl

/-- An id that is listed once has one file. -/
theorem file_unique_of_nodup (hdot : m.env.isAlphanumeric '.' = false) {listing : Listing String}
    (hnodup : (idsOfFiles m f listing d).Nodup) {agentId : String}
    (hvalid : Utils.validateAgentId m.env agentId = .ok ()) {j k : Nat}
    (hj : tomlName agentId j ∈ tomlFiles f listing d)
    (hk : tomlName agentId k ∈ tomlFiles f listing d) : j = k := by
  have hstrip := stripToml_tomlName hdot (validateAgentId_utils_iff.1 hvalid).1
  have hkept : ∀ i, tomlName agentId i ∈ tomlFiles f listing d →
      tomlName agentId i ∈ (tomlFiles f listing d).filter fun name =>
        (Utils.validateAgentId m.env (stripToml name)).isOk := by
    intro i hi
    rw [List.mem_filter, hstrip i, validateAgentId_utils_isOk]
    exact ⟨hi, hvalid⟩
  rw [idsOfFiles_eq_map] at hnodup
  exact tomlName_injective agentId
    (List.inj_on_of_nodup_map hnodup (hkept j hj) (hkept k hk) ((hstrip j).trans (hstrip k).symm))

/-- Files of one `.toml` each give each id once. -/
theorem nodup_idsOfFiles {listing : Listing String}
    (hone : ∀ name ∈ tomlFiles f listing d,
      Utils.validateAgentId m.env (stripToml name) = .ok () → name = tomlName (stripToml name) 1) :
    (idsOfFiles m f listing d).Nodup := by
  rw [idsOfFiles_eq_map]
  refine List.Nodup.map_on ?_ ((nodup_tomlFiles f listing d).filter _)
  intro x hx y hy heq
  rw [List.mem_filter, validateAgentId_utils_isOk] at hx hy
  rw [hone x hx.1 hx.2, hone y hy.1 hy.2, heq]

/-- **All agents** are those with a file, unless a valid id has several `.toml` after it. -/
theorem getAllAgentIds_exact_iff (m : ReconfigureManager) (f : CycleFaults) (d : Directory)
    (hdot : m.env.isAlphanumeric '.' = false) {listing : Listing String}
    (hagents : f.agents = .ok listing) :
    m.ExpandsExactly f d ↔
      ∀ agentId k, Utils.validateAgentId m.env agentId = .ok () → 2 ≤ k →
        tomlName agentId k ∈ d → f.hidden (tomlName agentId k) = true := by
  unfold ExpandsExactly
  rw [getAllAgentIds_eq hagents]
  constructor
  · intro hexact agentId k hvalid hk hmem
    by_contra hvisible
    rw [Bool.not_eq_true] at hvisible
    obtain ⟨k, rfl⟩ := Nat.exists_eq_add_of_le' hk
    have hfile : tomlName agentId (k + 2) ∈ tomlFiles f listing d :=
      mem_tomlFiles.2 ⟨hmem, hvisible, isSuffixOf_tomlName agentId (k + 1)⟩
    have hid : agentId ∈ idsOfFiles m f listing d := (mem_idsOfFiles hdot).2 ⟨hvalid, _, hfile⟩
    rw [if_neg (by rw [List.isEmpty_iff]; exact List.ne_nil_of_mem hid)] at hexact
    obtain ⟨-, hnodup, hids⟩ := hexact
    -- the agent has a file of its own, so it is there twice
    have hown : tomlName agentId 1 ∈ tomlFiles f listing d :=
      ((hasConfig_iff listing).1 ((hids agentId).1 hid)).2
    have := file_unique_of_nodup hdot hnodup hvalid hfile hown
    omega
  · intro hnone
    have hone : ∀ agentId k, Utils.validateAgentId m.env agentId = .ok () →
        tomlName agentId (k + 1) ∈ tomlFiles f listing d → k = 0 := by
      intro agentId k hvalid hfile
      obtain ⟨hmem, hvisible, -⟩ := mem_tomlFiles.1 hfile
      by_contra hk
      rw [hnone agentId (k + 1) hvalid (by omega) hmem] at hvisible
      cases hvisible
    have hids : ∀ agentId, agentId ∈ idsOfFiles m f listing d ↔ HasConfig m.env f d agentId := by
      intro agentId
      rw [mem_idsOfFiles hdot, hasConfig_iff listing]
      refine and_congr_right fun hvalid => ⟨?_, fun h => ⟨0, h⟩⟩
      rintro ⟨k, hk⟩
      rwa [hone agentId k hvalid hk] at hk
    split_ifs with hempty
    · intro agentId hconfig
      rw [← hids, List.isEmpty_iff.1 hempty] at hconfig
      cases hconfig
    · refine ⟨fun h => hempty (List.isEmpty_iff.2 h), nodup_idsOfFiles ?_, hids⟩
      intro name hname hvalid
      obtain ⟨k, hk⟩ := exists_eq_tomlName (mem_tomlFiles.1 hname).2.2
      rw [hk] at hname
      rwa [hone _ k hvalid hname] at hk

end ReconfigureManager

/-- One file, of no agent. -/
def nestedDir : Directory := [⟨"a.toml.toml", ""⟩].toAList

theorem getAllAgentIds_nested :
    plainManager.getAllAgentIds (cycleAt 0) nestedDir = .ok ["a"] ∧
      ¬ HasConfig plainManager.env (cycleAt 0) nestedDir "a" ∧
      ¬ plainManager.ExpandsExactly (cycleAt 0) nestedDir := by
  have hids : plainManager.getAllAgentIds (cycleAt 0) nestedDir = .ok ["a"] := by decide +kernel
  have hnone : ¬ HasConfig plainManager.env (cycleAt 0) nestedDir "a" :=
    fun h => absurd h.file (by decide +kernel)
  refine ⟨hids, hnone, fun hexact => ?_⟩
  unfold ReconfigureManager.ExpandsExactly at hexact
  rw [hids] at hexact
  exact hnone ((hexact.2.2 "a").1 List.mem_cons_self)

/-- One file, of the agent. -/
theorem getAllAgentIds_exact_iff_oneAgent :
    plainManager.ExpandsExactly (cycleAt 0) oneAgentDir :=
  (ReconfigureManager.getAllAgentIds_exact_iff plainManager (cycleAt 0) oneAgentDir rfl rfl).2
    fun agentId k hvalid hk hm => absurd hm (plainNames_oneAgentDir agentId k hvalid hk)

end LinkSense
