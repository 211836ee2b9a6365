import LinkSense.Server.Reconfigure

/-!
# Names of the agents' files

What the reconfiguration takes for an agent's id, and which id it reads off the name of a file: the
name without `.toml` at its end, however often it is there.

    a name that ends in `.toml` is its id with `.toml` once or more              (exists_eq_tomlName)
    the id of `x.toml`, and of `x.toml.toml`, is `x`                             (stripToml_tomlName)
-/

namespace LinkSense

open Files

/-! ## Ids -/

variable {env : Externals} {agentId : String}

/-- Alphanumeric characters, hyphens and underscores, and one of them at least. -/
structure IdCharacters (env : Externals) (agentId : String) : Prop where
  nonempty : agentId ≠ ""
  allowed : agentId.toList.all (fun c => env.isAlphanumeric c || c == '-' || c == '_') = true

theorem validateAgentId_utils_iff : Utils.validateAgentId env agentId = .ok () ↔
    IdCharacters env agentId ∧ agentId.utf8ByteSize ≤ 64 := by
  unfold Utils.validateAgentId
  split_ifs with hempty hlong hchars
  · exact ⟨(nomatch ·), fun h => absurd hempty h.1.nonempty⟩
  · exact ⟨(nomatch ·), fun h => absurd hlong (not_lt.2 h.2)⟩
  · refine ⟨(nomatch ·), fun h => ?_⟩
    rw [h.1.allowed] at hchars
    cases hchars
  · rw [Bool.not_eq_true', Bool.not_eq_false] at hchars
    exact ⟨fun _ => ⟨⟨hempty, hchars⟩, not_lt.1 hlong⟩, fun _ => rfl⟩

theorem validateAgentId_utils_isOk : (Utils.validateAgentId env agentId).isOk = true ↔
    Utils.validateAgentId env agentId = .ok () := by
  cases Utils.validateAgentId env agentId with
  | ok u => exact ⟨fun _ => rfl, fun _ => rfl⟩
  | error e => exact ⟨(nomatch ·), (nomatch ·)⟩

/-! ## Names of files -/

/-- An id with `.toml` after it several times. -/
def tomlName (agentId : String) (k : Nat) : String :=
  .ofList (agentId.toList ++ (List.replicate k ".toml".toList).flatten)

/-- `trim_end_matches(".toml")`. -/
def stripToml (name : String) : String := .ofList (dropTomls name.toList.reverse).reverse

theorem tomlName_one (agentId : String) : tomlName agentId 1 = configName agentId := by
  refine String.toList_inj.1 ?_
  unfold tomlName configName
  rw [String.toList_ofList, String.toList_append]
  rfl

theorem dropTomls_eq_self {s : List Char} (h : '.' ∉ s) : dropTomls s = s := by
  fun_cases dropTomls s with
  | case1 rest => exact absurd (by simp) h
  | case2 => rfl

theorem dropTomls_replicate (k : Nat) (s : List Char) :
    dropTomls ((List.replicate k ['l', 'm', 'o', 't', '.']).flatten ++ s) = dropTomls s := by
  induction k with
  | zero => rfl
  | succ k ih => exact ih

theorem exists_eq_dropTomls (s : List Char) :
    ∃ k, s = (List.replicate k ['l', 'm', 'o', 't', '.']).flatten ++ dropTomls s := by
  fun_induction dropTomls s with
  | case1 rest ih =>
    obtain ⟨k, hk⟩ := ih
    refine ⟨k + 1, ?_⟩
    rw [List.replicate_succ, List.flatten_cons, List.append_assoc, ← hk]
    rfl
  | case2 s hs => exact ⟨0, rfl⟩

theorem reverse_tomls (k : Nat) : (List.replicate k ".toml".toList).flatten.reverse =
    (List.replicate k ['l', 'm', 'o', 't', '.']).flatten := by
  rw [List.reverse_flatten, List.map_replicate, List.reverse_replicate]
  rfl

theorem not_dot_mem_of_idCharacters (hdot : env.isAlphanumeric '.' = false)
    (h : IdCharacters env agentId) : '.' ∉ agentId.toList := by
  intro hmem
  have := List.all_eq_true.1 h.allowed '.' hmem
  rw [hdot] at this
  cases this

theorem stripToml_tomlName (hdot : env.isAlphanumeric '.' = false) (h : IdCharacters env agentId)
    (k : Nat) : stripToml (tomlName agentId k) = agentId := by
  have hnot : '.' ∉ agentId.toList.reverse :=
    fun hmem => not_dot_mem_of_idCharacters hdot h (List.mem_reverse.1 hmem)
  unfold stripToml tomlName
  rw [String.toList_ofList, List.reverse_append, reverse_tomls, dropTomls_replicate,
    dropTomls_eq_self hnot, List.reverse_reverse, String.ofList_toList]

/-- A name that ends in `.toml` is what is left of it, with `.toml` once or more. -/
theorem exists_eq_tomlName {name : String} (h : ".toml".toList.isSuffixOf name.toList = true) :
    ∃ k, name = tomlName (stripToml name) (k + 1) := by
  obtain ⟨k, hk⟩ := exists_eq_dropTomls name.toList.reverse
  have hname : name = tomlName (stripToml name) k := by
    refine String.toList_inj.1 ?_
    unfold tomlName stripToml
    rw [String.toList_ofList, String.toList_ofList, ← List.reverse_inj, List.reverse_append,
      List.reverse_reverse, reverse_tomls]
    exact hk
  cases k with
  | succ k => exact ⟨k, hname⟩
  | zero =>
    -- nothing was stripped, although the name ends in `.toml`
    exfalso
    obtain ⟨s, hs⟩ := List.isSuffixOf_iff_suffix.1 h
    have hrev : name.toList.reverse = 'l' :: 'm' :: 'o' :: 't' :: '.' :: s.reverse := by
      rw [← hs, List.reverse_append]
      rfl
    rw [hrev] at hk
    obtain ⟨j, hj⟩ := exists_eq_dropTomls s.reverse
    have hlength := congrArg List.length (show _ = dropTomls s.reverse from hk)
    have hle := congrArg List.length hj
    simp only [List.length_cons, List.length_append] at hlength hle
    omega

theorem isSuffixOf_tomlName (agentId : String) (k : Nat) :
    ".toml".toList.isSuffixOf (tomlName agentId (k + 1)).toList = true := by
  refine List.isSuffixOf_iff_suffix.2
    ⟨agentId.toList ++ (List.replicate k ".toml".toList).flatten, ?_⟩
  have hlist : (tomlName agentId (k + 1)).toList =
      agentId.toList ++ (List.replicate (k + 1) ".toml".toList).flatten := String.toList_ofList
  rw [hlist, List.replicate_succ', List.flatten_append, List.append_assoc, List.flatten_singleton]

theorem tomlName_injective (agentId : String) : Function.Injective (tomlName agentId) := by
  intro j k h
  have hlength := congrArg List.length
    (List.append_cancel_left (String.ofList_injective h))
  rw [List.length_flatten, List.length_flatten, List.map_replicate, List.map_replicate,
    List.sum_replicate_nat, List.sum_replicate_nat] at hlength
  exact Nat.eq_of_mul_eq_mul_right (by decide) hlength

/-! ## Folders of such names -/

/-- No file has the name of a valid id with `.toml` several times after it. -/
def Directory.PlainNames (env : Externals) (d : Directory) : Prop :=
  ∀ agentId k, Utils.validateAgentId env agentId = .ok () → 2 ≤ k → tomlName agentId k ∉ d

def oneAgentDir : Directory := [⟨"a.toml", "[[tasks]]"⟩].toAList

theorem plainNames_oneAgentDir : oneAgentDir.PlainNames plainManager.env := by
  intro agentId k hvalid hk hm
  have hkeys : oneAgentDir.keys = ["a.toml"] := by decide
  rw [AList.mem_keys, hkeys, List.mem_singleton] at hm
  have hid := stripToml_tomlName rfl (validateAgentId_utils_iff.1 hvalid).1 k
  rw [hm] at hid
  rw [← hid] at hm
  have hone : k = 1 := tomlName_injective _ (hm.trans (by decide +kernel))
  omega

end LinkSense
