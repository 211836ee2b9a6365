import LinkSense.Server.Reconfigure
import Mathlib.Data.Finset.Basic
import Mathlib.Data.Finset.Dedup

/-!
# Rotation of backups

Runs of `backup_agent_config` on the folder of the agents' tasks files, for any agents in any
order.  Removals succeed and the clock goes forward; a copy or a listing may fail.

    after a backup that succeeds, the ten most recent of all backups that the agent ever had are
      there, and nothing else has changed                                     (rotatesExactly)
-/

namespace LinkSense

open Files Labelled

/-! ## Runs -/

structure BackupCall where
  agentId : String
  faults : ApplyFaults

/-- Calls of `backup_agent_config` for the agents' tasks files, from this folder on. -/
def backupMachine (m : ReconfigureManager) (d : Directory) :
    Machine Directory BackupCall (Except String Unit) where
  init := d
  step d c := some ((m.backupAgentConfig c.faults (configName c.agentId) d).2,
    (m.backupAgentConfig c.faults (configName c.agentId) d).1)

/-- The file that the call has left as a backup before it rotates. -/
def BackupCall.made (c : BackupCall) (d : Directory) : Option (Nat × String) :=
  match d.lookup (configName c.agentId), c.faults.copy with
  | none, _ => none
  | some _, .failed none => none
  | some _, _ => some (c.faults.now, backupName (configName c.agentId) c.faults.now)

/-- The timestamped backups of an agent's file. -/
def backupSet (agentId : String) (d : Directory) : Finset (Nat × String) :=
  (backupsOf (configName agentId) d.keys).toFinset

abbrev TakenBackup := Taken Directory BackupCall (Except String Unit)

/-- The backup that a step has made for the agent. -/
def madeFor (agentId : String) (t : TakenBackup) : Option (Nat × String) :=
  if t.label.agentId = agentId then t.label.made t.pre else none

/-- All backups that the agent ever had: those in the first folder, and those made since. -/
def allBackups (agentId : String) (d₀ : Directory) (tr : List TakenBackup) :
    Finset (Nat × String) :=
  backupSet agentId d₀ ∪ (tr.filterMap (madeFor agentId)).toFinset

/-- Removals succeed, and the clock is past the backups of the first folder and goes forward. -/
structure TimedBackups (d₀ : Directory) (tr : List TakenBackup) : Prop where
  removes : ∀ t ∈ tr, ∀ name, t.label.faults.stuck name = false
  past : ∀ t ∈ tr, ∀ b ∈ backupSet t.label.agentId d₀, b.1 < t.label.faults.now.val
  increasing : tr.Pairwise fun t t' => t.label.faults.now.val < t'.label.faults.now.val

/-- Only timestamped backups of the agent are touched: no tasks file and no backup of another
agent is one. -/
structure Confined (agentId : String) (d d' : Directory) : Prop where
  others : ∀ name, backupTimestamp (configName agentId) name = none → d'.lookup name = d.lookup name
  configs : ∀ other, d'.lookup (configName other) = d.lookup (configName other)
  backups : ∀ other, other ≠ agentId → ∀ name, (backupTimestamp (configName other) name).isSome →
    d'.lookup name = d.lookup name

/-- The newest backup has what was in the agent's file, and those beside it are older and have
their contents. -/
structure HasCopy (c : BackupCall) (d d' : Directory) : Prop where
  newest : d.lookup (configName c.agentId) =
    d'.lookup (backupName (configName c.agentId) c.faults.now)
  exists_file : configName c.agentId ∈ d
  older : ∀ b ∈ backupSet c.agentId d', b.2 ≠ backupName (configName c.agentId) c.faults.now →
    b.1 < c.faults.now.val ∧ d'.lookup b.2 = d.lookup b.2

/-- What the rotation of one call is to do. -/
def RotatesExactly (d₀ : Directory) (before : List TakenBackup) (t : TakenBackup) : Prop :=
  Confined t.label.agentId t.pre t.post ∧
  (t.answer = .ok () → HasCopy t.label t.pre t.post ∧
    IsNewest Prod.fst maxBackupFiles (allBackups t.label.agentId d₀ (before ++ [t]))
      (backupSet t.label.agentId t.post))

/-! ## Lemmas -/

theorem mem_backupSet {agentId : String} {d : Directory} {b : Nat × String} :
    b ∈ backupSet agentId d ↔
      b.2 ∈ d ∧ backupTimestamp (configName agentId) b.2 = some b.1 := by
  unfold backupSet
  rw [List.mem_toFinset, mem_backupsOf]
  rfl

theorem confined_backupAgentConfig (m : ReconfigureManager) (f : ApplyFaults) (agentId : String)
    (d : Directory) :
    Confined agentId d (m.backupAgentConfig f (configName agentId) d).2 where
  others := fun name h => m.lookup_backupAgentConfig f d h
  configs := fun other => m.lookup_backupAgentConfig f d (backupTimestamp_configName _ _)
  backups := by
    intro other hne name hname
    apply m.lookup_backupAgentConfig
    obtain ⟨n, hn⟩ := Option.isSome_iff_exists.1 hname
    cases ht : backupTimestamp (configName agentId) name with
    | none => rfl
    | some k => exact absurd (configName_inj (backupTimestamp_inj hn ht)) hne

/-- Other agents have the backups that they had. -/
theorem backupSet_of_confined {agentId other : String} {d d' : Directory}
    (h : Confined agentId d d') (hne : other ≠ agentId) :
    backupSet other d' = backupSet other d := by
  ext b
  rw [mem_backupSet, mem_backupSet]
  refine and_congr_left fun ht => ?_
  exact mem_iff_of_lookup (h.backups other hne b.2 (by rw [ht]; rfl))

theorem backupSet_insert {agentId : String} (now : Fin (2 ^ 128)) (content : String)
    (d : Directory) :
    backupSet agentId (d.insert (backupName (configName agentId) now) content) =
      insert (now.val, backupName (configName agentId) now) (backupSet agentId d) := by
  ext b
  rw [Finset.mem_insert, mem_backupSet, mem_backupSet, AList.mem_insert, or_and_right]
  refine or_congr_left ⟨?_, ?_⟩
  · rintro ⟨hname, ht⟩
    rw [hname, backupTimestamp_backupName] at ht
    exact Prod.ext (Option.some.inj ht).symm hname
  · rintro rfl
    exact ⟨rfl, backupTimestamp_backupName _ _⟩

/-- **Rotation leaves the ten newest** of the backups that are there. -/
theorem isNewest_removeEach {stuck : String → Bool} (hstuck : ∀ name, stuck name = false)
    (listing : Listing String) (agentId : String) (d : Directory) :
    IsNewest Prod.fst maxBackupFiles (backupSet agentId d)
      (backupSet agentId (removeEach stuck ((oldest Prod.fst maxBackupFiles
        (backupsOf (configName agentId) (listing.order d.keys))).map Prod.snd) d)) := by
  set l := backupsOf (configName agentId) (listing.order d.keys)
  have hmem : ∀ b, b ∈ l ↔ b.2 ∈ d ∧ backupTimestamp (configName agentId) b.2 = some b.1 := by
    intro b
    rw [mem_backupsOf, (listing.perm d.keys).mem_iff]
    rfl
  have hnodup : l.Nodup := by
    refine List.Nodup.filterMap ?_ ((listing.perm d.keys).nodup_iff.2 d.nodupKeys)
    intro name name' b hb hb'
    obtain ⟨n, -, rfl⟩ := Option.map_eq_some_iff.1 hb
    obtain ⟨n', -, he⟩ := Option.map_eq_some_iff.1 hb'
    exact (congrArg Prod.snd he).symm
  have hall : l.toFinset = backupSet agentId d := by
    ext b
    rw [List.mem_toFinset, hmem, mem_backupSet]
  have hkept : l.toFinset \ (oldest Prod.fst maxBackupFiles l).toFinset =
      backupSet agentId (removeEach stuck ((oldest Prod.fst maxBackupFiles l).map Prod.snd) d) := by
    ext b
    rw [Finset.mem_sdiff, List.mem_toFinset, List.mem_toFinset, mem_backupSet,
      mem_removeEach_iff hstuck, hmem]
    constructor
    · rintro ⟨⟨hd, ht⟩, hstay⟩
      refine ⟨⟨hd, fun hgone => hstay ?_⟩, ht⟩
      obtain ⟨b', hb', hname⟩ := List.mem_map.1 hgone
      have ht' := ((hmem b').1 (mem_of_mem_oldest hb')).2
      rw [hname, ht] at ht'
      have heq : b' = b := Prod.ext (Option.some.inj ht').symm hname
      rwa [heq] at hb'
    · rintro ⟨⟨hd, hstay⟩, ht⟩
      exact ⟨⟨hd, ht⟩, fun hgone => hstay (List.mem_map_of_mem hgone)⟩
  rw [← hall, ← hkept]
  exact isNewest_oldest hnodup

/-! ## One backup -/

/-- What a backup can do: nothing, leave a file, or leave one and rotate. -/
theorem backupAgentConfig_cases (m : ReconfigureManager) (c : BackupCall) (d : Directory) :
    (c.made d = none ∧ ∃ e, m.backupAgentConfig c.faults (configName c.agentId) d = (.error e, d)) ∨
    ∃ content, c.made d =
        some (c.faults.now.val, backupName (configName c.agentId) c.faults.now) ∧
      ((∃ e, m.backupAgentConfig c.faults (configName c.agentId) d =
          (.error e, d.insert (backupName (configName c.agentId) c.faults.now) content)) ∨
        d.lookup (configName c.agentId) = some content ∧
        ∃ listing : Listing String, m.backupAgentConfig c.faults (configName c.agentId) d =
          (.ok (), removeEach c.faults.stuck ((oldest Prod.fst maxBackupFiles
            (backupsOf (configName c.agentId) (listing.order
              (d.insert (backupName (configName c.agentId) c.faults.now) content).keys))).map
                Prod.snd) (d.insert (backupName (configName c.agentId) c.faults.now) content))) := by
  unfold BackupCall.made ReconfigureManager.backupAgentConfig
  cases hfile : d.lookup (configName c.agentId) with
  | none => exact .inl ⟨rfl, _, rfl⟩
  | some content =>
    cases hcopy : c.faults.copy with
    | failed left =>
      cases left with
      | none => exact .inl ⟨rfl, _, rfl⟩
      | some left => exact .inr ⟨left, rfl, .inl ⟨_, rfl⟩⟩
    | done =>
      refine .inr ⟨content, rfl, ?_⟩
      dsimp only [write]
      unfold ReconfigureManager.cleanupOldBackups
      cases hlisting : c.faults.listing with
      | error e => exact .inl ⟨e, rfl⟩
      | ok listing => exact .inr ⟨rfl, listing, rfl⟩

theorem time_of_made {c : BackupCall} {d : Directory} {b : Nat × String}
    (h : c.made d = some b) : b.1 = c.faults.now.val := by
  unfold BackupCall.made at h
  split at h
  · cases h
  · cases h
  · rw [← Option.some.inj h]

variable {m : ReconfigureManager} {d₀ : Directory} {tr : List TakenBackup}

theorem allBackups_of_none {agentId : String} {t : TakenBackup} (h : madeFor agentId t = none) :
    allBackups agentId d₀ (tr ++ [t]) = allBackups agentId d₀ tr := by
  unfold allBackups
  rw [List.filterMap_append, List.filterMap_cons_none h, List.filterMap_nil, List.append_nil]

theorem allBackups_of_some {agentId : String} {t : TakenBackup} {b : Nat × String}
    (h : madeFor agentId t = some b) :
    allBackups agentId d₀ (tr ++ [t]) = insert b (allBackups agentId d₀ tr) := by
  unfold allBackups
  rw [List.filterMap_append, List.filterMap_cons_some h, List.filterMap_nil]
  ext x
  simp only [Finset.mem_union, Finset.mem_insert, List.mem_toFinset, List.mem_append,
    List.mem_singleton]
  tauto

/-- A time past the first folder and all calls is past all backups. -/
theorem allBackups_lt {agentId : String} {now : Nat}
    (hpast : ∀ b ∈ backupSet agentId d₀, b.1 < now)
    (hcalls : ∀ t ∈ tr, t.label.faults.now.val < now) :
    ∀ b ∈ allBackups agentId d₀ tr, b.1 < now := by
  intro b hb
  rcases Finset.mem_union.1 hb with hb | hb
  · exact hpast b hb
  · obtain ⟨t, ht, hmade⟩ := List.mem_filterMap.1 (List.mem_toFinset.1 hb)
    unfold madeFor at hmade
    split at hmade
    · rw [time_of_made hmade]
      exact hcalls t ht
    · cases hmade

/-! ## Runs of backups -/

/-- Each agent has the ten newest of all its backups at least. -/
def KeepsNewest (d₀ : Directory) (tr : List TakenBackup) (d : Directory) : Prop :=
  ∀ agentId, HasNewest Prod.fst maxBackupFiles (allBackups agentId d₀ tr) (backupSet agentId d)

/-- The backup that a call leaves is the newest of all. -/
theorem keepsNewest_insert {d : Directory} {c : BackupCall} (content : String)
    (h : KeepsNewest d₀ tr d)
    (hpast : ∀ b ∈ allBackups c.agentId d₀ tr, b.1 < c.faults.now.val) :
    HasNewest Prod.fst maxBackupFiles
      (insert (c.faults.now.val, backupName (configName c.agentId) c.faults.now)
        (allBackups c.agentId d₀ tr))
      (backupSet c.agentId
        (d.insert (backupName (configName c.agentId) c.faults.now) content)) := by
  rw [backupSet_insert]
  exact (h c.agentId).insert fun b hb => (hpast b hb).le

/-- A call keeps the newest of the other agents, which it does not touch. -/
theorem keepsNewest_other {d d' : Directory} {c : BackupCall} {answer : Except String Unit}
    (h : KeepsNewest d₀ tr d) (hconfined : Confined c.agentId d d') {other : String}
    (hne : other ≠ c.agentId) :
    HasNewest Prod.fst maxBackupFiles (allBackups other d₀ (tr ++ [⟨d, c, answer, d'⟩]))
      (backupSet other d') := by
  have hmade : madeFor other (⟨d, c, answer, d'⟩ : TakenBackup) = none := if_neg (Ne.symm hne)
  rw [allBackups_of_none hmade, backupSet_of_confined hconfined hne]
  exact h other

/-- After the copy and the rotation. -/
theorem hasCopy_removeEach {d : Directory} {c : BackupCall} {content : String}
    (hstuck : ∀ name, c.faults.stuck name = false)
    (hfile : d.lookup (configName c.agentId) = some content)
    (hpast : ∀ b ∈ backupSet c.agentId d, b.1 < c.faults.now.val) (listing : Listing String) :
    HasCopy c d (removeEach c.faults.stuck ((oldest Prod.fst maxBackupFiles
      (backupsOf (configName c.agentId) (listing.order
        (d.insert (backupName (configName c.agentId) c.faults.now) content).keys))).map Prod.snd)
      (d.insert (backupName (configName c.agentId) c.faults.now) content)) := by
  set fileName := configName c.agentId
  set backup := backupName fileName c.faults.now
  set d' := removeEach c.faults.stuck ((oldest Prod.fst maxBackupFiles
    (backupsOf fileName (listing.order (d.insert backup content).keys))).map Prod.snd)
    (d.insert backup content) with hd'
  have hset : backupSet c.agentId (d.insert backup content) =
      insert (c.faults.now.val, backup) (backupSet c.agentId d) := backupSet_insert _ _ _
  have hnewest : IsNewest Prod.fst maxBackupFiles (backupSet c.agentId (d.insert backup content))
      (backupSet c.agentId d') := isNewest_removeEach hstuck listing c.agentId _
  rw [hset] at hnewest
  have holder : ∀ b ∈ backupSet c.agentId d', b ≠ (c.faults.now.val, backup) →
      b.1 < c.faults.now.val := fun b hb hne =>
    hpast b ((Finset.mem_insert.1 (hnewest.subset hb)).resolve_left hne)
  -- something is kept, and it would be older than the new one
  have hkept : (c.faults.now.val, backup) ∈ backupSet c.agentId d' := by
    by_contra hgone
    have hpos : 0 < (backupSet c.agentId d').card := by
      rw [hnewest.card]
      exact lt_min (by decide) (Finset.card_pos.2 ⟨_, Finset.mem_insert_self _ _⟩)
    obtain ⟨b, hb⟩ := Finset.card_pos.1 hpos
    have hle := hnewest.recent b hb _ (Finset.mem_insert_self _ _) hgone
    have hlt := holder b hb fun he => hgone (he ▸ hb)
    exact absurd hle (Nat.not_le.2 hlt)
  refine ⟨?_, ?_, fun b hb hne => ⟨holder b hb fun he => hne (by rw [he]), ?_⟩⟩
  · rw [hfile, lookup_of_mem_removeEach hstuck (mem_backupSet.1 hkept).1, AList.lookup_insert]
  · rw [← AList.lookup_isSome, hfile]
    rfl
  · rw [lookup_of_mem_removeEach hstuck (mem_backupSet.1 hb).1, AList.lookup_insert_ne hne]

/-- A call leaves its agent the newest, and exactly these when it succeeds. -/
theorem keepsNewest_self {d d' : Directory} {c : BackupCall} {answer : Except String Unit}
    (h : KeepsNewest d₀ tr d) (hstuck : ∀ name, c.faults.stuck name = false)
    (hpast : ∀ b ∈ allBackups c.agentId d₀ tr, b.1 < c.faults.now.val)
    (hcall : m.backupAgentConfig c.faults (configName c.agentId) d = (answer, d')) :
    HasNewest Prod.fst maxBackupFiles (allBackups c.agentId d₀ (tr ++ [⟨d, c, answer, d'⟩]))
        (backupSet c.agentId d') ∧
      (answer = .ok () → HasCopy c d d' ∧ IsNewest Prod.fst maxBackupFiles
        (allBackups c.agentId d₀ (tr ++ [⟨d, c, answer, d'⟩])) (backupSet c.agentId d')) := by
  have hfor : madeFor c.agentId (⟨d, c, answer, d'⟩ : TakenBackup) = c.made d := if_pos rfl
  rcases backupAgentConfig_cases m c d with ⟨hmade, e, he⟩ | ⟨content, hmade, hrest⟩
  · -- nothing was done
    obtain ⟨rfl, rfl⟩ := Prod.mk.inj (hcall.symm.trans he)
    rw [allBackups_of_none (hfor.trans hmade)]
    exact ⟨h c.agentId, fun hok => by cases hok⟩
  · rw [allBackups_of_some (hfor.trans hmade)]
    have hinsert := keepsNewest_insert content h hpast
    rcases hrest with ⟨e, he⟩ | ⟨hfile, listing, he⟩
    · obtain ⟨rfl, rfl⟩ := Prod.mk.inj (hcall.symm.trans he)
      exact ⟨hinsert, fun hok => by cases hok⟩
    · obtain ⟨rfl, rfl⟩ := Prod.mk.inj (hcall.symm.trans he)
      have hnewest := hinsert.isNewest (isNewest_removeEach hstuck listing c.agentId _)
      have hold : ∀ b ∈ backupSet c.agentId d, b.1 < c.faults.now.val :=
        fun b hb => hpast b ((h c.agentId).subset hb)
      exact ⟨hnewest.hasNewest, fun _ => ⟨hasCopy_removeEach hstuck hfile hold listing, hnewest⟩⟩

/-- **One backup.** -/
theorem keepsNewest_step {d d' : Directory} {c : BackupCall} {answer : Except String Unit}
    (h : KeepsNewest d₀ tr d) (hstuck : ∀ name, c.faults.stuck name = false)
    (hpast : ∀ b ∈ allBackups c.agentId d₀ tr, b.1 < c.faults.now.val)
    (hs : (backupMachine m d₀).step d c = some (d', answer)) :
    KeepsNewest d₀ (tr ++ [⟨d, c, answer, d'⟩]) d' ∧ RotatesExactly d₀ tr ⟨d, c, answer, d'⟩ := by
  obtain ⟨hd, ha⟩ := Prod.mk.inj (Option.some.inj hs)
  have hcall : m.backupAgentConfig c.faults (configName c.agentId) d = (answer, d') :=
    Prod.ext ha hd
  have hconfined : Confined c.agentId d d' := hd ▸ confined_backupAgentConfig m c.faults _ d
  obtain ⟨hself, hok⟩ := keepsNewest_self h hstuck hpast hcall
  refine ⟨fun other => ?_, hconfined, hok⟩
  by_cases he : other = c.agentId
  · rw [he]
    exact hself
  · exact keepsNewest_other h hconfined he

/-- **Rotation is exact and confined**, in every run in which removals succeed and the clock goes
forward. -/
theorem rotatesExactly {d : Directory} (hr : Run (backupMachine m d₀) tr d)
    (htimes : TimedBackups d₀ tr) :
    ∀ before t after, tr = before ++ t :: after → RotatesExactly d₀ before t := by
  have hrun : KeepsNewest d₀ tr d ∧
      ∀ before t after, tr = before ++ t :: after → RotatesExactly d₀ before t := by
    induction hr with
    | nil =>
      refine ⟨fun agentId => ?_, fun before t after h => by simp at h⟩
      unfold allBackups
      rw [List.filterMap_nil, List.toFinset_nil, Finset.union_empty]
      exact .refl _
    | @snoc tr d c d' answer hr hs ih =>
      obtain ⟨hremoves, hpast, hincreasing⟩ := htimes
      rw [List.pairwise_append] at hincreasing
      obtain ⟨hkeeps, hbefore⟩ := ih ⟨fun t ht => hremoves t (List.mem_append_left _ ht),
        fun t ht => hpast t (List.mem_append_left _ ht), hincreasing.1⟩
      have hlast : (⟨d, c, answer, d'⟩ : TakenBackup) ∈ tr ++ [⟨d, c, answer, d'⟩] := by simp
      have hlt := allBackups_lt (hpast _ hlast)
        fun t ht => hincreasing.2.2 t ht _ (List.mem_singleton_self _)
      obtain ⟨hkeeps', hexact⟩ := keepsNewest_step hkeeps (hremoves _ hlast) hlt hs
      refine ⟨hkeeps', fun before t after he => ?_⟩
      rcases List.eq_nil_or_concat after with rfl | ⟨after, last, rfl⟩
      · obtain ⟨rfl, hx⟩ := List.append_inj' he rfl
        obtain rfl := List.singleton_inj.1 hx
        exact hexact
      · rw [List.concat_eq_append, ← List.cons_append, ← List.append_assoc] at he
        exact hbefore before t after (List.append_inj' he rfl).1
  exact hrun.2

/-! ## Two agents, one with a name that begins with the other's -/

def sharedDir : Directory :=
  [⟨configName "a", "[[tasks]]"⟩, ⟨configName "a-b", "tasks = []"⟩,
    ⟨backupName (configName "a") 3, ""⟩, ⟨"a.toml.backup.old", ""⟩, ⟨"notes.txt", ""⟩].toAList

/-- A backup for which no call of the file system fails. -/
def backupAt (agentId : String) (now : Nat) : BackupCall :=
  ⟨agentId, ⟨⟨now % 2 ^ 128, Nat.mod_lt _ (by decide)⟩, false, .done, .ok .plain, fun _ => false,
    .done⟩⟩

/-- Ten backups of the one agent and two of the other. -/
def twelveBackups : List BackupCall :=
  (List.range 10).map (fun n => backupAt "a" (n + 5)) ++ [backupAt "a-b" 15, backupAt "a-b" 16]

theorem rotatesExactly_twelve :
    ∃ tr d, Run (backupMachine plainManager sharedDir) tr d ∧ tr.length = 12 ∧
      (∀ before t after, tr = before ++ t :: after → RotatesExactly sharedDir before t) ∧
      (backupSet "a" d).card = 10 ∧ backupName (configName "a") 3 ∉ d ∧ "notes.txt" ∈ d := by
  obtain ⟨tr, d, he, hr⟩ :=
    Run.exists_of_exec (backupMachine plainManager sharedDir) twelveBackups (by decide +kernel)
  have hlabels := Machine.execFrom_labels he
  have hend : ((backupMachine plainManager sharedDir).exec twelveBackups).map
      (fun r => (r.1.length, (backupSet "a" r.2).card, decide (backupName (configName "a") 3 ∉ r.2),
        decide ("notes.txt" ∈ r.2))) = some (12, 10, true, true) := by
    decide +kernel
  rw [he] at hend
  simp only [Option.map_some, Option.some.injEq, Prod.mk.injEq, decide_eq_true_eq] at hend
  refine ⟨tr, d, hr, hend.1, rotatesExactly hr ?_, hend.2⟩
  have hcalls : ∀ t ∈ tr, t.label ∈ twelveBackups := fun t ht =>
    hlabels ▸ List.mem_map_of_mem ht
  refine ⟨fun t ht name => ?_, fun t ht => ?_, ?_⟩
  · rcases List.mem_append.1 (hcalls t ht) with hc | hc
    · obtain ⟨n, -, hn⟩ := List.mem_map.1 hc
      rw [← hn]
      rfl
    · rw [List.mem_cons, List.mem_singleton] at hc
      rcases hc with hc | hc
      · rw [hc]
        rfl
      · rw [hc]
        rfl
  · have : ∀ c ∈ twelveBackups, ∀ b ∈ backupSet c.agentId sharedDir, b.1 < c.faults.now.val := by
      decide +kernel
    exact this _ (hcalls t ht)
  · have : twelveBackups.Pairwise fun c c' => c.faults.now.val < c'.faults.now.val := by
      decide +kernel
    rw [← hlabels, List.pairwise_map] at this
    exact this

end LinkSense
