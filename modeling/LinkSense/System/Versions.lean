import LinkSense.Scan
import LinkSense.Server.HealthReport
import LinkSense.System.Accounting
import Mathlib.Data.Prod.Lex

/-!
# Versions of agents

How the health monitor compares the version that an agent has told with its own, and what the
report of problematic agents says about it.

    a version compares as greater ↔ the other comes before it in the order of their numbers
                                                                            (compareParts_gt_iff)
    in a run from a new database, a report calls an agent outdated ↔ its last submission has told no
      version that is at least the server's                                      (report_versions)
-/

namespace LinkSense

open Files Labelled Sql

/-! ## Comparing -/

/-- The digits of a `u32`, after those that make `n`. -/
def readU32 (n : Nat) : List Char → Except String Nat
  | [] => .ok n
  | c :: s =>
    if !c.isDigit then .error "invalid digit found in string"
    else
      let n := 10 * n + (c.toNat - '0'.toNat)
      if n < 2 ^ 32 then readU32 n s else .error "number too large to fit in target type"

/-- `parse::<u32>`. -/
def parseU32 : List Char → Except String Nat
  | [] => .error "cannot parse integer from empty string"
  | ['+'] => .error "invalid digit found in string"
  | '+' :: s => readU32 0 s
  | s => readU32 0 s

/-- `parse_version`: major, minor and patch. -/
def parseVersion (v : String) : Except String (Nat × Nat × Nat) :=
  match v.toList.splitOn '.' with
  | [major, minor, patch] =>
    match parseU32 major with
    | .error e => .error e
    | .ok major =>
      match parseU32 minor with
      | .error e => .error e
      | .ok minor =>
        match parseU32 patch with
        | .error e => .error e
        | .ok patch => .ok (major, minor, patch)
  | _ => .error s!"Invalid version format: {v}"

/-- The comparisons of the three parts, put together. -/
def compareParts (p q : Nat × Nat × Nat) : Ordering :=
  match compare p.1 q.1, compare p.2.1 q.2.1, compare p.2.2 q.2.2 with
  | .eq, .eq, patchCmp => patchCmp
  | .eq, minorCmp, _ => minorCmp
  | majorCmp, _, _ => majorCmp

/-- `compare_versions`. -/
def compareVersions (v1 v2 : String) : Except String Ordering :=
  match parseVersion v1 with
  | .error e => .error e
  | .ok p =>
    match parseVersion v2 with
    | .error e => .error e
    | .ok q => .ok (compareParts p q)

/-- `is_agent_version_outdated`. -/
def isAgentVersionOutdated (serverVersion : String) : Option String → Bool
  | none => true
  | some agentVersion =>
    match compareVersions serverVersion agentVersion with
    | .ok ordering => ordering == .gt
    | .error _ => true

/-- A monitor with the server's version, an interval and a threshold. -/
def HealthMonitor.new (serverVersion : String) (healthCheckIntervalSeconds : Nat)
    (healthCheckSuccessRatioThreshold : ℚ) : HealthMonitor :=
  ⟨healthCheckIntervalSeconds, healthCheckSuccessRatioThreshold,
    LinkSense.isAgentVersionOutdated serverVersion⟩

/-! ## The order of versions -/

/-- A version as one element of a linear order: the first part that differs decides. -/
def versionOf (p : Nat × Nat × Nat) : ℕ ×ₗ ℕ ×ₗ ℕ := toLex (p.1, toLex p.2)

/-- Both are versions, and the second does not come before the first. -/
def AtLeast (v w : String) : Prop :=
  ∃ p q, parseVersion v = .ok p ∧ parseVersion w = .ok q ∧ versionOf p ≤ versionOf q

theorem compareParts_gt_iff (p q : Nat × Nat × Nat) :
    compareParts p q = .gt ↔ versionOf q < versionOf p := by
  obtain ⟨a, b, c⟩ := p
  obtain ⟨a', b', c'⟩ := q
  have hlt : versionOf (a', b', c') < versionOf (a, b, c) ↔
      a' < a ∨ (a' = a ∧ (b' < b ∨ (b' = b ∧ c' < c))) := by
    unfold versionOf
    rw [Prod.Lex.toLex_lt_toLex, Prod.Lex.toLex_lt_toLex]
  rw [hlt]
  unfold compareParts
  rcases Nat.lt_trichotomy a a' with ha | rfl | ha
  · rw [Nat.compare_eq_lt.2 ha]
    simp
    omega
  · rw [Nat.compare_eq_eq.2 rfl]
    rcases Nat.lt_trichotomy b b' with hb | rfl | hb
    · rw [Nat.compare_eq_lt.2 hb]
      simp
      omega
    · rw [Nat.compare_eq_eq.2 rfl]
      simp [Nat.compare_eq_gt]
    · rw [Nat.compare_eq_gt.2 hb]
      simp [hb]
  · rw [Nat.compare_eq_gt.2 ha]
    simp [ha]

/-- **Outdated** is who does not tell a version that is at least the server's. -/
theorem isAgentVersionOutdated_iff (serverVersion : String) (version : Option String) :
    isAgentVersionOutdated serverVersion version = true ↔
      ¬ ∃ v, version = some v ∧ AtLeast serverVersion v := by
  cases version with
  | none => simp [isAgentVersionOutdated]
  | some v =>
    simp only [Option.some.injEq, exists_eq_left']
    unfold isAgentVersionOutdated AtLeast
    dsimp only
    cases hs : parseVersion serverVersion with
    | error e => simp [compareVersions, hs]
    | ok p =>
      cases hv : parseVersion v with
      | error e => simp [compareVersions, hs, hv]
      | ok q =>
        have hsame : compareVersions serverVersion v = .ok (compareParts p q) := by
          unfold compareVersions
          rw [hs, hv]
        rw [hsame]
        simp [compareParts_gt_iff]

/-! ## The versions that agents have told -/

/-- The version that a submission of the agent tells. -/
def HealthStep.tells (agentId : String) (t : HealthStep) : Option (Option String) :=
  match t.label.2 with
  | .database (.upsertAgent x _ agentVersion) => if x = agentId then some agentVersion else none
  | _ => none

/-- What the last submission of the agent has told, when there was one. -/
def lastVersion (agentId : String) (tr : List HealthStep) : Option (Option String) :=
  tr.reverse.findSome? (HealthStep.tells agentId)

theorem lastVersion_snoc (agentId : String) (tr : List HealthStep) (t : HealthStep) :
    lastVersion agentId (tr ++ [t]) = (HealthStep.tells agentId t).or (lastVersion agentId tr) := by
  unfold lastVersion
  rw [List.reverse_append, List.reverse_singleton, List.singleton_append, List.findSome?_cons]
  cases HealthStep.tells agentId t <;> rfl

/-- Each agent's row has the version of its last submission. -/
structure TracksVersions (tr : List HealthStep) (s : HealthState) : Prop where
  versions : ∀ r ∈ s.data.db.agents.values, lastVersion r.agentId tr = some r.agentVersion
  foreignKeys : s.data.db.ForeignKeys

namespace ServerDatabase

variable {db db' : ServerDatabase}

theorem agents_logConfigError {now : Nat} {x timestamp errorMessage : String}
    (h : db.logConfigError now x timestamp errorMessage = .ok db') : db'.agents = db.agents := by
  unfold logConfigError at h
  split at h
  · rw [← Except.ok.inj h]
  · cases h

theorem agents_storeHealthChecks {checks : List AgentHealthCheck}
    (h : db.storeHealthChecks checks = .ok db') : db'.agents = db.agents := by
  induction checks generalizing db with
  | nil =>
    obtain rfl := Except.ok.inj h
    rfl
  | cons check checks ih =>
    unfold storeHealthChecks at h
    split at h
    · have hrest := ih h
      exact hrest
    · cases h

theorem agents_cleanupOldData (db : ServerDatabase) (now : Nat) (retentionDays : UInt32)
    (done : Nat) : ∀ r ∈ (db.cleanupOldData now retentionDays done).agents.values,
      r ∈ db.agents.values := by
  unfold cleanupOldData
  refine foldl_keeps (Q := fun db' : ServerDatabase =>
    ∀ r ∈ db'.agents.values, r ∈ db.agents.values) ?_ fun r hr => hr
  intro statement hstatement db' hsub
  have hmem := List.mem_of_mem_take hstatement
  unfold cleanupStatements at hmem
  rcases List.mem_append.1 hmem with hmem | hmem
  · obtain ⟨kind, -, rfl⟩ := List.mem_map.1 hmem
    exact hsub
  · rcases List.mem_cons.1 hmem with rfl | hmem
    · exact hsub
    · obtain rfl := List.mem_singleton.1 hmem
      intro r hr
      unfold cleanupAgents at hr
      split at hr
      · exact hsub r hr
      · exact hsub r ((Table.mem_values_delete_iff _ _ _).1 hr).1

/-- A submission sets the version of its agent and of no other. -/
theorem agents_upsertAgent (db : ServerDatabase) (now : Nat) (x checksum : String)
    (version : Option String) : ∀ r ∈ (db.upsertAgent now x checksum version).agents.values,
      (r.agentId = x ∧ r.agentVersion = version) ∨ (r.agentId ≠ x ∧ r ∈ db.agents.values) := by
  intro r hr
  unfold upsertAgent at hr
  split at hr
  · dsimp only at hr
    rw [Table.values_update] at hr
    obtain ⟨old, hold, rfl⟩ := List.mem_map.1 hr
    by_cases hx : old.agentId = x
    · rw [if_pos hx]
      exact .inl ⟨hx, rfl⟩
    · rw [if_neg hx]
      exact .inr ⟨hx, hold⟩
  · next hnew =>
    rcases Table.mem_values_insertOrIgnore hr with hold | rfl
    · refine .inr ⟨fun hx => hnew ?_, hold⟩
      rw [registered_iff_exists]
      exact ⟨r, hold, hx⟩
    · exact .inl ⟨rfl, rfl⟩

end ServerDatabase

/-- The rows of agents after a step. -/
theorem ServerData.next_agents {monitor : HealthMonitor} {s s' : ServerData} {now : Nat}
    {a : RetentionAction} {b : Except String Unit} (hs : s.next monitor now a = some (s', b))
    (ha : ∀ x checksum version, a ≠ .upsertAgent x checksum version) :
    ∀ r ∈ s'.db.agents.values, r ∈ s.db.agents.values := by
  have hcommit : ∀ {s : ServerData} {r : Except String ServerDatabase},
      (∀ db, r = .ok db → db.agents = s.db.agents) → (s.commit r).1.db.agents = s.db.agents := by
    intro s r hr
    cases r with
    | error e => rfl
    | ok db => exact hr db rfl
  have hfst : ∀ {p : ServerData × Except String Unit}, some p = some (s', b) → s' = p.1 := by
    intro p hp
    rw [Option.some.inj hp]
  cases a with
  | upsertAgent x checksum version => exact absurd rfl (ha x checksum version)
  | storeMetrics x metrics =>
    rw [hfst hs, hcommit fun db hdb => ServerDatabase.agents_storeMetrics hdb]
    exact fun r hr => hr
  | logConfigError x timestamp errorMessage =>
    rw [hfst hs, hcommit fun db hdb => ServerDatabase.agents_logConfigError hdb]
    exact fun r hr => hr
  | checkAllAgents =>
    rw [hfst hs]
    exact fun r hr => hr
  | checkAgent tasks =>
    dsimp only [next] at hs
    split at hs
    · rw [hfst hs]
      exact fun r hr => hr
    · cases hs
  | storeHealthChecks =>
    dsimp only [next] at hs
    split at hs
    · rw [hfst hs, hcommit fun db hdb => ServerDatabase.agents_storeHealthChecks hdb]
      exact fun r hr => hr
    · cases hs
  | cleanupOldHealthData retentionDays =>
    rw [hfst hs]
    exact fun r hr => hr
  | cleanupOldData retentionDays =>
    rw [hfst hs]
    exact s.db.agents_cleanupOldData now retentionDays 11
  | cleanupKilled retentionDays done =>
    rw [hfst hs]
    exact s.db.agents_cleanupOldData now retentionDays done

namespace TracksVersions

variable {monitor : HealthMonitor} {tr : List HealthStep} {s s' : HealthState} {now : Nat}

/-- A step that tells no version, and adds no agent. -/
theorem frame (hT : TracksVersions tr s) {x : HealthStep}
    (htells : ∀ agentId, HealthStep.tells agentId x = none)
    (hagents : ∀ r ∈ s'.data.db.agents.values, r ∈ s.data.db.agents.values)
    (hkeys : s'.data.db.ForeignKeys) : TracksVersions (tr ++ [x]) s' := by
  refine ⟨fun r hr => ?_, hkeys⟩
  rw [lastVersion_snoc, htells, Option.none_or]
  exact hT.versions r (hagents r hr)

/-- The end of a check. -/
theorem finishCheck (hT : TracksVersions tr s) (monitor : HealthMonitor)
    (checks : List AgentHealthCheck) (write : Outcome (List ReportEntry)) :
    (∀ r ∈ (s.finishCheck monitor checks write).1.data.db.agents.values,
      r ∈ s.data.db.agents.values) ∧
      (s.finishCheck monitor checks write).1.data.db.ForeignKeys := by
  unfold HealthState.finishCheck
  cases hstore : s.data.db.storeHealthChecks checks with
  | error e => exact ⟨fun r hr => hr, hT.foreignKeys⟩
  | ok db =>
    have hagents := ServerDatabase.agents_storeHealthChecks hstore
    have hkeys := hT.foreignKeys.storeHealthChecks hstore
    cases write with
    | done =>
      dsimp only
      rw [hagents]
      exact ⟨fun r hr => hr, hkeys⟩
    | failed left =>
      dsimp only
      rw [hagents]
      exact ⟨fun r hr => hr, hkeys⟩

theorem step (hT : TracksVersions tr s) {a : HealthAction} {b : Option Nat}
    (hs : s.next monitor now a = some (s', b)) :
    TracksVersions (tr ++ [⟨s, (now, a), b, s'⟩]) s' := by
  have hfst : ∀ {p : HealthState × Option Nat}, some p = some (s', b) → s' = p.1 := by
    intro p hp
    rw [Option.some.inj hp]
  cases a with
  | database action =>
    by_cases hupsert : ∃ x checksum version, action = .upsertAgent x checksum version
    · obtain ⟨x, checksum, version, rfl⟩ := hupsert
      have hdb : s'.data.db = s.data.db.upsertAgent now x checksum version := by
        rw [hfst hs]
        rfl
      refine ⟨fun row hrow => ?_, ?_⟩
      · rw [hdb] at hrow
        rw [lastVersion_snoc]
        unfold HealthStep.tells
        dsimp only
        rcases s.data.db.agents_upsertAgent now x checksum version row hrow with
          ⟨hx, hversion⟩ | ⟨hx, hold⟩
        · rw [if_pos hx.symm, hversion]
          rfl
        · rw [if_neg (Ne.symm hx), Option.none_or]
          exact hT.versions row hold
      · rw [hdb]
        exact hT.foreignKeys.upsertAgent now x checksum version
    · have htells : ∀ agentId,
          HealthStep.tells agentId ⟨s, (now, .database action), b, s'⟩ = none := by
        intro agentId
        cases action with
        | upsertAgent x checksum version => exact absurd ⟨x, checksum, version, rfl⟩ hupsert
        | _ => rfl
      have hdata : (s'.data.db = s.data.db) ∨
          ∃ r, s.data.next monitor now action = some (s'.data, r) := by
        unfold HealthState.next at hs
        split at hs
        · split at hs
          · rw [hfst hs]
            exact .inl rfl
          · rw [hfst hs]
            exact .inl rfl
        · cases hs
        · next heq =>
          obtain rfl := HealthAction.database.inj heq
          obtain ⟨r, hr, hsame⟩ := Option.map_eq_some_iff.1 hs
          right
          refine ⟨r.2, ?_⟩
          rw [hr, ← (Prod.mk.inj hsame).1]
        · next heq => cases heq
        · next heq => cases heq
      rcases hdata with hsame | ⟨r, hr⟩
      · refine hT.frame htells ?_ ?_
        · rw [hsame]
          exact fun row hrow => hrow
        · rw [hsame]
          exact hT.foreignKeys
      · refine hT.frame htells ?_ (ServerData.next_foreignKeys hT.foreignKeys hr)
        exact ServerData.next_agents hr fun x checksum version he =>
          hupsert ⟨x, checksum, version, he⟩
  | finishCheck write =>
    dsimp only [HealthState.next] at hs
    split at hs
    · next checks _ =>
      obtain ⟨hagents, hkeys⟩ := hT.finishCheck monitor checks write
      rw [hfst hs]
      exact hT.frame (fun _ => rfl) hagents hkeys
    · cases hs
  | restart =>
    rw [hfst hs]
    exact hT.frame (fun _ => rfl) (fun r hr => hr) hT.foreignKeys

end TracksVersions

theorem tracksVersions_run {monitor : HealthMonitor} {tr : List HealthStep} {s : HealthState}
    (hrun : Run (healthMachine monitor .initial []) tr s) : TracksVersions tr s := by
  induction hrun with
  | nil =>
    refine ⟨nofun, fun a ha => ?_⟩
    rw [ServerDatabase.referred_iff] at ha
    rcases ha with ⟨kind, r, hr, -⟩ | ⟨r, hr, -⟩ | ⟨r, hr, -⟩
    all_goals cases hr
  | snoc _ hs ih => exact ih.step hs

/-- An agent in an exported report is registered, and shown with what is stored of it. -/
theorem HealthMonitor.mem_exportProblematicAgents {monitor : HealthMonitor} {db : ServerDatabase}
    (hkeys : db.ForeignKeys) {entry : ReportEntry}
    (hentry : entry ∈ monitor.exportProblematicAgents db) :
    ∃ r ∈ db.agents.values, r.agentId = entry.check.agentId ∧
      entry.agentVersion = r.agentVersion.getD "unknown" ∧
      entry.versionOutdated = monitor.isAgentVersionOutdated r.agentVersion := by
  obtain ⟨check, hcheck, rfl⟩ := List.mem_map.1 hentry
  have hstored : check ∈ db.healthChecks.values :=
    (List.mem_filter.1 ((List.mem_insertionSort _).1 hcheck)).1
  have hreferred : db.referred check.agentId = true := by
    rw [ServerDatabase.referred_iff]
    exact .inr (.inr ⟨check, hstored, rfl⟩)
  obtain ⟨r, hr, hid⟩ := (db.registered_iff_exists _).1 (hkeys _ hreferred)
  have hfound : (db.agents.values.find? fun a => a.agentId = check.agentId).isSome := by
    rw [List.find?_isSome]
    exact ⟨r, hr, decide_eq_true hid⟩
  obtain ⟨info, hinfo⟩ := Option.isSome_iff_exists.1 hfound
  have hsome := List.find?_some hinfo
  refine ⟨info, List.mem_of_find?_eq_some hinfo, of_decide_eq_true hsome, ?_, ?_⟩
  · dsimp only
    rw [hinfo]
    rfl
  · dsimp only
    rw [hinfo]
    rfl

/-! ## Top theorem -/

/-- **What a report says of versions.**  When a check ends well, each agent in the report is one that
has submitted before, is shown with the version of its last submission, and is called outdated
exactly when that is not a version at least as high as the server's. -/
theorem report_versions (serverVersion : String) (interval : Nat) (threshold : ℚ)
    {tr : List HealthStep} {s : HealthState} {x : HealthStep} {write : Outcome (List ReportEntry)}
    {n : Nat}
    (hrun : Run (healthMachine (.new serverVersion interval threshold) .initial []) (tr ++ [x]) s)
    (hfinish : x.label.2 = .finishCheck write) (hok : x.answer = some n) :
    ∀ entry ∈ x.post.report, ∃ version, lastVersion entry.check.agentId tr = some version ∧
      entry.agentVersion = version.getD "unknown" ∧
      (entry.versionOutdated = true ↔ ¬ ∃ v, version = some v ∧ AtLeast serverVersion v) := by
  have hT := tracksVersions_run hrun.of_snoc
  have hs := hrun.step_of_mem (t := x) (by simp)
  change x.pre.next (.new serverVersion interval threshold) x.label.1 x.label.2 = _ at hs
  rw [hfinish, hok] at hs
  dsimp only [HealthState.next] at hs
  intro entry hentry
  split at hs
  · next checks _ =>
    unfold HealthState.finishCheck at hs
    cases hstore : x.pre.data.db.storeHealthChecks checks with
    | error e =>
      rw [hstore] at hs
      cases (Prod.mk.inj (Option.some.inj hs)).2
    | ok db =>
      rw [hstore] at hs
      dsimp only at hs
      have hkeys := hT.foreignKeys.storeHealthChecks hstore
      cases write with
      | failed left => cases (Prod.mk.inj (Option.some.inj hs)).2
      | done =>
        have hreport := congrArg HealthState.report (Prod.mk.inj (Option.some.inj hs)).1
        rw [← hreport] at hentry
        dsimp only at hentry
        split at hentry
        · obtain ⟨r, hr, hid, hversion, houtdated⟩ :=
            HealthMonitor.mem_exportProblematicAgents hkeys hentry
          rw [ServerDatabase.agents_storeHealthChecks hstore] at hr
          refine ⟨r.agentVersion, ?_, hversion, ?_⟩
          · rw [← hid]
            exact hT.versions r hr
          · rw [houtdated]
            exact isAgentVersionOutdated_iff serverVersion r.agentVersion
        · cases hentry
  · cases hs

/-- An agent tells version 0.8.0, and is checked. -/
def outdatedChecked : List (Nat × HealthAction) :=
  (1190, .database (.upsertAgent "agent1" "checksum" (some "0.8.0"))) :: checkedAt 1200

/-- A server of version 0.10.1 calls it outdated. -/
theorem report_versions_outdated :
    ∃ tr s, ∃ x : HealthStep,
      Run (healthMachine (.new "0.10.1" 300 (9 / 10)) .initial []) (tr ++ [x]) s ∧
      (x.post.report.map fun e => (e.check.agentId, e.agentVersion, e.versionOutdated)) =
        [("agent1", "0.8.0", true)] ∧
      ∀ entry ∈ x.post.report, ∃ version, lastVersion entry.check.agentId tr = some version ∧
        entry.agentVersion = version.getD "unknown" ∧
        (entry.versionOutdated = true ↔ ¬ ∃ v, version = some v ∧ AtLeast "0.10.1" v) := by
  have hexec : ((healthMachine (.new "0.10.1" 300 (9 / 10)) .initial []).exec outdatedChecked).bind
      (fun r => r.1.getLast?.map fun x => (x.answer,
        x.post.report.map fun e => (e.check.agentId, e.agentVersion, e.versionOutdated))) =
      some (some 1, [("agent1", "0.8.0", true)]) := by decide +kernel
  obtain ⟨⟨tr, s⟩, he, hend⟩ := Option.bind_eq_some_iff.1 hexec
  obtain ⟨x, hx, hlast⟩ := Option.map_eq_some_iff.1 hend
  obtain ⟨hanswer, hreport⟩ := Prod.mk.inj hlast
  obtain ⟨before, rfl⟩ := List.getLast?_eq_some_iff.1 hx
  have hlabel : x.label = (1200, .finishCheck .done) := by
    have hlabels := congrArg List.getLast? (Machine.execFrom_labels he)
    rw [List.map_append, List.map_singleton, List.getLast?_concat] at hlabels
    exact Option.some.inj hlabels
  exact ⟨before, s, x, Run.of_exec he, hreport,
    report_versions "0.10.1" 300 (9 / 10) (Run.of_exec he) (congrArg Prod.snd hlabel) hanswer⟩

end LinkSense
