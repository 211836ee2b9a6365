import LinkSense.Files
import LinkSense.Server.Retention
import Mathlib.Order.Lattice

/-!
# The report of problematic agents

`check_all_agents` of `server/src/health_monitor.rs` to its end: the checks are stored, and the
report is written from the rows with the latest `check_timestamp`, or cleared when this check has
found nobody.  A check may come at any time, after any other step of the server or a restart.

    the rows with the latest timestamp are those just stored ↔ no earlier row has a later timestamp,
      and none with the same one is problematic                            (filter_latest_perm_iff)
    in a run every report is that of its check ↔ every check stands out from the rows before it, and
      none without agents comes upon an old report                              (reportsLatest_iff)
-/

namespace LinkSense

open Files Labelled Sql

/-! ## The report -/

/-- One agent in `problematic_agents.txt`. -/
structure ReportEntry where
  check : AgentHealthCheck
  agentVersion : String
  versionOutdated : Bool
deriving DecidableEq, Repr

/-- `get_problematic_agents`: by success ratio, then by agent. -/
def ServerDatabase.getProblematicAgents (db : ServerDatabase) : List AgentHealthCheck :=
  let latest := (db.healthChecks.values.map AgentHealthCheck.checkTimestamp).max?
  let rows :=
    db.healthChecks.values.filter fun r => some r.checkTimestamp = latest && r.isProblematic
  rows.insertionSort fun a b => a.successRatio < b.successRatio ∨
    (a.successRatio = b.successRatio ∧ a.agentId ≤ b.agentId)

/-- `export_problematic_agents`; a file without entries is a cleared one. -/
def HealthMonitor.exportProblematicAgents (monitor : HealthMonitor) (db : ServerDatabase) :
    List ReportEntry :=
  db.getProblematicAgents.map fun check =>
    let info := db.agents.values.find? fun a => a.agentId = check.agentId
    { check := check
      agentVersion := (info.bind AgentRow.agentVersion).getD "unknown"
      versionOutdated :=
        (info.map fun a => monitor.isAgentVersionOutdated a.agentVersion).getD true }

/-! ## Runs -/

structure HealthState where
  data : ServerData
  /-- The agents that `problematic_agents.txt` lists. -/
  report : List ReportEntry

inductive HealthAction where
  /-- Any other step of the server, and a health check up to its last agent. -/
  | database (action : RetentionAction)
  /-- The end of `check_all_agents`: store the checks, and write the report. -/
  | finishCheck (write : Outcome (List ReportEntry))
  | restart

namespace HealthState

/-- The health check under way is over. -/
def dropRound (s : HealthState) : HealthState := { s with data := { s.data with round := none } }

/-- `check_all_agents` from its last agent on; `some n` when it returns `Ok(n)`. -/
def finishCheck (monitor : HealthMonitor) (s : HealthState) (checks : List AgentHealthCheck)
    (write : Outcome (List ReportEntry)) : HealthState × Option Nat :=
  match s.data.db.storeHealthChecks checks with
  | .error _ => (s.dropRound, none)
  | .ok db =>
    let problematicCount := checks.countP AgentHealthCheck.isProblematic
    let report := if problematicCount > 0 then monitor.exportProblematicAgents db else []
    match write with
    | .done => (⟨⟨db, none⟩, report⟩, some problematicCount)
    | .failed left => (⟨⟨db, none⟩, left.getD s.report⟩, none)

/-- One step at the time `now`, with what `check_all_agents` returns in it. -/
def next (monitor : HealthMonitor) (s : HealthState) (now : Nat) :
    HealthAction → Option (HealthState × Option Nat)
  | .database .checkAllAgents =>
    if s.data.db.agents.values.isEmpty then some (s.dropRound, some 0)
    else
      some ({ s with
        data := { s.data with round := some (monitor.checkAllAgents s.data.db now) } }, none)
  | .database .storeHealthChecks => none
  | .database action =>
    (s.data.next monitor now action).map fun r => ({ s with data := r.1 }, none)
  | .finishCheck write =>
    match s.data.round with
    | some ⟨_, _, [], checks⟩ => some (s.finishCheck monitor checks write)
    | _ => none
  | .restart => some (s.dropRound, none)

/-- What the check under way has found. -/
def found (s : HealthState) : List AgentHealthCheck :=
  match s.data.round with
  | some round => round.healthChecks.filter AgentHealthCheck.isProblematic
  | none => []

end HealthState

/-- A server that starts with any database and any report; the clock may step back. -/
def healthMachine (monitor : HealthMonitor) (db : ServerDatabase) (report : List ReportEntry) :
    Machine HealthState (Nat × HealthAction) (Option Nat) where
  init := ⟨⟨db, none⟩, report⟩
  step s a := s.next monitor a.1 a.2

abbrev HealthStep := Taken HealthState (Nat × HealthAction) (Option Nat)

/-! ## What a report is to be -/

/-- The problematic agents of the check that ends with this step. -/
def HealthStep.found (t : HealthStep) : List AgentHealthCheck :=
  match t.label.2 with
  | .finishCheck _ => t.pre.found
  | _ => []

/-- After `Ok(n)` the report lists the `n` agents that this check found, each once, with its
figures. -/
def HealthStep.ReportsLatest (t : HealthStep) : Prop :=
  ∀ n, t.answer = some n → t.found.length = n ∧
    (t.post.report.map ReportEntry.check).Perm t.found ∧
    (t.found.map AgentHealthCheck.agentId).Nodup

/-- No row that is there has a later timestamp, and no problematic one the same. -/
def StandsOut (timestamp : Int) (rows : List AgentHealthCheck) : Prop :=
  ∀ r ∈ rows, r.checkTimestamp ≤ timestamp ∧
    (r.checkTimestamp = timestamp → r.isProblematic = false)

/-- A check without agents comes upon an empty report; one that is stored, and has found somebody,
stands out. -/
def Reportable (s : HealthState) (a : Nat × HealthAction) : Prop :=
  match a.2 with
  | .database .checkAllAgents => s.data.db.agents.values = [] → s.report = []
  | .finishCheck .done => ∀ round, s.data.round = some round →
    (∀ c ∈ round.healthChecks, s.data.db.registered c.agentId = true) → s.found ≠ [] →
      StandsOut (i64Column round.periodEnd) s.data.db.healthChecks.values
  | _ => True

/-! ## Lemmas -/

theorem values_insert_healthCheck (t : Table AgentHealthCheck.key) (check : AgentHealthCheck) :
    (t.insertOrIgnore check).values = t.values ++ [check] := by
  rcases t.insertOrIgnore_eq check with ⟨k, hk, -, -⟩ | ⟨hnew, heq⟩
  · cases hk
  · rw [heq, Table.values_append]

/-- The checks are stored when their agents are registered, as so many rows. -/
theorem storeHealthChecks_cases (db : ServerDatabase) (checks : List AgentHealthCheck) :
    ((∀ c ∈ checks, db.registered c.agentId = true) ∧
        ∃ db', db.storeHealthChecks checks = .ok db' ∧
          db'.healthChecks.values = db.healthChecks.values ++ checks) ∨
      (¬ (∀ c ∈ checks, db.registered c.agentId = true) ∧
        ∃ e, db.storeHealthChecks checks = .error e) := by
  induction checks generalizing db with
  | nil => exact .inl ⟨by simp, db, rfl, (List.append_nil _).symm⟩
  | cons check checks ih =>
    unfold ServerDatabase.storeHealthChecks
    by_cases hreg : db.registered check.agentId = true
    · rw [if_pos hreg]
      have hcons : (∀ c ∈ check :: checks, db.registered c.agentId = true) ↔
          ∀ c ∈ checks, db.registered c.agentId = true := by simp [hreg]
      rw [hcons]
      rcases ih { db with healthChecks := db.healthChecks.insertOrIgnore check } with
        ⟨hall, db', hstore, hvalues⟩ | hnot
      · refine .inl ⟨hall, db', hstore, ?_⟩
        rw [hvalues, values_insert_healthCheck, List.append_assoc]
        rfl
      · exact .inr hnot
    · rw [if_neg hreg]
      exact .inr ⟨fun hall => hreg (hall check List.mem_cons_self), _, rfl⟩

/-- **The latest rows** are those just stored, exactly when these stand out. -/
theorem filter_latest_perm_iff {rows checks : List AgentHealthCheck} {timestamp : Int}
    (htime : ∀ c ∈ checks, c.checkTimestamp = timestamp)
    (hfound : checks.filter AgentHealthCheck.isProblematic ≠ []) :
    ((rows ++ checks).filter fun r =>
        some r.checkTimestamp = ((rows ++ checks).map AgentHealthCheck.checkTimestamp).max? &&
          r.isProblematic).Perm (checks.filter AgentHealthCheck.isProblematic) ↔
      StandsOut timestamp rows := by
  obtain ⟨c, hc⟩ := List.exists_mem_of_ne_nil _ hfound
  obtain ⟨hcmem, hcprob⟩ := List.mem_filter.1 hc
  -- what the filter takes of the new rows, once it is known which timestamp is the latest
  have hnew : checks.filter (fun r => some r.checkTimestamp = some timestamp && r.isProblematic) =
      checks.filter AgentHealthCheck.isProblematic := by
    refine List.filter_congr fun r hr => ?_
    rw [htime r hr]
    simp
  rw [List.filter_append]
  constructor
  · intro hperm
    have hlatest : some c.checkTimestamp =
        ((rows ++ checks).map AgentHealthCheck.checkTimestamp).max? := by
      have hin := hperm.mem_iff.2 hc
      rw [← List.filter_append] at hin
      have := (List.mem_filter.1 hin).2
      rw [Bool.and_eq_true, decide_eq_true_eq] at this
      exact this.1
    rw [htime c hcmem] at hlatest
    have hmax := (List.max?_eq_some_iff.1 hlatest.symm).2
    rw [← hlatest, hnew] at hperm
    have hnone : rows.filter (fun r => some r.checkTimestamp = some timestamp && r.isProblematic) =
        [] := by
      have hlength := hperm.length_eq
      rw [List.length_append] at hlength
      exact List.eq_nil_of_length_eq_zero (by omega)
    intro r hr
    refine ⟨hmax _ (List.mem_map.2 ⟨r, List.mem_append_left _ hr, rfl⟩), fun hsame => ?_⟩
    have hout := List.filter_eq_nil_iff.1 hnone r hr
    simpa [hsame] using hout
  · intro hout
    have hlatest : ((rows ++ checks).map AgentHealthCheck.checkTimestamp).max? =
        some timestamp := by
      refine List.max?_eq_some_iff.2 ⟨?_, ?_⟩
      · exact List.mem_map.2 ⟨c, List.mem_append_right _ hcmem, htime c hcmem⟩
      · intro t ht
        obtain ⟨r, hr, rfl⟩ := List.mem_map.1 ht
        rcases List.mem_append.1 hr with hr | hr
        · exact (hout r hr).1
        · exact le_of_eq (htime r hr)
    have hnone : rows.filter (fun r => some r.checkTimestamp = some timestamp && r.isProblematic) =
        [] := by
      refine List.filter_eq_nil_iff.2 fun r hr => ?_
      simpa using (hout r hr).2
    rw [hlatest, hnew, hnone]
    exact .refl _

/-! ### The check under way -/

/-- Its checks have its timestamp, and are of different agents. -/
structure HealthRound.Consistent (round : HealthRound) : Prop where
  timestamps : ∀ c ∈ round.healthChecks, c.checkTimestamp = i64Column round.periodEnd
  agents : (round.healthChecks.map AgentHealthCheck.agentId ++
    round.todo.map AgentRow.agentId).Nodup

def HealthState.Consistent (s : HealthState) : Prop :=
  ∀ round, s.data.round = some round → round.Consistent

theorem HealthState.consistent_dropRound (s : HealthState) : s.dropRound.Consistent := by
  intro round h
  cases h

theorem consistent_checkAllAgents (monitor : HealthMonitor) (db : ServerDatabase) (now : Nat) :
    (monitor.checkAllAgents db now).Consistent where
  timestamps := by
    intro c hc
    cases hc
  agents := db.agents.nodup_map_key fun _ => rfl

theorem calculateHealthMetrics_eq (monitor : HealthMonitor) (db : ServerDatabase) (now : Nat)
    (tasks : List TaskConfig) (periodStart periodEnd : Nat) (agent : AgentRow) :
    (monitor.calculateHealthMetrics db now tasks periodStart periodEnd agent).agentId =
        agent.agentId ∧
      (monitor.calculateHealthMetrics db now tasks periodStart periodEnd agent).checkTimestamp =
        i64Column periodEnd := by
  unfold HealthMonitor.calculateHealthMetrics
  dsimp only
  exact ⟨rfl, rfl⟩

/-- The next agent's check, if there is one. -/
theorem HealthRound.Consistent.checkAgent {periodStart periodEnd : Nat} {agent : AgentRow}
    {todo : List AgentRow} {checks : List AgentHealthCheck}
    (h : HealthRound.Consistent ⟨periodStart, periodEnd, agent :: todo, checks⟩)
    (monitor : HealthMonitor) (db : ServerDatabase) (now : Nat)
    (tasks : Option (List TaskConfig)) :
    HealthRound.Consistent ⟨periodStart, periodEnd, todo, checks ++ (tasks.map fun tasks =>
      monitor.calculateHealthMetrics db now tasks periodStart periodEnd agent).toList⟩ := by
  obtain ⟨htimes, hagents⟩ := h
  cases tasks with
  | none =>
    refine ⟨by simpa using htimes, ?_⟩
    rw [Option.map_none, Option.toList_none, List.append_nil]
    exact hagents.sublist ((List.sublist_cons_self _ _).append_left _)
  | some tasks =>
    constructor
    · intro c hc
      rcases List.mem_append.1 hc with hc | hc
      · exact htimes c hc
      · rw [Option.map_some, Option.toList_some, List.mem_singleton] at hc
        rw [hc]
        exact (calculateHealthMetrics_eq monitor db now tasks periodStart periodEnd agent).2
    · rw [Option.map_some, Option.toList_some, List.map_append, List.append_assoc,
        List.map_singleton,
        (calculateHealthMetrics_eq monitor db now tasks periodStart periodEnd agent).1]
      exact hagents

/-- A step of the server other than a check's drops the check under way or leaves it alone. -/
theorem next_round {monitor : HealthMonitor} {s s' : ServerData} {now : Nat} {a : RetentionAction}
    {b : Except String Unit} (hcheck : a ≠ .checkAllAgents) (hagent : ∀ tasks, a ≠ .checkAgent tasks)
    (hs : s.next monitor now a = some (s', b)) : s'.round = s.round ∨ s'.round = none := by
  have hcommit : ∀ (s : ServerData) (r : Except String ServerDatabase),
      (s.commit r).1.round = s.round := by
    intro s r
    cases r with
    | error e => rfl
    | ok db => rfl
  have hfst : ∀ {p : ServerData × Except String Unit}, some p = some (s', b) → s' = p.1 := by
    intro p hp
    rw [Option.some.inj hp]
  cases a with
  | checkAllAgents => exact absurd rfl hcheck
  | checkAgent tasks => exact absurd rfl (hagent tasks)
  | storeHealthChecks =>
    dsimp only [ServerData.next] at hs
    split at hs
    · rw [hfst hs]
      exact .inr (hcommit _ _)
    · cases hs
  | cleanupOldData retentionDays =>
    rw [hfst hs]
    exact .inl rfl
  | cleanupKilled retentionDays done =>
    rw [hfst hs]
    exact .inr rfl
  | upsertAgent agentId configChecksum agentVersion =>
    rw [hfst hs]
    exact .inl (hcommit _ _)
  | storeMetrics agentId metrics =>
    rw [hfst hs]
    exact .inl (hcommit _ _)
  | logConfigError agentId timestampUtc errorMessage =>
    rw [hfst hs]
    exact .inl (hcommit _ _)
  | cleanupOldHealthData retentionDays =>
    rw [hfst hs]
    exact .inl (hcommit _ _)

theorem finishCheck_round (monitor : HealthMonitor) (s : HealthState)
    (checks : List AgentHealthCheck) (write : Outcome (List ReportEntry)) :
    (s.finishCheck monitor checks write).1.data.round = none := by
  unfold HealthState.finishCheck
  cases s.data.db.storeHealthChecks checks with
  | error e => rfl
  | ok db => cases write <;> rfl

/-- A step keeps the check under way consistent. -/
theorem consistent_next {monitor : HealthMonitor} {s s' : HealthState} {now : Nat}
    {a : HealthAction} {b : Option Nat} (h : s.Consistent)
    (hs : s.next monitor now a = some (s', b)) : s'.Consistent := by
  unfold HealthState.next at hs
  split at hs
  · split at hs
    · obtain ⟨rfl, -⟩ := Prod.mk.inj (Option.some.inj hs)
      exact s.consistent_dropRound
    · obtain ⟨rfl, -⟩ := Prod.mk.inj (Option.some.inj hs)
      intro round hround
      obtain rfl := Option.some.inj hround
      exact consistent_checkAllAgents monitor s.data.db now
  · cases hs
  · next action hcheck hstore =>
    obtain ⟨⟨data, r⟩, hnext, heq⟩ := Option.map_eq_some_iff.1 hs
    obtain ⟨rfl, -⟩ := Prod.mk.inj heq
    by_cases hagent : ∃ tasks, action = .checkAgent tasks
    · obtain ⟨tasks, rfl⟩ := hagent
      dsimp only [ServerData.next] at hnext
      split at hnext
      · next periodStart periodEnd agent todo checks hround =>
        obtain ⟨rfl, -⟩ := Prod.mk.inj (Option.some.inj hnext)
        intro round hnew
        obtain rfl := Option.some.inj hnew
        exact (h _ hround).checkAgent monitor s.data.db now tasks
      · cases hnext
    · intro round hround
      rcases next_round (fun he => hcheck he) (fun tasks he => hagent ⟨tasks, he⟩) hnext with
        hsame | hnone
      · exact h round (hsame.symm.trans hround)
      · rw [hnone] at hround
        cases hround
  · next write =>
    split at hs
    · next checks _ =>
      have hnone := finishCheck_round monitor s checks write
      rw [Option.some.inj hs] at hnone
      intro round hround
      rw [hnone] at hround
      cases hround
    · cases hs
  · obtain ⟨rfl, -⟩ := Prod.mk.inj (Option.some.inj hs)
    exact s.consistent_dropRound

/-! ## Steps -/

/-- Where nobody was found, an empty report is right; else the exported one is, if the check stands
out. -/
theorem report_perm_iff (monitor : HealthMonitor) {db db' : ServerDatabase}
    {checks : List AgentHealthCheck} {timestamp : Int}
    (htime : ∀ c ∈ checks, c.checkTimestamp = timestamp)
    (hvalues : db'.healthChecks.values = db.healthChecks.values ++ checks) :
    ((if checks.countP AgentHealthCheck.isProblematic > 0 then monitor.exportProblematicAgents db'
        else []).map ReportEntry.check).Perm (checks.filter AgentHealthCheck.isProblematic) ↔
      (checks.filter AgentHealthCheck.isProblematic ≠ [] →
        StandsOut timestamp db.healthChecks.values) := by
  rw [List.countP_eq_length_filter]
  by_cases hfound : checks.filter AgentHealthCheck.isProblematic = []
  · simp [hfound]
  · rw [if_pos (List.length_pos_of_ne_nil hfound)]
    have hexport : (monitor.exportProblematicAgents db').map ReportEntry.check =
        db'.getProblematicAgents := by
      unfold HealthMonitor.exportProblematicAgents
      rw [List.map_map]
      exact List.map_id _
    have hsorted : db'.getProblematicAgents.Perm ((db.healthChecks.values ++ checks).filter fun r =>
        some r.checkTimestamp = ((db.healthChecks.values ++ checks).map
          AgentHealthCheck.checkTimestamp).max? && r.isProblematic) := by
      unfold ServerDatabase.getProblematicAgents
      rw [hvalues]
      exact List.perm_insertionSort _ _
    rw [hexport, ← filter_latest_perm_iff htime hfound]
    refine Iff.trans ?_ (forall_prop_of_true hfound).symm
    exact ⟨hsorted.symm.trans, hsorted.trans⟩

/-- The end of a check. -/
theorem finishCheck_reports_iff {monitor : HealthMonitor} {s s' : HealthState} {now : Nat}
    {write : Outcome (List ReportEntry)} {b : Option Nat} (h : s.Consistent)
    (hs : s.next monitor now (.finishCheck write) = some (s', b)) :
    HealthStep.ReportsLatest ⟨s, (now, .finishCheck write), b, s'⟩ ↔
      Reportable s (now, .finishCheck write) := by
  dsimp only [HealthState.next] at hs
  split at hs
  · next periodStart periodEnd checks hround =>
    obtain ⟨htimes, hagents⟩ := h _ hround
    dsimp only at htimes hagents
    rw [List.map_nil, List.append_nil] at hagents
    have hfound : s.found = checks.filter AgentHealthCheck.isProblematic := by
      unfold HealthState.found
      rw [hround]
    have hnodup : (s.found.map AgentHealthCheck.agentId).Nodup := by
      rw [hfound]
      exact hagents.sublist (List.filter_sublist.map _)
    have hpair := Option.some.inj hs
    unfold HealthState.finishCheck at hpair
    -- without an answer there is nothing to report
    have hvacuous : b = none → HealthStep.ReportsLatest ⟨s, (now, .finishCheck write), b, s'⟩ := by
      rintro rfl n hn
      cases hn
    rcases storeHealthChecks_cases s.data.db checks with ⟨hall, db', hstore, hvalues⟩ |
      ⟨hnot, e, hstore⟩
    · rw [hstore] at hpair
      cases write with
      | failed left => exact iff_of_true (hvacuous (Prod.mk.inj hpair).2.symm) trivial
      | done =>
        obtain ⟨rfl, rfl⟩ := Prod.mk.inj hpair
        have hperm := report_perm_iff monitor htimes hvalues
        rw [← hfound] at hperm
        constructor
        · intro hreport round heq _
          obtain rfl := Option.some.inj (hround.symm.trans heq)
          exact hperm.1 (hreport _ rfl).2.1
        · intro hreportable n hn
          obtain rfl := Option.some.inj hn
          have hstands := hreportable _ hround hall
          refine ⟨?_, hperm.2 hstands, hnodup⟩
          rw [List.countP_eq_length_filter, ← hfound]
          rfl
    · rw [hstore] at hpair
      refine iff_of_true (hvacuous (Prod.mk.inj hpair).2.symm) ?_
      cases write with
      | failed left => trivial
      | done =>
        intro round heq hall
        obtain rfl := Option.some.inj (hround.symm.trans heq)
        exact absurd hall hnot
  · cases hs

/-- Only a health check answers. -/
theorem next_database_answer {monitor : HealthMonitor} {s s' : HealthState} {now : Nat}
    {action : RetentionAction} {b : Option Nat} (hcheck : action ≠ .checkAllAgents)
    (hs : s.next monitor now (.database action) = some (s', b)) : b = none := by
  have hmap : (s.data.next monitor now action).map (fun r => ({ s with data := r.1 }, none)) =
      some (s', b) := by
    cases action with
    | checkAllAgents => exact absurd rfl hcheck
    | storeHealthChecks => cases hs
    | _ => exact hs
  obtain ⟨r, -, heq⟩ := Option.map_eq_some_iff.1 hmap
  exact (Prod.mk.inj heq).2.symm

theorem reportable_database {s : HealthState} {now : Nat} {action : RetentionAction}
    (hcheck : action ≠ .checkAllAgents) : Reportable s (now, .database action) := by
  cases action with
  | checkAllAgents => exact absurd rfl hcheck
  | _ => trivial

theorem reportsLatest_iff_reportable {monitor : HealthMonitor} {s s' : HealthState}
    {a : Nat × HealthAction} {b : Option Nat} (h : s.Consistent)
    (hs : s.next monitor a.1 a.2 = some (s', b)) :
    HealthStep.ReportsLatest ⟨s, a, b, s'⟩ ↔ Reportable s a := by
  obtain ⟨now, action⟩ := a
  cases action with
  | finishCheck write => exact finishCheck_reports_iff h hs
  | restart =>
    obtain ⟨-, rfl⟩ := Prod.mk.inj (Option.some.inj hs)
    exact iff_of_true (fun n hn => by cases hn) trivial
  | database action =>
    by_cases hcheck : action = .checkAllAgents
    · subst hcheck
      dsimp only [HealthState.next] at hs
      split at hs
      · next hempty =>
        obtain ⟨rfl, rfl⟩ := Prod.mk.inj (Option.some.inj hs)
        have hvalues : s.data.db.agents.values = [] := List.isEmpty_iff.1 hempty
        constructor
        · intro hreport _
          have hperm := (hreport 0 rfl).2.1
          exact List.map_eq_nil_iff.1 (List.perm_nil.1 hperm)
        · intro hreportable n hn
          obtain rfl := Option.some.inj hn
          refine ⟨rfl, ?_, List.nodup_nil⟩
          show (s.report.map ReportEntry.check).Perm []
          rw [hreportable hvalues]
          exact .refl _
      · next hempty =>
        obtain ⟨-, rfl⟩ := Prod.mk.inj (Option.some.inj hs)
        refine iff_of_true (fun n hn => by cases hn) fun hvalues => ?_
        exact absurd (List.isEmpty_iff.2 hvalues) hempty
    · obtain rfl := next_database_answer hcheck hs
      exact iff_of_true (fun n hn => by cases hn) (reportable_database hcheck)

/-! ## Results -/

theorem consistent_run {monitor : HealthMonitor} {db : ServerDatabase}
    {report : List ReportEntry} {tr : List HealthStep} {s : HealthState}
    (hr : Run (healthMachine monitor db report) tr s) : s.Consistent :=
  Run.invariant (I := HealthState.Consistent) (HealthState.consistent_dropRound ⟨⟨db, none⟩, report⟩)
    (fun s _ _ b h hs => consistent_next (s := s) (b := b) h hs) hr

/-- **When reports are right**: in a run every check that returns leaves the report of what it has
found, exactly when every check stands out and none without agents comes upon an old report. -/
theorem reportsLatest_iff {monitor : HealthMonitor} {db : ServerDatabase}
    {report : List ReportEntry} {tr : List HealthStep} {s : HealthState}
    (hr : Run (healthMachine monitor db report) tr s) :
    (∀ t ∈ tr, HealthStep.ReportsLatest t) ↔ ∀ t ∈ tr, Reportable t.pre t.label := by
  refine Run.forall_iff (I := HealthState.Consistent)
    (HealthState.consistent_dropRound ⟨⟨db, none⟩, report⟩) ?_ ?_ hr
  · exact fun s a s' b h _ hs => consistent_next h hs
  · exact fun s a s' b h hs => reportsLatest_iff_reportable h hs

/-! ## Two checks in a minute -/

/-- Agents without a version are outdated. -/
def versionMonitor : HealthMonitor := ⟨300, 9 / 10, Option.isNone⟩

/-- A check of the only agent, which has no tasks. -/
def checkedAt (now : Nat) : List (Nat × HealthAction) :=
  [(now, .database .checkAllAgents), (now, .database (.checkAgent (some []))),
    (now, .finishCheck .done)]

def newHealthMachine : Machine HealthState (Nat × HealthAction) (Option Nat) :=
  healthMachine versionMonitor .initial []

theorem reportable_of_empty {s : HealthState} (a : Nat × HealthAction)
    (hrows : s.data.db.healthChecks.values = []) (hreport : s.report = []) : Reportable s a := by
  unfold Reportable
  split
  · exact fun _ => hreport
  · intro round _ _ _ r hr
    rw [hrows] at hr
    cases hr
  · trivial

/-- An agent without a version registers, and is checked at 1200. -/
def firstCheck : List (Nat × HealthAction) :=
  (1190, .database (.upsertAgent "agent1" "checksum" none)) :: checkedAt 1200

theorem reportsLatest_firstCheck :
    ∃ tr s, Run newHealthMachine tr s ∧ (∃ t ∈ tr, t.answer = some 1) ∧
      ∀ t ∈ tr, HealthStep.ReportsLatest t := by
  have hexec : (newHealthMachine.exec firstCheck).map (fun r =>
      (r.1.all fun t => t.pre.data.db.healthChecks.values.isEmpty && t.pre.report.isEmpty,
        r.1.any fun t => t.answer = some 1)) = some (true, true) := by decide +kernel
  obtain ⟨⟨tr, s⟩, he, hend⟩ := Option.map_eq_some_iff.1 hexec
  have hrun := Run.of_exec he
  obtain ⟨hall, hany⟩ := Prod.mk.inj hend
  obtain ⟨t, ht, hanswer⟩ := List.any_eq_true.1 hany
  refine ⟨tr, s, hrun, ⟨t, ht, of_decide_eq_true hanswer⟩, ?_⟩
  refine (reportsLatest_iff hrun).2 fun t ht => ?_
  have hempty := List.all_eq_true.1 hall t ht
  rw [Bool.and_eq_true, List.isEmpty_iff, List.isEmpty_iff] at hempty
  exact reportable_of_empty t.label hempty.1 hempty.2

/-- A run whose last step answers `Ok(n)`, and leaves these agents in the report. -/
theorem lastReport {monitor : HealthMonitor} {db : ServerDatabase} {report : List ReportEntry}
    {labels : List (Nat × HealthAction)} {n : Nat} {agents : List String}
    (h : ((healthMachine monitor db report).exec labels).bind (fun r => r.1.getLast?.map fun t =>
      (t.answer, t.post.report.map fun e => e.check.agentId)) = some (some n, agents)) :
    ∃ tr s, ∃ t ∈ tr, Run (healthMachine monitor db report) tr s ∧ t.answer = some n ∧
      (t.post.report.map fun e => e.check.agentId) = agents := by
  obtain ⟨⟨tr, s⟩, he, hend⟩ := Option.bind_eq_some_iff.1 h
  obtain ⟨t, ht, hpair⟩ := Option.map_eq_some_iff.1 hend
  obtain ⟨hanswer, hagents⟩ := Prod.mk.inj hpair
  exact ⟨tr, s, t, List.mem_of_getLast? ht, .of_exec he, hanswer, hagents⟩

/-- A report that lists another number of agents is not that of the check. -/
theorem not_reportsLatest {t : HealthStep} {n : Nat} (hanswer : t.answer = some n)
    (hlength : (t.post.report.map fun e => e.check.agentId).length ≠ n) :
    ¬ HealthStep.ReportsLatest t := by
  intro h
  obtain ⟨hn, hperm, -⟩ := h n hanswer
  have := hperm.length_eq
  rw [List.length_map] at this hlength
  exact hlength (this.trans hn)

/-- The second check of a minute lists its agent twice.  A check without agents leaves the report as
it was. -/
theorem not_reportsLatest_sameMinute :
    (∃ tr s, ∃ t ∈ tr, Run newHealthMachine tr s ∧ t.answer = some 1 ∧
        (t.post.report.map fun e => e.check.agentId) = ["agent1", "agent1"] ∧
        ¬ HealthStep.ReportsLatest t) ∧
      ∃ report tr s, ∃ t ∈ tr, Run (healthMachine versionMonitor .initial report) tr s ∧
        t.answer = some 0 ∧ (t.post.report.map fun e => e.check.agentId) = ["agent1"] ∧
        ¬ HealthStep.ReportsLatest t := by
  constructor
  · obtain ⟨tr, s, t, ht, hrun, hanswer, hagents⟩ := lastReport
      (show ((healthMachine versionMonitor .initial []).exec (firstCheck ++ checkedAt 1230)).bind _ =
        some (some 1, ["agent1", "agent1"]) by decide +kernel)
    exact ⟨tr, s, t, ht, hrun, hanswer, hagents,
      not_reportsLatest hanswer (by rw [hagents]; decide)⟩
  · let old : ReportEntry :=
      ⟨⟨"agent1", 840, 540, 840, 10, 0, 0, 1, true⟩, "unknown", true⟩
    obtain ⟨tr, s, t, ht, hrun, hanswer, hagents⟩ := lastReport
      (show ((healthMachine versionMonitor .initial [old]).exec
        [(1200, .database .checkAllAgents)]).bind _ = some (some 0, ["agent1"]) by rfl)
    exact ⟨[old], tr, s, t, ht, hrun, hanswer, hagents,
      not_reportsLatest hanswer (by rw [hagents]; decide)⟩

end LinkSense
