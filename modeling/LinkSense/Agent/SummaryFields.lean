import LinkSense.Agent.Summaries
import Mathlib.Data.UInt

/-!
# What the fields of a summary say

A percentage says how many of the rows it is about qualify, and an average, maximum or minimum is
one of what the rows it is about measured.  The nine modules compute what their fields say:

    generate … = none ↔ the window is empty, and otherwise every field describes its rows
                                                                             (computes_fields)

Days until a certificate expires are averaged over the failed rows as well, and an unsigned size or
count is what the signed column makes of it.
-/

namespace LinkSense

/-! ## Fields -/

/-- What stands for the absence of a measurement. -/
def Absent (x : Option ℚ) : Prop := x = none ∨ x = some 0

/-- A percentage: of the rows that it is about, those that qualify. -/
structure Percentage (α β : Type) where
  value : β → Option ℚ
  about : α → Bool
  qualifies : α → Bool

structure Percentage.Describes {α β : Type} (p : Percentage α β) (rows : List α) (b : β) :
    Prop where
  eq : rows.countP p.about ≠ 0 → p.value b =
    some (100 * (rows.countP fun r => p.about r && p.qualifies r : ℚ) / rows.countP p.about : ℚ)
  absent : rows.countP p.about = 0 → Absent (p.value b)
  bounds : ∀ v, p.value b = some v → 0 ≤ v ∧ v ≤ 100

/-- The average, and where the aggregate has them the maximum and the minimum, of what the rows
that they are about measured. -/
structure Statistic (α β : Type) where
  about : α → Bool
  measure : α → Option ℚ
  avg : β → Option ℚ
  max : Option (β → Option ℚ) := none
  min : Option (β → Option ℚ) := none

def Statistic.measured {α β : Type} (s : Statistic α β) (rows : List α) : List ℚ :=
  (rows.filter s.about).filterMap s.measure

structure Statistic.Describes {α β : Type} (s : Statistic α β) (rows : List α) (b : β) :
    Prop where
  avg : s.measured rows ≠ [] →
    s.avg b = some ((s.measured rows).sum / (s.measured rows).length)
  max : s.measured rows ≠ [] → ∀ f ∈ s.max,
    ∃ m ∈ s.measured rows, f b = some m ∧ ∀ v ∈ s.measured rows, v ≤ m
  min : s.measured rows ≠ [] → ∀ f ∈ s.min,
    ∃ m ∈ s.measured rows, f b = some m ∧ ∀ v ∈ s.measured rows, m ≤ v
  absent : s.measured rows = [] →
    Absent (s.avg b) ∧ (∀ f ∈ s.max, Absent (f b)) ∧ ∀ f ∈ s.min, Absent (f b)
  avg_le_max : ∀ f ∈ s.max, ∀ a m, s.avg b = some a → f b = some m → a ≤ m
  min_le_avg : ∀ f ∈ s.min, ∀ a m, s.avg b = some a → f b = some m → m ≤ a

/-- The fields of an aggregate `β` of rows with data `α`. -/
structure Fields (α β : Type) where
  success : α → Bool
  successes : β → UInt32
  failures : β → UInt32
  percentages : List (Percentage α β)
  statistics : List (Statistic α β)
  /-- The unsigned values fit their columns. -/
  fits : α → Prop := fun _ => True
  distribution : List α → β → Prop := fun _ _ => True

variable {α β : Type}

structure Fields.Describes (F : Fields α β) (rows : List α) (sampleCount : UInt32) (b : β) :
    Prop where
  samples : sampleCount.toNat = rows.length
  sum : (F.successes b).toNat + (F.failures b).toNat = rows.length
  successes : (F.successes b).toNat = rows.countP F.success
  percentages : ∀ p ∈ F.percentages, p.Describes rows b
  statistics : ∀ s ∈ F.statistics, s.Describes rows b
  distribution : F.distribution rows b

/-- A module computes what its fields say, for every table, task and window. -/
def Fields.Computes (F : Fields α β) (wrap : β → AggregatedMetricData)
    (generate : List (Stored α) → String → Nat → Nat → Option AggregatedMetrics) : Prop :=
  ∀ raw taskName periodStart periodEnd,
    let rows := Stored.window raw taskName periodStart periodEnd
    (generate raw taskName periodStart periodEnd = none ↔ rows = []) ∧
    (rows.length < 2 ^ 32 → (∀ r ∈ rows, F.success r = true → F.fits r) →
      ∀ m, generate raw taskName periodStart periodEnd = some m →
        ∃ b, m.data = wrap b ∧ F.Describes rows m.sampleCount b)

/-! ## The fields of each module -/

/-- All rows. -/
def anyRow (_ : α) : Bool := true

/-- The percentage of the rows that succeeded. -/
def successRate (success : α → Bool) (value : β → ℚ) : Percentage α β :=
  ⟨fun b => some (value b), anyRow, success⟩

/-- The average of a measurement of the successful rows. -/
def averageOf (success : α → Bool) (measure : α → Option ℚ) (avg : β → ℚ) : Statistic α β :=
  { about := success, measure := measure, avg := fun b => some (avg b) }

def averageMaxOf (success : α → Bool) (measure : α → Option ℚ) (avg max : β → ℚ) :
    Statistic α β :=
  { averageOf success measure avg with max := some fun b => some (max b) }

def averageMaxMinOf (success : α → Bool) (measure : α → Option ℚ) (avg max min : β → ℚ) :
    Statistic α β :=
  { averageMaxOf success measure avg max with min := some fun b => some (min b) }

def pingFields : Fields RawPingMetric AggregatedPingMetric where
  success := (·.success)
  successes := (·.successfulPings)
  failures := (·.failedPings)
  percentages := [⟨fun b => some b.packetLossPercent, anyRow, fun r => !r.success⟩]
  statistics :=
    [averageMaxMinOf (·.success) (·.rttMs) (·.avgLatencyMs) (·.maxLatencyMs) (·.minLatencyMs)]

def tcpFields : Fields RawTcpMetric AggregatedTcpMetric where
  success := (·.success)
  successes := (·.successfulConnections)
  failures := (·.failedConnections)
  percentages := [⟨fun b => some b.failurePercent, anyRow, fun r => !r.success⟩]
  statistics :=
    [averageMaxMinOf (·.success) (·.connectTimeMs) (·.avgConnectTimeMs) (·.maxConnectTimeMs)
      (·.minConnectTimeMs)]

/-- Each status that occurs, once and with its number of rows. -/
def StatusCounts (rows : List RawHttpMetric) (b : AggregatedHttpMetric) : Prop :=
  (b.statusCodeDistribution.map Prod.fst).Nodup ∧
  ∀ code count, (code, count) ∈ b.statusCodeDistribution ↔
    (∃ r ∈ rows, r.statusCode = some code) ∧
      count.toNat = rows.countP fun r => r.statusCode = some code

/-- The fields of an HTTP aggregate, whose certificates are those of the rows in `certificates`. -/
def httpFields (certificates : RawHttpMetric → Bool) : Fields RawHttpMetric AggregatedHttpMetric
    where
  success := (·.success)
  successes := (·.successfulRequests)
  failures := (·.failedRequests)
  percentages :=
    [successRate (·.success) (·.successRatePercent),
     ⟨(·.sslValidPercent), fun r => r.sslValid.isSome, fun r => r.sslValid = some true⟩]
  statistics :=
    [averageOf (·.success) (·.tcpTimingMs) (·.avgTcpTimingMs),
     averageOf (·.success) (·.tlsTimingMs) (·.avgTlsTimingMs),
     averageOf (·.success) (·.ttfbTimingMs) (·.avgTtfbTimingMs),
     averageOf (·.success) (·.contentDownloadTimingMs) (·.avgContentDownloadTimingMs),
     averageMaxOf (·.success) (·.totalTimeMs) (·.avgTotalTimeMs) (·.maxTotalTimeMs),
     { about := certificates
       measure := fun r => r.sslCertDaysUntilExpiry.map Int.cast
       avg := (·.avgSslCertDaysUntilExpiry) }]
  distribution := StatusCounts

def tlsFields (certificates : RawTlsMetric → Bool) : Fields RawTlsMetric AggregatedTlsMetric where
  success := (·.success)
  successes := (·.successfulChecks)
  failures := (·.failedChecks)
  percentages :=
    [successRate (·.success) (·.successRatePercent),
     ⟨fun b => some b.sslValidPercent, fun r => r.sslValid.isSome,
      fun r => r.sslValid = some true⟩]
  statistics :=
    [averageOf (·.success) (·.tcpTimingMs) (·.avgTcpTimingMs),
     averageOf (·.success) (·.tlsTimingMs) (·.avgTlsTimingMs),
     averageOf certificates (fun r => r.sslCertDaysUntilExpiry.map Int.cast)
       (·.avgSslCertDaysUntilExpiry)]

/-- `c` is what an `i64` column keeps of it. -/
def FitsI64 (c : Option UInt64) : Prop := ∀ n ∈ c, n.toNat < 2 ^ 63

def httpContentFields (fits : RawHttpContentMetric → Prop) :
    Fields RawHttpContentMetric AggregatedHttpContentMetric where
  success := (·.success)
  successes := (·.successfulRequests)
  failures := (·.failedRequests)
  percentages :=
    [successRate (·.success) (·.successRatePercent),
     ⟨fun b => some b.regexpMatchRatePercent, (·.success), fun r => r.regexpMatch = some true⟩]
  statistics :=
    [averageMaxOf (·.success) (·.totalTimeMs) (·.avgTotalTimeMs) (·.maxTotalTimeMs),
     averageOf (·.success) (fun r => r.totalSize.map fun s => (s.toNat : ℚ)) (·.avgTotalSize)]
  fits := fits

def dnsFields : Fields RawDnsMetric AggregatedDnsMetric where
  success := (·.success)
  successes := (·.successfulQueries)
  failures := (·.failedQueries)
  percentages :=
    [successRate (·.success) (·.successRatePercent),
     ⟨fun b => some b.correctResolutionPercent, anyRow, (·.correctResolution)⟩]
  statistics :=
    [averageMaxOf (·.success) (·.queryTimeMs) (·.avgQueryTimeMs) (·.maxQueryTimeMs)]

def bandwidthFields : Fields RawBandwidthMetric AggregatedBandwidthMetric where
  success := (·.success)
  successes := (·.successfulTests)
  failures := (·.failedTests)
  percentages := []
  statistics :=
    [averageMaxMinOf (·.success) (·.bandwidthMbps) (·.avgBandwidthMbps) (·.maxBandwidthMbps)
      (·.minBandwidthMbps)]

def sqlFields (fits : RawSqlQueryMetric → Prop) :
    Fields RawSqlQueryMetric AggregatedSqlQueryMetric where
  success := (·.success)
  successes := (·.successfulQueries)
  failures := (·.failedQueries)
  percentages := [successRate (·.success) (·.successRatePercent)]
  statistics :=
    [averageMaxOf (·.success) (·.totalTimeMs) (·.avgTotalTimeMs) (·.maxTotalTimeMs),
     averageMaxOf (·.success) (fun r => r.rowCount.map fun c => (c.toNat : ℚ)) (·.avgRowCount)
       (fun b => b.maxRowCount.toNat),
     { about := (·.success)
       measure := (·.value)
       avg := (·.avgValue)
       max := some (·.maxValue)
       min := some (·.minValue) }]
  fits := fits

def snmpFields : Fields RawSnmpMetric AggregatedSnmpMetric where
  success := (·.success)
  successes := (·.successfulQueries)
  failures := (·.failedQueries)
  percentages := [successRate (·.success) (·.successRatePercent)]
  statistics := [averageOf (·.success) (·.responseTimeMs) (·.avgResponseTimeMs)]

/-! ## Lemmas -/

/-- A column, as the aggregate has it: null as zero, or as it is. -/
def Reads (x y : Option ℚ) : Prop := y = x ∨ y = some (x.getD 0)

theorem reads_getD (x : Option ℚ) : Reads x (some (x.getD 0)) := .inr rfl

theorem reads_self (x : Option ℚ) : Reads x x := .inl rfl

theorem Reads.absent {y : Option ℚ} (h : Reads none y) : Absent y := h

theorem Reads.eq_some {v : ℚ} {y : Option ℚ} (h : Reads (some v) y) : y = some v := by
  rcases h with rfl | rfl
  · rfl
  · rfl

theorem Absent.eq_zero {x : Option ℚ} {v : ℚ} (h : Absent x) (hv : x = some v) : v = 0 := by
  rcases h with h | h
  · rw [h] at hv
    cases hv
  · rw [h] at hv
    exact (Option.some.inj hv).symm

theorem toNat_ofNat_of_le {n m : Nat} (h : n ≤ m) (hm : m < 2 ^ 32) :
    (UInt32.ofNat n).toNat = n := by
  exact UInt32.toNat_ofNat_of_lt (Nat.lt_of_le_of_lt h hm)

section
variable {rows : List α} {b : β}

/-- A query whose expression has the measured values computes the statistic. -/
theorem Statistic.describes_of_reads {s : Statistic α β} {e : α → Option ℚ}
    (he : Sql.values e rows = s.measured rows) (havg : Reads (Sql.avg e rows) (s.avg b))
    (hmax : ∀ f ∈ s.max, Reads (Sql.max e rows) (f b))
    (hmin : ∀ f ∈ s.min, Reads (Sql.min e rows) (f b)) : s.Describes rows b := by
  by_cases hnil : s.measured rows = []
  · -- nothing was measured: every column is null
    rw [Sql.avg_eq_none_iff.2 (he.trans hnil)] at havg
    rw [Sql.max_eq_none_iff.2 (he.trans hnil)] at hmax
    rw [Sql.min_eq_none_iff.2 (he.trans hnil)] at hmin
    refine ⟨fun h => absurd hnil h, fun h => absurd hnil h, fun h => absurd hnil h,
      fun _ => ⟨havg.absent, fun f hf => (hmax f hf).absent, fun f hf => (hmin f hf).absent⟩,
      fun f hf a m ha hm => ?_, fun f hf a m ha hm => ?_⟩
    · rw [havg.absent.eq_zero ha, (hmax f hf).absent.eq_zero hm]
    · rw [havg.absent.eq_zero ha, (hmin f hf).absent.eq_zero hm]
  · have hne : Sql.values e rows ≠ [] := by rwa [he]
    have ha : Sql.avg e rows = some (Sql.mean (s.measured rows)) :=
      Sql.avg_eq_some_iff.2 ⟨hne, by rw [he]⟩
    obtain ⟨M, hM⟩ := Option.ne_none_iff_exists'.1 fun h => hne (Sql.max_eq_none_iff.1 h)
    obtain ⟨m, hm⟩ := Option.ne_none_iff_exists'.1 fun h => hne (Sql.min_eq_none_iff.1 h)
    have hMs := Sql.max_eq_some_iff.1 hM
    have hms := Sql.min_eq_some_iff.1 hm
    rw [he] at hMs hms
    rw [hM] at hmax
    rw [hm] at hmin
    have hab : s.avg b = some (Sql.mean (s.measured rows)) := (ha ▸ havg).eq_some
    refine ⟨fun _ => hab, fun _ f hf => ⟨M, hMs.1, (hmax f hf).eq_some, hMs.2⟩,
      fun _ f hf => ⟨m, hms.1, (hmin f hf).eq_some, hms.2⟩, fun h => absurd h hnil,
      fun f hf a M' ha' hM' => ?_, fun f hf a m' ha' hm' => ?_⟩
    · rw [hab, Option.some.injEq] at ha'
      rw [(hmax f hf).eq_some, Option.some.injEq] at hM'
      rw [← ha', ← hM']
      exact Sql.avg_le_max ha hM
    · rw [hab, Option.some.injEq] at ha'
      rw [(hmin f hf).eq_some, Option.some.injEq] at hm'
      rw [← ha', ← hm']
      exact Sql.min_le_avg ha hm

theorem ofSuccess_false {γ : Type} (x : Option γ) : ofSuccess false x = none := rfl

theorem values_ofSuccess {γ : Type} (success : α → Bool) (x : α → Option γ) (rows : List α) :
    Sql.values (fun r => ofSuccess (success r) (x r)) rows =
      Sql.values x (rows.filter success) :=
  Sql.values_caseWhen success x rows

/-- A statistic of the successful rows. -/
theorem Statistic.describes_of_success {s : Statistic α β}
    (havg : Reads (Sql.avg (fun r => ofSuccess (s.about r) (s.measure r)) rows) (s.avg b))
    (hmax : ∀ f ∈ s.max,
      Reads (Sql.max (fun r => ofSuccess (s.about r) (s.measure r)) rows) (f b))
    (hmin : ∀ f ∈ s.min,
      Reads (Sql.min (fun r => ofSuccess (s.about r) (s.measure r)) rows) (f b)) :
    s.Describes rows b :=
  describes_of_reads (values_ofSuccess s.about s.measure rows) havg hmax hmin

section
variable {success : α → Bool} {measure : α → Option ℚ} {avg max min : β → ℚ}

theorem describes_averageOf
    (havg : avg b = (Sql.avg (fun r => ofSuccess (success r) (measure r)) rows).getD 0) :
    (averageOf success measure avg).Describes rows b := by
  refine Statistic.describes_of_success (.inr (congrArg some havg)) ?_ ?_
  · intro f hf
    cases hf
  · intro f hf
    cases hf

theorem describes_averageMaxOf
    (havg : avg b = (Sql.avg (fun r => ofSuccess (success r) (measure r)) rows).getD 0)
    (hmax : Reads (Sql.max (fun r => ofSuccess (success r) (measure r)) rows) (some (max b))) :
    (averageMaxOf success measure avg max).Describes rows b := by
  refine Statistic.describes_of_success (.inr (congrArg some havg)) ?_ ?_
  · intro f hf
    cases hf
    exact hmax
  · intro f hf
    cases hf

theorem describes_averageMaxMinOf
    (havg : avg b = (Sql.avg (fun r => ofSuccess (success r) (measure r)) rows).getD 0)
    (hmax : max b = (Sql.max (fun r => ofSuccess (success r) (measure r)) rows).getD 0)
    (hmin : min b = (Sql.min (fun r => ofSuccess (success r) (measure r)) rows).getD 0) :
    (averageMaxMinOf success measure avg max min).Describes rows b := by
  refine Statistic.describes_of_success (.inr (congrArg some havg)) ?_ ?_
  · intro f hf
    cases hf
    exact .inr (congrArg some hmax)
  · intro f hf
    cases hf
    exact .inr (congrArg some hmin)

end

theorem percent_bounds {part total : Nat} (h : part ≤ total) :
    0 ≤ (100 * part / total : ℚ) ∧ (100 * part / total : ℚ) ≤ 100 := by
  have hle : (part : ℚ) ≤ total := by exact_mod_cast h
  refine ⟨by positivity, div_le_of_le_mul₀ (by positivity) (by norm_num) ?_⟩
  linarith

theorem percentOf_eq {part total : Nat} (h : total ≠ 0) :
    percentOf part total = 100 * part / total := by
  unfold percentOf
  rw [if_pos (Nat.pos_of_ne_zero h), div_mul_eq_mul_div, mul_comm]

theorem Percentage.describes_of_eq {p : Percentage α β} {part total : Nat}
    (hpart : part = rows.countP fun r => p.about r && p.qualifies r)
    (htotal : total = rows.countP p.about)
    (hzero : total = 0 → Absent (p.value b))
    (hne : total ≠ 0 → p.value b = some (100 * part / total : ℚ)) : p.Describes rows b := by
  have hle : part ≤ total := by
    rw [hpart, htotal]
    refine List.countP_mono_left fun r _ h => ?_
    exact (Bool.and_eq_true _ _ ▸ h).1
  refine ⟨fun h => ?_, fun h => hzero (htotal.trans h), fun v hv => ?_⟩
  · rw [← hpart, ← htotal]
    exact hne (htotal ▸ h)
  · by_cases h0 : total = 0
    · rw [(hzero h0).eq_zero hv]
      norm_num
    · rw [hne h0, Option.some.injEq] at hv
      rw [← hv]
      exact percent_bounds hle

theorem Percentage.describes_percentOf {p : Percentage α β} {part total : Nat}
    (hpart : part = rows.countP fun r => p.about r && p.qualifies r)
    (htotal : total = rows.countP p.about)
    (hv : p.value b = some (percentOf part total)) : p.Describes rows b := by
  refine describes_of_eq hpart htotal (fun h0 => .inr ?_) fun h => ?_
  · rw [hv, h0]
    rfl
  · rw [hv, percentOf_eq h]

/-- A percentage of all rows. -/
theorem Percentage.describes_of_all {qualifies : α → Bool} {value : β → Option ℚ}
    (hv : value b = some (percentOf (rows.countP qualifies) rows.length)) :
    (⟨value, anyRow, qualifies⟩ : Percentage α β).Describes rows b :=
  describes_percentOf rfl (congrFun List.countP_true rows).symm hv

/-- `AVG(…) * 100.0` over ones and zeros. -/
theorem Percentage.describes_indicator {p : Percentage α β} {x : α → Option Bool}
    (habout : ∀ r, p.about r = (x r).isSome)
    (hqual : ∀ r, p.qualifies r = true ↔ x r = some true)
    (hv : Reads ((Sql.avg (fun r => (x r).map Sql.indicator) rows).map (· * 100)) (p.value b)) :
    p.Describes rows b := by
  have habout' : p.about = fun r => (x r).isSome := funext habout
  have hpart : (rows.countP fun r => x r = some true) =
      rows.countP fun r => p.about r && p.qualifies r := by
    refine List.countP_congr fun r _ => ?_
    rw [habout, Bool.and_eq_true, hqual, decide_eq_true_eq]
    exact ⟨fun h => ⟨by rw [h]; rfl, h⟩, fun h => h.2⟩
  rw [Sql.avg_indicator, ← habout'] at hv
  refine describes_of_eq hpart rfl (fun h0 => ?_) fun h => ?_
  · rw [if_pos h0] at hv
    exact hv.absent
  · rw [if_neg h] at hv
    rw [hv.eq_some]
    show some (_ / _ * (100 : ℚ)) = _
    rw [div_mul_eq_mul_div, mul_comm]

end

/-! ## Modules -/

/-- Counts of rows that fit a `u32`. -/
theorem counts_of_query {p : α → Bool} {rows : List α} {successes failures : UInt32}
    (hlt : rows.length < 2 ^ 32) (hs : successes = .ofNat (rows.countP p))
    (hf : failures = .ofNat (rows.countP fun r => !p r)) :
    successes.toNat = rows.countP p ∧ successes.toNat + failures.toNat = rows.length ∧
      (successes + failures).toNat = rows.length := by
  have hs' : successes.toNat = rows.countP p := by
    rw [hs, toNat_ofNat_of_le List.countP_le_length hlt]
  have hf' : failures.toNat = rows.countP fun r => !p r := by
    rw [hf, toNat_ofNat_of_le List.countP_le_length hlt]
  have hsum : successes.toNat + failures.toNat = rows.length := by
    rw [hs', hf', rows.length_eq_countP_add_countP p]
    simp only [Bool.not_eq_true, Bool.decide_eq_false]
  refine ⟨hs', hsum, ?_⟩
  rw [UInt32.toNat_add, hsum, Nat.mod_eq_of_lt hlt]

/-- A module computes its fields where its query does so for the rows of a window. -/
theorem Fields.computes_of_query {F : Fields α β} {query : List (Stored α) → β}
    {taskType : TaskType} {wrap : β → AggregatedMetricData}
    (hs : ∀ rows, F.successes (query rows) =
      .ofNat ((rows.map Stored.data).countP F.success))
    (hf : ∀ rows, F.failures (query rows) =
      .ofNat ((rows.map Stored.data).countP fun r => !F.success r))
    (h : ∀ rows, rows ≠ [] → rows.length < 2 ^ 32 →
      (∀ r ∈ rows.map Stored.data, F.success r = true → F.fits r) →
        (∀ p ∈ F.percentages, p.Describes (rows.map Stored.data) (query rows)) ∧
        (∀ s ∈ F.statistics, s.Describes (rows.map Stored.data) (query rows)) ∧
        F.distribution (rows.map Stored.data) (query rows)) :
    F.Computes wrap
      (generateFrom query (fun b => F.successes b + F.failures b) taskType wrap) := by
  intro raw taskName periodStart periodEnd
  show (_ ↔ (raw.filter (Stored.inWindow taskName periodStart periodEnd)).map _ = []) ∧ _
  unfold Stored.window generateFrom
  generalize raw.filter (Stored.inWindow taskName periodStart periodEnd) = rows
  by_cases hnil : rows = []
  · subst hnil
    exact ⟨by simp, fun _ _ m hm => by simp at hm⟩
  · have hlen : rows.length ≠ 0 := fun h0 => hnil (List.length_eq_zero_iff.1 h0)
    dsimp only
    rw [if_neg hlen]
    refine ⟨by simp [hnil], fun hlt hfits m hm => ?_⟩
    rw [List.length_map] at hlt
    obtain rfl := (Option.some.inj hm).symm
    obtain ⟨hp, hst, hd⟩ := h rows hnil hlt hfits
    have hlt' : (rows.map Stored.data).length < 2 ^ 32 := by rwa [List.length_map]
    obtain ⟨hsucc, hsum, hsamples⟩ := counts_of_query hlt' (hs rows) (hf rows)
    exact ⟨query rows, rfl, hsamples, hsum, hsucc, hp, hst, hd⟩

theorem pingFields_computes :
    pingFields.Computes .ping DbPing.generateAggregatedMetrics := by
  refine Fields.computes_of_query (fun _ => rfl) (fun _ => rfl) fun rows _ _ _ =>
    ⟨?_, ?_, trivial⟩
  · exact List.forall_mem_singleton.2 (Percentage.describes_of_all rfl)
  · exact List.forall_mem_singleton.2 (describes_averageMaxMinOf rfl rfl rfl)

theorem tcpFields_computes :
    tcpFields.Computes .tcp DbTcp.generateAggregatedMetrics := by
  refine Fields.computes_of_query (fun _ => rfl) (fun _ => rfl) fun rows _ _ _ =>
    ⟨?_, ?_, trivial⟩
  · exact List.forall_mem_singleton.2 (Percentage.describes_of_all rfl)
  · exact List.forall_mem_singleton.2 (describes_averageMaxMinOf rfl rfl rfl)

theorem bandwidthFields_computes :
    bandwidthFields.Computes .bandwidth DbBandwidth.generateAggregatedMetrics := by
  refine Fields.computes_of_query (fun _ => rfl) (fun _ => rfl) fun rows _ _ _ =>
    ⟨?_, ?_, trivial⟩
  · exact fun _ h => (List.not_mem_nil h).elim
  · exact List.forall_mem_singleton.2 (describes_averageMaxMinOf rfl rfl rfl)

theorem snmpFields_computes :
    snmpFields.Computes .snmp DbSnmp.generateAggregatedMetrics := by
  refine Fields.computes_of_query (fun _ => rfl) (fun _ => rfl) fun rows _ _ _ =>
    ⟨?_, ?_, trivial⟩
  · exact List.forall_mem_singleton.2 (Percentage.describes_of_all rfl)
  · exact List.forall_mem_singleton.2 (describes_averageOf rfl)

theorem dnsFields_computes :
    dnsFields.Computes .dnsQuery DbDns.generateAggregatedMetrics := by
  refine Fields.computes_of_query (fun _ => rfl) (fun _ => rfl) fun rows hnil _ _ =>
    ⟨?_, ?_, trivial⟩
  · refine List.forall_mem_cons.2
      ⟨Percentage.describes_of_all rfl, List.forall_mem_singleton.2 ?_⟩
    refine Percentage.describes_indicator (x := fun r => some r.correctResolution)
      (fun _ => rfl) (fun _ => Option.some_inj.symm) (.inr (congrArg some ?_))
    -- the average is over all rows, of which there are some
    have hlen : rows.length ≠ 0 := fun h0 => hnil (List.length_eq_zero_iff.1 h0)
    have havg := Sql.avg_indicator (fun r => some r.correctResolution) (rows.map Stored.data)
    rw [if_neg (by simpa using hlen)] at havg
    show (Option.map _ (Sql.avg _ _)).getD 100 = _
    rw [havg]
    rfl
  · exact List.forall_mem_singleton.2 (describes_averageMaxOf rfl (reads_getD _))

/-- A statistic of all rows. -/
theorem describes_of_anyRow {measure : α → Option ℚ} {avg : β → Option ℚ} {rows : List α} {b : β}
    (havg : Reads (Sql.avg measure rows) (avg b)) :
    ({ about := anyRow, measure := measure, avg := avg } : Statistic α β).Describes rows b := by
  refine Statistic.describes_of_reads (e := measure) ?_ havg ?_ ?_
  · exact congrArg (List.filterMap measure) (List.filter_eq_self.2 fun _ _ => rfl).symm
  · intro f hf
    cases hf
  · intro f hf
    cases hf

theorem statusCounts_query {rows : List RawHttpMetric} {b : AggregatedHttpMetric}
    (hlt : rows.length < 2 ^ 32)
    (hb : b.statusCodeDistribution = DbHttp.statusCodeDistribution rows) :
    StatusCounts rows b := by
  unfold StatusCounts DbHttp.statusCodeDistribution at *
  rw [hb]
  constructor
  · rw [List.map_map]
    exact Sql.groupCount_nodup RawHttpMetric.statusCode rows
  · intro code count
    rw [List.mem_map]
    constructor
    · rintro ⟨⟨code', n⟩, hmem, heq⟩
      obtain ⟨rfl, rfl⟩ := Prod.mk.inj heq
      obtain ⟨hr, rfl⟩ := Sql.mem_groupCount_iff.1 hmem
      exact ⟨hr, toNat_ofNat_of_le List.countP_le_length hlt⟩
    · rintro ⟨hr, hcount⟩
      refine ⟨(code, count.toNat), Sql.mem_groupCount_iff.2 ⟨hr, hcount⟩, ?_⟩
      exact congrArg (Prod.mk code) UInt32.ofNat_toNat

theorem httpFields_computes :
    (httpFields anyRow).Computes .httpGet DbHttp.generateAggregatedMetrics := by
  refine Fields.computes_of_query (fun _ => rfl) (fun _ => rfl) fun rows _ hlt _ =>
    ⟨?_, ?_, ?_⟩
  · refine List.forall_mem_cons.2
      ⟨Percentage.describes_of_all rfl, List.forall_mem_singleton.2 ?_⟩
    exact Percentage.describes_indicator (fun _ => rfl) (fun _ => decide_eq_true_iff)
      (reads_self _)
  · intro s hs
    simp only [httpFields, List.mem_cons, List.not_mem_nil, or_false] at hs
    rcases hs with rfl | rfl | rfl | rfl | rfl | rfl
    · exact describes_averageOf rfl
    · exact describes_averageOf rfl
    · exact describes_averageOf rfl
    · exact describes_averageOf rfl
    · exact describes_averageMaxOf rfl (reads_getD _)
    · exact describes_of_anyRow (reads_self _)
  · exact statusCounts_query (by rwa [List.length_map]) rfl

theorem tlsFields_computes :
    (tlsFields anyRow).Computes .tlsHandshake DbTls.generateAggregatedMetrics := by
  refine Fields.computes_of_query (fun _ => rfl) (fun _ => rfl) fun rows _ hlt _ =>
    ⟨?_, ?_, trivial⟩
  · refine List.forall_mem_cons.2
      ⟨Percentage.describes_of_all rfl, List.forall_mem_singleton.2 ?_⟩
    exact Percentage.describes_indicator (fun _ => rfl) (fun _ => decide_eq_true_iff)
      (reads_getD _)
  · refine List.forall_mem_cons.2 ⟨describes_averageOf rfl,
      List.forall_mem_cons.2 ⟨describes_averageOf rfl, List.forall_mem_singleton.2 ?_⟩⟩
    exact describes_of_anyRow (reads_getD _)

/-! ## Unsigned columns -/

theorem i64OfU64_of_lt {c : UInt64} (h : c.toNat < 2 ^ 63) : i64OfU64 c = c.toNat := by
  unfold i64OfU64
  rw [Int.bmod_def]
  omega

theorem u64OfI64_of_nonneg {n : Int} (h0 : 0 ≤ n) (h : n < 2 ^ 63) :
    ∃ c, u64OfI64 n = some c ∧ (c.toNat : Int) = n := by
  refine ⟨UInt64.ofNat n.toNat, if_pos h0, ?_⟩
  have hlt : n.toNat < 2 ^ 64 := by omega
  have hc : (UInt64.ofNat n.toNat).toNat = n.toNat := UInt64.toNat_ofNat_of_lt hlt
  omega

theorem ofSuccess_map {γ δ : Type} (success : Bool) (x : Option γ) (f : γ → δ) :
    (ofSuccess success x).map f = ofSuccess success (x.map f) := by
  unfold ofSuccess Sql.caseWhen
  cases success with
  | false => rfl
  | true => cases x <;> rfl

/-- Where they fit, the column has the values themselves. -/
theorem values_unsigned {success : α → Bool} {x : α → Option UInt64} {rows : List α}
    (hfits : ∀ r ∈ rows, success r = true → FitsI64 (x r)) :
    Sql.values (fun r => ofSuccess (success r) ((x r).map fun c => (i64OfU64 c : ℚ))) rows =
      Sql.values (fun r => ofSuccess (success r) ((x r).map fun c => (c.toNat : ℚ))) rows := by
  refine List.filterMap_congr fun r hr => ?_
  cases hs : success r with
  | false => rw [ofSuccess_false, ofSuccess_false]
  | true =>
    cases hx : x r with
    | none => simp only [Option.map_none]
    | some c =>
      have hc := i64OfU64_of_lt (hfits r hr hs c hx)
      simp only [Option.map_some, hc, Int.cast_natCast]

theorem values_unsigned_cast {success : α → Bool} {x : α → Option UInt64} {rows : List α}
    (hfits : ∀ r ∈ rows, success r = true → FitsI64 (x r)) :
    Sql.values (fun r => (ofSuccess (success r) ((x r).map i64OfU64)).map (Int.cast : Int → ℚ))
        rows =
      Sql.values (fun r => ofSuccess (success r) ((x r).map fun c => (c.toNat : ℚ))) rows := by
  rw [← values_unsigned hfits]
  simp only [ofSuccess_map, Option.map_map, Function.comp_def]

/-- The maximum of a column that fits, read as unsigned again. -/
theorem reads_max_unsigned {success : α → Bool} {x : α → Option UInt64} {rows : List α}
    (hfits : ∀ r ∈ rows, success r = true → FitsI64 (x r)) :
    Reads (Sql.max (fun r => ofSuccess (success r) ((x r).map fun c => (c.toNat : ℚ))) rows)
      (some ((((Sql.max (fun r => ofSuccess (success r) ((x r).map i64OfU64)) rows).bind
        u64OfI64).getD 0).toNat : ℚ)) := by
  have hmap : Sql.max (fun r => ofSuccess (success r) ((x r).map fun c => (c.toNat : ℚ))) rows =
      (Sql.max (fun r => ofSuccess (success r) ((x r).map i64OfU64)) rows).map Int.cast := by
    rw [← Sql.max_map (Int.cast_mono (R := ℚ))]
    exact congrArg List.max? (values_unsigned_cast hfits).symm
  rw [hmap]
  cases hm : Sql.max (fun r => ofSuccess (success r) ((x r).map i64OfU64)) rows with
  | none => exact .inr rfl
  | some n =>
    have hn := (Sql.max_eq_some_iff.1 hm).1
    rw [values_ofSuccess success fun r => (x r).map i64OfU64] at hn
    obtain ⟨r, hr, hx⟩ := List.mem_filterMap.1 hn
    obtain ⟨hr, hs⟩ := List.mem_filter.1 hr
    obtain ⟨c, hc, rfl⟩ := Option.map_eq_some_iff.1 hx
    have hlt := hfits r hr hs c hc
    rw [i64OfU64_of_lt hlt]
    obtain ⟨d, hd, hdn⟩ := u64OfI64_of_nonneg (n := c.toNat) (by omega) (by omega)
    refine .inr (congrArg some ?_)
    rw [Option.bind_some, hd]
    show (d.toNat : ℚ) = ((c.toNat : Int) : ℚ)
    rw [← hdn, Int.cast_natCast]

theorem httpContentFields_computes :
    (httpContentFields fun r => FitsI64 r.totalSize).Computes .httpContent
      DbHttpContent.generateAggregatedMetrics := by
  refine Fields.computes_of_query (fun _ => rfl) (fun _ => rfl) fun rows _ _ hfits =>
    ⟨?_, ?_, trivial⟩
  · exact List.forall_mem_cons.2 ⟨Percentage.describes_of_all rfl,
      List.forall_mem_singleton.2 (Percentage.describes_percentOf rfl rfl rfl)⟩
  · refine List.forall_mem_cons.2 ⟨describes_averageMaxOf rfl (reads_getD _),
      List.forall_mem_singleton.2 (describes_averageOf ?_)⟩
    exact congrArg (Option.getD · 0) (Sql.avg_congr (values_unsigned hfits))

theorem sqlFields_computes :
    (sqlFields fun r => FitsI64 r.rowCount).Computes .sqlQuery
      DbSql.generateAggregatedMetrics := by
  refine Fields.computes_of_query (fun _ => rfl) (fun _ => rfl) fun rows _ _ hfits =>
    ⟨?_, ?_, trivial⟩
  · exact List.forall_mem_singleton.2 (Percentage.describes_of_all rfl)
  · intro s hs
    simp only [sqlFields, List.mem_cons, List.not_mem_nil, or_false] at hs
    rcases hs with rfl | rfl | rfl
    · exact describes_averageMaxOf rfl (reads_getD _)
    · refine describes_averageMaxOf ?_ (reads_max_unsigned hfits)
      refine congrArg (Option.getD · 0) (Sql.avg_congr ?_)
      exact values_unsigned_cast hfits
    · refine Statistic.describes_of_success (reads_self _) ?_ ?_
      · intro f hf
        cases hf
        exact reads_self _
      · intro f hf
        cases hf
        exact reads_self _

/-! ## All modules -/

/-- What a module generates from a table whose rows all lie in the window. -/
theorem Fields.Computes.describes {F : Fields α β} {query : List (Stored α) → β}
    {samples : β → UInt32} {taskType : TaskType} {wrap : β → AggregatedMetricData}
    (h : F.Computes wrap (generateFrom query samples taskType wrap))
    (hwrap : Function.Injective wrap) (raw : List (Stored α)) (taskName : String) (s e : Nat)
    (hall : raw.filter (Stored.inWindow taskName s e) = raw) (hne : raw.length ≠ 0)
    (hlt : raw.length < 2 ^ 32)
    (hfits : ∀ r ∈ raw.map Stored.data, F.success r = true → F.fits r) :
    F.Describes (raw.map Stored.data) (samples (query raw)) (query raw) := by
  obtain ⟨-, h⟩ := h raw taskName s e
  unfold Stored.window generateFrom at h
  dsimp only at h
  rw [hall, if_neg hne] at h
  obtain ⟨b, hb, hd⟩ := h (by rwa [List.length_map]) hfits _ rfl
  obtain rfl := hwrap hb
  exact hd

/-- **The aggregates say what they say.** -/
theorem computes_fields :
    pingFields.Computes .ping DbPing.generateAggregatedMetrics ∧
    tcpFields.Computes .tcp DbTcp.generateAggregatedMetrics ∧
    (httpFields anyRow).Computes .httpGet DbHttp.generateAggregatedMetrics ∧
    (tlsFields anyRow).Computes .tlsHandshake DbTls.generateAggregatedMetrics ∧
    (httpContentFields fun r => FitsI64 r.totalSize).Computes .httpContent
      DbHttpContent.generateAggregatedMetrics ∧
    dnsFields.Computes .dnsQuery DbDns.generateAggregatedMetrics ∧
    bandwidthFields.Computes .bandwidth DbBandwidth.generateAggregatedMetrics ∧
    (sqlFields fun r => FitsI64 r.rowCount).Computes .sqlQuery DbSql.generateAggregatedMetrics ∧
    snmpFields.Computes .snmp DbSnmp.generateAggregatedMetrics :=
  ⟨pingFields_computes, tcpFields_computes, httpFields_computes, tlsFields_computes,
    httpContentFields_computes, dnsFields_computes, bandwidthFields_computes, sqlFields_computes,
    snmpFields_computes⟩

/-- A response with status 500 over a connection whose certificate expires in 30 days. -/
def serverError : RawHttpMetric :=
  ⟨some 500, some 1, some 2, some 3, some 4, some 10, false, none, some true, some 30, none⟩

def failedHandshake : RawTlsMetric := ⟨some 1, some 2, some true, some 30, false, none, none⟩

def hugePage : RawHttpContentMetric :=
  ⟨some 200, some 10, some (2 ^ 63), some true, true, none, none⟩

def hugeResult : RawSqlQueryMetric :=
  ⟨some 10, some (2 ^ 63), true, none, none, .value, none, none, false, none⟩

/-- The certificates of failed rows count, and a value above `i64::MAX` turns negative. -/
theorem not_computes_successOnly :
    ¬ (httpFields (·.success)).Computes .httpGet DbHttp.generateAggregatedMetrics ∧
    ¬ (tlsFields (·.success)).Computes .tlsHandshake DbTls.generateAggregatedMetrics ∧
    ¬ (httpContentFields fun _ => True).Computes .httpContent
      DbHttpContent.generateAggregatedMetrics ∧
    ¬ (sqlFields fun _ => True).Computes .sqlQuery DbSql.generateAggregatedMetrics := by
  refine ⟨fun h => ?_, fun h => ?_, fun h => ?_, fun h => ?_⟩
  · have hd := (h.describes (fun _ _ h => AggregatedMetricData.httpGet.inj h)
      [⟨"web", 0, serverError⟩] "web" 0 60 rfl (by decide) (by decide)
      (fun _ _ _ => trivial)).statistics _ (List.mem_of_getElem? (i := 5) rfl)
    have h30 : (DbHttp.query [⟨"web", 0, serverError⟩]).avgSslCertDaysUntilExpiry = some 30 := by
      decide +kernel
    exact absurd ((hd.absent rfl).1.eq_zero h30) (by decide)
  · have hd := (h.describes (fun _ _ h => AggregatedMetricData.tlsHandshake.inj h)
      [⟨"web", 0, failedHandshake⟩] "web" 0 60 rfl (by decide) (by decide)
      (fun _ _ _ => trivial)).statistics _ (List.mem_of_getElem? (i := 2) rfl)
    have h30 : (DbTls.query [⟨"web", 0, failedHandshake⟩]).avgSslCertDaysUntilExpiry = 30 := by
      decide +kernel
    exact absurd ((hd.absent rfl).1.eq_zero (congrArg some h30)) (by decide)
  · have hd := (h.describes (fun _ _ h => AggregatedMetricData.httpContent.inj h)
      [⟨"page", 0, hugePage⟩] "page" 0 60 rfl (by decide) (by decide)
      (fun _ _ _ => trivial)).statistics _ (List.mem_of_getElem? (i := 1) rfl)
    have hneg : (DbHttpContent.query [⟨"page", 0, hugePage⟩]).avgTotalSize = -2 ^ 63 := by
      decide +kernel
    have hpos := Option.some.inj (hd.avg (List.cons_ne_nil _ _))
    exact absurd (hneg.symm.trans hpos) (by decide +kernel)
  · have hd := (h.describes (fun _ _ h => AggregatedMetricData.sqlQuery.inj h)
      [⟨"rows", 0, hugeResult⟩] "rows" 0 60 rfl (by decide) (by decide)
      (fun _ _ _ => trivial)).statistics _ (List.mem_of_getElem? (i := 1) rfl)
    have h0 : (DbSql.query [⟨"rows", 0, hugeResult⟩]).maxRowCount = 0 := by decide +kernel
    obtain ⟨m, hm, hmax, -⟩ := hd.max (List.cons_ne_nil _ _) _ rfl
    have hm63 : m = ((2 ^ 63 : UInt64).toNat : ℚ) := List.mem_singleton.1 hm
    rw [hm63] at hmax
    have hmax0 := (congrArg (fun n : UInt64 => (n.toNat : ℚ)) h0).symm.trans (Option.some.inj hmax)
    exact absurd hmax0 (by decide +kernel)

end LinkSense
