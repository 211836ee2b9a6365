import LinkSense.Agent.Scheduler
import LinkSense.Harmonic
import Mathlib.Algebra.BigOperators.Ring.List
import Mathlib.Algebra.Field.Rat
import Mathlib.Algebra.Order.Ring.Rat
import Mathlib.Data.List.MinMax

/-!
# Staggered starts

`start` of `agent/src/scheduler.rs` with the delays that it gives to the tickers, in seconds;
floating-point numbers and durations are exact rationals.  The delay from one task to the next is
half of one task's share of the harmonic mean of the schedules, or nothing.

    the tickers start one delay after the other, in the order of the tasks     (startTickers_eq)
    all of them within half of the harmonic mean, and of the longest schedule     (staggered_start)
-/

namespace LinkSense

/-! ## Tickers -/

/-- What `spawn_ticker_task` spawns, counted from the start. -/
structure Ticker where
  name : String
  startDelay : ℚ
  period : ℚ
deriving DecidableEq, Repr

/-- `interval_at`: the first tick is at the start time, and one follows in each period. -/
def Ticker.tick (t : Ticker) (k : ℕ) : ℚ := t.startDelay + k * t.period

def TaskConfig.schedule (task : TaskConfig) : ℚ := task.scheduleSeconds.toNat

/-- `spawn_ticker_task`, as far as the ticker goes. -/
def TaskConfig.ticker (task : TaskConfig) (startDelay : ℚ) : Ticker :=
  ⟨task.name, startDelay, task.schedule⟩

namespace TaskScheduler

/-- `calculate_minimum_start_delay`. -/
def calculateMinimumStartDelay (tasks : List TaskConfig) : ℚ :=
  let totalExecutionsPerMinute := (tasks.map fun task => 60 / task.schedule).sum
  if totalExecutionsPerMinute < 1 then 0
  else
    let averageDelaySeconds := 60 / totalExecutionsPerMinute
    averageDelaySeconds / 2

/-- The loop of `start`, on the scheduler, the tickers spawned and `current_delay`. -/
def startNext (minDelay : ℚ) (p : TaskScheduler × List Ticker × ℚ) (task : TaskConfig) :
    TaskScheduler × List Ticker × ℚ :=
  let (s, tickers, currentDelay) := p
  (s.spawnTickerTask task, tickers ++ [task.ticker currentDelay], currentDelay + minDelay)

def startTickers (s : TaskScheduler) : TaskScheduler × List Ticker :=
  let minDelay := calculateMinimumStartDelay s.tasksConfig.tasks
  let (s', tickers, _) := s.tasksConfig.tasks.foldl (startNext minDelay) (s, [], 0)
  ({ s' with state := .running }, tickers)

end TaskScheduler

/-! ## What staggering is for -/

/-- The starts are in the order of the tasks, the first one at once, and the last one within half of
the harmonic mean of the schedules; all first ticks come in the first half of the longest period. -/
structure Staggered (tasks : List TaskConfig) (tickers : List Ticker) : Prop where
  names : tickers.map Ticker.name = tasks.map TaskConfig.name
  ordered : (tickers.map Ticker.startDelay).Pairwise (· ≤ ·)
  first : (tickers.map Ticker.startDelay).head? = some 0
  last : ∃ d, (tickers.map Ticker.startDelay).getLast? = some d ∧
    d < Harmonic.mean (tasks.map TaskConfig.schedule) / 2
  slowest : ∃ slowest ∈ tasks, (∀ task ∈ tasks, task.schedule ≤ slowest.schedule) ∧
    ∀ t ∈ tickers, t.tick 0 < slowest.schedule / 2

/-! ## Lemmas -/

namespace TaskScheduler

variable {tasks : List TaskConfig}

theorem foldl_startNext (minDelay : ℚ) (s : TaskScheduler) (tickers : List Ticker) (d : ℚ) :
    tasks.foldl (startNext minDelay) (s, tickers, d) =
      (tasks.foldl spawnTickerTask s,
        tickers ++ tasks.mapIdx fun i task => task.ticker (d + i * minDelay),
        d + tasks.length * minDelay) := by
  induction tasks generalizing s tickers d with
  | nil => simp
  | cons task tasks ih =>
    have hstep (i : ℕ) : d + minDelay + i * minDelay = d + (i + 1 : ℕ) * minDelay := by
      push_cast
      ring
    rw [List.foldl_cons, startNext, ih, List.mapIdx_cons, List.append_assoc]
    simp only [hstep, List.foldl_cons, List.length_cons, Nat.cast_zero, zero_mul, add_zero,
      List.singleton_append]

/-- **What `start` does**: it leaves the scheduler with its handles, and every ticker its delay. -/
theorem startTickers_eq (s : TaskScheduler) :
    s.startTickers = (s.start, s.tasksConfig.tasks.mapIdx fun i task =>
      task.ticker (i * calculateMinimumStartDelay s.tasksConfig.tasks)) := by
  simp only [startTickers, foldl_startNext, zero_add, List.nil_append]
  rfl

theorem calculateMinimumStartDelay_cases (hne : tasks ≠ []) :
    calculateMinimumStartDelay tasks = 0 ∨
      calculateMinimumStartDelay tasks = Harmonic.share (tasks.map TaskConfig.schedule) / 2 := by
  have hne' : tasks.map TaskConfig.schedule ≠ [] := by simpa using hne
  have htotal : (tasks.map fun task => 60 / task.schedule).sum =
      60 * ((tasks.map TaskConfig.schedule).map fun x => x⁻¹).sum := by
    rw [List.map_map, ← List.sum_map_mul_left]
    simp only [div_eq_mul_inv, Function.comp_apply]
  unfold calculateMinimumStartDelay
  dsimp only
  split
  · exact .inl rfl
  · refine .inr ?_
    rw [htotal, Harmonic.share_eq _ hne', ← div_div, div_self (by norm_num), one_div]

theorem startDelay_bounds (hne : tasks ≠ []) (hpos : ∀ task ∈ tasks, 0 < task.schedule) :
    0 ≤ calculateMinimumStartDelay tasks ∧ ∀ i < tasks.length,
      i * calculateMinimumStartDelay tasks <
        Harmonic.mean (tasks.map TaskConfig.schedule) / 2 := by
  have hne' : tasks.map TaskConfig.schedule ≠ [] := by simpa using hne
  have hpos' : ∀ x ∈ tasks.map TaskConfig.schedule, 0 < x := by simpa using hpos
  have hmean := Harmonic.mean_pos hne' hpos'
  rcases calculateMinimumStartDelay_cases hne with h | h
  · rw [h]
    refine ⟨le_rfl, fun i _ => ?_⟩
    rw [mul_zero]
    exact half_pos hmean
  · rw [h]
    constructor
    · rw [Harmonic.share]
      positivity
    · intro i hi
      rw [← mul_div_assoc]
      exact div_lt_div_of_pos_right
        (Harmonic.mul_share_lt hne' hpos' (by rwa [List.length_map])) two_pos

theorem startDelays_eq (tasks : List TaskConfig) (delay : ℚ) :
    (tasks.mapIdx fun i task => task.ticker (i * delay)).map Ticker.startDelay =
      (List.range tasks.length).map fun i : ℕ => (i : ℚ) * delay := by
  refine List.ext_getElem (by simp) fun i h h' => ?_
  simp [TaskConfig.ticker]

end TaskScheduler

/-! ## Top theorem -/

open TaskScheduler in
/-- **Starts are staggered**, however many tasks there are and whatever their schedules. -/
theorem staggered_start (s : TaskScheduler) (hne : s.tasksConfig.tasks ≠ [])
    (hpos : ∀ task ∈ s.tasksConfig.tasks, 0 < task.scheduleSeconds) :
    Staggered s.tasksConfig.tasks s.startTickers.2 := by
  rw [startTickers_eq]
  dsimp only
  generalize s.tasksConfig.tasks = tasks at hne hpos ⊢
  have hsched : ∀ task ∈ tasks, 0 < task.schedule := fun task htask =>
    Nat.cast_pos.2 (UInt32.lt_iff_toNat_lt.1 (hpos task htask))
  have hne' : tasks.map TaskConfig.schedule ≠ [] := by simpa using hne
  obtain ⟨hdelay, hlt⟩ := startDelay_bounds hne hsched
  have hlength : 0 < tasks.length := List.length_pos_iff.2 hne
  refine ⟨?_, ?_, ?_, ?_, ?_⟩
  · refine List.ext_getElem (by simp) fun i h h' => ?_
    simp [TaskConfig.ticker]
  · rw [startDelays_eq, List.pairwise_map]
    refine List.pairwise_lt_range.imp fun hij => ?_
    exact mul_le_mul_of_nonneg_right (Nat.cast_le.2 hij.le) hdelay
  · rw [startDelays_eq, List.head?_eq_getElem?, List.getElem?_map, List.getElem?_range hlength]
    simp
  · rw [startDelays_eq, List.getLast?_eq_getElem?, List.length_map, List.length_range,
      List.getElem?_map, List.getElem?_range (by omega)]
    exact ⟨_, rfl, hlt _ (by omega)⟩
  · cases hmax : tasks.argmax TaskConfig.schedule with
    | none => exact absurd (List.argmax_eq_none.1 hmax) hne
    | some slowest =>
      refine ⟨slowest, List.argmax_mem hmax, fun task htask => List.le_of_mem_argmax htask hmax, ?_⟩
      intro t ht
      obtain ⟨i, hi, rfl⟩ := List.mem_mapIdx.1 ht
      have hmean : Harmonic.mean (tasks.map TaskConfig.schedule) ≤ slowest.schedule := by
        refine Harmonic.mean_le hne' (by simpa using hsched) fun x hx => ?_
        obtain ⟨task, htask, rfl⟩ := List.mem_map.1 hx
        exact List.le_of_mem_argmax htask hmax
      calc (tasks[i].ticker (i * calculateMinimumStartDelay tasks)).tick 0
          = i * calculateMinimumStartDelay tasks := by simp [Ticker.tick, TaskConfig.ticker]
        _ < Harmonic.mean (tasks.map TaskConfig.schedule) / 2 := hlt i hi
        _ ≤ slowest.schedule / 2 := by linarith

/-! ## Two schedules -/

/-- A ping every minute, and another every ten seconds. -/
def twoSchedules : TaskScheduler :=
  .new ⟨[⟨.ping, 60, "gateway", none, .ping ⟨"192.0.2.1", 5, none⟩⟩,
    ⟨.ping, 10, "router", none, .ping ⟨"192.0.2.2", 5, none⟩⟩]⟩ 5 30 1000 3600

theorem staggered_start_twoSchedules :
    twoSchedules.startTickers.2 = [⟨"gateway", 0, 60⟩, ⟨"router", 30 / 7, 10⟩] ∧
      Staggered twoSchedules.tasksConfig.tasks twoSchedules.startTickers.2 :=
  ⟨by decide +kernel, staggered_start twoSchedules (by decide) (by decide)⟩

end LinkSense
