import LinkSense.Server.BandwidthState
import LinkSense.WaitingLine

/-!
# In which order the waiting agents are served

The history of the calls keeps a waiting line: who asked, was not served yet and has not
expired, in the order of first asking.  A call serves in order when a slot that is free goes to
the front of that line, and when an agent that asks again stays ahead of those behind it.

The manager's queue is that line as long as every call comes in turn (`InTurn`): nobody asks
while the slot is free and someone else is first in the queue, nobody but the last asks again,
and the front of the queue has not expired when the holder completes.

    Run … tr s → ((∀ t ∈ tr, t serves in order) ↔ ∀ t ∈ tr, t's call is in turn)
                                                                     (servedInOrder_iff_inTurn)
-/

namespace LinkSense

open Labelled WaitingLine

/-! ## The waiting line of a history -/

/-- The entries that a call at `now` still counts are younger than this. -/
def BandwidthTestState.cutoff (now : Instant) (s : BandwidthTestState) : Instant :=
  now - s.maxDelay

/-- A step of the manager with the line before and after it. -/
abbrev ManagerStep := Taken ((Instant × BandwidthTestState) × Line String Instant)
  (Instant × Call) (Option BandwidthTestResponse)

/-- The line once the call has been heard: a request expires old tickets and asks. -/
def heard (cutoff now : Instant) (l : Line String Instant) : Call → Line String Instant
  | .request a _ => (l.expire cutoff).ask a now
  | .complete _ => l

/-- Whoever holds the slot is served, and waits no more. -/
def served (l : Line String Instant) : Option String → Line String Instant
  | none => l
  | some a => l.leave a

def updateLine (l : Line String Instant)
    (t : Taken (Instant × BandwidthTestState) (Instant × Call) (Option BandwidthTestResponse)) :
    Line String Instant :=
  served (heard (t.pre.2.cutoff t.label.1) t.label.1 l t.label.2) t.post.2.holder

/-- The manager with the waiting line of its history. -/
def orderMachine (earliest t₀ : Instant) (s₀ : BandwidthTestState) :
    Machine ((Instant × BandwidthTestState) × Line String Instant) (Instant × Call)
      (Option BandwidthTestResponse) :=
  (managerMachine earliest t₀ s₀).ghost Line.empty updateLine

/-! ## Serving in order -/

/-- The call finds the slot free, or frees it. -/
def FindsFree (now : Instant) (s : BandwidthTestState) : Call → Prop
  | .request _ _ => s.unexpiredTest now = none
  | .complete a => s.holder = some a

instance (now : Instant) (s : BandwidthTestState) (c : Call) : Decidable (FindsFree now s c) :=
  match c with
  | .request _ _ => inferInstanceAs (Decidable (_ = none))
  | .complete _ => inferInstanceAs (Decidable (_ = _))

/-- Whose turn it is: the first asker among the unexpired, the caller included. -/
def turn (cutoff now : Instant) (l : Line String Instant) : Call → Option String
  | .request a _ => ((l.expire cutoff).ask a now).next
  | .complete _ => (l.expire cutoff).next

/-- The slot goes to whoever's turn it is. -/
def GrantsFirst (t : ManagerStep) : Prop :=
  FindsFree t.label.1 t.pre.1.2 t.label.2 →
    t.post.1.2.holder = turn (t.pre.1.2.cutoff t.label.1) t.label.1 t.pre.2 t.label.2

instance (t : ManagerStep) : Decidable (GrantsFirst t) := inferInstanceAs (Decidable (_ → _))

/-- An agent that asks again, and is not served, stays ahead of those who asked later. -/
def KeepsPlaces (t : ManagerStep) : Prop :=
  ∀ a n, t.label.2 = .request a n → t.post.1.2.holder ≠ some a →
    ∀ b, (t.pre.2.expire (t.pre.1.2.cutoff t.label.1)).Before a b →
      [a, b].Sublist t.post.1.2.queued

/-- First come, first served. -/
def ServedInOrder (t : ManagerStep) : Prop := GrantsFirst t ∧ KeepsPlaces t

/-! ## Calls in turn -/

/-- No other agent is in front of `a`. -/
def FrontIs (q : List (String × Instant)) (a : String) : Prop := ∀ e ∈ q.head?, e.1 = a

/-- `a` asks in turn of slot and queue: a free slot has no other agent in front, a slot held by
another agent finds `a` new or last. -/
def AsksInTurn (slot : Option (String × Instant)) (q : List (String × Instant)) (a : String) :
    Prop :=
  match slot with
  | none => FrontIs q a
  | some c => c.1 ≠ a → a ∈ q.map Prod.fst → (q.map Prod.fst).getLast? = some a

/-- A request asks in turn of what has not expired; the holder completes with nobody or an
unexpired agent in front. -/
def InTurn (s : Instant × BandwidthTestState) (c : Instant × Call) : Prop :=
  match c.2 with
  | .request a _ =>
    AsksInTurn (s.2.unexpiredTest c.1) (s.2.unexpiredQueue (s.2.cutoff c.1)) a
  | .complete a =>
    s.2.holder = some a → ∀ e ∈ s.2.waitingQueue.head?, s.2.cutoff c.1 < e.2

instance (slot : Option (String × Instant)) (q : List (String × Instant)) (a : String) :
    Decidable (AsksInTurn slot q a) :=
  match slot with
  | none => inferInstanceAs (Decidable (∀ e ∈ q.head?, e.1 = a))
  | some c => inferInstanceAs (Decidable
      (c.1 ≠ a → a ∈ q.map Prod.fst → (q.map Prod.fst).getLast? = some a))

instance (s : Instant × BandwidthTestState) (c : Instant × Call) : Decidable (InTurn s c) :=
  match c with
  | (now, .request a _) => inferInstanceAs (Decidable
      (AsksInTurn (s.2.unexpiredTest now) (s.2.unexpiredQueue (s.2.cutoff now)) a))
  | (now, .complete a) => inferInstanceAs (Decidable
      (s.2.holder = some a → ∀ e ∈ s.2.waitingQueue.head?, s.2.cutoff now < e.2))

/-! ## Lemmas -/

/-- The manager's queue is the waiting line. -/
structure InLine (s : (Instant × BandwidthTestState) × Line String Instant) : Prop where
  wellFormed : s.1.2.WellFormed s.1.1
  queue_eq : s.1.2.waitingQueue = s.2.polls

theorem InLine.unexpiredQueue_eq {s : (Instant × BandwidthTestState) × Line String Instant}
    (h : InLine s) (c : Instant) : s.1.2.unexpiredQueue c = (s.2.expire c).polls := by
  rw [Line.polls_expire, ← h.queue_eq]
  rfl

theorem InLine.queued_eq {s : (Instant × BandwidthTestState) × Line String Instant}
    (h : InLine s) : s.1.2.queued = s.2.owners := by
  rw [Line.owners_eq_map_polls, ← h.queue_eq]
  rfl

theorem frontIs_iff (l : Line String Instant) (a : String) :
    FrontIs l.polls a ↔ ∀ b, l.next = some b → b = a := by
  unfold FrontIs Line.next
  rw [Line.owners_eq_map_polls]
  cases l.polls with
  | nil => simp
  | cons e es => simp

theorem served_polls_of_not_mem (l : Line String Instant) (h : Option String)
    (hn : ∀ a, h = some a → a ∉ l.owners) : (served l h).polls = l.polls := by
  cases h with
  | none => rfl
  | some a => exact l.leave_of_not_mem a (hn a rfl)

/-- A request, taken apart: the cleanup, then what the cleaned manager does. -/
theorem call_request_eq_some_iff (earliest now : Instant) (s s' : BandwidthTestState)
    (a : String) (n : UInt64) (r : Option BandwidthTestResponse) :
    s.call earliest (now, .request a n) = some (s', r) ↔
      ∃ s₁, s.cleanupExpiredTests earliest now = some s₁ ∧
        (s₁.requestUnexpired now a n).1 = s' ∧ r = some (s₁.requestUnexpired now a n).2 := by
  unfold BandwidthTestState.call BandwidthTestState.requestTest
  cases h : s.cleanupExpiredTests earliest now with
  | none => simp [h]
  | some s₁ => simp [h, eq_comm]

theorem call_complete_eq_some_iff (earliest now : Instant) (s s' : BandwidthTestState)
    (a : String) (r : Option BandwidthTestResponse) :
    s.call earliest (now, .complete a) = some (s', r) ↔ s.completeTest now a = s' ∧ r = none := by
  simp [BandwidthTestState.call, eq_comm]

/-- Every run of the manager has its line, which changes nothing. -/
theorem orderMachine_run_iff {earliest t₀ : Instant} {s₀ : BandwidthTestState}
    {tr : List (Taken (Instant × BandwidthTestState) (Instant × Call)
      (Option BandwidthTestResponse))}
    {s : (Instant × BandwidthTestState) × Line String Instant} :
    (∃ tr', Run (orderMachine earliest t₀ s₀) tr' s ∧ tr'.map Taken.base = tr) ↔
      Run (managerMachine earliest t₀ s₀) tr s.1 ∧ s.2 = tr.foldl updateLine Line.empty :=
  Run.ghost_iff

/-- What the two halves of one step have in common: the states, with the line of the history
before and after. -/
theorem orderMachine_step {earliest t₀ : Instant} {s₀ : BandwidthTestState}
    {s s' : (Instant × BandwidthTestState) × Line String Instant} {c : Instant × Call}
    {r : Option BandwidthTestResponse}
    (hs : (orderMachine earliest t₀ s₀).step s c = some (s', r)) :
    s.1.1 ≤ c.1 ∧ s'.1.1 = c.1 ∧ s.1.2.call earliest c = some (s'.1.2, r) ∧
      s'.2 = served (heard (s.1.2.cutoff c.1) c.1 s.2 c.2) s'.1.2.holder := by
  obtain ⟨hs, hl⟩ := (Machine.ghost_step_iff _ _ _ _ _ _ _).1 hs
  obtain ⟨hle, hs, ht⟩ := (Machine.clocked_step_iff _ _ _ _ _ _).1 hs
  exact ⟨hle, ht, hs, hl⟩

/-! ## One step -/

/-- Slot and queue after a request, by who is in the slot once the expired entries are gone. -/
theorem requestUnexpired_slot_cases (now : Instant) (s : BandwidthTestState) (a : String)
    (n : UInt64) :
    (s.holder = some a ∧ (s.requestUnexpired now a n).1 = s) ∨
    (s.currentTest = none ∧ (s.requestUnexpired now a n).1.holder = some a ∧
      (s.requestUnexpired now a n).1.waitingQueue = s.waitingQueue.filter fun e => e.1 != a) ∨
    (∃ b, s.holder = some b ∧ b ≠ a ∧ (s.requestUnexpired now a n).1.holder = some b ∧
      (s.requestUnexpired now a n).1.waitingQueue =
        s.waitingQueue.filter (fun e => e.1 != a) ++ [(a, now)]) := by
  rcases s.requestUnexpired_cases now a n with ⟨hh, he⟩ | ⟨hn, he⟩ | ⟨b, hb, hne, he⟩
  · exact .inl ⟨hh, by rw [he]⟩
  · exact .inr (.inl ⟨hn, by rw [he]; rfl, by rw [he]; rfl⟩)
  · exact .inr (.inr ⟨b, hb, hne, by rw [he]; exact hb, by rw [he]; rfl⟩)

section Request

variable {now : Instant} {a : String} {n : UInt64} {l : Line String Instant}
variable {s₁ s' : BandwidthTestState}

/-- Nothing is asked of the places when the caller is served. -/
theorem keeps_of_served (h : s'.holder = some a) :
    ∀ a' n', Call.request a n = .request a' n' → s'.holder ≠ some a' →
      ∀ b, l.Before a' b → [a', b].Sublist s'.queued := by
  intro a' n' ha' hne
  injection ha' with h1 h2
  subst h1
  exact absurd h hne

/-- A caller that is queued behind another agent keeps its place exactly when it was last. -/
theorem keeps_of_delayed (hne : s'.holder ≠ some a)
    (hq : s'.waitingQueue = l.polls.filter (fun e => e.1 != a) ++ [(a, now)]) :
    (∀ a' n', Call.request a n = .request a' n' → s'.holder ≠ some a' →
      ∀ b, l.Before a' b → [a', b].Sublist s'.queued) ↔
      (a ∈ l.owners → l.owners.getLast? = some a) := by
  have hqueued : s'.queued = l.owners.filter (· != a) ++ [a] := by
    unfold BandwidthTestState.queued
    rw [hq, l.owners_eq_map_polls, List.map_append, List.filter_map]
    rfl
  rw [hqueued]
  constructor
  · intro h ha
    exact (Line.moved_back_iff l.owners_nodup ha).1 (h a n rfl hne)
  · intro h a' n' ha' _ b hb
    injection ha' with h1 h2
    subst h1
    have ha : a ∈ l.owners := hb.subset (by simp)
    exact (Line.moved_back_iff l.owners_nodup ha).2 (h ha) b hb

theorem not_mem_owners_ask {b : String} (hb : b ∉ l.owners) (hne : b ≠ a) :
    b ∉ (l.ask a now).owners := by
  by_cases ha : a ∈ l.owners
  · rwa [l.owners_ask_of_mem a now ha]
  · rw [l.owners_ask_of_not_mem a now ha, List.mem_append]
    rintro (hm | hm)
    · exact hb hm
    · exact hne (by simpa using hm)

/-- The caller's renewed ticket is at the back of the polls when it was last, or new. -/
theorem polls_ask_of_back (h : a ∈ l.owners → l.owners.getLast? = some a) :
    (l.ask a now).polls = l.polls.filter (fun e => e.1 != a) ++ [(a, now)] := by
  by_cases ha : a ∈ l.owners
  · exact l.polls_ask_of_last a now (h ha)
  · rw [l.polls_ask_of_not_mem a now ha, ← l.polls_leave a, l.leave_of_not_mem a ha]

end Request

/-- A request: the step serves in order exactly when the call is in turn, and then the queue
stays the line. -/
theorem request_inLine {earliest t₀ : Instant} {s₀ : BandwidthTestState}
    {s s' : (Instant × BandwidthTestState) × Line String Instant} {now : Instant} {a : String}
    {n : UInt64} {r : Option BandwidthTestResponse} (hI : InLine s)
    (hs : (orderMachine earliest t₀ s₀).step s (now, .request a n) = some (s', r)) :
    (ServedInOrder ⟨s, (now, .request a n), r, s'⟩ ↔ InTurn s.1 (now, .request a n)) ∧
      (InTurn s.1 (now, .request a n) → s'.1.2.waitingQueue = s'.2.polls) := by
  obtain ⟨hle, -, hcall, hl⟩ := orderMachine_step hs
  obtain ⟨s₁, hclean, hs', -⟩ := (call_request_eq_some_iff _ _ _ _ _ _ _).1 hcall
  have ho := BandwidthTestState.cleanupExpiredTests_ordered hI.wellFormed.toOrdered hle hclean
  have hslot : s.1.2.unexpiredTest now = s₁.currentTest := by
    obtain ⟨-, rfl⟩ := (BandwidthTestState.cleanupExpiredTests_eq_some_iff _ _ _ _).1 hclean
    rfl
  have hq : s.1.2.unexpiredQueue (s.1.2.cutoff now) = s₁.waitingQueue := by
    obtain ⟨-, rfl⟩ := (BandwidthTestState.cleanupExpiredTests_eq_some_iff _ _ _ _).1 hclean
    rfl
  have hp : s₁.waitingQueue = (s.2.expire (s.1.2.cutoff now)).polls :=
    hq ▸ hI.unexpiredQueue_eq _
  generalize hline : s.2.expire (s.1.2.cutoff now) = l at hp
  have hl : s'.2 = served (l.ask a now) s'.1.2.holder := by rw [hl, ← hline]; rfl
  unfold ServedInOrder GrantsFirst KeepsPlaces InTurn AsksInTurn
  simp only [FindsFree, turn, hq, hslot, hline, hp, ← l.owners_eq_map_polls]
  rcases requestUnexpired_slot_cases now s₁ a n with
    ⟨hh, he⟩ | ⟨hn, hh, hw⟩ | ⟨b, hb, hne, hh, hw⟩
  · -- the holder asks: nothing changes
    rw [hs'] at he
    obtain ⟨c, hc, rfl⟩ := Option.map_eq_some_iff.1 hh
    have hpost : s'.1.2.holder = some c.1 := by rw [he]; exact hh
    have hout : c.1 ∉ l.owners := by
      rw [l.owners_eq_map_polls, ← hp]
      exact ho.holder_not_queued c.1 hh
    rw [hc]
    refine ⟨⟨fun _ h => absurd rfl h, fun _ => ⟨fun h => (nomatch h), keeps_of_served hpost⟩⟩,
      fun _ => ?_⟩
    rw [hl, hpost, he, hp]
    show l.polls = ((l.ask c.1 now).leave c.1).polls
    rw [l.polls_leave_ask c.1 now, ← l.polls_leave c.1, l.leave_of_not_mem c.1 hout]
  · -- the caller takes the free slot
    rw [hs'] at hh hw
    rw [hn]
    refine ⟨⟨fun h => ?_, fun h => ⟨fun _ => ?_, keeps_of_served hh⟩⟩, fun _ => ?_⟩
    · rw [frontIs_iff, ← l.next_ask_eq_iff a now, ← h.1 rfl, hh]
    · rw [frontIs_iff, ← l.next_ask_eq_iff a now] at h
      rw [h, hh]
    · rw [hw, hl, hh, hp]
      exact (l.polls_leave_ask a now).symm
  · -- another agent holds the slot: the caller goes to the back
    rw [hs'] at hh hw
    obtain ⟨c, hc, rfl⟩ := Option.map_eq_some_iff.1 hb
    have hout : c.1 ∉ l.owners := by
      rw [l.owners_eq_map_polls, ← hp]
      exact ho.holder_not_queued c.1 hb
    have hother : s'.1.2.holder ≠ some a := by
      rw [hh]
      exact fun h => hne (Option.some.inj h)
    rw [hp] at hw
    have hkeep := keeps_of_delayed (n := n) hother hw
    rw [hc]
    refine ⟨⟨fun h _ => hkeep.1 h.2, fun h => ⟨fun h => (nomatch h), hkeep.2 (h hne)⟩⟩,
      fun h => ?_⟩
    rw [hl, hh, hw, ← polls_ask_of_back (h hne)]
    refine (served_polls_of_not_mem _ _ fun x hx => ?_).symm
    obtain rfl := Option.some.inj hx
    exact not_mem_owners_ask hout hne

/-- A completion: the same. -/
theorem complete_inLine {earliest t₀ : Instant} {s₀ : BandwidthTestState}
    {s s' : (Instant × BandwidthTestState) × Line String Instant} {now : Instant} {a : String}
    {r : Option BandwidthTestResponse} (hI : InLine s)
    (hs : (orderMachine earliest t₀ s₀).step s (now, .complete a) = some (s', r)) :
    (ServedInOrder ⟨s, (now, .complete a), r, s'⟩ ↔ InTurn s.1 (now, .complete a)) ∧
      s'.1.2.waitingQueue = s'.2.polls := by
  obtain ⟨hle, -, hc, hl⟩ := orderMachine_step hs
  obtain ⟨hs', -⟩ := (call_complete_eq_some_iff _ _ _ _ _ _).1 hc
  have hplaces : KeepsPlaces ⟨s, (now, .complete a), r, s'⟩ := by
    intro a' n' ha'
    cases ha'
  have hl : s'.2 = served s.2 s'.1.2.holder := hl
  unfold ServedInOrder GrantsFirst InTurn
  simp only [FindsFree, turn, and_iff_left hplaces]
  by_cases hh : s.1.2.holder = some a
  · rw [BandwidthTestState.completeTest, if_pos hh] at hs'
    cases hq : s.1.2.waitingQueue with
    | nil =>
      simp only [hq] at hs'
      have hp : s.2.polls = [] := hI.queue_eq ▸ hq
      have hn : (s.2.expire (s.1.2.cutoff now)).next = none := by
        unfold Line.next
        rw [Line.owners_eq_map_polls, Line.polls_expire, hp]
        rfl
      rw [← hs'] at hl ⊢
      refine ⟨⟨fun _ _ e he => by simp at he, fun _ _ => ?_⟩, ?_⟩
      · rw [hn]
        rfl
      · rw [hl]
        exact hp.symm
    | cons e rest =>
      obtain ⟨b, tb⟩ := e
      simp only [hq] at hs'
      have hp : s.2.polls = (b, tb) :: rest := hI.queue_eq ▸ hq
      have hnd : b ∉ rest.map Prod.fst := by
        have : (s.2.polls.map Prod.fst).Nodup := by
          rw [← Line.owners_eq_map_polls]
          exact s.2.owners_nodup
        rw [hp, List.map_cons, List.nodup_cons] at this
        exact this.1
      have hpost : s'.1.2.holder = some b := by rw [← hs']; rfl
      have hnext : (s.2.expire (s.1.2.cutoff now)).next = some b ↔ s.1.2.cutoff now < tb := by
        unfold Line.next
        rw [Line.owners_eq_map_polls, Line.polls_expire, hp]
        by_cases ht : s.1.2.cutoff now < tb
        · simp [ht]
        · rw [List.filter_cons_of_neg (by simpa using ht)]
          simp only [ht, iff_false]
          intro hb
          have := List.mem_of_head? hb
          exact hnd ((List.filter_sublist.map _).subset this)
      refine ⟨⟨fun h _ e he => ?_, fun h _ => ?_⟩, ?_⟩
      · have he : (b, tb) = e := by simpa using he
        subst he
        exact hnext.1 ((h hh).symm.trans hpost)
      · rw [hpost, hnext.2 (h hh (b, tb) (by simp))]
      · rw [hl, hpost, ← hs']
        show rest = (s.2.leave b).polls
        rw [Line.polls_leave, hp, List.filter_cons_of_neg (by simp), eq_comm, List.filter_eq_self]
        intro e he
        simp only [bne_iff_ne, ne_eq]
        rintro rfl
        exact hnd (List.mem_map_of_mem he)
  · rw [BandwidthTestState.completeTest, if_neg hh] at hs'
    refine ⟨⟨fun _ h => absurd h hh, fun _ h => absurd h hh⟩, ?_⟩
    rw [hl, ← hs', hI.queue_eq]
    refine (served_polls_of_not_mem _ _ fun x hx hm => ?_).symm
    rw [← hI.queued_eq] at hm
    exact hI.wellFormed.holder_not_queued x hx hm

theorem inLine_init (earliest t₀ : Instant) (a b c d e : UInt64) :
    InLine (orderMachine earliest t₀ (.new a b c d e)).init where
  wellFormed := BandwidthTestState.new_wellFormed _ _ _ _ _ _
  queue_eq := rfl

/-- A step in turn keeps the queue the line. -/
theorem inLine_step {earliest t₀ : Instant} {s₀ : BandwidthTestState}
    {s s' : (Instant × BandwidthTestState) × Line String Instant} {c : Instant × Call}
    {r : Option BandwidthTestResponse} (hI : InLine s) (hturn : InTurn s.1 c)
    (hs : (orderMachine earliest t₀ s₀).step s c = some (s', r)) : InLine s' := by
  obtain ⟨hle, ht, hc, -⟩ := orderMachine_step hs
  refine ⟨ht ▸ BandwidthTestState.call_wellFormed hI.wellFormed hle hc, ?_⟩
  obtain ⟨now, c⟩ := c
  cases c with
  | request a n => exact (request_inLine hI hs).2 hturn
  | complete a => exact (complete_inLine hI hs).2

theorem inLine_servedInOrder_iff {earliest t₀ : Instant} {s₀ : BandwidthTestState}
    {s s' : (Instant × BandwidthTestState) × Line String Instant} {c : Instant × Call}
    {r : Option BandwidthTestResponse} (hI : InLine s)
    (hs : (orderMachine earliest t₀ s₀).step s c = some (s', r)) :
    ServedInOrder ⟨s, c, r, s'⟩ ↔ InTurn s.1 c := by
  obtain ⟨now, c⟩ := c
  cases c with
  | request a n => exact (request_inLine hI hs).1
  | complete a => exact (complete_inLine hI hs).1

/-- The line of a run is in the order of the first requests. -/
theorem line_firstSorted (earliest t₀ : Instant) (s₀ : BandwidthTestState)
    {tr : List ManagerStep} {s : (Instant × BandwidthTestState) × Line String Instant}
    (hrun : Run (orderMachine earliest t₀ s₀) tr s) : s.2.FirstSorted s.1.1 := by
  refine hrun.invariant (I := fun s => s.2.FirstSorted s.1.1)
    ⟨by simp [orderMachine, Machine.ghost, Line.empty],
      by simp [orderMachine, Machine.ghost, Line.empty]⟩ fun s c s' r hI hs => ?_
  obtain ⟨hle, ht, -, hl⟩ := orderMachine_step hs
  have hheard : (heard (s.1.2.cutoff c.1) c.1 s.2 c.2).FirstSorted s'.1.1 := by
    rw [ht]
    cases c.2 with
    | request a n =>
      have hexp : (s.2.expire (s.1.2.cutoff c.1)).FirstSorted s.1.1 :=
        Line.firstSorted_of_sublist hI (le_refl _) List.filter_sublist
      exact Line.firstSorted_ask a hexp hle
    | complete a => exact Line.firstSorted_of_sublist hI hle (List.Sublist.refl _)
  rw [hl]
  cases s'.1.2.holder with
  | none => exact hheard
  | some a => exact Line.firstSorted_of_sublist hheard (le_refl _) List.filter_sublist

/-- Whoever is next in line asked first. -/
theorem next_asked_first {earliest t₀ : Instant} {s₀ : BandwidthTestState}
    {tr : List ManagerStep} {s : (Instant × BandwidthTestState) × Line String Instant}
    (hrun : Run (orderMachine earliest t₀ s₀) tr s) {k : Ticket String Instant}
    {ks : List (Ticket String Instant)} (hk : s.2.tickets = k :: ks) :
    s.2.next = some k.owner ∧ ∀ k' ∈ ks, k.first ≤ k'.first :=
  Line.first_le_of_next (line_firstSorted earliest t₀ s₀ hrun) hk

/-! ## Top theorems -/

/-- **First come, first served, exactly when every call comes in turn.** -/
theorem servedInOrder_iff_inTurn (earliest t₀ : Instant)
    (testTimeout maxDelay baseDelay currentTestDelay positionMultiplier : UInt64)
    {tr : List ManagerStep} {s : (Instant × BandwidthTestState) × Line String Instant}
    (hrun : Run (orderMachine earliest t₀ (.new testTimeout maxDelay baseDelay
      currentTestDelay positionMultiplier)) tr s) :
    (∀ t ∈ tr, ServedInOrder t) ↔ ∀ t ∈ tr, InTurn t.pre.1 t.label :=
  Run.forall_iff (I := InLine) (C := fun s c => InTurn s.1 c) (inLine_init _ _ _ _ _ _ _)
    (fun _ _ _ _ hI hC hs => inLine_step hI hC hs)
    (fun _ _ _ _ hI hs => inLine_servedInOrder_iff hI hs) hrun

/-- An agent waits, one that runs in time and one that has just begun to wait behind it. -/
theorem servedInOrder_iff_inTurn_handover :
    ∃ tr s, (orderMachine (-300000000000) 0 (.new 120 300 30 60 30)).exec
        [(0, .request "a" 1), (1, .request "b" 1), (2, .request "c" 1), (3, .request "c" 1),
          (9, .complete "a"), (10, .request "b" 1)] = some (tr, s) ∧
      ∀ t ∈ tr, ServedInOrder t := by
  obtain ⟨tr, s, he, hrun⟩ := Run.exists_of_exec
    (orderMachine (-300000000000) 0 (.new 120 300 30 60 30))
    [(0, .request "a" 1), (1, .request "b" 1), (2, .request "c" 1), (3, .request "c" 1),
      (9, .complete "a"), (10, .request "b" 1)] (by decide)
  refine ⟨tr, s, he, (servedInOrder_iff_inTurn _ _ _ _ _ _ _ hrun).2 ?_⟩
  have hturn : ((orderMachine (-300000000000) 0 (.new 120 300 30 60 30)).exec
      [(0, .request "a" 1), (1, .request "b" 1), (2, .request "c" 1), (3, .request "c" 1),
        (9, .complete "a"), (10, .request "b" 1)]).map
      (fun p => decide (∀ t ∈ p.1, InTurn t.pre.1 t.label)) = some true := by decide
  rw [he] at hturn
  simpa using hturn

/-- `a` holds the slot and never completes, `b` waits since the first second; when the test of
`a` has timed out, the slot goes to `c`, which asks for the first time. -/
theorem not_servedInOrder_timeout :
    ∃ tr s, Run (orderMachine (-300000000000) 0 (.new 120 300 30 60 30)) tr s ∧
      tr.map Taken.label = [(0, .request "a" 1), (1000000000, .request "b" 1),
        (200000000000, .request "c" 1)] ∧ ¬ ∀ t ∈ tr, ServedInOrder t := by
  obtain ⟨tr, s, he, hrun⟩ := Run.exists_of_exec
    (orderMachine (-300000000000) 0 (.new 120 300 30 60 30))
    [(0, .request "a" 1), (1000000000, .request "b" 1), (200000000000, .request "c" 1)]
    (by decide)
  have hgrant : ((orderMachine (-300000000000) 0 (.new 120 300 30 60 30)).exec
      [(0, .request "a" 1), (1000000000, .request "b" 1), (200000000000, .request "c" 1)]).map
      (fun p => decide (∀ t ∈ p.1, GrantsFirst t)) = some false := by decide
  refine ⟨tr, s, hrun, Machine.execFrom_labels he, fun h => ?_⟩
  rw [he] at hgrant
  simp only [Option.map_some, Option.some.injEq, decide_eq_false_iff_not] at hgrant
  exact hgrant fun t ht => (h t ht).1

end LinkSense
