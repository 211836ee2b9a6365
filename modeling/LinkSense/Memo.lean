import LinkSense.Machine
import Mathlib.Logic.Function.Basic

/-!
# A function behind a shared cache

Any number of calls of a function `f` share a cache behind a lock for readers and writers.  A call
looks its key up, and returns what it finds; else it computes `f` without the lock, and looks again
before it inserts the value.  An error is returned and not kept.  What a call does under the lock is
one step, and the steps of different calls come in any order.

    every call returns what `f` gives for its key                             (returned_of_run)
    once a call has returned a value of a key, no call that looks the key up misses it
                                                                              (no_miss_of_run)
-/

namespace Memo

open Labelled

variable {κ ε ν : Type*}

/-! ## Calls -/

/-- Where a call is. -/
inductive Point (ε ν : Type*) where
  | looking
  | computing
  | inserting (v : ν)
  | returned (r : Except ε ν)

structure Call (κ ε ν : Type*) where
  key : κ
  point : Point ε ν

structure State (κ ε ν : Type*) where
  cache : κ → Option ν
  calls : List (Call κ ε ν)

inductive Action (κ : Type*) where
  /-- A call for a key begins. -/
  | call (key : κ)
  /-- The next step of the call at an index. -/
  | advance (i : Nat)

section Steps

variable [DecidableEq κ] (f : κ → Except ε ν)

/-- One step of a call: the cache after it, and where the call has come to. -/
def Call.advance (cache : κ → Option ν) (c : Call κ ε ν) :
    Option ((κ → Option ν) × Point ε ν) :=
  match c.point with
  | .looking =>
    match cache c.key with
    | some v => some (cache, .returned (.ok v))
    | none => some (cache, .computing)
  | .computing =>
    match f c.key with
    | .ok v => some (cache, .inserting v)
    | .error e => some (cache, .returned (.error e))
  | .inserting v =>
    match cache c.key with
    | some existing => some (cache, .returned (.ok existing))
    | none => some (Function.update cache c.key (some v), .returned (.ok v))
  | .returned _ => none

/-- A step, with the call that has made it and where it has come to. -/
def State.next (s : State κ ε ν) : Action κ → Option (State κ ε ν × Option (Call κ ε ν × Point ε ν))
  | .call key => some ({ s with calls := s.calls ++ [⟨key, .looking⟩] }, none)
  | .advance i =>
    match s.calls[i]? with
    | none => none
    | some c =>
      match c.advance f s.cache with
      | none => none
      | some (cache, point) =>
        some (⟨cache, s.calls.set i { c with point := point }⟩, some (c, point))

def machine : Machine (State κ ε ν) (Action κ) (Option (Call κ ε ν × Point ε ν)) :=
  ⟨⟨fun _ => none, []⟩, State.next f⟩

end Steps

abbrev Step (κ ε ν : Type*) := Taken (State κ ε ν) (Action κ) (Option (Call κ ε ν × Point ε ν))

/-- The step returns a value of the key. -/
def Step.Provides (key : κ) (t : Step κ ε ν) : Prop :=
  ∃ c v, t.answer = some (c, .returned (.ok v)) ∧ c.key = key

/-- The step looks the key up and does not find it. -/
def Step.Misses (key : κ) (t : Step κ ε ν) : Prop :=
  ∃ c, t.answer = some (c, .computing) ∧ c.key = key

/-! ## Invariant -/

/-- What a call has is what `f` gives, and a value that it has returned is in the cache. -/
def Call.Sound (f : κ → Except ε ν) (cache : κ → Option ν) (c : Call κ ε ν) : Prop :=
  match c.point with
  | .looking => True
  | .computing => True
  | .inserting v => f c.key = .ok v
  | .returned r => f c.key = r ∧ ∀ v, r = .ok v → cache c.key = some v

structure State.Sound (f : κ → Except ε ν) (s : State κ ε ν) : Prop where
  cache : ∀ key v, s.cache key = some v → f key = .ok v
  calls : ∀ c ∈ s.calls, c.Sound f s.cache

/-- What is in the cache stays there. -/
def Extends (cache cache' : κ → Option ν) : Prop :=
  ∀ key v, cache key = some v → cache' key = some v

theorem Call.Sound.extend {f : κ → Except ε ν} {cache cache' : κ → Option ν} {c : Call κ ε ν}
    (h : c.Sound f cache) (hext : Extends cache cache') : c.Sound f cache' := by
  unfold Call.Sound at h ⊢
  cases hp : c.point with
  | looking => trivial
  | computing => trivial
  | inserting v =>
    rw [hp] at h
    exact h
  | returned r =>
    rw [hp] at h
    exact ⟨h.1, fun v hv => hext _ _ (h.2 v hv)⟩

theorem Call.Sound.returned {f : κ → Except ε ν} {cache : κ → Option ν} {c : Call κ ε ν}
    (h : c.Sound f cache) {r : Except ε ν} (hp : c.point = .returned r) : f c.key = r := by
  unfold Call.Sound at h
  rw [hp] at h
  exact h.1

section Rules

variable [DecidableEq κ] {f : κ → Except ε ν} {cache cache' : κ → Option ν} {c : Call κ ε ν}
  {point : Point ε ν} {s s' : State κ ε ν}

/-- **What a step of a call can do.** -/
theorem advance_cases (h : c.advance f cache = some (cache', point)) :
    (∃ v, cache c.key = some v ∧ cache' = cache ∧ point = .returned (.ok v)) ∨
    (c.point = .looking ∧ cache c.key = none ∧ cache' = cache ∧ point = .computing) ∨
    (∃ v, f c.key = .ok v ∧ cache' = cache ∧ point = .inserting v) ∨
    (∃ e, f c.key = .error e ∧ cache' = cache ∧ point = .returned (.error e)) ∨
    (∃ v, c.point = .inserting v ∧ cache c.key = none ∧
      cache' = Function.update cache c.key (some v) ∧ point = .returned (.ok v)) := by
  unfold Call.advance at h
  cases hp : c.point with
  | looking =>
    rw [hp] at h
    dsimp only at h
    cases hc : cache c.key with
    | none =>
      rw [hc] at h
      obtain ⟨rfl, rfl⟩ := Prod.mk.inj (Option.some.inj h)
      exact .inr (.inl ⟨rfl, rfl, rfl, rfl⟩)
    | some v =>
      rw [hc] at h
      obtain ⟨rfl, rfl⟩ := Prod.mk.inj (Option.some.inj h)
      exact .inl ⟨v, rfl, rfl, rfl⟩
  | computing =>
    rw [hp] at h
    dsimp only at h
    cases hf : f c.key with
    | ok v =>
      rw [hf] at h
      obtain ⟨rfl, rfl⟩ := Prod.mk.inj (Option.some.inj h)
      exact .inr (.inr (.inl ⟨v, rfl, rfl, rfl⟩))
    | error e =>
      rw [hf] at h
      obtain ⟨rfl, rfl⟩ := Prod.mk.inj (Option.some.inj h)
      exact .inr (.inr (.inr (.inl ⟨e, rfl, rfl, rfl⟩)))
  | inserting v =>
    rw [hp] at h
    dsimp only at h
    cases hc : cache c.key with
    | some existing =>
      rw [hc] at h
      obtain ⟨rfl, rfl⟩ := Prod.mk.inj (Option.some.inj h)
      exact .inl ⟨existing, rfl, rfl, rfl⟩
    | none =>
      rw [hc] at h
      obtain ⟨rfl, rfl⟩ := Prod.mk.inj (Option.some.inj h)
      exact .inr (.inr (.inr (.inr ⟨v, rfl, rfl, rfl, rfl⟩)))
  | returned r =>
    rw [hp] at h
    cases h

theorem advance_extends (h : c.advance f cache = some (cache', point)) : Extends cache cache' := by
  intro key v hv
  obtain ⟨w, -, rfl, -⟩ | ⟨-, -, rfl, -⟩ | ⟨w, -, rfl, -⟩ | ⟨e, -, rfl, -⟩ | ⟨w, -, hnone, rfl, -⟩ :=
    advance_cases h
  · exact hv
  · exact hv
  · exact hv
  · exact hv
  · have hne : key ≠ c.key := by
      rintro rfl
      rw [hnone] at hv
      cases hv
    rw [Function.update_of_ne hne]
    exact hv

/-- A sound call makes a sound step. -/
theorem advance_sound (hcache : ∀ key v, cache key = some v → f key = .ok v)
    (hc : c.Sound f cache) (h : c.advance f cache = some (cache', point)) :
    (∀ key v, cache' key = some v → f key = .ok v) ∧
      ({ c with point := point } : Call κ ε ν).Sound f cache' := by
  obtain ⟨v, hv, rfl, rfl⟩ | ⟨-, -, rfl, rfl⟩ | ⟨v, hf, rfl, rfl⟩ | ⟨e, hf, rfl, rfl⟩ |
    ⟨v, hp, -, rfl, rfl⟩ := advance_cases h
  · refine ⟨hcache, hcache _ _ hv, fun w hw => ?_⟩
    rw [← Except.ok.inj hw]
    exact hv
  · exact ⟨hcache, trivial⟩
  · exact ⟨hcache, hf⟩
  · exact ⟨hcache, hf, fun w hw => by cases hw⟩
  · have hf : f c.key = .ok v := by
      unfold Call.Sound at hc
      rw [hp] at hc
      exact hc
    refine ⟨fun key w hw => ?_, hf, fun w hw => ?_⟩
    · by_cases hkey : key = c.key
      · subst hkey
        rw [Function.update_self] at hw
        rw [← Option.some.inj hw]
        exact hf
      · rw [Function.update_of_ne hkey] at hw
        exact hcache key w hw
    · rw [← Except.ok.inj hw]
      exact Function.update_self _ _ _

/-- A step of the calls, by what it is. -/
theorem next_cases {a : Action κ} {b : Option (Call κ ε ν × Point ε ν)}
    (h : s.next f a = some (s', b)) :
    (∃ key, a = .call key ∧ b = none ∧ s' = { s with calls := s.calls ++ [⟨key, .looking⟩] }) ∨
    ∃ i c cache point, a = .advance i ∧ b = some (c, point) ∧ s.calls[i]? = some c ∧
      c.advance f s.cache = some (cache, point) ∧
      s' = ⟨cache, s.calls.set i { c with point := point }⟩ := by
  cases a with
  | call key =>
    obtain ⟨rfl, rfl⟩ := Prod.mk.inj (Option.some.inj h)
    exact .inl ⟨key, rfl, rfl, rfl⟩
  | advance i =>
    dsimp only [State.next] at h
    cases hi : s.calls[i]? with
    | none =>
      rw [hi] at h
      cases h
    | some c =>
      rw [hi] at h
      dsimp only at h
      cases hadv : c.advance f s.cache with
      | none =>
        rw [hadv] at h
        cases h
      | some r =>
        rw [hadv] at h
        obtain ⟨rfl, rfl⟩ := Prod.mk.inj (Option.some.inj h)
        exact .inr ⟨i, c, r.1, r.2, rfl, rfl, hi ▸ rfl, hadv, rfl⟩

theorem next_sound {a : Action κ} {b : Option (Call κ ε ν × Point ε ν)} (hs : s.Sound f)
    (h : s.next f a = some (s', b)) : s'.Sound f := by
  obtain ⟨key, -, -, rfl⟩ | ⟨i, c, cache, point, -, -, hi, hadv, rfl⟩ := next_cases h
  · refine ⟨hs.cache, fun c hc => ?_⟩
    rcases List.mem_append.1 hc with hold | hnew
    · exact hs.calls c hold
    · obtain rfl := List.mem_singleton.1 hnew
      trivial
  · obtain ⟨hcache, hsound⟩ :=
      advance_sound hs.cache (hs.calls c (List.mem_of_getElem? hi)) hadv
    refine ⟨hcache, fun d hd => ?_⟩
    rcases List.mem_or_eq_of_mem_set hd with hold | rfl
    · exact (hs.calls d hold).extend (advance_extends hadv)
    · exact hsound

/-! ## Runs -/

variable {tr : List (Step κ ε ν)}

theorem sound_init : State.Sound f (machine f).init :=
  ⟨fun _ _ h => (Option.some_ne_none _ h.symm).elim, fun _ h => absurd h List.not_mem_nil⟩

theorem sound_run (hr : Run (machine f) tr s) : s.Sound f :=
  Run.invariant (I := State.Sound f) sound_init (fun _ _ _ _ hs h => next_sound hs h) hr

/-- **Every call returns what the function gives.** -/
theorem returned_of_run (hr : Run (machine f) tr s) {c : Call κ ε ν} (hc : c ∈ s.calls)
    {r : Except ε ν} (hp : c.point = .returned r) : f c.key = r :=
  ((sound_run hr).calls c hc).returned hp

/-- **A key is not missed after it was provided.** -/
theorem no_miss_of_run (hr : Run (machine f) tr s) (key : κ) :
    tr.Pairwise fun x y => x.Provides key → ¬ y.Misses key := by
  -- a key that was provided is in the cache from then on
  suffices h : (tr.Pairwise fun x y => x.Provides key → ¬ y.Misses key) ∧
      ∀ x ∈ tr, x.Provides key → s.cache key ≠ none from h.1
  induction hr with
  | nil => exact ⟨.nil, by simp⟩
  | @snoc tr s a s' b hr hs ih =>
    obtain ⟨hpairs, hkept⟩ := ih
    have hsound := sound_run (hr.snoc hs)
    have hcases := next_cases hs
    refine ⟨List.pairwise_append.2 ⟨hpairs, List.pairwise_singleton _ _, ?_⟩, ?_⟩
    · intro x hx y hy hprovides
      obtain rfl := List.mem_singleton.1 hy
      rintro ⟨c, hanswer, rfl⟩
      have hcached := hkept x hx hprovides
      obtain ⟨k, -, hb, -⟩ | ⟨i, d, cache, point, -, hb, -, hadv, -⟩ := hcases
      · rw [hb] at hanswer
        cases hanswer
      · rw [hb] at hanswer
        obtain ⟨rfl, rfl⟩ := Prod.mk.inj (Option.some.inj hanswer)
        obtain ⟨v, -, -, hpoint⟩ | ⟨-, hnone, -, -⟩ | ⟨v, -, -, hpoint⟩ | ⟨e, -, -, hpoint⟩ |
          ⟨v, -, -, -, hpoint⟩ := advance_cases hadv
        · cases hpoint
        · exact hcached hnone
        · cases hpoint
        · cases hpoint
        · cases hpoint
    · intro x hx hprovides
      rcases List.mem_append.1 hx with hold | hnew
      · have hcached := hkept x hold hprovides
        obtain ⟨k, -, -, rfl⟩ | ⟨i, d, cache, point, -, -, -, hadv, rfl⟩ := hcases
        · exact hcached
        · obtain ⟨v, hv⟩ := Option.ne_none_iff_exists'.1 hcached
          have hext := advance_extends hadv key v hv
          dsimp only
          rw [hext]
          exact Option.some_ne_none v
      · obtain rfl := List.mem_singleton.1 hnew
        obtain ⟨c, v, hanswer, rfl⟩ := hprovides
        obtain ⟨k, -, hb, -⟩ | ⟨i, d, cache, point, -, hb, hi, hadv, rfl⟩ := hcases
        · rw [hb] at hanswer
          cases hanswer
        · rw [hb] at hanswer
          obtain ⟨rfl, rfl⟩ := Prod.mk.inj (Option.some.inj hanswer)
          have hmem : ({ d with point := .returned (.ok v) } : Call κ ε ν) ∈
              s.calls.set i { d with point := .returned (.ok v) } :=
            List.mem_set (List.getElem?_eq_some_iff.1 hi).1 _
          have hreturned := (hsound.calls _ hmem).2 v rfl
          rw [hreturned]
          exact Option.some_ne_none v

end Rules

end Memo
