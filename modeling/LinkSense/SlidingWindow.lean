import Mathlib.Data.List.Induction
import Mathlib.Logic.Function.Basic
import Mathlib.Order.Basic

/-!
# Sliding windows

A limiter accepts a request of a key while fewer than `limit` of the key's accepted requests
still count.  It keeps lists of accepted times, from which it drops what no longer counts.

    Remembers w now h log → a request at `t ≥ now` is accepted ↔ the history `h` admits it
                                                                             (request_fst)
    requests and cleanups keep `Remembers`                  (remembers_request, remembers_cleanup)
    each request of `h` was admitted → at most `limit` accepted requests of a key lie in one window
                                                                          (countP_le_limit)
-/

namespace SlidingWindow

variable {κ τ : Type*} [DecidableEq κ] [Preorder τ]

/-! ## Windows and histories -/

/-- Which earlier times still count at a time; what counts later counts now. -/
structure Window (τ : Type*) [Preorder τ] where
  counts : τ → τ → Bool
  fades : ∀ {s t t'}, t ≤ t' → counts s t' = true → counts s t = true

/-- The accepted requests, each with its key and time. -/
abbrev History (κ τ : Type*) := List (κ × τ)

/-- The times that are kept of each key. -/
abbrev Log (κ τ : Type*) := κ → Option (List τ)

def times (k : κ) (h : History κ τ) : List τ :=
  h.filterMap fun e => if e.1 = k then some e.2 else none

omit [Preorder τ] in
theorem times_snoc (k k' : κ) (t : τ) (h : History κ τ) :
    times k (h ++ [(k', t)]) = times k h ++ if k' = k then [t] else [] := by
  unfold times
  rw [List.filterMap_append]
  split
  · next hk => simp [hk]
  · next hk => simp [hk]

namespace Window

def fresh (w : Window τ) (t : τ) (l : List τ) : List τ := l.filter fun s => w.counts s t

/-- The decision over all accepted times of a key. -/
def admits (w : Window τ) (limit : Nat) (accepted : List τ) (t : τ) : Bool :=
  (w.fresh t accepted).length < limit

/-! ## The limiter -/

/-- Drop what no longer counts, and count the request unless `limit` are left. -/
def request (w : Window τ) (limit : Nat) (k : κ) (t : τ) (log : Log κ τ) : Bool × Log κ τ :=
  let kept := w.fresh t ((log k).getD [])
  if kept.length < limit then (true, Function.update log k (some (kept ++ [t])))
  else (false, Function.update log k (some kept))

/-- Drop what no longer counts, and the keys with nothing left. -/
def cleanup (w : Window τ) (t : τ) (log : Log κ τ) : Log κ τ := fun k =>
  match log k with
  | none => none
  | some kept => if (w.fresh t kept).isEmpty then none else some (w.fresh t kept)

/-- The requests of one key alone: the times that are accepted, and all answers. -/
def alone (w : Window τ) (limit : Nat) (requests : List τ) : List τ × List Bool :=
  requests.foldl (fun r t =>
    (if w.admits limit r.1 t then r.1 ++ [t] else r.1, r.2 ++ [w.admits limit r.1 t])) ([], [])

/-- The log tells what of the history counts, now and later. -/
def Remembers (w : Window τ) (now : τ) (h : History κ τ) (log : Log κ τ) : Prop :=
  ∀ k t, now ≤ t → w.fresh t ((log k).getD []) = w.fresh t (times k h)

/-- Every request of the history was admitted by those before it. -/
def Admitted (w : Window τ) (limit : Nat) (h : History κ τ) : Prop :=
  ∀ before e after, h = before ++ e :: after → w.admits limit (times e.1 before) e.2 = true

/-! ## Lemmas -/

section

variable (w : Window τ) {limit : Nat} {now t : τ} {h : History κ τ} {log : Log κ τ} {k : κ}

@[simp] theorem fresh_append (t : τ) (l l' : List τ) :
    w.fresh t (l ++ l') = w.fresh t l ++ w.fresh t l' := List.filter_append ..

/-- What was dropped earlier does not count later. -/
theorem fresh_fresh {t t' : τ} (h : t ≤ t') (l : List τ) :
    w.fresh t' (w.fresh t l) = w.fresh t' l := by
  unfold fresh
  rw [List.filter_filter]
  refine List.filter_congr fun s _ => ?_
  cases hs : w.counts s t' with
  | false => rfl
  | true => rw [w.fades h hs]; rfl

theorem Remembers.mono {w : Window τ} (hr : w.Remembers now h log) (ht : now ≤ t) :
    w.Remembers t h log := fun k t' ht' => hr k t' (ht.trans ht')

/-- **The limiter decides as the history does.** -/
theorem request_fst {w : Window τ} (hr : w.Remembers now h log) (ht : now ≤ t) (k : κ) :
    (w.request limit k t log).1 = w.admits limit (times k h) t := by
  unfold request admits
  rw [hr k t ht]
  dsimp only
  split
  · next hlt => exact (decide_eq_true hlt).symm
  · next hlt => exact (decide_eq_false hlt).symm

theorem remembers_request {w : Window τ} (hr : w.Remembers now h log) (ht : now ≤ t) (k : κ) :
    w.Remembers t (if w.admits limit (times k h) t then h ++ [(k, t)] else h)
      (w.request limit k t log).2 := by
  intro k' t' ht'
  have hold : w.fresh t' (w.fresh t ((log k).getD [])) = w.fresh t' (times k h) :=
    (w.fresh_fresh ht' _).trans (hr k t' (ht.trans ht'))
  unfold request admits
  rw [hr k t ht] at hold ⊢
  by_cases hlt : (w.fresh t (times k h)).length < limit
  · rw [if_pos hlt, decide_eq_true hlt, if_pos rfl, times_snoc, fresh_append]
    dsimp only
    by_cases hk : k' = k
    · subst hk
      rw [if_pos rfl, Function.update_self, Option.getD_some, fresh_append, hold]
    · rw [if_neg (Ne.symm hk), Function.update_of_ne hk, hr k' t' (ht.trans ht')]
      exact (List.append_nil _).symm
  · rw [if_neg hlt, decide_eq_false hlt, if_neg Bool.false_ne_true]
    dsimp only
    by_cases hk : k' = k
    · subst hk
      rw [Function.update_self, Option.getD_some, hold]
    · rw [Function.update_of_ne hk, hr k' t' (ht.trans ht')]

theorem remembers_cleanup {w : Window τ} (hr : w.Remembers now h log) (ht : now ≤ t) :
    w.Remembers t h (w.cleanup t log) := by
  intro k t' ht'
  rw [← hr k t' (ht.trans ht')]
  unfold cleanup
  cases log k with
  | none => rfl
  | some kept =>
    have hold := w.fresh_fresh ht' kept
    dsimp only
    split
    · next hempty =>
      rw [List.isEmpty_iff.1 hempty] at hold
      exact hold
    · exact hold

/-! ## One key alone -/

theorem alone_snoc (limit : Nat) (requests : List τ) (t : τ) :
    w.alone limit (requests ++ [t]) =
      (if w.admits limit (w.alone limit requests).1 t then (w.alone limit requests).1 ++ [t]
        else (w.alone limit requests).1,
      (w.alone limit requests).2 ++ [w.admits limit (w.alone limit requests).1 t]) := by
  unfold alone
  rw [List.foldl_append]
  rfl

/-! ## Bounds -/

theorem admitted_nil (limit : Nat) : w.Admitted limit ([] : History κ τ) := by
  intro before e after he
  cases before <;> cases he

theorem admitted_snoc {w : Window τ} (hh : w.Admitted limit h)
    (ht : w.admits limit (times k h) t = true) : w.Admitted limit (h ++ [(k, t)]) := by
  intro before e after he
  rcases List.eq_nil_or_concat after with rfl | ⟨init, last, rfl⟩
  · obtain ⟨rfl, hlast⟩ := List.append_inj' he rfl
    obtain rfl := List.singleton_inj.1 hlast
    exact ht
  · rw [List.concat_eq_append, ← List.cons_append, ← List.append_assoc] at he
    exact hh before e init (List.append_inj' he rfl).1

/-- **At most `limit` in a window**, where a window is any set of times in which the earlier ones
count at the later ones. -/
theorem countP_le_limit {w : Window τ} (hh : w.Admitted limit h)
    (hsorted : h.Pairwise fun a b => a.2 ≤ b.2) (p : τ → Bool)
    (hp : ∀ s t, s ≤ t → p s = true → p t = true → w.counts s t = true) (k : κ) :
    (times k h).countP p ≤ limit := by
  induction h using List.reverseRecOn with
  | nil => exact Nat.zero_le _
  | append_singleton h e ih =>
    obtain ⟨k', t⟩ := e
    rw [List.pairwise_append] at hsorted
    have hbefore : w.Admitted limit h := by
      intro before e after he
      exact hh before e (after ++ [(k', t)]) (by rw [he]; simp)
    have hlast : w.admits limit (times k' h) t = true := hh h (k', t) [] rfl
    rw [times_snoc, List.countP_append]
    by_cases hin : k' = k ∧ p t = true
    · -- all earlier ones in the window count at `t`
      obtain ⟨rfl, hpt⟩ := hin
      have hcounts : (times k' h).countP p ≤ (w.fresh t (times k' h)).length := by
        unfold fresh
        rw [← List.countP_eq_length_filter]
        refine List.countP_mono_left fun s hs hps => ?_
        obtain ⟨e, he, hse⟩ := List.mem_filterMap.1 hs
        split at hse
        · obtain rfl := Option.some.inj hse
          exact hp _ _ (hsorted.2.2 e he _ (List.mem_singleton_self _)) hps hpt
        · cases hse
      have hlt := of_decide_eq_true hlast
      rw [if_pos rfl, List.countP_singleton, if_pos hpt]
      omega
    · have hnone : (if k' = k then [t] else []).countP p = 0 := by
        split
        · next hk => simpa using fun hpt => hin ⟨hk, hpt⟩
        · rfl
      rw [hnone, Nat.add_zero]
      exact ih hbefore hsorted.1

end

end Window

end SlidingWindow
