import Mathlib.Data.List.Nodup
import Mathlib.Order.Defs.LinearOrder

/-!
# Waiting lines

A line of tickets in the order in which their owners first asked.  Each ticket also has the
time of its owner's last asking; a ticket expires by that time, and asking again renews it
without moving it.

    a ∉ l.owners → (l.ask a t).owners = l.owners ++ [a]             (owners_ask_of_not_mem)
    a ∈ l.owners → (l.ask a t).owners = l.owners                    (owners_ask_of_mem)
    (l.ask a t).next = some a ↔ no one else is next in l            (next_ask_eq_iff)
    a at the end of l → renewing a moves it to the back of the polls (polls_ask_of_last)
    l.FirstSorted t → t ≤ u → (l.ask a u).FirstSorted u             (firstSorted_ask)
-/

namespace WaitingLine

/-! ## Lines -/

/-- One waiting owner: when it first asked and when it last did. -/
structure Ticket (α τ : Type*) where
  owner : α
  first : τ
  last : τ
deriving DecidableEq, Repr

/-- Tickets of different owners, in the order of first asking. -/
structure Line (α τ : Type*) where
  tickets : List (Ticket α τ)
  owners_nodup : (tickets.map Ticket.owner).Nodup

variable {α τ : Type*}

namespace Line

def empty : Line α τ := ⟨[], by simp⟩

def owners (l : Line α τ) : List α := l.tickets.map Ticket.owner

/-- Each owner with the time of its last asking. -/
def polls (l : Line α τ) : List (α × τ) := l.tickets.map fun k => (k.owner, k.last)

/-- The owner at the front. -/
def next (l : Line α τ) : Option α := l.owners.head?

/-- `a` has its place ahead of `b`. -/
def Before (l : Line α τ) (a b : α) : Prop := [a, b].Sublist l.owners

/-- Drop the tickets last renewed at `cutoff` or earlier. -/
def expire [LT τ] [DecidableLT τ] (l : Line α τ) (cutoff : τ) : Line α τ where
  tickets := l.tickets.filter fun k => decide (cutoff < k.last)
  owners_nodup := l.owners_nodup.sublist (List.filter_sublist.map _)

section Asking

variable [DecidableEq α]

def renew (a : α) (t : τ) (k : Ticket α τ) : Ticket α τ :=
  if k.owner = a then { k with last := t } else k

@[simp] theorem renew_owner (a : α) (t : τ) (k : Ticket α τ) : (renew a t k).owner = k.owner := by
  unfold renew
  split <;> rfl

@[simp] theorem renew_first (a : α) (t : τ) (k : Ticket α τ) : (renew a t k).first = k.first := by
  unfold renew
  split <;> rfl

theorem map_owner_renew (a : α) (t : τ) (ks : List (Ticket α τ)) :
    (ks.map (renew a t)).map Ticket.owner = ks.map Ticket.owner := by
  simp

/-- `a` asks at `t`: it joins at the back, or renews the ticket it has. -/
def ask (l : Line α τ) (a : α) (t : τ) : Line α τ where
  tickets :=
    if a ∈ l.owners then l.tickets.map (renew a t) else l.tickets ++ [⟨a, t, t⟩]
  owners_nodup := by
    split
    · rw [map_owner_renew]
      exact l.owners_nodup
    · next h =>
      rw [List.map_append, List.nodup_append]
      refine ⟨l.owners_nodup, by simp, fun x hx y hy => ?_⟩
      have hy : y = a := by simpa using hy
      rintro rfl
      exact h (hy ▸ hx)

/-- The line without `a`. -/
def leave (l : Line α τ) (a : α) : Line α τ where
  tickets := l.tickets.filter fun k => k.owner != a
  owners_nodup := l.owners_nodup.sublist (List.filter_sublist.map _)

end Asking

/-! ## Lemmas -/

theorem owners_eq_map_polls (l : Line α τ) : l.owners = l.polls.map Prod.fst := by
  simp [owners, polls]

theorem polls_expire [LT τ] [DecidableLT τ] (l : Line α τ) (cutoff : τ) :
    (l.expire cutoff).polls = l.polls.filter fun e => decide (cutoff < e.2) := by
  simp only [polls, expire, List.filter_map]
  rfl

variable [DecidableEq α]

theorem polls_leave (l : Line α τ) (a : α) :
    (l.leave a).polls = l.polls.filter fun e => e.1 != a := by
  simp only [polls, leave, List.filter_map]
  rfl

theorem leave_of_not_mem (l : Line α τ) (a : α) (h : a ∉ l.owners) :
    (l.leave a).polls = l.polls := by
  rw [polls_leave, List.filter_eq_self]
  intro e he
  have : e.1 ∈ l.owners := by
    rw [owners_eq_map_polls]
    exact List.mem_map_of_mem he
  simp only [bne_iff_ne, ne_eq]
  rintro rfl
  exact h this

theorem tickets_ask_of_mem (l : Line α τ) (a : α) (t : τ) (h : a ∈ l.owners) :
    (l.ask a t).tickets = l.tickets.map (renew a t) := if_pos h

theorem tickets_ask_of_not_mem (l : Line α τ) (a : α) (t : τ) (h : a ∉ l.owners) :
    (l.ask a t).tickets = l.tickets ++ [⟨a, t, t⟩] := if_neg h

theorem owners_ask_of_mem (l : Line α τ) (a : α) (t : τ) (h : a ∈ l.owners) :
    (l.ask a t).owners = l.owners := by
  unfold owners
  rw [tickets_ask_of_mem l a t h, map_owner_renew]

theorem owners_ask_of_not_mem (l : Line α τ) (a : α) (t : τ) (h : a ∉ l.owners) :
    (l.ask a t).owners = l.owners ++ [a] := by
  unfold owners
  rw [tickets_ask_of_not_mem l a t h]
  simp

theorem polls_ask_of_not_mem (l : Line α τ) (a : α) (t : τ) (h : a ∉ l.owners) :
    (l.ask a t).polls = l.polls ++ [(a, t)] := by
  unfold polls
  rw [tickets_ask_of_not_mem l a t h]
  simp

theorem polls_ask_of_mem (l : Line α τ) (a : α) (t : τ) (h : a ∈ l.owners) :
    (l.ask a t).polls = l.polls.map fun e => if e.1 = a then (e.1, t) else e := by
  unfold polls
  rw [tickets_ask_of_mem l a t h, List.map_map, List.map_map]
  refine List.map_congr_left fun k _ => ?_
  by_cases hk : k.owner = a <;> simp [renew, hk]

theorem filter_ne_map_renew (a : α) (t : τ) (es : List (α × τ)) :
    (es.map fun e => if e.1 = a then (e.1, t) else e).filter (fun e => e.1 != a) =
      es.filter fun e => e.1 != a := by
  induction es with
  | nil => rfl
  | cons e es ih =>
    rw [List.map_cons]
    by_cases he : e.1 = a
    · simp [he, ih]
    · simp [he, ih]

/-- Asking and leaving is leaving. -/
theorem polls_leave_ask (l : Line α τ) (a : α) (t : τ) :
    ((l.ask a t).leave a).polls = l.polls.filter fun e => e.1 != a := by
  rw [polls_leave]
  by_cases h : a ∈ l.owners
  · rw [polls_ask_of_mem l a t h, filter_ne_map_renew]
  · rw [polls_ask_of_not_mem l a t h, List.filter_append]
    simp

/-- Renewing the last ticket is the same as moving it to the back. -/
theorem polls_ask_of_last (l : Line α τ) (a : α) (t : τ) (h : l.owners.getLast? = some a) :
    (l.ask a t).polls = l.polls.filter (fun e => e.1 != a) ++ [(a, t)] := by
  have hm : a ∈ l.owners := List.mem_of_getLast? h
  rw [polls_ask_of_mem l a t hm]
  have hnd : (l.polls.map Prod.fst).Nodup := by
    rw [← owners_eq_map_polls]
    exact l.owners_nodup
  rw [owners_eq_map_polls] at h
  generalize l.polls = es at h hnd
  obtain ⟨ys, e, rfl⟩ : ∃ ys e, es = ys ++ [e] := by
    cases hes : es.getLast? with
    | none =>
      rw [List.getLast?_eq_none_iff] at hes
      simp [hes] at h
    | some e =>
      obtain ⟨ys, rfl⟩ := List.getLast?_eq_some_iff.1 hes
      exact ⟨ys, e, rfl⟩
  have he : e.1 = a := by simpa using h
  rw [List.map_append, List.nodup_append] at hnd
  have hne : ∀ x ∈ ys, x.1 ≠ a := by
    intro x hx
    rw [← he]
    exact hnd.2.2 x.1 (List.mem_map_of_mem hx) e.1 (by simp)
  have h1 : ys.map (fun e => if e.1 = a then (e.1, t) else e) = ys := by
    conv_rhs => rw [← List.map_id ys]
    exact List.map_congr_left fun x hx => by simp [hne x hx]
  have h2 : ys.filter (fun e => e.1 != a) = ys := by
    rw [List.filter_eq_self]
    intro x hx
    simpa using hne x hx
  simp [h1, h2, he]

/-- After asking, `a` is served next exactly when no one else was. -/
theorem next_ask_eq_iff (l : Line α τ) (a : α) (t : τ) :
    (l.ask a t).next = some a ↔ ∀ b, l.next = some b → b = a := by
  unfold next
  by_cases h : a ∈ l.owners
  · rw [owners_ask_of_mem l a t h]
    cases ho : l.owners with
    | nil => simp [ho] at h
    | cons b bs => simp
  · rw [owners_ask_of_not_mem l a t h]
    cases ho : l.owners with
    | nil => simp
    | cons b bs => simp

/-- In a list without repetitions `a` stays ahead of all that follow it when it is moved to the
back only if none follows it. -/
theorem moved_back_iff {as : List α} (hnd : as.Nodup) {a : α} (ha : a ∈ as) :
    (∀ b, [a, b].Sublist as → [a, b].Sublist (as.filter (· != a) ++ [a])) ↔
      as.getLast? = some a := by
  obtain ⟨xs, ys, rfl⟩ := List.append_of_mem ha
  have hx : a ∉ xs := fun hx => (List.nodup_append.1 hnd).2.2 a hx a (by simp) rfl
  have hy : a ∉ ys := (List.nodup_cons.1 (List.nodup_append.1 hnd).2.1).1
  have hf : (xs ++ a :: ys).filter (· != a) = xs ++ ys := by
    rw [List.filter_append, List.filter_cons_of_neg (by simp)]
    rw [List.filter_eq_self.2 (by simpa using fun x h1 => ne_of_mem_of_not_mem h1 hx),
      List.filter_eq_self.2 (by simpa using fun x h1 => ne_of_mem_of_not_mem h1 hy)]
  rw [hf]
  constructor
  · intro h
    cases ys with
    | nil => simp
    | cons b ys =>
      -- `b` follows `a`, so it would have to follow the only `a`, at the very end
      have hs : [a, b].Sublist (xs ++ a :: b :: ys) :=
        ((List.nil_sublist ys).cons_cons b).cons_cons a |>.trans (List.sublist_append_right xs _)
      have := h b hs
      have hnot : a ∉ xs ++ b :: ys := by
        rw [List.mem_append]
        exact fun hm => hm.elim hx hy
      rw [List.sublist_append_iff] at this
      obtain ⟨l₁, l₂, he, h1, h2⟩ := this
      cases l₁ with
      | nil =>
        rw [List.nil_append] at he
        rw [← he] at h2
        have := h2.length_le
        simp at this
      | cons c l₁ =>
        rw [List.cons_append, List.cons.injEq] at he
        obtain ⟨rfl, -⟩ := he
        exact absurd (h1.subset (by simp)) hnot
  · intro h b hs
    have hys : ys = [] := by
      cases ys with
      | nil => rfl
      | cons c ys =>
        have hl : (c :: ys).getLast? = some a := by
          simpa [List.getLast?_append] using h
        exact absurd (List.mem_of_getLast? hl) hy
    subst hys
    rw [List.append_nil]
    exact hs

/-! ## Order of first asking -/

/-- The first askings are in order, and none is after `t`. -/
def FirstSorted [LE τ] (t : τ) (l : Line α τ) : Prop :=
  (l.tickets.map Ticket.first).Pairwise (· ≤ ·) ∧ ∀ k ∈ l.tickets, k.first ≤ t

omit [DecidableEq α] in
theorem firstSorted_of_sublist [Preorder τ] {t u : τ} {l l' : Line α τ} (h : l.FirstSorted t)
    (htu : t ≤ u) (hs : l'.tickets.Sublist l.tickets) : l'.FirstSorted u :=
  ⟨h.1.sublist (hs.map _), fun k hk => le_trans (h.2 k (hs.subset hk)) htu⟩

theorem firstSorted_ask [Preorder τ] {t u : τ} {l : Line α τ} (a : α) (h : l.FirstSorted t)
    (htu : t ≤ u) : (l.ask a u).FirstSorted u := by
  obtain ⟨hp, hle⟩ := h
  unfold FirstSorted
  by_cases hm : a ∈ l.owners
  · rw [tickets_ask_of_mem l a u hm]
    have hf : (l.tickets.map (renew a u)).map Ticket.first = l.tickets.map Ticket.first := by simp
    refine ⟨hf ▸ hp, fun k hk => ?_⟩
    obtain ⟨k₀, hk₀, rfl⟩ := List.mem_map.1 hk
    rw [renew_first]
    exact le_trans (hle k₀ hk₀) htu
  · rw [tickets_ask_of_not_mem l a u hm, List.map_append, List.pairwise_append]
    refine ⟨⟨hp, by simp, fun x hx y hy => ?_⟩, fun k hk => ?_⟩
    · obtain ⟨k, hk, rfl⟩ := List.mem_map.1 hx
      have hy : y = u := by simpa using hy
      exact hy ▸ le_trans (hle k hk) htu
    · rcases List.mem_append.1 hk with hk | hk
      · exact le_trans (hle k hk) htu
      · rw [List.mem_singleton] at hk
        simp [hk]

omit [DecidableEq α] in
/-- Whoever is next asked first. -/
theorem first_le_of_next [Preorder τ] {t : τ} {l : Line α τ} (h : l.FirstSorted t)
    {k : Ticket α τ} {ks : List (Ticket α τ)} (hk : l.tickets = k :: ks) :
    l.next = some k.owner ∧ ∀ k' ∈ ks, k.first ≤ k'.first := by
  refine ⟨by simp [next, owners, hk], fun k' hk' => ?_⟩
  have hp := h.1
  rw [hk, List.map_cons, List.pairwise_cons] at hp
  exact hp.1 _ (List.mem_map_of_mem hk')

end Line

end WaitingLine
