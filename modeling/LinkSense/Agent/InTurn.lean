import LinkSense.Agent.Attempts
import LinkSense.Agent.Batches

/-!
# The queue is served in turn

How long an entry of the send queue waits.  The entries ahead of it are those that can be sent and
were created no later.  New ones do not come before it, and each batch that the server accepts
takes it or `metrics_batch_size` of those ahead of it.

    ahead of the entry < accepted batches * metrics_batch_size → it does not wait any more
                                                                                  (sent_in_turn)
-/

namespace LinkSense

open Labelled Sql

/-! ## Waiting -/

/-- The entries ahead of one that was created at `c`. -/
def SendQueue.ahead (q : SendQueue) (c id : Nat) : List Nat :=
  (q.rows.filter fun e => e.2.status.live && (decide (e.2.createdAt ≤ c) && e.1 != id)).map Prod.fst

/-- Those of them that are not in the request on its way. -/
def Agent.waiting (s : Agent) (c id : Nat) : List Nat :=
  (SendQueue.ahead s.db.queue c id).filter fun i => !s.point.batchIds.contains i

/-- The server has accepted a batch that was fetched when `due` was over, and the agent marks it. -/
def AgentStep.acknowledges (due : Int) (t : AgentStep) : Bool :=
  match t.label.2, t.pre.2.point with
  | .reply (.ok _) true _, .sending currentTime _ => decide (due ≤ (currentTime : Int))
  | _, _ => false

/-- An attempt to send the entry fails, or its success is not marked. -/
def AgentStep.Spoils (id : Nat) (t : AgentStep) : Prop :=
  id ∈ t.pre.2.point.batchIds ∧
    ((∃ e marked failing, t.label.2 = .reply (.error e) marked failing) ∨
      (∃ status failing, t.label.2 = .reply (.ok status) false failing) ∨
      ∃ e n, t.label.2 = .replyKilled e n)

/-! ## Loading -/

/-- An entry that is to be loaded is loaded or leaves the queue. -/
theorem AgentDatabase.loadEntries_settles (db : AgentDatabase) (entries : List (Nat × QueueRow))
    {batch : List (Nat × AggregatedMetrics)} (h : (db.loadEntries entries).2 = .ok batch) :
    ∀ p ∈ entries, p.1 ∈ batch.map Prod.fst ∨
      ∀ e ∈ (db.loadEntries entries).1.queue.rows, e.1 ≠ p.1 := by
  induction entries generalizing db batch with
  | nil => simp
  | cons entry entries ih =>
    obtain ⟨id, entry⟩ := entry
    unfold loadEntries at h ⊢
    cases hk : kindOfQueueType entry.metricType with
    | none =>
      rw [hk] at h
      cases h
    | some kind =>
      rw [hk] at h
      dsimp only at h ⊢
      cases hl : db.loadAggregatedMetric kind entry.metricRowId with
      | none =>
        rw [hl] at h
        dsimp only at h ⊢
        intro p hp
        rcases List.mem_cons.1 hp with rfl | hp
        · right
          intro e he
          have hremoved := loadEntries_queue _ entries e he
          have hne := (List.mem_filter.1 hremoved).2
          simpa using hne
        · exact ih _ h p hp
      | some metric =>
        rw [hl] at h
        dsimp only at h ⊢
        have hrest : ∀ {metrics}, (db.loadEntries entries).2 = .ok metrics → ∀ p ∈ entries,
            p.1 ∈ metrics.map Prod.fst ∨
              ∀ e ∈ (db.loadEntries entries).1.queue.rows, e.1 ≠ p.1 := fun h => ih db h
        split at h
        · cases h
        · next db' metrics heq =>
          obtain rfl := Except.ok.inj h
          rw [heq] at hrest
          intro p hp
          rcases List.mem_cons.1 hp with rfl | hp
          · exact .inl (by simp)
          · rcases hrest rfl p hp with hin | hgone
            · exact .inl (List.mem_cons_of_mem _ hin)
            · exact .inr hgone

/-! ## Who is ahead -/

namespace SendQueue

theorem mem_ahead_iff (q : SendQueue) (c id i : Nat) :
    i ∈ q.ahead c id ↔ i ≠ id ∧ ∃ r, (i, r) ∈ q.rows ∧ r.status.live = true ∧ r.createdAt ≤ c := by
  unfold ahead
  rw [List.mem_map]
  constructor
  · rintro ⟨⟨j, r⟩, hmem, rfl⟩
    obtain ⟨hrow, hp⟩ := List.mem_filter.1 hmem
    simp only [Bool.and_eq_true, decide_eq_true_eq, bne_iff_ne] at hp
    exact ⟨hp.2.2, r, hrow, hp.1, hp.2.1⟩
  · rintro ⟨hne, r, hrow, hlive, hc⟩
    exact ⟨(i, r), List.mem_filter.2 ⟨hrow, by simp [hlive, hc, hne]⟩, rfl⟩

theorem nodup_ahead (q : SendQueue) (c id : Nat) : (q.ahead c id).Nodup :=
  q.ids_nodup.sublist (List.filter_sublist.map _)

end SendQueue

theorem Agent.mem_waiting_iff (s : Agent) (c id i : Nat) :
    i ∈ s.waiting c id ↔ i ∈ SendQueue.ahead s.db.queue c id ∧ i ∉ s.point.batchIds := by
  unfold waiting
  rw [List.mem_filter]
  simp

/-- A step changes neither when an entry was created nor, but by a failure or a recovery, when it
is due. -/
theorem Agent.EntryStep.createdAt_eq {config : AgentConfig} {s s' : Agent} {now : Nat}
    {a : AgentAction} {id : Nat} {r r' : QueueRow} (h : EntryStep config s s' now a id r r') :
    r'.createdAt = r.createdAt := by
  cases h with
  | failed _ errorMsg =>
    unfold SendQueue.failedEntry
    dsimp only
    split <;> rfl
  | _ => rfl

namespace Agent

variable {config : AgentConfig} {summary : Summary} {s s' : Agent} {now : Nat} {a : AgentAction}

/-- **Nobody comes before an entry** that was created before this second. -/
theorem ahead_subset (hM : QueueMatches s) (hnodup : s.point.batchIds.Nodup)
    (h : s.next config summary now a = some s') {c : Nat} (hc : c < now) (id : Nat) :
    SendQueue.ahead s'.db.queue c id ⊆ SendQueue.ahead s.db.queue c id := by
  intro i hi
  obtain ⟨hne, r', hr', hlive', hc'⟩ := (SendQueue.mem_ahead_iff _ _ _ _).1 hi
  rw [SendQueue.mem_ahead_iff]
  by_cases ha : a = .enqueue
  · subst ha
    obtain ⟨_, _, metric, _, kind, _, -, -, -, -, -, -, hrows⟩ := hM.enqueue_appends h
    rw [hrows, List.mem_append, List.mem_singleton] at hr'
    rcases hr' with hr' | heq
    · exact ⟨hne, r', hr', hlive', hc'⟩
    · -- the new entry is of now
      rw [(Prod.mk.inj heq).2] at hc'
      exact absurd (show now ≤ c from hc') (Nat.not_le_of_lt hc)
  · obtain ⟨⟨j, r⟩, hr, hid, hstep⟩ := next_entry h ha hnodup hr'
    obtain rfl : j = i := hid
    refine ⟨hne, r, hr, ?_, ?_⟩
    · cases hstep with
      | kept _ _ => exact hlive'
      | marked _ hp => rw [hp]; rfl
      | sent _ => cases hlive'
      | failed hset _ => exact hM.live_of_batch hr (settles_subset a _ hset)
      | recovered _ _ hs => rw [hs]; rfl
    · rw [← hstep.createdAt_eq]
      exact hc'

theorem sent_of_marked {status : ConfigStatus} {failing : List Nat}
    (h : s.next config summary now (.reply (.ok status) true failing) = some s') :
    ∀ e ∈ s'.db.queue.rows, e.1 ∈ s.point.batchIds → e.2.status = .sent := by
  dsimp only [next] at h
  split at h
  · next t batch hp =>
    have hrows : s'.db.queue = SendQueue.markAsSent s.db.queue now (batch.map Prod.fst) := by
      split at h
      · rw [← Option.some.inj h]
        rfl
      · rw [← Option.some.inj h]
        rfl
    intro e he hid
    rw [hrows] at he
    obtain ⟨e₀, -, rfl⟩ := List.mem_map.1 he
    rw [hp] at hid
    have hmem : e₀.1 ∈ batch.map Prod.fst := hid
    dsimp only
    rw [if_pos hmem]
  · cases h

/-- **A batch takes the entry or fills up with those ahead of it.** -/
theorem waiting_of_fetch (hM : QueueMatches s) (hnodup : s.point.batchIds.Nodup) {marked : Bool}
    {t : Nat} {batch : List (Nat × AggregatedMetrics)}
    (h : s.next config summary now (.fetch marked) = some s') (hp : s'.point = .sending t batch)
    {e : Nat × QueueRow} (he : e ∈ s.db.queue.rows) (hready : e.2.Ready now)
    (hc : e.2.createdAt < now) (hstays : ∃ e' ∈ s'.db.queue.rows, e'.1 = e.1)
    (hnot : e.1 ∉ batch.map Prod.fst) :
    (s'.waiting e.2.createdAt e.1).length + config.metricsBatchSize.toNat ≤
      (SendQueue.ahead s.db.queue e.2.createdAt e.1).length := by
  rcases next_fetch_cases h with ⟨hp', -⟩ | ⟨batch', hbatch, hp', hdb⟩
  · rw [hp] at hp'
    cases hp'
  rw [hp] at hp'
  obtain ⟨-, rfl⟩ := Point.sending.inj hp'
  have hids : s'.point.batchIds = batch.map Prod.fst := by
    rw [hp]
    rfl
  have hfirst := SendQueue.firstReady_readyEntries s.db.queue now config.metricsBatchSize.toNat
  have hloaded := AgentDatabase.getQueuedMetrics_of_ok hbatch
  rw [hloaded] at hbatch hdb
  have hsettles := s.db.loadEntries_settles _ hbatch
  generalize SendQueue.readyEntries s.db.queue now config.metricsBatchSize.toNat = taken
    at hfirst hsettles hdb
  -- what is taken is loaded or gone
  have hgone : ∀ p ∈ taken, p.1 ∈ batch.map Prod.fst ∨ ∀ d ∈ s'.db.queue.rows, d.1 ≠ p.1 := by
    intro p hpt
    refine (hsettles p hpt).imp_right fun hno d hd hid => ?_
    rw [hdb] at hd
    cases marked with
    | false => exact hno d hd hid
    | true =>
      obtain ⟨d₀, hd₀, hid₀, -⟩ := SendQueue.evolves_markAsSending _ now _ d hd
      exact hno d₀ hd₀ (hid₀.trans hid)
  have hout : e ∉ taken := by
    intro hin
    rcases hgone e hin with hin | hno
    · exact hnot hin
    · obtain ⟨e', he', hid⟩ := hstays
      exact hno e' he' hid
  obtain ⟨hlength, hbefore⟩ := hfirst.first e he hready hout
  have hdisjoint : (s'.waiting e.2.createdAt e.1 ++ taken.map Prod.fst).Nodup := by
    refine List.nodup_append.2 ⟨(SendQueue.nodup_ahead _ _ _).filter _, hfirst.nodup, ?_⟩
    rintro i hi j hj rfl
    obtain ⟨hahead, hnotin⟩ := (mem_waiting_iff _ _ _ _).1 hi
    obtain ⟨-, r, hr, -⟩ := (SendQueue.mem_ahead_iff _ _ _ _).1 hahead
    obtain ⟨p, hpt, rfl⟩ := List.mem_map.1 hj
    rcases hgone p hpt with hin | hno
    · rw [hids] at hnotin
      exact hnotin hin
    · exact hno _ hr rfl
  have hsub : s'.waiting e.2.createdAt e.1 ++ taken.map Prod.fst ⊆
      SendQueue.ahead s.db.queue e.2.createdAt e.1 := by
    intro i hi
    rcases List.mem_append.1 hi with hi | hi
    · exact ahead_subset hM hnodup h hc e.1 ((mem_waiting_iff _ _ _ _).1 hi).1
    · obtain ⟨p, hpt, rfl⟩ := List.mem_map.1 hi
      obtain ⟨hrow, hpending, -⟩ := hfirst.ready p hpt
      refine (SendQueue.mem_ahead_iff _ _ _ _).2 ⟨?_, p.2, hrow, ?_, hbefore p hpt⟩
      · intro hid
        exact hout (s.db.queue.id_injective hrow he hid ▸ hpt)
      · rw [hpending]
        rfl
  have hle := (List.subperm_of_subset hdisjoint hsub).length_le
  rw [List.length_append, List.length_map, hlength] at hle
  exact hle

end Agent

/-! ## The invariant -/

/-- The entry waits, or is in the request on its way; `rounds` batches were accepted since it had
`ahead` entries ahead of it. -/
structure Agent.Waits (config : AgentConfig) (due : Int) (ahead rounds now : Nat) (s : Agent)
    (e : Nat × QueueRow) : Prop where
  mem : e ∈ s.db.queue.rows
  dueBy : ∃ nextRetryAt, e.2.nextRetryAt = some nextRetryAt ∧
    (nextRetryAt ≤ due ∨ nextRetryAt ≤ (now : Int))
  status : e.2.status = .pending ∨ e.2.status = .sending ∧
    (e.1 ∈ s.point.batchIds ∨ s.point = .shuttingDown ∨ s.point = .exited)
  rank : (SendQueue.ahead s.db.queue e.2.createdAt e.1).length +
    rounds * config.metricsBatchSize.toNat ≤ ahead
  batch : ∀ t batch, s.point = .sending t batch → due ≤ (t : Int) → e.1 ∈ s.point.batchIds ∨
    (s.waiting e.2.createdAt e.1).length + (rounds + 1) * config.metricsBatchSize.toNat ≤ ahead

/-- The entry is settled or gone, or it waits. -/
structure TakesTurn (config : AgentConfig) (due : Int) (c ahead rounds id : Nat)
    (s : Nat × Agent) : Prop where
  queue : QueueMatches s.2
  nodup : s.2.point.batchIds.Nodup
  clock : c < s.1
  fresh : id < s.2.db.queue.nextId
  entry : (∀ e ∈ s.2.db.queue.rows, e.1 = id → e.2.status = .sent) ∨
    ∃ e, e.1 = id ∧ e.2.createdAt = c ∧ s.2.Waits config due ahead rounds s.1 e

namespace Agent

variable {config : AgentConfig} {summary : Summary} {s s' : Agent} {now : Nat} {a : AgentAction}

theorem next_of_ended (h : s.next config summary now a = some s')
    (hp : s.point = .shuttingDown ∨ s.point = .exited) :
    (∃ tasksConfig, a = .restart tasksConfig) ∨
      s'.point = .shuttingDown ∨ s'.point = .exited := by
  cases a with
  | restart tasksConfig => exact .inl ⟨tasksConfig, rfl⟩
  | shutdown =>
    obtain rfl := Option.some.inj h
    exact .inr (.inl rfl)
  | drain failAt result =>
    dsimp only [next] at h
    split at h
    · obtain rfl := Option.some.inj h
      exact .inr hp
    · cases h
  | stop failAt =>
    dsimp only [next] at h
    split at h
    · obtain rfl := Option.some.inj h
      rcases hp with hp | hp
      · exact .inr (.inr (by rw [hp]; rfl))
      · exact .inr (.inr (by rw [hp]; rfl))
    · cases h
  | _ => rcases hp with hp | hp <;> simp [next, hp] at h

theorem next_nodup (h : s.next config summary now a = some s') : s'.point.batchIds.Nodup := by
  rcases (next_point h).1 with ⟨marked, rfl⟩ | hno
  · exact (next_handed h).1
  · rw [Point.batchIds_of_not_sending hno]
    exact List.nodup_nil

end Agent

section Step

variable {config : AgentConfig} {summary : Summary} {tasksConfig : TasksConfig} {t₀ : Nat}
  {due : Int} {c ahead rounds id : Nat} {x : AgentStep}

theorem settled_of_settled {s s' : Agent} {now : Nat} {a : AgentAction} (hM : QueueMatches s)
    (h : s.next config summary now a = some s') (hfresh : id < s.db.queue.nextId)
    (hset : ∀ e ∈ s.db.queue.rows, e.1 = id → e.2.status = .sent) :
    ∀ e ∈ s'.db.queue.rows, e.1 = id → e.2.status = .sent := by
  intro e' he' hid
  obtain ⟨e, he, hee, hstay⟩ := Agent.next_settled hM h he' (hid ▸ hfresh)
  have hsent := hset e he (hee.trans hid)
  rw [hstay (by rw [hsent]; rfl), hsent]

section Entry

variable {s s' : Agent} {now time : Nat} {a : AgentAction} {e e' : Nat × QueueRow}

theorem not_settled_of_waits (hspoil : ¬ AgentStep.Spoils e.1 ⟨(time, s), (now, a), (), (now, s')⟩)
    (h : s.next config summary now a = some s') (he' : e' ∈ s'.db.queue.rows) (hid : e'.1 = e.1)
    (hnot : e'.2.status ≠ .sent) : e.1 ∉ a.settles s.point.batchIds := by
  intro hset
  have hmem := Agent.settles_subset a _ hset
  unfold AgentAction.settles at hset
  split at hset
  · next status marked failing =>
    cases marked with
    | true => exact hnot (Agent.sent_of_marked h e' he' (hid ▸ hmem))
    | false => cases hset
  · next error marked failing => exact hspoil ⟨hmem, .inl ⟨error, marked, failing, rfl⟩⟩
  · next error n => exact hspoil ⟨hmem, .inr (.inr ⟨error, n, rfl⟩)⟩
  · cases hset

/-- It is due no later than the step, and is being sent only while its request is on its way or the
process has ended. -/
theorem Agent.EntryStep.waits (hW : s.Waits config due ahead rounds time e) (htime : time ≤ now)
    (hspoil : ¬ AgentStep.Spoils e.1 ⟨(time, s), (now, a), (), (now, s')⟩)
    (h : s.next config summary now a = some s') (he' : e' ∈ s'.db.queue.rows) (hid : e'.1 = e.1)
    (hnot : e'.2.status ≠ .sent) (hstep : EntryStep config s s' now a e.1 e.2 e'.2) :
    (∃ nextRetryAt, e'.2.nextRetryAt = some nextRetryAt ∧
      (nextRetryAt ≤ due ∨ nextRetryAt ≤ (now : Int))) ∧
    (e'.2.status = .pending ∨ e'.2.status = .sending ∧
      (e'.1 ∈ s'.point.batchIds ∨ s'.point = .shuttingDown ∨ s'.point = .exited)) := by
  have hnotset := not_settled_of_waits hspoil h he' hid hnot
  have hdue : ∃ nextRetryAt, e.2.nextRetryAt = some nextRetryAt ∧
      (nextRetryAt ≤ due ∨ nextRetryAt ≤ (now : Int)) := by
    obtain ⟨nextRetryAt, hnext, hby⟩ := hW.dueBy
    refine ⟨nextRetryAt, hnext, hby.imp_right fun hle => ?_⟩
    exact le_trans hle (by exact_mod_cast htime)
  obtain ⟨id', r'⟩ := e'
  dsimp only at hstep hid hnot ⊢
  cases hstep with
  | sent hset => exact absurd hset hnotset
  | failed hset _ => exact absurd hset hnotset
  | recovered tasksConfig _ _ => exact ⟨⟨now, rfl, .inr (le_refl _)⟩, .inl rfl⟩
  | marked hin _ => exact ⟨hdue, .inr ⟨rfl, .inl (hid ▸ hin)⟩⟩
  | kept _ hrestart =>
    refine ⟨hdue, hW.status.imp_right ?_⟩
    rintro ⟨hsending, hcase⟩
    refine ⟨hsending, .inr ?_⟩
    rcases hcase with hin | hended
    · obtain ⟨t, batch, hp⟩ : ∃ t batch, s.point = .sending t batch := by
        by_contra hno
        rw [Point.batchIds_of_not_sending fun t b hb => hno ⟨t, b, hb⟩] at hin
        cases hin
      rcases Agent.next_of_sending h hp with ⟨outcome, marked, failing, rfl⟩ | ⟨error, n, rfl⟩ |
        ⟨tasksConfig, rfl⟩ | rfl
      · cases outcome with
        | error error => exact absurd ⟨hin, .inl ⟨error, marked, failing, rfl⟩⟩ hspoil
        | ok status =>
          cases marked with
          | true => exact absurd (Agent.sent_of_marked h _ he' (hid ▸ hin)) hnot
          | false => exact absurd ⟨hin, .inr (.inl ⟨status, failing, rfl⟩)⟩ hspoil
      · exact absurd ⟨hin, .inr (.inr ⟨error, n, rfl⟩)⟩ hspoil
      · exact absurd hsending (hrestart tasksConfig rfl)
      · obtain rfl := Option.some.inj h
        exact .inl rfl
    · rcases Agent.next_of_ended h hended with ⟨tasksConfig, rfl⟩ | hended'
      · exact absurd hsending (hrestart tasksConfig rfl)
      · exact hended'

/-- Where a batch is fetched, an entry that waits is pending, and due if `due` is over. -/
theorem Agent.Waits.ready {marked : Bool} {t : Nat} {batch : List (Nat × AggregatedMetrics)}
    (hW : s.Waits config due ahead rounds time e) (htime : time ≤ now) (hdue : due ≤ (now : Int))
    (h : s.next config summary now (.fetch marked) = some s') (hp : s'.point = .sending t batch) :
    e.2.Ready now := by
  refine ⟨?_, ?_⟩
  · rcases hW.status with hpending | ⟨-, hin | hended⟩
    · exact hpending
    · have hno : ∀ t batch, s.point ≠ .sending t batch := by
        intro t batch hs
        rcases Agent.next_of_sending h hs with ⟨_, _, _, ha⟩ | ⟨_, _, ha⟩ | ⟨_, ha⟩ | ha
        all_goals cases ha
      rw [Point.batchIds_of_not_sending hno] at hin
      cases hin
    · rcases Agent.next_of_ended h hended with ⟨_, ha⟩ | hs | hs
      · cases ha
      · rw [hp] at hs
        cases hs
      · rw [hp] at hs
        cases hs
  · obtain ⟨nextRetryAt, hnext, hby | hby⟩ := hW.dueBy
    · exact ⟨nextRetryAt, hnext, hby.trans hdue⟩
    · exact ⟨nextRetryAt, hnext, hby.trans (by exact_mod_cast htime)⟩

/-- **What becomes of an entry that waits**: it is settled, or it waits on, with one round more if
the server has accepted a batch. -/
theorem Agent.Waits.step (hM : QueueMatches s) (hnodup : s.point.batchIds.Nodup)
    (hclock : e.2.createdAt < now) (htime : time ≤ now)
    (hW : s.Waits config due ahead rounds time e)
    (hspoil : ¬ AgentStep.Spoils e.1 ⟨(time, s), (now, a), (), (now, s')⟩)
    (h : s.next config summary now a = some s') (he' : e' ∈ s'.db.queue.rows)
    (hid : e'.1 = e.1) (hnot : e'.2.status ≠ .sent) :
    e'.2.createdAt = e.2.createdAt ∧ s'.Waits config due ahead
      (rounds + (AgentStep.acknowledges due ⟨(time, s), (now, a), (), (now, s')⟩).toNat) now e' := by
  have hsub := ahead_subset hM hnodup h hclock e.1
  have hlen : (SendQueue.ahead s'.db.queue e.2.createdAt e.1).length ≤
      (SendQueue.ahead s.db.queue e.2.createdAt e.1).length :=
    (List.subperm_of_subset (SendQueue.nodup_ahead _ _ _) hsub).length_le
  have hrank := hW.rank
  by_cases ha : a = .enqueue
  · subst ha
    obtain ⟨_, _, _, _, _, _, hp, -, -, -, hp', -, hrows⟩ := hM.enqueue_appends h
    rw [hrows, List.mem_append, List.mem_singleton] at he'
    have he : e' = e := by
      rcases he' with he' | rfl
      · exact s.db.queue.id_injective he' hW.mem hid
      · exact absurd (hid.symm ▸ s.db.queue.ids_lt e hW.mem) (lt_irrefl _)
    subst he
    have hack : AgentStep.acknowledges due ⟨(time, s), (now, .enqueue), (), (now, s')⟩ = false := rfl
    rw [hack]
    obtain ⟨nextRetryAt, hnext, hby⟩ := hW.dueBy
    refine ⟨rfl, ⟨?_, ⟨nextRetryAt, hnext, hby.imp_right fun hle => ?_⟩, ?_, ?_, ?_⟩⟩
    · rw [hrows]
      exact List.mem_append_left _ hW.mem
    · exact le_trans hle (by exact_mod_cast htime)
    · rcases hW.status with hpending | ⟨-, hin | hended | hended⟩
      · exact .inl hpending
      · rw [hp] at hin
        cases hin
      · rw [hp] at hended
        cases hended
      · rw [hp] at hended
        cases hended
    · exact le_trans (Nat.add_le_add_right hlen _) hrank
    · intro t batch hp''
      rw [hp'] at hp''
      cases hp''
  · obtain ⟨e₀, he₀, hid₀, hstep⟩ := Agent.next_entry h ha hnodup he'
    obtain rfl : e₀ = e := s.db.queue.id_injective he₀ hW.mem (hid₀.trans hid)
    have hcreated := hstep.createdAt_eq
    obtain ⟨hdue, hstatus⟩ := hstep.waits hW htime hspoil h he' hid hnot
    refine ⟨hcreated, ⟨he', hdue, hstatus, ?_, ?_⟩⟩
    · rw [hid, hcreated]
      cases hack : AgentStep.acknowledges due ⟨(time, s), (now, a), (), (now, s')⟩ with
      | false => exact le_trans (Nat.add_le_add_right hlen _) hrank
      | true =>
        -- the batch has gone, and the entry was not in it
        unfold AgentStep.acknowledges at hack
        split at hack
        · next status failing t batch hlabel hp =>
          dsimp only at hlabel hp
          subst hlabel
          have hout : e₀.1 ∉ s.point.batchIds := fun hin =>
            hnot (Agent.sent_of_marked h e' he' (hid ▸ hin))
          have hleft := (hW.batch t batch hp (of_decide_eq_true hack)).resolve_left hout
          have hwait : SendQueue.ahead s'.db.queue e₀.2.createdAt e₀.1 ⊆
              s.waiting e₀.2.createdAt e₀.1 := by
            intro i hi
            refine (Agent.mem_waiting_iff _ _ _ _).2 ⟨hsub hi, fun hin => ?_⟩
            obtain ⟨-, r, hr, hlive, -⟩ := (SendQueue.mem_ahead_iff _ _ _ _).1 hi
            rw [Agent.sent_of_marked h _ hr hin] at hlive
            cases hlive
          have := (List.subperm_of_subset (SendQueue.nodup_ahead _ _ _) hwait).length_le
          exact le_trans (Nat.add_le_add_right this _) hleft
        · cases hack
    · intro t batch hp hdue'
      rcases (Agent.next_point h).1 with ⟨marked, rfl⟩ | hno
      · have hack : AgentStep.acknowledges due ⟨(time, s), (now, .fetch marked), (), (now, s')⟩ =
            false := rfl
        rw [hack]
        by_cases hin : e'.1 ∈ s'.point.batchIds
        · exact .inl hin
        · right
          rw [hid, hcreated]
          have hids : s'.point.batchIds = batch.map Prod.fst := by
            rw [hp]
            rfl
          rw [hids, hid] at hin
          have hnow : t = now := by
            rcases next_fetch_cases h with ⟨hp', -⟩ | ⟨batch', -, hp', -⟩
            · rw [hp] at hp'
              cases hp'
            · rw [hp] at hp'
              exact (Point.sending.inj hp').1
          subst hnow
          have hready := hW.ready htime hdue' h hp
          have hfull := Agent.waiting_of_fetch hM hnodup h hp he₀ hready hclock ⟨e', he', hid⟩ hin
          rw [Bool.toNat_false, Nat.add_zero, Nat.add_mul, Nat.one_mul]
          omega
      · exact absurd hp (hno t batch)

end Entry

end Step

/-! ## Result -/

/-- **The queue is served in turn.**  Between two requests an entry is pending, it was created
before this second, and its next attempt is due at `due`.  However the run goes on, with new
aggregates, failures of other batches, kills and restarts, as soon as the server has accepted so
many batches fetched after `due` that they have room for more than the entries ahead of it, the
entry is sent or has left the queue; unless an attempt to send it failed, or was not marked. -/
theorem sent_in_turn (config : AgentConfig) (summary : Summary) (tasksConfig : TasksConfig)
    (t₀ : Nat) {before after : List AgentStep} {s s' : Nat × Agent} {e : Nat × QueueRow} {due : Int}
    (hbefore : Run (agentMachine config summary tasksConfig t₀) before s)
    (hafter : Run ((agentMachine config summary tasksConfig t₀).startingAt s) after s')
    (hidle : ∀ t batch, s.2.point ≠ .sending t batch) (he : e ∈ s.2.db.queue.rows)
    (hpending : e.2.status = .pending)
    (hcreated : e.2.createdAt < s.1) (hdue : e.2.nextRetryAt = some due)
    (hspared : ∀ t ∈ after, ¬ t.Spoils e.1)
    (hrounds : (SendQueue.ahead s.2.db.queue e.2.createdAt e.1).length <
      after.countP (AgentStep.acknowledges due) * config.metricsBatchSize.toNat) :
    ∀ e' ∈ s'.2.db.queue.rows, e'.1 = e.1 → e'.2.status = .sent := by
  have hturn : TakesTurn config due e.2.createdAt
      (SendQueue.ahead s.2.db.queue e.2.createdAt e.1).length
      (after.countP (AgentStep.acknowledges due)) e.1 s' := by
    clear hrounds
    induction hafter with
    | nil =>
      refine ⟨queueMatches_run hbefore, ?_, hcreated, s.2.db.queue.ids_lt e he,
        .inr ⟨e, rfl, rfl, he, ⟨due, hdue, .inl (le_refl _)⟩, .inl hpending, ?_, ?_⟩⟩
      · show s.2.point.batchIds.Nodup
        rw [Point.batchIds_of_not_sending hidle]
        exact List.nodup_nil
      · rw [List.countP_nil, Nat.zero_mul]
        exact le_refl _
      · exact fun t batch hp => absurd hp (hidle t batch)
    | @snoc after s₁ a s₂ b hr hs ih =>
      obtain ⟨hle, hnext, hclock⟩ := agentMachine_step hs
      obtain ⟨hM, hnodup, hc, hfresh, hentry⟩ := ih fun t ht => hspared t (List.mem_append_left _ ht)
      have hlast := hspared ⟨s₁, a, b, s₂⟩ (by simp)
      obtain ⟨time, agent⟩ := s₁
      obtain ⟨now, action⟩ := a
      obtain ⟨clock, agent'⟩ := s₂
      dsimp only at hle hnext hclock hM hnodup hc hfresh hentry
      subst hclock
      have hc' := lt_of_lt_of_le hc hle
      refine ⟨?_, Agent.next_nodup hnext, hc',
        lt_of_lt_of_le hfresh (Agent.next_queue_nextId hnext), ?_⟩
      · by_cases ha : action = .enqueue
        · rw [ha] at hnext
          exact (hM.enqueue hnext).1
        · exact hM.step hnext ha
      · by_cases hall : ∀ e' ∈ agent'.db.queue.rows, e'.1 = e.1 → e'.2.status = .sent
        · exact .inl hall
        · right
          rcases hentry with hsent | ⟨e₁, hid₁, hcreated₁, hW⟩
          · exact absurd (settled_of_settled hM hnext hfresh hsent) hall
          · push Not at hall
            obtain ⟨e₂, he₂, hid₂, hnot⟩ := hall
            rw [← hid₁] at hlast hid₂
            rw [← hcreated₁] at hc'
            obtain ⟨hcreated₂, hW'⟩ := hW.step hM hnodup hc' hle hlast hnext he₂ hid₂ hnot
            refine ⟨e₂, hid₂.trans hid₁, hcreated₂.trans hcreated₁, ?_⟩
            rw [List.countP_append, List.countP_singleton]
            cases hack : AgentStep.acknowledges due ⟨(time, agent), (clock, action), b,
              (clock, agent')⟩ with
            | true =>
              rw [hack] at hW'
              exact hW'
            | false =>
              rw [hack] at hW'
              exact hW'
  rcases hturn.entry with hsent | ⟨e', hid, hcreated', hW⟩
  · exact hsent
  · have := hW.rank
    omega

/-! ## The second of two entries -/

/-- The tasks "web" and "api". -/
def webAndApi : TasksConfig := ⟨[taskEvery 60, { taskEvery 60 with name := "api" }]⟩

/-- Batches are of one entry. -/
def singlesMachine : Machine (Nat × Agent) (Nat × AgentAction) Unit :=
  agentMachine { exampleAgentConfig with metricsBatchSize := 1 } exampleSummary webAndApi 60

/-- Both tasks run at 65, and their minute is in the queue at 125. -/
def bothAt125 : List (Nat × AgentAction) :=
  [(60, .aggregationCheck none), (60, .aggregate), (60, .aggregate), (60, .aggregationDone)] ++
    restOfIteration 60 ++
    [(65, .ready "web")] ++ quietIteration 65 ++ [(65, .ready "api")] ++ quietIteration 65 ++
    webAndApi.tasks.flatMap (fun task => handledAt 66 65 task ++ quietIteration 66) ++
    [(125, .ready "web"), (125, .aggregationCheck none), (125, .aggregate), (125, .enqueue),
      (125, .aggregate), (125, .enqueue), (125, .aggregationDone), (126, .flush none)]

/-- The first is sent at 126, and the second at 160. -/
def acceptedTwice : List (Nat × AgentAction) :=
  [(126, .queueCleanup false false), (126, .fetch true), (127, .reply (.ok .upToDate) true []),
    (127, .dataCleanup 18), (160, .ready "web")] ++
  [(160, .aggregationCheck none), (160, .flush none), (160, .queueCleanup false false),
    (160, .fetch true), (161, .reply (.ok .upToDate) true [])]

theorem sent_in_turn_second :
    ∃ before s after s', Run singlesMachine before s ∧ Run (singlesMachine.startingAt s) after s' ∧
      SendQueue.ahead s.2.db.queue 125 2 = [1] ∧ s'.2.db.queue.rows.map Prod.fst = [1, 2] ∧
      ∀ e' ∈ s'.2.db.queue.rows, e'.1 = 2 → e'.2.status = .sent := by
  obtain ⟨before, s, he, hrun⟩ := Run.exists_of_exec singlesMachine bothAt125 (by rfl)
  have hstart : (singlesMachine.exec bothAt125).map (fun r => (r.2.1, r.2.2.point,
      r.2.2.db.queue.rows.map fun e => (e.1, e.2.status, e.2.createdAt, e.2.nextRetryAt))) =
      some (126, .queueCleanup, [(1, .pending, 125, some 125), (2, .pending, 125, some 125)]) := by
    rfl
  have hsome : ((singlesMachine.exec bothAt125).bind fun r =>
      singlesMachine.execFrom r.2 acceptedTwice).isSome := by rfl
  have hend : ((singlesMachine.exec bothAt125).bind fun r =>
      (singlesMachine.execFrom r.2 acceptedTwice).map fun r' =>
        (SendQueue.ahead r.2.2.db.queue 125 2, r'.1.countP (AgentStep.acknowledges 125),
          r'.2.2.db.queue.rows.map Prod.fst)) = some ([1], 2, [1, 2]) := by rfl
  rw [he] at hstart hsome hend
  obtain ⟨⟨after, s'⟩, he'⟩ := Option.isSome_iff_exists.1 hsome
  rw [Option.bind_some] at he' hend
  have hlabels : after.map Taken.label = acceptedTwice := Machine.execFrom_labels he'
  have hrun' : Run (singlesMachine.startingAt s) after s' :=
    .of_exec ((Machine.exec_startingAt _ _ _).trans he')
  rw [he'] at hend
  obtain ⟨hclock, hrest⟩ := Prod.mk.inj (Option.some.inj hstart)
  obtain ⟨hpoint, hrows⟩ := Prod.mk.inj hrest
  obtain ⟨hahead, hrest⟩ := Prod.mk.inj (Option.some.inj hend)
  obtain ⟨hrounds, hids⟩ := Prod.mk.inj hrest
  obtain ⟨⟨id, r⟩, hrow, heq⟩ : ∃ e ∈ s.2.db.queue.rows,
      (e.1, e.2.status, e.2.createdAt, e.2.nextRetryAt) = (2, .pending, 125, some 125) :=
    List.mem_map.1 (hrows ▸ List.mem_cons_of_mem _ List.mem_cons_self)
  obtain ⟨hid, hrest⟩ := Prod.mk.inj heq
  obtain ⟨hpending, hrest⟩ := Prod.mk.inj hrest
  obtain ⟨hcreated, hdue⟩ := Prod.mk.inj hrest
  dsimp only at hid hpending hcreated hdue hrounds hids hclock hpoint hahead
  subst hid
  refine ⟨before, s, after, s', hrun, hrun', hahead, hids, ?_⟩
  refine sent_in_turn (e := (2, r)) _ _ _ _ hrun hrun' ?_ hrow hpending ?_ hdue ?_ ?_
  · intro t batch hp
    rw [hpoint] at hp
    cases hp
  · dsimp only
    rw [hcreated, hclock]
    decide
  · rintro t ht ⟨-, hspoils⟩
    have hmem : t.label.2 ∈ acceptedTwice.map Prod.snd :=
      List.mem_map_of_mem (hlabels ▸ List.mem_map_of_mem ht)
    rcases hspoils with ⟨e, marked, failing, ha⟩ | ⟨status, failing, ha⟩ | ⟨e, n, ha⟩
    all_goals
      rw [ha] at hmem
      simp [acceptedTwice] at hmem
  · dsimp only
    rw [hcreated, hahead, hrounds]
    decide

end LinkSense
