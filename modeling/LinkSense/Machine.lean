import Mathlib.Data.List.Induction
import Mathlib.Order.Defs.LinearOrder

/-!
# Labelled machines and their runs

A `Machine` is a first state and a partial step: a label (a call, with all that the
environment chooses) is answered, or refused when the call cannot happen or does not return.
`Run M tr s` says that `M` reaches `s` by the steps of the trace `tr`.

    I init → (I and C kept by a step, which satisfies P) →
      Run M tr s → every label of tr meets C → I s ∧ every step of tr satisfies P   (Run.guarded)
    I init → I kept by a step → Run M tr s → I s                                    (Run.invariant)
    under I a step satisfies P exactly when its label meets C →
      (every step of tr satisfies P ↔ every label of tr meets C)                    (Run.forall_iff)
    a step keeps what an earlier one set up ↔ its label meets C →
      (all later steps do ↔ their labels meet C)                                  (Run.kept_iff)
    a step with E leads from I to J → all steps after it satisfy what J gives        (Run.phases)
    steps of M are matched by steps of N → runs of M are by runs of N             (Run.simulated)
    steps of M are steps of N on a part of the state → so are runs                     (Run.part)

`Machine.ghost` adds a history variable, which does not change what the machine does
(`Run.ghost_iff`), and `Machine.clocked` a clock that never goes back.
-/

namespace Labelled

/-! ## Machines and runs -/

/-- A first state and a partial, answering step. -/
structure Machine (σ α β : Type*) where
  init : σ
  step : σ → α → Option (σ × β)

/-- One step that was taken: the state before, the label, the answer, the state after. -/
structure Taken (σ α β : Type*) where
  pre : σ
  label : α
  answer : β
  post : σ
deriving DecidableEq, Repr

variable {σ α β γ τ : Type*}

/-- `Run M tr s`: the machine has taken the steps `tr` from its first state and is in `s`. -/
inductive Run (M : Machine σ α β) : List (Taken σ α β) → σ → Prop where
  | nil : Run M [] M.init
  | snoc {tr : List (Taken σ α β)} {s : σ} {a : α} {s' : σ} {b : β} :
      Run M tr s → M.step s a = some (s', b) → Run M (tr ++ [⟨s, a, b, s'⟩]) s'

/-- Run a list of labels, recording each step; `none` as soon as one is refused. -/
def Machine.execFrom (M : Machine σ α β) : σ → List α → Option (List (Taken σ α β) × σ)
  | s, [] => some ([], s)
  | s, a :: as =>
    match M.step s a with
    | none => none
    | some (s', b) =>
      match M.execFrom s' as with
      | none => none
      | some (tr, t) => some (⟨s, a, b, s'⟩ :: tr, t)

def Machine.exec (M : Machine σ α β) (as : List α) : Option (List (Taken σ α β) × σ) :=
  M.execFrom M.init as

/-! ## Lemmas -/

theorem Run.of_execFrom {M : Machine σ α β} {tr tr' : List (Taken σ α β)} {s t : σ}
    {as : List α} (h : Run M tr s) (he : M.execFrom s as = some (tr', t)) :
    Run M (tr ++ tr') t := by
  induction as generalizing tr tr' s with
  | nil =>
    simp only [Machine.execFrom, Option.some.injEq, Prod.mk.injEq] at he
    obtain ⟨rfl, rfl⟩ := he
    simpa using h
  | cons a as ih =>
    unfold Machine.execFrom at he
    cases hs : M.step s a with
    | none => simp [hs] at he
    | some r =>
      obtain ⟨s', b⟩ := r
      cases hr : M.execFrom s' as with
      | none => simp [hs, hr] at he
      | some q =>
        obtain ⟨tr₁, t₁⟩ := q
        simp only [hs, hr, Option.some.injEq, Prod.mk.injEq] at he
        obtain ⟨rfl, rfl⟩ := he
        have := ih (h.snoc hs) hr
        simpa using this

/-- What `exec` records is a run. -/
theorem Run.of_exec {M : Machine σ α β} {tr : List (Taken σ α β)} {s : σ} {as : List α}
    (he : M.exec as = some (tr, s)) : Run M tr s := by
  have := Run.of_execFrom (.nil : Run M [] M.init) he
  simpa using this

/-- Labels that are all answered make a run. -/
theorem Run.exists_of_exec (M : Machine σ α β) (as : List α) (h : (M.exec as).isSome) :
    ∃ tr s, M.exec as = some (tr, s) ∧ Run M tr s := by
  obtain ⟨⟨tr, s⟩, he⟩ := Option.isSome_iff_exists.1 h
  exact ⟨tr, s, he, .of_exec he⟩

/-! ### From another state -/

/-- The machine with another first state. -/
def Machine.startingAt (M : Machine σ α β) (s : σ) : Machine σ α β := { M with init := s }

theorem Machine.exec_startingAt (M : Machine σ α β) (s : σ) (as : List α) :
    (M.startingAt s).exec as = M.execFrom s as := by
  suffices h : ∀ t, (M.startingAt s).execFrom t as = M.execFrom t as from h s
  induction as with
  | nil => exact fun _ => rfl
  | cons a as ih =>
    intro t
    unfold execFrom
    have hstep : (M.startingAt s).step t a = M.step t a := rfl
    rw [hstep]
    simp only [ih]

theorem Machine.execFrom_labels {M : Machine σ α β} {tr : List (Taken σ α β)} {s t : σ}
    {as : List α} (he : M.execFrom s as = some (tr, t)) : tr.map Taken.label = as := by
  induction as generalizing tr s with
  | nil =>
    simp only [Machine.execFrom, Option.some.injEq, Prod.mk.injEq] at he
    rw [← he.1]
    rfl
  | cons a as ih =>
    unfold Machine.execFrom at he
    cases hs : M.step s a with
    | none => simp [hs] at he
    | some r =>
      cases hr : M.execFrom r.1 as with
      | none => simp [hs, hr] at he
      | some q =>
        obtain ⟨tr₁, t₁⟩ := q
        simp only [hs, hr, Option.some.injEq, Prod.mk.injEq] at he
        obtain ⟨rfl, rfl⟩ := he
        rw [List.map_cons, ih hr]

/-- **Guarded invariant rule**: a step whose label meets `C` keeps `I` and satisfies `P`. -/
theorem Run.guarded {M : Machine σ α β} {I : σ → Prop} {C : σ → α → Prop}
    {P : Taken σ α β → Prop} (h0 : I M.init)
    (hstep : ∀ s a s' b, I s → C s a → M.step s a = some (s', b) → I s' ∧ P ⟨s, a, b, s'⟩)
    {tr : List (Taken σ α β)} {s : σ} (hr : Run M tr s)
    (hC : ∀ t ∈ tr, C t.pre t.label) : I s ∧ ∀ t ∈ tr, P t := by
  induction hr with
  | nil => exact ⟨h0, by simp⟩
  | @snoc tr s a s' b _ hs ih =>
    obtain ⟨hI, hP⟩ := ih (fun t ht => hC t (List.mem_append_left _ ht))
    have hc : C s a := hC ⟨s, a, b, s'⟩ (by simp)
    obtain ⟨hI', hP'⟩ := hstep s a s' b hI hc hs
    refine ⟨hI', fun t ht => ?_⟩
    rcases List.mem_append.1 ht with ht | ht
    · exact hP t ht
    · rw [List.mem_singleton] at ht
      subst ht
      exact hP'

/-- Invariant rule for every run, with a property of each step taken. -/
theorem Run.invariant_taken {M : Machine σ α β} {I : σ → Prop} {P : Taken σ α β → Prop}
    (h0 : I M.init)
    (hstep : ∀ s a s' b, I s → M.step s a = some (s', b) → I s' ∧ P ⟨s, a, b, s'⟩)
    {tr : List (Taken σ α β)} {s : σ} (hr : Run M tr s) : I s ∧ ∀ t ∈ tr, P t :=
  Run.guarded (C := fun _ _ => True) h0 (fun s a s' b hI _ hs => hstep s a s' b hI hs) hr
    (fun _ _ => trivial)

/-- Invariant rule: what holds first and is kept by a step holds in every state reached. -/
theorem Run.invariant {M : Machine σ α β} {I : σ → Prop} (h0 : I M.init)
    (hstep : ∀ s a s' b, I s → M.step s a = some (s', b) → I s')
    {tr : List (Taken σ α β)} {s : σ} (hr : Run M tr s) : I s :=
  (Run.invariant_taken (P := fun _ => True) h0
    (fun s a s' b hI hs => ⟨hstep s a s' b hI hs, trivial⟩) hr).1

/-- Where `I` makes "the step satisfies `P`" and "the label meets `C`" the same, and `C` keeps
`I`, a whole run satisfies `P` exactly when its labels meet `C`. -/
theorem Run.forall_iff {M : Machine σ α β} {I : σ → Prop} {C : σ → α → Prop}
    {P : Taken σ α β → Prop} (h0 : I M.init)
    (hkeep : ∀ s a s' b, I s → C s a → M.step s a = some (s', b) → I s')
    (hiff : ∀ s a s' b, I s → M.step s a = some (s', b) → (P ⟨s, a, b, s'⟩ ↔ C s a))
    {tr : List (Taken σ α β)} {s : σ} (hr : Run M tr s) :
    (∀ t ∈ tr, P t) ↔ ∀ t ∈ tr, C t.pre t.label := by
  have hC : (∀ t ∈ tr, C t.pre t.label) → I s ∧ ∀ t ∈ tr, P t := by
    refine Run.guarded h0 (fun s a s' b hI hc hs => ?_) hr
    exact ⟨hkeep s a s' b hI hc hs, (hiff s a s' b hI hs).2 hc⟩
  refine ⟨fun hP => ?_, fun h => (hC h).2⟩
  -- the labels before a step meet `C`, so `I` holds where it starts
  clear hC
  induction hr with
  | nil => simp
  | @snoc tr s a s' b hr hs ih =>
    have hpre : ∀ t ∈ tr, C t.pre t.label := ih (fun t ht => hP t (List.mem_append_left _ ht))
    have hI : I s := by
      refine (Run.guarded (P := fun _ => True) h0 (fun s a s' b hI hc hs => ?_) hr hpre).1
      exact ⟨hkeep s a s' b hI hc hs, trivial⟩
    intro t ht
    rcases List.mem_append.1 ht with ht | ht
    · exact hpre t ht
    · rw [List.mem_singleton] at ht
      subst ht
      exact (hiff s a s' b hI hs).1 (hP _ (by simp))

/-- A step of a run is a step of the machine. -/
theorem Run.step_of_mem {M : Machine σ α β} {tr : List (Taken σ α β)} {s : σ} (hr : Run M tr s)
    {t : Taken σ α β} (ht : t ∈ tr) : M.step t.pre t.label = some (t.post, t.answer) :=
  (Run.invariant_taken (I := fun _ => True)
    (P := fun t => M.step t.pre t.label = some (t.post, t.answer)) trivial
    (fun _ _ _ _ _ hs => ⟨trivial, hs⟩) hr).2 t ht

theorem Run.of_snoc {M : Machine σ α β} {tr : List (Taken σ α β)} {x : Taken σ α β} {s : σ}
    (hr : Run M (tr ++ [x]) s) : Run M tr x.pre := by
  generalize htr : tr ++ [x] = tr' at hr
  cases hr with
  | nil => simp at htr
  | snoc hr hs =>
    obtain ⟨rfl, hx⟩ := List.append_inj' htr rfl
    obtain rfl := List.singleton_inj.1 hx
    exact hr

/-- The steps before a step of a run are a run to where it starts. -/
theorem Run.before {M : Machine σ α β} {before after : List (Taken σ α β)} {x : Taken σ α β} {s : σ}
    (hr : Run M (before ++ x :: after) s) : Run M before x.pre := by
  induction after using List.reverseRecOn generalizing s with
  | nil => exact hr.of_snoc
  | append_singleton init last ih =>
    rw [← List.cons_append, ← List.append_assoc] at hr
    exact ih hr.of_snoc

/-- What each step of a run sets up, and every later one keeps, holds where the run ends. -/
theorem Run.kept {M : Machine σ α β} {K : Taken σ α β → σ → Prop}
    (hset : ∀ s a s' b, M.step s a = some (s', b) → K ⟨s, a, b, s'⟩ s')
    {tr : List (Taken σ α β)} {s : σ} (hr : Run M tr s)
    (hkept : tr.Pairwise fun x y => K x y.post) : ∀ x ∈ tr, K x s := by
  cases hr with
  | nil => simp
  | snoc _ hs =>
    intro x hx
    rcases List.mem_append.1 hx with hx | hx
    · exact (List.pairwise_append.1 hkept).2.2 x hx _ List.mem_cons_self
    · rw [List.mem_singleton] at hx
      subst hx
      exact hset _ _ _ _ hs

/-- Where a step keeps what an earlier one set up exactly when its label meets `C`, that is so of
all steps of a run. -/
theorem Run.kept_iff {M : Machine σ α β} {K : Taken σ α β → σ → Prop}
    {C : Taken σ α β → σ → α → Prop}
    (hset : ∀ s a s' b, M.step s a = some (s', b) → K ⟨s, a, b, s'⟩ s')
    (hiff : ∀ x s a s' b, M.step x.pre x.label = some (x.post, x.answer) → K x s →
      M.step s a = some (s', b) → (K x s' ↔ C x s a))
    {tr : List (Taken σ α β)} {s : σ} (hr : Run M tr s) :
    (tr.Pairwise fun x y => K x y.post) ↔ tr.Pairwise fun x y => C x y.pre y.label := by
  induction hr with
  | nil => simp
  | @snoc tr s a s' b hr hs ih =>
    rw [List.pairwise_append, List.pairwise_append, ih]
    refine and_congr_right fun hpairs => and_congr (by simp) ?_
    have hkept := Run.kept hset hr (ih.2 hpairs)
    refine forall₂_congr fun x hx => ?_
    simp only [List.mem_singleton, forall_eq]
    exact hiff x s a s' b (hr.step_of_mem hx) (hkept x hx) hs

/-- **Before and after**: until a step with `E` the state keeps `I`, and from then on `J`, under
which each step satisfies `P`. -/
theorem Run.phases {M : Machine σ α β} {I J : σ → Prop} {C : σ → α → Prop}
    {E P : Taken σ α β → Prop} (h0 : I M.init)
    (hI : ∀ s a s' b, I s → C s a → M.step s a = some (s', b) →
      E ⟨s, a, b, s'⟩ ∧ J s' ∨ ¬ E ⟨s, a, b, s'⟩ ∧ I s')
    (hJ : ∀ s a s' b, J s → C s a → M.step s a = some (s', b) → J s' ∧ P ⟨s, a, b, s'⟩)
    {tr : List (Taken σ α β)} {s : σ} (hr : Run M tr s) (hC : ∀ t ∈ tr, C t.pre t.label) :
    ((∀ t ∈ tr, ¬ E t) ∧ I s ∨ J s) ∧ (∀ t ∈ tr, E t → J t.post) ∧
      tr.Pairwise fun x y => E x → P y := by
  induction hr with
  | nil => exact ⟨.inl ⟨by simp, h0⟩, by simp, .nil⟩
  | @snoc tr s a s' b _ hs ih =>
    obtain ⟨hnow, hset, hpairs⟩ := ih fun t ht => hC t (List.mem_append_left _ ht)
    have hc : C s a := hC ⟨s, a, b, s'⟩ (by simp)
    have hlast : ∀ {Q : Taken σ α β → Prop}, (∀ t ∈ tr, Q t) → Q ⟨s, a, b, s'⟩ →
        ∀ t ∈ tr ++ [⟨s, a, b, s'⟩], Q t := by
      intro Q hQ hq t ht
      rcases List.mem_append.1 ht with ht | ht
      · exact hQ t ht
      · rwa [List.mem_singleton.1 ht]
    rw [List.pairwise_append]
    rcases hnow with ⟨hno, hIs⟩ | hJs
    · have hpairs' : ∀ x ∈ tr, ∀ y ∈ [⟨s, a, b, s'⟩], E x → P y :=
        fun x hx y _ he => absurd he (hno x hx)
      rcases hI s a s' b hIs hc hs with ⟨-, hJs⟩ | ⟨hne, hIs'⟩
      · exact ⟨.inr hJs, hlast hset fun _ => hJs, hpairs, List.pairwise_singleton _ _, hpairs'⟩
      · exact ⟨.inl ⟨hlast hno hne, hIs'⟩, hlast hset fun he => absurd he hne, hpairs,
          List.pairwise_singleton _ _, hpairs'⟩
    · obtain ⟨hJs', hP⟩ := hJ s a s' b hJs hc hs
      refine ⟨.inr hJs', hlast hset fun _ => hJs', hpairs, List.pairwise_singleton _ _, ?_⟩
      intro x _ y hy _
      rwa [List.mem_singleton.1 hy]

/-! ## Simulation -/

/-- A run that is in `s` can be carried on to `s'`. -/
def Machine.Reaches (M : Machine σ α β) (s s' : σ) : Prop :=
  ∀ tr, Run M tr s → ∃ tr', Run M (tr ++ tr') s'

namespace Machine.Reaches

variable {M : Machine σ α β} {s s₁ s' : σ}

theorem refl (s : σ) : M.Reaches s s := by
  intro tr hr
  refine ⟨[], ?_⟩
  rwa [List.append_nil]

theorem step {a : α} {b : β} (h : M.step s a = some (s', b)) : M.Reaches s s' :=
  fun _ hr => ⟨_, hr.snoc h⟩

theorem trans (h : M.Reaches s s₁) (h' : M.Reaches s₁ s') : M.Reaches s s' := by
  intro tr hr
  obtain ⟨tr₁, hr₁⟩ := h tr hr
  obtain ⟨tr₂, hr₂⟩ := h' _ hr₁
  rw [List.append_assoc] at hr₂
  exact ⟨_, hr₂⟩

end Machine.Reaches

/-- **Simulation**: where every step of `M` is matched by steps of `N`, every run of `M` has a
counterpart among those of `N`. -/
theorem Run.simulated {δ : Type*} {M : Machine σ α β} {N : Machine τ γ δ} {R : σ → τ → Prop}
    (h0 : R M.init N.init)
    (hstep : ∀ s a s' b t, R s t → M.step s a = some (s', b) → ∃ t', N.Reaches t t' ∧ R s' t')
    {tr : List (Taken σ α β)} {s : σ} (hr : Run M tr s) : ∃ tr' t, Run N tr' t ∧ R s t := by
  induction hr with
  | nil => exact ⟨[], _, .nil, h0⟩
  | snoc _ hs ih =>
    obtain ⟨tr', t, hr', hR⟩ := ih
    obtain ⟨t', hreach, hR'⟩ := hstep _ _ _ _ t hR hs
    obtain ⟨tr'', hr''⟩ := hreach tr' hr'
    exact ⟨_, t', hr'', hR'⟩

/-- **A part of a machine**: where every step of `M` is a step of `N` on the part `part` of the
state, or leaves that part as it is, the steps of a run that `shown` shows are a run of `N`. -/
theorem Run.part {δ : Type*} {M : Machine σ α β} {N : Machine τ γ δ} {part : σ → τ}
    {shown : Taken σ α β → Option (Taken τ γ δ)} (h0 : part M.init = N.init)
    (hstep : ∀ s a s' b, M.step s a = some (s', b) →
      (shown ⟨s, a, b, s'⟩ = none ∧ part s' = part s) ∨
        ∃ c d, shown ⟨s, a, b, s'⟩ = some ⟨part s, c, d, part s'⟩ ∧
          N.step (part s) c = some (part s', d))
    {tr : List (Taken σ α β)} {s : σ} (hr : Run M tr s) : Run N (tr.filterMap shown) (part s) := by
  induction hr with
  | nil =>
    rw [h0]
    exact .nil
  | @snoc tr s a s' b _ hs ih =>
    rw [List.filterMap_append]
    rcases hstep s a s' b hs with ⟨hnone, hsame⟩ | ⟨c, d, hsome, hnext⟩
    · rw [List.filterMap_cons_none hnone, List.filterMap_nil, List.append_nil, hsame]
      exact ih
    · rw [List.filterMap_cons_some hsome, List.filterMap_nil]
      exact ih.snoc hnext

/-! ## History variables -/

/-- The machine with a history variable, updated from each step it takes. -/
def Machine.ghost (M : Machine σ α β) (g : γ) (upd : γ → Taken σ α β → γ) :
    Machine (σ × γ) α β where
  init := (M.init, g)
  step s a :=
    match M.step s.1 a with
    | none => none
    | some (s', b) => some ((s', upd s.2 ⟨s.1, a, b, s'⟩), b)

/-- A step of the machine with history, without the history. -/
def Taken.base (t : Taken (σ × γ) α β) : Taken σ α β := ⟨t.pre.1, t.label, t.answer, t.post.1⟩

theorem Machine.ghost_step_iff (M : Machine σ α β) (g : γ) (upd : γ → Taken σ α β → γ)
    (s s' : σ × γ) (a : α) (b : β) :
    (M.ghost g upd).step s a = some (s', b) ↔
      M.step s.1 a = some (s'.1, b) ∧ s'.2 = upd s.2 ⟨s.1, a, b, s'.1⟩ := by
  unfold Machine.ghost
  cases h : M.step s.1 a with
  | none => simp [h]
  | some r =>
    obtain ⟨s₁, b₁⟩ := r
    simp only [h, Option.some.injEq, Prod.ext_iff]
    constructor
    · rintro ⟨⟨h1, h2⟩, rfl⟩
      subst h1
      exact ⟨⟨rfl, rfl⟩, h2.symm⟩
    · rintro ⟨⟨h1, rfl⟩, h2⟩
      subst h1
      exact ⟨⟨rfl, h2.symm⟩, rfl⟩

/-- Forgetting the history gives a run of the machine, and the history is the fold of it. -/
theorem Run.ghost_fst {M : Machine σ α β} {g : γ} {upd : γ → Taken σ α β → γ}
    {tr : List (Taken (σ × γ) α β)} {s : σ × γ} (hr : Run (M.ghost g upd) tr s) :
    Run M (tr.map Taken.base) s.1 ∧ s.2 = (tr.map Taken.base).foldl upd g := by
  induction hr with
  | nil => exact ⟨.nil, rfl⟩
  | snoc _ hs ih =>
    obtain ⟨hs1, hs2⟩ := (M.ghost_step_iff g upd _ _ _ _).1 hs
    rw [List.map_append]
    exact ⟨ih.1.snoc hs1, by simp [hs2, ih.2, Taken.base]⟩

/-- Every run of the machine is one with history. -/
theorem Run.ghost_lift {M : Machine σ α β} (g : γ) (upd : γ → Taken σ α β → γ)
    {tr : List (Taken σ α β)} {s : σ} (hr : Run M tr s) :
    ∃ tr', Run (M.ghost g upd) tr' (s, tr.foldl upd g) ∧ tr'.map Taken.base = tr := by
  induction hr with
  | nil => exact ⟨[], .nil, rfl⟩
  | @snoc tr s a s' b _ hs ih =>
    obtain ⟨tr', hr', rfl⟩ := ih
    have hs' : (M.ghost g upd).step (s, (tr'.map Taken.base).foldl upd g) a =
        some ((s', (tr'.map Taken.base ++ [Taken.mk s a b s']).foldl upd g), b) := by
      rw [M.ghost_step_iff]
      exact ⟨hs, by simp⟩
    exact ⟨_, hr'.snoc hs', by simp [Taken.base]⟩

/-- **The history only watches**: the runs with it are those of the machine, and it is the fold of
their steps. -/
theorem Run.ghost_iff {M : Machine σ α β} {g : γ} {upd : γ → Taken σ α β → γ}
    {tr : List (Taken σ α β)} {s : σ × γ} :
    (∃ tr', Run (M.ghost g upd) tr' s ∧ tr'.map Taken.base = tr) ↔
      Run M tr s.1 ∧ s.2 = tr.foldl upd g := by
  constructor
  · rintro ⟨tr', hr, rfl⟩
    exact hr.ghost_fst
  · rintro ⟨hr, hg⟩
    obtain ⟨tr', hr', htr⟩ := hr.ghost_lift g upd
    rw [← hg] at hr'
    exact ⟨tr', hr', htr⟩

/-! ## Clocks -/

/-- The machine under a clock: a label carries its time, and time does not go back. -/
def Machine.clocked [LE τ] [DecidableLE τ] (M : Machine σ (τ × α) β) (t₀ : τ) :
    Machine (τ × σ) (τ × α) β where
  init := (t₀, M.init)
  step s a :=
    if s.1 ≤ a.1 then
      match M.step s.2 a with
      | none => none
      | some (s', b) => some ((a.1, s'), b)
    else none

theorem Machine.clocked_step_iff [LE τ] [DecidableLE τ] (M : Machine σ (τ × α) β) (t₀ : τ)
    (s s' : τ × σ) (a : τ × α) (b : β) :
    (M.clocked t₀).step s a = some (s', b) ↔
      s.1 ≤ a.1 ∧ M.step s.2 a = some (s'.2, b) ∧ s'.1 = a.1 := by
  unfold Machine.clocked
  by_cases hle : s.1 ≤ a.1
  · cases h : M.step s.2 a with
    | none => simp [h]
    | some r =>
      obtain ⟨s₁, b₁⟩ := r
      simp only [h, hle, if_true, Option.some.injEq, Prod.ext_iff, true_and]
      constructor
      · rintro ⟨⟨h1, h2⟩, h3⟩
        exact ⟨⟨h2, h3⟩, h1.symm⟩
      · rintro ⟨⟨h2, h3⟩, h1⟩
        exact ⟨⟨h1.symm, h2⟩, h3⟩
  · simp [hle]

end Labelled
