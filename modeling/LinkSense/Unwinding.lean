import LinkSense.Machine

/-!
# Non-interference by unwinding

An observer of a machine sees some of its steps, and something of their answers.  States are alike
when it cannot tell them apart.  Where hidden steps lead to states alike and the same visible step
keeps states alike and looks the same, nothing that is hidden ever reaches the observer.

    V.Unwinds M → s₀ and t₀ are alike → two runs from them with the same visible steps look the
      same, and end in states alike                                               (Run.looks_same)
-/

namespace Labelled

/-- What an observer sees of a machine. -/
structure View (σ α β γ : Type*) where
  alike : σ → σ → Prop
  visible : α → Bool
  observe : α → β → γ

namespace View

variable {σ α β γ : Type*}

/-- The visible steps of a trace. -/
def steps (V : View σ α β γ) (tr : List (Taken σ α β)) : List α :=
  (tr.map Taken.label).filter V.visible

/-- What is seen of a trace. -/
def seen (V : View σ α β γ) (tr : List (Taken σ α β)) : List γ :=
  (tr.filter fun t => V.visible t.label).map fun t => V.observe t.label t.answer

/-- The unwinding conditions, for each single step. -/
structure Unwinds (V : View σ α β γ) (M : Machine σ α β) : Prop where
  symm : ∀ {s t}, V.alike s t → V.alike t s
  hidden : ∀ {s t a s' b}, V.visible a = false → V.alike s t → M.step s a = some (s', b) →
    V.alike s' t
  visible : ∀ {s t a s' b t' c}, V.visible a = true → V.alike s t → M.step s a = some (s', b) →
    M.step t a = some (t', c) → V.alike s' t' ∧ V.observe a b = V.observe a c

variable {V : View σ α β γ}

theorem steps_snoc_hidden (tr : List (Taken σ α β)) {x : Taken σ α β}
    (hx : V.visible x.label = false) : V.steps (tr ++ [x]) = V.steps tr := by
  simp [steps, hx]

theorem steps_snoc_visible (tr : List (Taken σ α β)) {x : Taken σ α β}
    (hx : V.visible x.label = true) : V.steps (tr ++ [x]) = V.steps tr ++ [x.label] := by
  simp [steps, hx]

theorem seen_snoc_hidden (tr : List (Taken σ α β)) {x : Taken σ α β}
    (hx : V.visible x.label = false) : V.seen (tr ++ [x]) = V.seen tr := by
  simp [seen, hx]

theorem seen_snoc_visible (tr : List (Taken σ α β)) {x : Taken σ α β}
    (hx : V.visible x.label = true) :
    V.seen (tr ++ [x]) = V.seen tr ++ [V.observe x.label x.answer] := by
  simp [seen, hx]

end View

variable {σ α β γ : Type*} {V : View σ α β γ} {M : Machine σ α β}

/-- **Unwinding**: runs with the same visible steps look the same. -/
theorem Run.looks_same (hV : V.Unwinds M) {s₀ t₀ : σ} (h0 : V.alike s₀ t₀)
    {tr tr' : List (Taken σ α β)} {s t : σ} (hr : Run (M.startingAt s₀) tr s)
    (hr' : Run (M.startingAt t₀) tr' t) (hsteps : V.steps tr = V.steps tr') :
    V.alike s t ∧ V.seen tr = V.seen tr' := by
  induction hr generalizing tr' t with
  | nil =>
    induction hr' with
    | nil => exact ⟨h0, rfl⟩
    | @snoc tr' t a t' c hr' ht ih =>
      cases hvis : V.visible a with
      | false =>
        rw [V.steps_snoc_hidden tr' (x := ⟨t, a, c, t'⟩) hvis] at hsteps
        obtain ⟨halike, hseen⟩ := ih hsteps
        rw [V.seen_snoc_hidden tr' (x := ⟨t, a, c, t'⟩) hvis]
        exact ⟨hV.symm (hV.hidden hvis (hV.symm halike) ht), hseen⟩
      | true =>
        rw [V.steps_snoc_visible tr' (x := ⟨t, a, c, t'⟩) hvis] at hsteps
        simp [View.steps] at hsteps
  | @snoc tr s a s' b hr hs ih =>
    cases hvis : V.visible a with
    | false =>
      rw [V.steps_snoc_hidden tr (x := ⟨s, a, b, s'⟩) hvis] at hsteps
      obtain ⟨halike, hseen⟩ := ih hr' hsteps
      rw [V.seen_snoc_hidden tr (x := ⟨s, a, b, s'⟩) hvis]
      exact ⟨hV.hidden hvis halike hs, hseen⟩
    | true =>
      -- the other run comes to the same step, after hidden ones
      rw [V.steps_snoc_visible tr (x := ⟨s, a, b, s'⟩) hvis] at hsteps
      induction hr' with
      | nil => simp [View.steps] at hsteps
      | @snoc tr' t a' t' c hr' ht ih' =>
        cases hvis' : V.visible a' with
        | false =>
          rw [V.steps_snoc_hidden tr' (x := ⟨t, a', c, t'⟩) hvis'] at hsteps
          obtain ⟨halike, hseen⟩ := ih' hsteps
          rw [V.seen_snoc_hidden tr' (x := ⟨t, a', c, t'⟩) hvis']
          exact ⟨hV.symm (hV.hidden hvis' (hV.symm halike) ht), hseen⟩
        | true =>
          rw [V.steps_snoc_visible tr' (x := ⟨t, a', c, t'⟩) hvis'] at hsteps
          obtain ⟨hbefore, hlast⟩ := List.append_inj' hsteps rfl
          obtain rfl : a = a' := List.singleton_inj.1 hlast
          obtain ⟨halike, hseen⟩ := ih hr' hbefore
          obtain ⟨halike', hsame⟩ := hV.visible hvis halike hs ht
          rw [V.seen_snoc_visible tr (x := ⟨s, a, b, s'⟩) hvis,
            V.seen_snoc_visible tr' (x := ⟨t, a, c, t'⟩) hvis, hseen]
          exact ⟨halike', by rw [hsame]⟩

end Labelled
