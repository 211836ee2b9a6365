import Mathlib.Data.Bool.Basic

/-!
# A value in memory and in a file

A program holds a value and a file that decodes to it.  Overrides set some of its fields; a value
that has changed by them is checked, encoded, written to the file and then taken into memory.

    an override sets its field and tells whether that changes it                 (override_eq)
    an edit that tells whether it changes the value, and changes it once only, is persisted
      atomically and exactly                                              (replace_persists)
-/

namespace Persisted

variable {σ ν γ : Type*}

/-! ## Overrides -/

/-- A part of a value that can be read and set. -/
structure Field (σ ν : Type*) where
  get : σ → ν
  set : ν → σ → σ
  set_get : ∀ s, set (get s) s = s

/-- Give a field its new value where there is one that differs; the flag remembers the change. -/
def override [DecidableEq ν] (field : Field σ ν) (value : Option ν) (r : σ × Bool) : σ × Bool :=
  match value with
  | none => r
  | some v => if field.get r.1 ≠ v then (field.set v r.1, true) else r

/-! ## The store -/

structure Store (σ γ : Type*) where
  file : γ
  memory : σ
deriving DecidableEq, Repr

/-- How the value is written as text, and read back. -/
structure Format (σ γ : Type*) where
  encode : σ → Except String γ
  decode : γ → Option σ

def Format.RoundTrips (format : Format σ γ) : Prop :=
  ∀ s g, format.encode s = .ok g → format.decode g = some s

/-- How the write ends; a failed one may leave something else in the file. -/
inductive Written (γ : Type*) where
  | done
  | failed (left : Option γ) (error : String)

inductive Stage where
  | validate
  | encode
  | write
deriving DecidableEq, Repr

/-- An error with the context that its stage adds. -/
structure Failure where
  stage : Stage
  context : String
  cause : String
deriving DecidableEq, Repr

/-- Check, encode, write and take over an edited value; nothing is done to an unchanged one. -/
def replace (validate : σ → Except String Unit) (format : Format σ γ) (context : Stage → String)
    (written : Written γ) (edited : σ × Bool) (s : Store σ γ) :
    Store σ γ × Except Failure Bool :=
  if edited.2 then
    match validate edited.1 with
    | .error e => (s, .error ⟨.validate, context .validate, e⟩)
    | .ok () =>
      match format.encode edited.1 with
      | .error e => (s, .error ⟨.encode, context .encode, e⟩)
      | .ok content =>
        match written with
        | .failed left e =>
          ({ s with file := left.getD s.file }, .error ⟨.write, context .write, e⟩)
        | .done => (⟨content, edited.1⟩, .ok true)
  else (s, .ok false)

/-- The call takes the value in memory to `spec` of it, atomically and exactly. -/
structure Persists (validate : σ → Except String Unit) (format : Format σ γ) (spec : σ → σ)
    (call : Written γ → Store σ γ → Store σ γ × Except Failure Bool) : Prop where
  failed : ∀ w s s' e, call w s = (s', .error e) → e.stage ≠ .write → s' = s
  unchanged : ∀ w s s', call w s = (s', .ok false) → s' = s ∧ spec s.memory = s.memory
  changed : ∀ w s s', call w s = (s', .ok true) → format.decode s'.file = some s'.memory ∧
    validate s'.memory = .ok () ∧ s'.memory = spec s.memory
  repeated : ∀ w s s' b, call w s = (s', .ok b) → ∀ w', call w' s' = (s', .ok false)

/-! ## Lemmas -/

theorem override_eq [DecidableEq ν] (field : Field σ ν) (value : Option ν) (r : σ × Bool) :
    override field value r = (field.set (value.getD (field.get r.1)) r.1,
      r.2 || decide (value.getD (field.get r.1) ≠ field.get r.1)) := by
  cases value with
  | none => simp [override, field.set_get]
  | some v =>
    by_cases h : field.get r.1 = v
    · subst h
      simp [override, field.set_get]
    · simp [override, h, Ne.symm h]

/-- What `replace` can do: nothing, fail before or after the file is touched, or take over. -/
theorem replace_cases (validate : σ → Except String Unit) (format : Format σ γ)
    (context : Stage → String) (w : Written γ) (edited : σ × Bool) (s : Store σ γ) :
    (edited.2 = false ∧ replace validate format context w edited s = (s, .ok false)) ∨
    (edited.2 = true ∧ ∃ stage e, stage ≠ .write ∧
      replace validate format context w edited s = (s, .error ⟨stage, context stage, e⟩)) ∨
    (edited.2 = true ∧ ∃ s' e,
      replace validate format context w edited s = (s', .error ⟨.write, context .write, e⟩)) ∨
    (edited.2 = true ∧ validate edited.1 = .ok () ∧
      ∃ content, format.encode edited.1 = .ok content ∧
      replace validate format context w edited s = (⟨content, edited.1⟩, .ok true)) := by
  unfold replace
  cases hchanged : edited.2 with
  | false => exact .inl ⟨rfl, rfl⟩
  | true =>
    refine .inr ?_
    cases hvalid : validate edited.1 with
    | error e => exact .inl ⟨rfl, .validate, e, by decide, rfl⟩
    | ok u =>
      cases hcontent : format.encode edited.1 with
      | error e => exact .inl ⟨rfl, .encode, e, by decide, rfl⟩
      | ok content =>
        cases w with
        | failed left e => exact .inr (.inl ⟨rfl, _, e, rfl⟩)
        | done => exact .inr (.inr ⟨rfl, rfl, content, rfl, rfl⟩)

/-- A call without an error leaves the edited value in memory, and says whether it is another. -/
theorem replace_eq_ok [DecidableEq σ] {validate : σ → Except String Unit} {format : Format σ γ}
    {context : Stage → String} {edit : σ → σ × Bool} {spec : σ → σ}
    (hedit : ∀ s, edit s = (spec s, decide (spec s ≠ s))) {w : Written γ} {s s' : Store σ γ}
    {b : Bool} (h : replace validate format context w (edit s.memory) s = (s', .ok b)) :
    s'.memory = spec s.memory ∧ b = decide (spec s.memory ≠ s.memory) := by
  have hspec : (edit s.memory).1 = spec s.memory := congrArg Prod.fst (hedit _)
  have hchanged : (edit s.memory).2 = decide (spec s.memory ≠ s.memory) :=
    congrArg Prod.snd (hedit _)
  rcases replace_cases validate format context w (edit s.memory) s with
    ⟨hedited, hr⟩ | ⟨-, stage, cause, -, hr⟩ | ⟨-, left, cause, hr⟩ | ⟨hedited, -, content, -, hr⟩
  all_goals
    rw [hr] at h
    cases h
  · rw [hedited] at hchanged
    exact ⟨(not_not.1 (of_decide_eq_false hchanged.symm)).symm, hchanged⟩
  · rw [hedited] at hchanged
    exact ⟨hspec, hchanged⟩

/-- **Persisting is atomic and exact** for every edit that tells whether it changes the value and
changes nothing the second time. -/
theorem replace_persists [DecidableEq σ] {validate : σ → Except String Unit} {format : Format σ γ}
    {context : Stage → String} {edit : σ → σ × Bool} {spec : σ → σ} (hround : format.RoundTrips)
    (hedit : ∀ s, edit s = (spec s, decide (spec s ≠ s))) (hidem : ∀ s, spec (spec s) = spec s) :
    Persists validate format spec fun w s =>
      replace validate format context w (edit s.memory) s := by
  have hunchanged {s : Store σ γ} (h : (edit s.memory).2 = false) : spec s.memory = s.memory := by
    rw [hedit] at h
    exact not_not.1 (of_decide_eq_false h)
  have hkept {s : Store σ γ} (h : spec s.memory = s.memory) (w : Written γ) :
      replace validate format context w (edit s.memory) s = (s, .ok false) := by
    rw [hedit, decide_eq_false (not_not.2 h)]
    rfl
  refine ⟨fun w s s' e h hstage => ?_, fun w s s' h => ?_, fun w s s' h => ?_,
    fun w s s' b h w' => ?_⟩
  all_goals
    rcases replace_cases validate format context w (edit s.memory) s with
      ⟨hedited, hr⟩ | ⟨-, stage, cause, hbefore, hr⟩ | ⟨-, left, cause, hr⟩ |
      ⟨-, hvalid, content, hcontent, hr⟩
    all_goals
      rw [hr] at h
      cases h
  · rfl
  · exact absurd rfl hstage
  · exact ⟨rfl, hunchanged hedited⟩
  · have hmemory : (edit s.memory).1 = spec s.memory := congrArg Prod.fst (hedit _)
    exact ⟨hround _ _ hcontent, hvalid, hmemory⟩
  · exact hkept (hunchanged hedited) w'
  · have hmemory : (edit s.memory).1 = spec s.memory := congrArg Prod.fst (hedit _)
    refine hkept ?_ w'
    show spec (edit s.memory).1 = (edit s.memory).1
    rw [hmemory, hidem]

end Persisted
