import LinkSense.Agent.Tasks
import LinkSense.Memo

/-!
# The cache of compiled patterns

Content checks that run at the same time share the patterns that they have compiled
(`REGEX_CACHE`).  A check first gets its pattern, which is a call of the cache, and then makes its
request.

    in every run of checks, each gives the metric of a check that compiles its pattern itself, and a
      pattern that some check has got is not missed by any later one            (checks_agree)
-/

namespace LinkSense

open Labelled

/-! ## Checks -/

/-- The `regex` crate. -/
structure RegexCrate (Regex : Type) where
  new : String → Except String Regex
  isMatch : Regex → String → Bool

/-- A response, with the text of its body if that can be read. -/
structure ContentReply where
  status : UInt16
  contentLength : Option UInt64
  body : Except String String

/-- What the check looks at. -/
def ContentReply.response (reply : ContentReply) (isMatch : String → Bool) : ContentResponse :=
  ⟨reply.status, reply.contentLength, reply.body.map fun text => (text.utf8ByteSize, isMatch text)⟩

/-- A check: its task, what the outside gives to it, and its call for the pattern. -/
structure ContentCheck (Regex : Type) where
  params : HttpContentParams
  probe : Probe
  reply : Except (Bool × String) ContentReply
  call : Memo.Call String String Regex
  answered : Bool

section Checks

variable {Regex : Type} (crate : RegexCrate Regex)

/-- `execute_http_content_check` from the request on. -/
def requestContent (params : HttpContentParams) (probe : Probe)
    (reply : Except (Bool × String) ContentReply) (isMatch : String → Bool) :
    RawHttpContentMetric :=
  contentCheck { probe with content := reply.map (·.response isMatch) } params

/-- The metric of `execute_http_content_task`, by what `get_or_compile_regex` has returned. -/
def ContentCheck.metric (check : ContentCheck Regex) : Except String Regex → RawHttpContentMetric
  | .ok regex => requestContent check.params check.probe check.reply (crate.isMatch regex)
  | .error _ =>
    ⟨none, none, none, none, false, some s!"Failed to compile regexp: {check.params.regexp}",
      check.params.targetId⟩

/-! ## Steps -/

structure ContentChecks (Regex : Type) where
  cache : String → Option Regex
  checks : List (ContentCheck Regex)

inductive ContentAction where
  | check (params : HttpContentParams) (probe : Probe)
      (reply : Except (Bool × String) ContentReply)
  /-- A step of `get_or_compile_regex`. -/
  | getOrCompileRegex (i : Nat)
  /-- The rest of the check. -/
  | request (i : Nat)

inductive ContentEvent (Regex : Type) where
  | begun
  | regex (call : Memo.Call String String Regex) (point : Memo.Point String Regex)
  | metric (check : ContentCheck Regex) (metric : RawHttpContentMetric)

namespace ContentChecks

/-- One step of `get_or_compile_regex` for a check. -/
def getOrCompileRegex (s : ContentChecks Regex) (i : Nat) (check : ContentCheck Regex) :
    Option (ContentChecks Regex × ContentEvent Regex) :=
  match check.call.advance crate.new s.cache with
  | none => none
  | some (cache, point) =>
    some (⟨cache, s.checks.set i { check with call := { check.call with point := point } }⟩,
      .regex check.call point)

/-- The rest of a check that has its pattern, or none. -/
def request (s : ContentChecks Regex) (i : Nat) (check : ContentCheck Regex) :
    Option (ContentChecks Regex × ContentEvent Regex) :=
  match check.call.point, check.answered with
  | .returned r, false =>
    some ({ s with checks := s.checks.set i { check with answered := true } },
      .metric check (check.metric crate r))
  | _, _ => none

def next (s : ContentChecks Regex) :
    ContentAction → Option (ContentChecks Regex × ContentEvent Regex)
  | .check params probe reply =>
    some ({ s with
      checks := s.checks ++ [⟨params, probe, reply, ⟨params.regexp, .looking⟩, false⟩] }, .begun)
  | .getOrCompileRegex i => s.checks[i]?.bind (s.getOrCompileRegex crate i)
  | .request i => s.checks[i]?.bind (s.request crate i)

/-- The cache and its calls. -/
def memo (s : ContentChecks Regex) : Memo.State String String Regex :=
  ⟨s.cache, s.checks.map ContentCheck.call⟩

end ContentChecks

/-- Any number of checks, from an empty cache. -/
def contentMachine : Machine (ContentChecks Regex) ContentAction (ContentEvent Regex) :=
  ⟨⟨fun _ => none, []⟩, ContentChecks.next crate⟩

abbrev ContentStep (Regex : Type) := Taken (ContentChecks Regex) ContentAction (ContentEvent Regex)

/-! ## Checks that compile their pattern themselves -/

def RegexCrate.externals (env : Externals) : Externals :=
  { env with regexNew := fun pattern => (crate.new pattern).map fun _ => () }

/-- Whether the text matches the pattern, as compiled for this text only. -/
def RegexCrate.matches (pattern text : String) : Bool :=
  match crate.new pattern with
  | .ok regex => crate.isMatch regex text
  | .error _ => false

def ContentCheck.plainMetric (env : Externals) (check : ContentCheck Regex) :
    RawHttpContentMetric :=
  contentMetric (crate.externals env)
    { check.probe with
      content := check.reply.map (·.response (crate.matches check.params.regexp)) } check.params

/-- The step gets a check the pattern, compiled. -/
def ContentStep.Gets (pattern : String) (t : ContentStep Regex) : Prop :=
  ∃ call regex, t.answer = .regex call (.returned (.ok regex)) ∧ call.key = pattern

/-- The step does not find the pattern, which is compiled next. -/
def ContentStep.Misses (pattern : String) (t : ContentStep Regex) : Prop :=
  ∃ call, t.answer = .regex call .computing ∧ call.key = pattern

/-! ## Lemmas -/

theorem ContentCheck.metric_new (env : Externals) (check : ContentCheck Regex) :
    check.metric crate (crate.new check.params.regexp) = check.plainMetric crate env := by
  have hext : (crate.externals env).regexNew check.params.regexp =
      (crate.new check.params.regexp).map fun _ => () := rfl
  unfold ContentCheck.plainMetric contentMetric
  rw [hext]
  cases hnew : crate.new check.params.regexp with
  | error e => rfl
  | ok regex =>
    have hmatches : crate.matches check.params.regexp = crate.isMatch regex := by
      funext text
      unfold RegexCrate.matches
      rw [hnew]
    rw [hmatches]
    rfl

/-- The step of the cache that a step of the checks is. -/
def ContentStep.memo (t : ContentStep Regex) : Option (Memo.Step String String Regex) :=
  match t.label, t.answer with
  | .check params _ _, _ => some ⟨t.pre.memo, .call params.regexp, none, t.post.memo⟩
  | .getOrCompileRegex i, .regex call point =>
    some ⟨t.pre.memo, .advance i, some (call, point), t.post.memo⟩
  | _, _ => none

theorem ContentStep.memo_of_regex {t : ContentStep Regex} {i : Nat}
    {call : Memo.Call String String Regex} {point : Memo.Point String Regex}
    (hlabel : t.label = .getOrCompileRegex i) (hanswer : t.answer = .regex call point) :
    t.memo = some ⟨t.pre.memo, .advance i, some (call, point), t.post.memo⟩ := by
  unfold memo
  rw [hlabel, hanswer]

section Steps

variable {crate} {s s' : ContentChecks Regex} {a : ContentAction} {b : ContentEvent Regex}

/-- A step of the checks. -/
theorem ContentChecks.next_cases (h : s.next crate a = some (s', b)) :
    (∃ params probe reply, a = .check params probe reply ∧ b = .begun ∧ s' = { s with
      checks := s.checks ++ [⟨params, probe, reply, ⟨params.regexp, .looking⟩, false⟩] }) ∨
    (∃ i check cache point, a = .getOrCompileRegex i ∧ b = .regex check.call point ∧
      s.checks[i]? = some check ∧ check.call.advance crate.new s.cache = some (cache, point) ∧
      s' = ⟨cache, s.checks.set i { check with call := { check.call with point := point } }⟩) ∨
    ∃ i check r, a = .request i ∧ b = .metric check (check.metric crate r) ∧
      s.checks[i]? = some check ∧ check.call.point = .returned r ∧
      s' = { s with checks := s.checks.set i { check with answered := true } } := by
  cases a with
  | check params probe reply =>
    obtain ⟨rfl, rfl⟩ := Prod.mk.inj (Option.some.inj h)
    exact .inl ⟨params, probe, reply, rfl, rfl, rfl⟩
  | getOrCompileRegex i =>
    obtain ⟨check, hi, h⟩ := Option.bind_eq_some_iff.1 h
    unfold getOrCompileRegex at h
    split at h
    · cases h
    · next cache point hadv =>
      obtain ⟨rfl, rfl⟩ := Prod.mk.inj (Option.some.inj h)
      exact .inr (.inl ⟨i, check, cache, point, rfl, rfl, hi, hadv, rfl⟩)
  | request i =>
    obtain ⟨check, hi, h⟩ := Option.bind_eq_some_iff.1 h
    unfold request at h
    split at h
    · next r hpoint _ =>
      obtain ⟨rfl, rfl⟩ := Prod.mk.inj (Option.some.inj h)
      exact .inr (.inr ⟨i, check, r, rfl, rfl, hi, hpoint, rfl⟩)
    · cases h

theorem ContentChecks.label_of_regex {call : Memo.Call String String Regex}
    {point : Memo.Point String Regex} (h : s.next crate a = some (s', b))
    (hb : b = .regex call point) : ∃ i, a = .getOrCompileRegex i := by
  obtain ⟨_, _, _, rfl, rfl, -⟩ | ⟨i, _, _, _, rfl, -⟩ | ⟨_, _, _, rfl, rfl, -⟩ := next_cases h
  · cases hb
  · exact ⟨i, rfl⟩
  · cases hb

theorem ContentChecks.getElem?_calls {i : Nat} {check : ContentCheck Regex}
    (h : s.checks[i]? = some check) : (s.checks.map ContentCheck.call)[i]? = some check.call := by
  rw [List.getElem?_map, h]
  rfl

/-- What a step does to the cache and its calls. -/
theorem ContentChecks.next_memo (h : s.next crate a = some (s', b)) :
    (ContentStep.memo ⟨s, a, b, s'⟩ = none ∧ s'.memo = s.memo) ∨
      ∃ c d, ContentStep.memo ⟨s, a, b, s'⟩ = some ⟨s.memo, c, d, s'.memo⟩ ∧
        s.memo.next crate.new c = some (s'.memo, d) := by
  obtain ⟨params, probe, reply, rfl, rfl, rfl⟩ | ⟨i, check, cache, point, rfl, rfl, hi, hadv, rfl⟩ |
    ⟨i, check, r, rfl, rfl, hi, -, rfl⟩ := next_cases h
  · right
    refine ⟨.call params.regexp, none, rfl, ?_⟩
    unfold memo Memo.State.next
    rw [List.map_append]
    rfl
  · right
    refine ⟨.advance i, some (check.call, point), rfl, ?_⟩
    unfold memo Memo.State.next
    dsimp only
    rw [getElem?_calls hi]
    dsimp only
    rw [hadv, List.map_set]
  · left
    refine ⟨rfl, ?_⟩
    -- the call of the check is what it was
    have hsame : (s.checks.map ContentCheck.call).set i check.call =
        s.checks.map ContentCheck.call := by
      obtain ⟨hlt, hget⟩ := List.getElem?_eq_some_iff.1 (getElem?_calls hi)
      rw [← hget]
      exact List.set_getElem_self hlt
    unfold memo
    rw [List.map_set]
    exact congrArg _ hsame

/-- Each check's call is for its pattern. -/
def ContentChecks.Keyed (s : ContentChecks Regex) : Prop :=
  ∀ check ∈ s.checks, check.call.key = check.params.regexp

theorem ContentChecks.Keyed.next (hk : s.Keyed) (h : s.next crate a = some (s', b)) : s'.Keyed := by
  obtain ⟨params, probe, reply, rfl, rfl, rfl⟩ | ⟨i, check, cache, point, rfl, rfl, hi, hadv, rfl⟩ |
    ⟨i, check, r, rfl, rfl, hi, -, rfl⟩ := next_cases h
  · intro c hc
    rcases List.mem_append.1 hc with hold | hnew
    · exact hk c hold
    · obtain rfl := List.mem_singleton.1 hnew
      rfl
  · intro c hc
    rcases List.mem_or_eq_of_mem_set hc with hold | rfl
    · exact hk c hold
    · exact hk check (List.mem_of_getElem? hi)
  · intro c hc
    rcases List.mem_or_eq_of_mem_set hc with hold | rfl
    · exact hk c hold
    · exact hk check (List.mem_of_getElem? hi)

end Steps

/-! ## Top theorem -/

/-- **The cache changes nothing**: each check has the metric of one that compiles its pattern itself,
and a pattern that some check has got is not missed by any later one. -/
theorem checks_agree (env : Externals) {tr : List (ContentStep Regex)} {s : ContentChecks Regex}
    (hr : Run (contentMachine crate) tr s) :
    (∀ t ∈ tr, ∀ check metric, t.answer = .metric check metric →
      metric = check.plainMetric crate env) ∧
      ∀ pattern, tr.Pairwise fun x y =>
        ContentStep.Gets pattern x → ¬ ContentStep.Misses pattern y := by
  constructor
  · refine (Run.invariant_taken (I := fun s => s.memo.Sound crate.new ∧ s.Keyed)
      (P := fun t => ∀ check metric, t.answer = .metric check metric →
        metric = check.plainMetric crate env) ⟨Memo.sound_init, fun _ h => absurd h
          List.not_mem_nil⟩ ?_ hr).2
    rintro s a s' b ⟨hsound, hkeyed⟩ h
    refine ⟨⟨?_, hkeyed.next h⟩, fun check metric hb => ?_⟩
    · rcases ContentChecks.next_memo h with ⟨-, hsame⟩ | ⟨c, d, -, hnext⟩
      · rw [hsame]
        exact hsound
      · exact Memo.next_sound hsound hnext
    · obtain ⟨_, _, _, -, rfl, -⟩ | ⟨_, _, _, _, -, rfl, -⟩ | ⟨i, c, r, -, rfl, hi, hpoint, -⟩ :=
        ContentChecks.next_cases h
      · cases hb
      · cases hb
      · obtain ⟨rfl, rfl⟩ := ContentEvent.metric.inj hb
        have hmem := List.mem_of_getElem? hi
        have hr := (hsound.calls c.call (List.mem_map_of_mem hmem)).returned hpoint
        rw [← hr, hkeyed c hmem]
        exact c.metric_new crate env
  · intro pattern
    have hinit : (contentMachine crate).init.memo = (Memo.machine crate.new).init := rfl
    have hpart : Run (Memo.machine crate.new) (tr.filterMap ContentStep.memo) s.memo :=
      hr.part hinit fun _ _ _ _ h => ContentChecks.next_memo h
    refine (List.pairwise_filterMap.1 (Memo.no_miss_of_run hpart pattern)).imp_of_mem ?_
    rintro x y hx hy hmemo ⟨call, regex, hgets, hkey⟩ ⟨call', hmisses, hkey'⟩
    obtain ⟨i, hi⟩ := ContentChecks.label_of_regex (hr.step_of_mem hx) hgets
    obtain ⟨j, hj⟩ := ContentChecks.label_of_regex (hr.step_of_mem hy) hmisses
    exact hmemo _ (ContentStep.memo_of_regex hi hgets) _ (ContentStep.memo_of_regex hj hmisses)
      ⟨call, regex, rfl, hkey⟩ ⟨call', rfl, hkey'⟩

end Checks

/-- Patterns are texts to find, but for one that cannot be compiled. -/
def literalCrate : RegexCrate String where
  new := fun pattern => if pattern = "(" then .error "unclosed group" else .ok pattern
  isMatch := fun regex text => regex == text

def exampleCheck (pattern : String) : ContentAction :=
  .check ⟨"http://example.com", pattern, 10, none⟩ (answeringProbe 200) (.ok ⟨200, none, .ok "up"⟩)

/-- Two checks compile one pattern at the same time, and a third finds it. -/
def sharedPattern : List ContentAction :=
  [exampleCheck "up", exampleCheck "up", .getOrCompileRegex 0, .getOrCompileRegex 1,
    .getOrCompileRegex 0, .getOrCompileRegex 1, .getOrCompileRegex 0, .getOrCompileRegex 1,
    .request 1, .request 0, exampleCheck "up", .getOrCompileRegex 2, .request 2]

def ContentEvent.regexpMatch {Regex : Type} : ContentEvent Regex → Option Bool
  | .metric _ m => m.regexpMatch
  | _ => none

theorem checks_agree_shared :
    ∃ tr s, Run (contentMachine literalCrate) tr s ∧
      (tr.filterMap fun t => t.answer.regexpMatch) = [true, true, true] ∧
      (∀ t ∈ tr, ∀ check metric, t.answer = .metric check metric →
        metric = check.plainMetric literalCrate exampleExternals) ∧
      ∀ pattern, tr.Pairwise fun x y =>
        ContentStep.Gets pattern x → ¬ ContentStep.Misses pattern y := by
  obtain ⟨tr, s, he, hrun⟩ := Run.exists_of_exec (contentMachine literalCrate) sharedPattern (by rfl)
  have hend : ((contentMachine literalCrate).exec sharedPattern).map (fun r =>
      r.1.filterMap fun t => t.answer.regexpMatch) = some [true, true, true] := by rfl
  rw [he] at hend
  exact ⟨tr, s, hrun, Option.some.inj hend, checks_agree literalCrate exampleExternals hrun⟩

end LinkSense
