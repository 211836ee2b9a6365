import LinkSense.Machine
import LinkSense.Server.Api

/-!
# Uploads of one agent at a time, and several at once

`handle_config_upload` of `server/src/api.rs`, from the check for an existing file on, split at that
check and at the write.  An error of the check counts as "there is none", and a write that fails may
leave anything in the file.

    one after the other, the steps of an upload are `saveUpload`                  (next_saveUpload)
    every step is guarded → one upload is accepted at most, and no upload changes a file that was
      there when it began                                                   (uploads_of_guarded)
-/

namespace LinkSense

open Labelled

/-! ## State -/

inductive UploadStage where
  | arrived
  /-- No file was found; `accepted` is how many uploads had been accepted by then. -/
  | checked (accepted : Nat)
  | answered (response : Except ApiError ConfigUploadResponse)

/-- An upload whose content has been validated. -/
structure Upload where
  content : String
  /-- There was a file when it arrived. -/
  existed : Bool
  stage : UploadStage

/-- The tasks file of an agent, and the uploads for it in the order of their arrival. -/
structure UploadSystem where
  file : Option String
  uploads : List Upload

inductive UploadAction where
  | arrive (content : String)
  /-- `try_exists`, which may fail. -/
  | check (i : Nat) (fails : Bool)
  /-- `fs::write`; when it fails with `e` the file is as before, or has the content `left`. -/
  | write (i : Nat) (outcome : Option (String × Option String))

def UploadStage.accepted : UploadStage → Bool
  | .answered (.ok response) => response.accepted
  | _ => false

/-! ## Steps -/

def existsResponse : ConfigUploadResponse :=
  ⟨"success", "Configuration already exists on server, using existing config", false⟩

def savedResponse : ConfigUploadResponse :=
  ⟨"success", "Configuration uploaded and saved successfully", true⟩

namespace UploadSystem

def accepted (s : UploadSystem) : Nat := s.uploads.countP (·.stage.accepted)

def setStage (s : UploadSystem) (i : Nat) (upload : Upload) (stage : UploadStage) : UploadSystem :=
  { s with uploads := s.uploads.set i { upload with stage := stage } }

/-- One step; `none` when the upload is not there yet. -/
def next (s : UploadSystem) : UploadAction → Option UploadSystem
  | .arrive content =>
    some { s with uploads := s.uploads ++ [⟨content, s.file.isSome, .arrived⟩] }
  | .check i fails =>
    match s.uploads[i]? with
    | some ⟨content, existed, .arrived⟩ =>
      if !fails && s.file.isSome then
        some (s.setStage i ⟨content, existed, .arrived⟩ (.answered (.ok existsResponse)))
      else some (s.setStage i ⟨content, existed, .arrived⟩ (.checked s.accepted))
    | _ => none
  | .write i outcome =>
    match s.uploads[i]? with
    | some ⟨content, existed, .checked n⟩ =>
      match outcome with
      | some (e, left) =>
        some ({ s with file := left.orElse fun _ => s.file }.setStage i
          ⟨content, existed, .checked n⟩
          (.answered (.error (.internal s!"Failed to save configuration: {e}"))))
      | none =>
        some ({ s with file := some content }.setStage i ⟨content, existed, .checked n⟩
          (.answered (.ok savedResponse)))
    | _ => none

end UploadSystem

/-- A server that has this file, and no upload yet. -/
def uploadMachine (file : Option String) : Machine UploadSystem UploadAction Unit where
  init := ⟨file, []⟩
  step s a := (s.next a).map (·, ())

abbrev UploadStep := Taken UploadSystem UploadAction Unit

/-! ## What uploads are to keep -/

/-- If the step writes for an upload that found a file when it arrived, the file stays as it is. -/
def UploadStep.KeepsExisting (t : UploadStep) : Prop :=
  ∀ i outcome upload, t.label = .write i outcome → t.pre.uploads[i]? = some upload →
    upload.existed = true → t.post.file = t.pre.file

/-- The check fails only while there is no file, and no upload is accepted between the check of
another one and its write, unless that fails. -/
def UploadSystem.guarded (s : UploadSystem) : UploadAction → Bool
  | .check _ fails => !fails || s.file.isNone
  | .write i none =>
    match s.uploads[i]? with
    | some ⟨_, _, .checked n⟩ => s.accepted == n
    | _ => true
  | _ => true

/-- What uploads know of each other. -/
structure UploadSystem.UploadInvariant (s : UploadSystem) : Prop where
  once : s.accepted ≤ 1
  written : 0 < s.accepted → s.file.isSome
  existed : ∀ upload ∈ s.uploads, upload.existed = true → s.file.isSome
  checked : ∀ upload ∈ s.uploads, ∀ n, upload.stage = .checked n → upload.existed = false ∧ n = 0

/-! ## Lemmas -/

namespace UploadSystem

variable {s s' : UploadSystem}

theorem accepted_setStage {i : Nat} {upload : Upload} (stage : UploadStage)
    (hi : s.uploads[i]? = some upload) (hold : upload.stage.accepted = false) :
    (s.setStage i upload stage).accepted = s.accepted + if stage.accepted then 1 else 0 := by
  obtain ⟨hlt, rfl⟩ := List.getElem?_eq_some_iff.1 hi
  unfold accepted setStage
  rw [List.countP_set hlt, hold]
  simp

theorem mem_uploads_setStage {i : Nat} {upload upload' : Upload} {stage : UploadStage}
    (h : upload' ∈ (s.setStage i upload stage).uploads) :
    upload' ∈ s.uploads ∨ upload' = { upload with stage := stage } := List.mem_or_eq_of_mem_set h

theorem UploadInvariant.setStage (h : s.UploadInvariant) {i : Nat} {upload : Upload}
    {stage : UploadStage} (file : Option String) (hi : s.uploads[i]? = some upload)
    (hold : upload.stage.accepted = false) (hnew : stage.accepted = false)
    (hfile : s.file.isSome → file.isSome)
    (hchecked : ∀ n, stage = .checked n → upload.existed = false ∧ n = 0) :
    ({ s with file := file }.setStage i upload stage).UploadInvariant := by
  have hcount : ({ s with file := file }.setStage i upload stage).accepted = s.accepted := by
    have hset := accepted_setStage (s := { s with file := file }) stage hi hold
    rw [hset, hnew]
    exact Nat.add_zero _
  refine ⟨?_, ?_, ?_, ?_⟩
  · rw [hcount]
    exact h.once
  · intro hpos
    rw [hcount] at hpos
    exact hfile (h.written hpos)
  · intro upload' hm he
    rcases mem_uploads_setStage hm with hm | rfl
    · exact hfile (h.existed upload' hm he)
    · exact hfile (h.existed upload (List.mem_of_getElem? hi) he)
  · intro upload' hm n hn
    rcases mem_uploads_setStage hm with hm | rfl
    · exact h.checked upload' hm n hn
    · exact hchecked n hn

/-- **A guarded step keeps the invariant.** -/
theorem next_invariant {a : UploadAction} (h : s.UploadInvariant) (hg : s.guarded a = true)
    (hs : s.next a = some s') : s'.UploadInvariant := by
  cases a with
  | arrive content =>
    obtain rfl := Option.some.inj hs
    have hcount : accepted { s with
        uploads := s.uploads ++ [⟨content, s.file.isSome, .arrived⟩] } = s.accepted := by
      unfold accepted
      rw [List.countP_append]
      rfl
    refine ⟨?_, ?_, ?_, ?_⟩
    · rw [hcount]
      exact h.once
    · intro hpos
      rw [hcount] at hpos
      exact h.written hpos
    · intro upload hm he
      rcases List.mem_append.1 hm with hm | hm
      · exact h.existed upload hm he
      · rw [List.mem_singleton] at hm
        rw [hm] at he
        exact he
    · intro upload hm n hn
      rcases List.mem_append.1 hm with hm | hm
      · exact h.checked upload hm n hn
      · rw [List.mem_singleton] at hm
        rw [hm] at hn
        cases hn
  | check i fails =>
    dsimp only [next] at hs
    split at hs
    · next content existed hi =>
      split at hs
      · obtain rfl := Option.some.inj hs
        apply h.setStage s.file hi
        · rfl
        · rfl
        · exact fun hf => hf
        · intro n hn
          cases hn
      · next hfound =>
        obtain rfl := Option.some.inj hs
        have hnone : s.file = none := by
          cases fails with
          | true => simpa [guarded] using hg
          | false => simpa using hfound
        apply h.setStage s.file hi
        · rfl
        · rfl
        · exact fun hf => hf
        · intro n hn
          obtain rfl := UploadStage.checked.inj hn
          constructor
          · -- a file that was there would still be there
            by_contra he
            rw [Bool.not_eq_false] at he
            have hsome := h.existed _ (List.mem_of_getElem? hi) he
            rw [hnone] at hsome
            cases hsome
          · by_contra hpos
            have hsome := h.written (by omega)
            rw [hnone] at hsome
            cases hsome
    · cases hs
  | write i outcome =>
    dsimp only [next] at hs
    split at hs
    · next content existed n hi =>
      cases outcome with
      | some failure =>
        obtain rfl := Option.some.inj hs
        apply h.setStage _ hi
        · rfl
        · rfl
        · intro hf
          cases failure.2 with
          | none => exact hf
          | some left => rfl
        · intro m hm
          cases hm
      | none =>
        obtain rfl := Option.some.inj hs
        have hzero : s.accepted = 0 := by
          dsimp only [guarded] at hg
          rw [hi] at hg
          have hn : s.accepted = n := by simpa using hg
          rw [hn]
          exact (h.checked _ (List.mem_of_getElem? hi) n rfl).2
        have hcount := accepted_setStage (s := { s with file := some content })
          (.answered (.ok savedResponse)) hi rfl
        refine ⟨?_, ?_, ?_, ?_⟩
        · rw [hcount]
          show s.accepted + 1 ≤ 1
          omega
        · exact fun _ => rfl
        · exact fun _ _ _ => rfl
        · intro upload hm m hn
          rcases mem_uploads_setStage hm with hm | rfl
          · exact h.checked upload hm m hn
          · cases hn
    · cases hs

theorem next_keepsExisting {a : UploadAction} (h : s.UploadInvariant) (hs : s.next a = some s') :
    UploadStep.KeepsExisting ⟨s, a, (), s'⟩ := by
  intro i outcome upload ha hi he
  dsimp only at ha hi
  subst ha
  dsimp only [next] at hs
  rw [hi] at hs
  split at hs
  · next content existed n hc =>
    obtain rfl := Option.some.inj hc
    have hnew := (h.checked _ (List.mem_of_getElem? hi) n rfl).1
    rw [hnew] at he
    cases he
  · cases hs

/-! ## Steps in a row -/

/-- The steps of upload `i`. -/
def uploadRound (content : String) (i : Nat) (found : Bool) (writeError : Option String) :
    List UploadAction :=
  [.arrive content, .check i false] ++
    if found then [] else [.write i (writeError.map fun e => (e, none))]

/-- One after the other, the steps of an upload are `saveUpload`. -/
theorem next_saveUpload (m : Moment) (agentId content : String) (server : ServerState)
    (hfile : server.configManager.files agentId = s.file) :
    ∃ response server', saveUpload m agentId content server = some (response, server') ∧
      (uploadRound content s.uploads.length s.file.isSome m.writeError).foldlM next s =
        some ⟨server'.configManager.files agentId,
          s.uploads ++ [⟨content, s.file.isSome, .answered response⟩]⟩ := by
  unfold saveUpload uploadRound
  rw [hfile]
  cases hf : s.file with
  | some old =>
    refine ⟨_, _, rfl, ?_⟩
    simp [next, setStage, existsResponse, hfile, hf]
  | none =>
    cases m.writeError with
    | some e =>
      refine ⟨_, _, rfl, ?_⟩
      simp [next, setStage, hfile, hf]
    | none =>
      refine ⟨_, _, rfl, ?_⟩
      simp [next, setStage, savedResponse, ConfigManager.writeFile, hf]

end UploadSystem

/-! ## Results -/

/-- **When uploads do not overwrite**: in a run whose steps are all guarded, one upload is accepted at
most, and no upload changes a file that was there when it arrived. -/
theorem uploads_of_guarded {file : Option String} {tr : List UploadStep} {s : UploadSystem}
    (hr : Run (uploadMachine file) tr s) (hg : ∀ t ∈ tr, t.pre.guarded t.label = true) :
    s.accepted ≤ 1 ∧ ∀ t ∈ tr, UploadStep.KeepsExisting t := by
  have hinit : (uploadMachine file).init.UploadInvariant := by
    refine ⟨Nat.zero_le 1, ?_, ?_, ?_⟩
    · intro hpos
      cases hpos
    · intro upload hm
      cases hm
    · intro upload hm
      cases hm
  have hstep : ∀ s a s' b, s.UploadInvariant → s.guarded a = true →
      (uploadMachine file).step s a = some (s', b) →
      s'.UploadInvariant ∧ UploadStep.KeepsExisting ⟨s, a, b, s'⟩ := by
    intro s a s' b h hga hs
    obtain ⟨s₁, hs₁, he⟩ := Option.map_eq_some_iff.1 hs
    obtain ⟨rfl, rfl⟩ := Prod.mk.inj he
    exact ⟨UploadSystem.next_invariant h hga hs₁, UploadSystem.next_keepsExisting h hs₁⟩
  obtain ⟨hinv, hkeeps⟩ := Run.guarded hinit hstep hr hg
  exact ⟨hinv.once, hkeeps⟩

/-! ## Two uploads at once -/

def inTurn : List UploadAction :=
  UploadSystem.uploadRound "first" 0 false none ++ UploadSystem.uploadRound "second" 1 true none

/-- Two uploads that both check before either writes. -/
def atOnce : List UploadAction :=
  [.arrive "first", .arrive "second", .check 0 false, .check 1 false, .write 0 none,
    .write 1 none]

theorem uploads_of_guarded_inTurn :
    ∃ tr s, Run (uploadMachine none) tr s ∧ s.file = some "first" ∧
      s.accepted ≤ 1 ∧ ∀ t ∈ tr, UploadStep.KeepsExisting t := by
  obtain ⟨tr, s, he, hr⟩ := Run.exists_of_exec (uploadMachine none) inTurn (by rfl)
  have hend : ((uploadMachine none).exec inTurn).map (fun r =>
      (r.2.file, r.1.all fun t => t.pre.guarded t.label)) = some (some "first", true) := by rfl
  rw [he] at hend
  obtain ⟨hfile, hg⟩ := Prod.mk.inj (Option.some.inj hend)
  exact ⟨tr, s, hr, hfile, uploads_of_guarded hr (List.all_eq_true.1 hg)⟩

/-- Both are accepted, and the second one overwrites the first. -/
theorem not_uploads_atOnce :
    ∃ tr s, Run (uploadMachine none) tr s ∧ s.accepted = 2 ∧ s.file = some "second" := by
  obtain ⟨tr, s, he, hr⟩ := Run.exists_of_exec (uploadMachine none) atOnce (by rfl)
  have hend : ((uploadMachine none).exec atOnce).map (fun r => (r.2.accepted, r.2.file)) =
      some (2, some "second") := by rfl
  rw [he] at hend
  obtain ⟨haccepted, hfile⟩ := Prod.mk.inj (Option.some.inj hend)
  exact ⟨tr, s, hr, haccepted, hfile⟩

end LinkSense
