import LinkSense.Scan

/-!
# Reading an HTTP request

The request that is in a text: a line with the method, the target and the version, a line for each
field, an empty line, and nothing after it.

    no carriage return in a line → it is read as one line               (splitCrlf_append)
-/

namespace Http

open Scan

structure Request where
  method : List Char
  target : List Char
  version : List Char
  fields : List (List Char × List Char)
deriving DecidableEq, Repr

/-! ## Reading -/

/-- The lines of a text; what is after the last line end is the last one. -/
def splitCrlf : List Char → List (List Char)
  | '\r' :: '\n' :: s => [] :: splitCrlf s
  | c :: s => (splitCrlf s).modifyHead (c :: ·)
  | [] => [[]]

def isBlank (c : Char) : Bool := c == ' ' || c == '\t'

def trimBlanks (s : List Char) : List Char :=
  ((s.dropWhile isBlank).reverse.dropWhile isBlank).reverse

/-- A character of a name. -/
def isTokenChar (c : Char) : Bool :=
  c.isAlphanum || "!#$%&'*+-.^_`|~".toList.contains c

def parseField (line : List Char) : Option (List Char × List Char) :=
  match cutFirst ':' line with
  | some (name, value) =>
    if name ≠ [] ∧ name.all isTokenChar then some (name, trimBlanks value) else none
  | none => none

def parseRequest (s : List Char) : Option Request :=
  match splitCrlf s with
  | [] => none
  | first :: lines =>
    match first.splitOn ' ', lines.dropWhile (· ≠ []) with
    | [method, target, version], [[], []] =>
      ((lines.takeWhile (· ≠ [])).mapM parseField).map (⟨method, target, version, ·⟩)
    | _, _ => none

/-- Names are the same in lower and upper case. -/
def sameName (a b : List Char) : Bool := a.map Char.toLower == b.map Char.toLower

/-- The values of the fields with this name. -/
def Request.values (r : Request) (name : List Char) : List (List Char) :=
  (r.fields.filter fun field => sameName field.1 name).map Prod.snd

/-- How often a field is there. -/
def Request.countField (r : Request) (name value : List Char) : Nat :=
  r.fields.countP fun field => sameName field.1 name && field.2 == value

/-! ## Lemmas -/

theorem splitCrlf_append {line : List Char} (h : '\r' ∉ line) (s : List Char) :
    splitCrlf (line ++ '\r' :: '\n' :: s) = line :: splitCrlf s := by
  induction line with
  | nil => rfl
  | cons c line ih =>
    rw [List.mem_cons, not_or] at h
    rw [List.cons_append, splitCrlf, ih h.2]
    · rfl
    · rintro _ rfl
      exact absurd rfl h.1

/-- A value without blanks is read as it is. -/
theorem trimBlanks_eq {s : List Char} (h : ∀ c ∈ s, isBlank c = false) :
    trimBlanks (' ' :: s) = s := by
  have hdrop : ∀ {s : List Char}, (∀ c ∈ s, isBlank c = false) → s.dropWhile isBlank = s := by
    intro s hs
    cases s with
    | nil => rfl
    | cons c s => rw [List.dropWhile_cons_of_neg (by simp [hs c List.mem_cons_self])]
  unfold trimBlanks
  rw [List.dropWhile_cons_of_pos (by decide), hdrop h,
    hdrop fun c hc => h c (List.mem_reverse.1 hc), List.reverse_reverse]

theorem countP_key_le_one {α β : Type*} [BEq β] [LawfulBEq β] {key : α → β} {l : List α}
    (h : (l.map key).Nodup) (k : β) (q : α → Bool) :
    l.countP (fun x => key x == k && q x) ≤ 1 := by
  induction l with
  | nil => simp
  | cons x l ih =>
    rw [List.map_cons, List.nodup_cons] at h
    rw [List.countP_cons]
    by_cases hx : key x = k
    · have hrest : l.countP (fun x => key x == k && q x) = 0 := by
        refine List.countP_eq_zero.2 fun y hy hk => h.1 ?_
        rw [hx, ← beq_iff_eq.1 (Bool.and_eq_true_iff.1 hk).1]
        exact List.mem_map_of_mem hy
      rw [hrest]
      split <;> omega
    · have := ih h.2
      simp [hx]
      omega

/-- A field of distinct names is there once or not at all. -/
theorem Request.countField_eq_one_iff {r : Request}
    (h : (r.fields.map fun field => field.1.map Char.toLower).Nodup) (name value : List Char) :
    r.countField name value = 1 ↔
      ∃ field ∈ r.fields, sameName field.1 name = true ∧ field.2 = value := by
  have hle : r.countField name value ≤ 1 :=
    countP_key_le_one h (name.map Char.toLower) fun field => field.2 == value
  have hpos : 0 < r.countField name value ↔
      ∃ field ∈ r.fields, sameName field.1 name = true ∧ field.2 = value := by
    unfold Request.countField
    rw [List.countP_pos_iff]
    simp
  rw [← hpos]
  omega

end Http
