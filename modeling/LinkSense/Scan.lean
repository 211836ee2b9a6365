import Mathlib.Algebra.Group.Nat.Defs
import Mathlib.Data.List.Basic
import Mathlib.Data.List.TakeWhile

/-!
# Scanning a text

A text is cut at the first or the last occurrence of a character, and a number is read from its
digits.

    c ∉ a → cutFirst c (a ++ c :: b) = some (a, b)                          (cutFirst_append)
    c ∉ b → cutLast c (a ++ c :: b) = some (a, b)                            (cutLast_append)
-/

namespace Scan

/-! ## Cutting -/

/-- Before and after the first `c`. -/
def cutFirst (c : Char) : List Char → Option (List Char × List Char)
  | [] => none
  | d :: s => if d = c then some ([], s) else (cutFirst c s).map fun p => (d :: p.1, p.2)

/-- Before and after the last `c`. -/
def cutLast (c : Char) : List Char → Option (List Char × List Char)
  | [] => none
  | d :: s =>
    match cutLast c s with
    | some p => some (d :: p.1, p.2)
    | none => if d = c then some ([], s) else none

theorem cutFirst_append {c : Char} {a : List Char} (h : c ∉ a) (b : List Char) :
    cutFirst c (a ++ c :: b) = some (a, b) := by
  induction a with
  | nil => simp [cutFirst]
  | cons d a ih =>
    rw [List.mem_cons, not_or] at h
    rw [List.cons_append, cutFirst, if_neg (Ne.symm h.1), ih h.2]
    rfl

theorem cutFirst_eq_none {c : Char} {s : List Char} (h : c ∉ s) : cutFirst c s = none := by
  induction s with
  | nil => rfl
  | cons d s ih =>
    rw [List.mem_cons, not_or] at h
    rw [cutFirst, if_neg (Ne.symm h.1), ih h.2]
    rfl

/-- Where a character is, there is a first. -/
theorem exists_first {c : Char} {s : List Char} (h : c ∈ s) : ∃ a b, s = a ++ c :: b ∧ c ∉ a := by
  induction s with
  | nil => cases h
  | cons d s ih =>
    by_cases hd : d = c
    · exact ⟨[], s, by rw [hd]; rfl, by simp⟩
    · obtain ⟨a, b, rfl, ha⟩ := ih ((List.mem_cons.1 h).resolve_left (Ne.symm hd))
      refine ⟨d :: a, b, rfl, ?_⟩
      simp [ha, Ne.symm hd]

theorem cutFirst_eq_some {c : Char} {s a b : List Char} (h : cutFirst c s = some (a, b)) :
    s = a ++ c :: b := by
  by_cases hmem : c ∈ s
  · obtain ⟨x, y, rfl, hx⟩ := exists_first hmem
    rw [cutFirst_append hx] at h
    obtain ⟨rfl, rfl⟩ := Prod.mk.inj (Option.some.inj h)
    rfl
  · rw [cutFirst_eq_none hmem] at h
    cases h

theorem cutLast_eq_none {c : Char} {s : List Char} : cutLast c s = none ↔ c ∉ s := by
  induction s with
  | nil => simp [cutLast]
  | cons d s ih =>
    rw [List.mem_cons, not_or, ← ih, cutLast]
    cases hs : cutLast c s with
    | some p => simp
    | none => simp [eq_comm]

theorem cutLast_append {c : Char} (a : List Char) {b : List Char} (h : c ∉ b) :
    cutLast c (a ++ c :: b) = some (a, b) := by
  induction a with
  | nil => simp [cutLast, cutLast_eq_none.2 h]
  | cons d a ih =>
    rw [List.cons_append, cutLast, ih]

/-- What is before does not matter where it occurs behind. -/
theorem exists_cutLast_append {c : Char} {b : List Char} (h : c ∈ b) (a : List Char) :
    ∃ x y, cutLast c (a ++ b) = some (a ++ x, y) ∧ y.length < b.length := by
  have hb : ∃ x y, cutLast c b = some (x, y) ∧ y.length < b.length := by
    induction b with
    | nil => cases h
    | cons d b ih =>
      by_cases hmem : c ∈ b
      · obtain ⟨x, y, hxy, hy⟩ := ih hmem
        refine ⟨d :: x, y, ?_, ?_⟩
        · rw [cutLast, hxy]
        · rw [List.length_cons]
          omega
      · obtain rfl : c = d := (List.mem_cons.1 h).resolve_right hmem
        refine ⟨[], b, ?_, by simp⟩
        simp [cutLast, cutLast_eq_none.2 hmem]
  induction a with
  | nil => exact hb
  | cons d a ih =>
    obtain ⟨x, y, hxy, hy⟩ := ih
    refine ⟨x, y, ?_, hy⟩
    rw [List.cons_append, cutLast, hxy]
    rfl

/-! ## Splitting -/

/-- What holds of a separator and of the parts holds of the whole. -/
theorem forall_mem_of_splitOn {p : Char → Prop} {x : Char} {s : List Char} (hx : p x)
    (h : ∀ w ∈ s.splitOn x, ∀ c ∈ w, p c) : ∀ c ∈ s, p c := by
  have hjoin : ∀ l : List (List Char), (∀ w ∈ l, ∀ c ∈ w, p c) → ∀ c ∈ [x].intercalate l, p c := by
    intro l
    induction l with
    | nil => simp
    | cons w l ih =>
      intro hl
      rw [List.forall_mem_cons] at hl
      cases l with
      | nil => simpa using hl.1
      | cons v l =>
        rw [List.intercalate_cons_cons, List.forall_mem_append, List.forall_mem_append]
        exact ⟨⟨hl.1, by simpa using hx⟩, ih hl.2⟩
  have := hjoin (s.splitOn x) h
  rwa [List.intercalate_splitOn] at this

theorem length_splitOn_le (x : Char) (s : List Char) : (s.splitOn x).length ≤ s.count x + 1 := by
  have hjoin : ∀ l : List (List Char), l.length ≤ ([x].intercalate l).count x + 1 := by
    intro l
    induction l with
    | nil => simp
    | cons w l ih =>
      cases l with
      | nil => simp
      | cons v l =>
        rw [List.intercalate_cons_cons, List.count_append, List.count_append, List.length_cons]
        simp only [List.count_singleton_self]
        omega
  have := hjoin (s.splitOn x)
  rwa [List.intercalate_splitOn] at this

/-- The parts of a text are without the separator. -/
theorem mem_of_mem_splitOn {x : Char} {s w : List Char} (hw : w ∈ s.splitOn x) {c : Char}
    (hc : c ∈ w) : c ∈ s ∧ c ≠ x := by
  induction s generalizing w with
  | nil =>
    rw [List.splitOn_nil, List.mem_singleton] at hw
    rw [hw] at hc
    cases hc
  | cons d s ih =>
    rw [List.splitOn_cons_eq_if_modifyHead] at hw
    split at hw
    · rcases List.mem_cons.1 hw with rfl | hw
      · cases hc
      · exact ⟨List.mem_cons_of_mem _ (ih hw hc).1, (ih hw hc).2⟩
    · next hd =>
      cases hparts : s.splitOn x with
      | nil => exact absurd hparts (List.splitOn_ne_nil x s)
      | cons v parts =>
        rw [hparts, List.modifyHead_cons, List.mem_cons] at hw
        rw [hparts] at ih
        rcases hw with rfl | hw
        · rcases List.mem_cons.1 hc with rfl | hc
          · exact ⟨List.mem_cons_self, by simpa using hd⟩
          · exact ⟨List.mem_cons_of_mem _ (ih List.mem_cons_self hc).1,
              (ih List.mem_cons_self hc).2⟩
        · exact ⟨List.mem_cons_of_mem _ (ih (List.mem_cons_of_mem _ hw) hc).1,
            (ih (List.mem_cons_of_mem _ hw) hc).2⟩

/-! ## Digits -/

def isHexDigit (c : Char) : Bool :=
  c.isDigit || ('a' ≤ c && c ≤ 'f') || ('A' ≤ c && c ≤ 'F')

def hexDigit (c : Char) : Nat :=
  if c.isDigit then c.toNat - '0'.toNat
  else if 'a' ≤ c then c.toNat - 'a'.toNat + 10
  else c.toNat - 'A'.toNat + 10

def decimal (s : List Char) : Nat := s.foldl (fun n c => 10 * n + (c.toNat - '0'.toNat)) 0

def hexadecimal (s : List Char) : Nat := s.foldl (fun n c => 16 * n + hexDigit c) 0

/-- `char::to_digit`, for a radix of at most 16. -/
def toDigit (radix : Nat) (c : Char) : Option Nat :=
  if isHexDigit c ∧ hexDigit c < radix then some (hexDigit c) else none

def readDigits (radix n : Nat) : List Char → Except String Nat
  | [] => .ok n
  | c :: s =>
    match toDigit radix c with
    | none => .error "invalid digit found in string"
    | some d =>
      if radix * n + d < 2 ^ 64 then readDigits radix (radix * n + d) s
      else .error "number too large to fit in target type"

/-- `usize::from_str_radix`. -/
def fromStrRadix (radix : Nat) : List Char → Except String Nat
  | [] => .error "cannot parse integer from empty string"
  | ['+'] => .error "invalid digit found in string"
  | '+' :: s => readDigits radix 0 s
  | s => readDigits radix 0 s

/-- The number that digits are. -/
def number (radix : Nat) (s : List Char) : Nat := s.foldl (fun n c => radix * n + hexDigit c) 0

theorem le_foldl_digits {radix : Nat} (h : 0 < radix) (s : List Char) (n : Nat) :
    n ≤ s.foldl (fun n c => radix * n + hexDigit c) n := by
  induction s generalizing n with
  | nil => exact Nat.le_refl n
  | cons c s ih =>
    calc n ≤ radix * n := Nat.le_mul_of_pos_left n h
      _ ≤ radix * n + hexDigit c := Nat.le_add_right _ _
      _ ≤ _ := ih _

/-- Digits are read as their number, which has to fit. -/
theorem readDigits_eq {radix : Nat} (h : 0 < radix) {s : List Char}
    (hs : ∀ c ∈ s, isHexDigit c = true ∧ hexDigit c < radix) {n : Nat} (hn : n < 2 ^ 64) :
    readDigits radix n s =
      if s.foldl (fun n c => radix * n + hexDigit c) n < 2 ^ 64 then
        .ok (s.foldl (fun n c => radix * n + hexDigit c) n)
      else .error "number too large to fit in target type" := by
  induction s generalizing n with
  | nil => rw [List.foldl_nil, if_pos hn, readDigits]
  | cons c s ih =>
    obtain ⟨hc, hrest⟩ := List.forall_mem_cons.1 hs
    rw [readDigits, toDigit, if_pos hc, List.foldl_cons]
    by_cases hfit : radix * n + hexDigit c < 2 ^ 64
    · rw [← ih hrest hfit]
      simp only [if_pos hfit]
    · have := le_foldl_digits h s (radix * n + hexDigit c)
      rw [if_neg (by omega)]
      simp only [if_neg hfit]

theorem fromStrRadix_eq {radix : Nat} (h : 0 < radix) {s : List Char} (hne : s ≠ [])
    (hs : ∀ c ∈ s, isHexDigit c = true ∧ hexDigit c < radix) :
    fromStrRadix radix s =
      if number radix s < 2 ^ 64 then .ok (number radix s)
      else .error "number too large to fit in target type" := by
  have hplus : ∀ t, s ≠ '+' :: t := by
    rintro t rfl
    exact absurd (hs '+' List.mem_cons_self).1 (by decide)
  unfold fromStrRadix number
  split
  · exact absurd rfl hne
  · exact absurd rfl (hplus [])
  · exact absurd rfl (hplus _)
  · exact readDigits_eq h hs (by decide)

/-- What is read has no character but digits, and a sign. -/
theorem toDigit_isSome_of_readDigits {radix n m : Nat} {s : List Char}
    (h : readDigits radix n s = .ok m) : ∀ c ∈ s, (toDigit radix c).isSome = true := by
  induction s generalizing n with
  | nil => simp
  | cons c s ih =>
    rw [readDigits] at h
    split at h
    · cases h
    · next hd =>
      split_ifs at h with hfit
      exact List.forall_mem_cons.2 ⟨by rw [hd]; rfl, ih h⟩

theorem toDigit_isSome_of_fromStrRadix {radix m : Nat} {s : List Char}
    (h : fromStrRadix radix s = .ok m) : ∀ c ∈ s, c ≠ '+' → (toDigit radix c).isSome = true := by
  unfold fromStrRadix at h
  split at h
  · cases h
  · cases h
  · intro c hc hplus
    exact toDigit_isSome_of_readDigits h c ((List.mem_cons.1 hc).resolve_left hplus)
  · exact fun c hc _ => toDigit_isSome_of_readDigits h c hc

theorem toNat_of_isHexDigit {c : Char} (h : isHexDigit c = true) :
    48 ≤ c.toNat ∧ c.toNat ≤ 57 ∨ 97 ≤ c.toNat ∧ c.toNat ≤ 102 ∨ 65 ≤ c.toNat ∧ c.toNat ≤ 70 := by
  simp only [isHexDigit, Char.isDigit, Bool.or_eq_true, Bool.and_eq_true, decide_eq_true_eq,
    ge_iff_le, Char.le_def, UInt32.le_iff_toNat_le] at h
  change ((48 ≤ c.toNat ∧ c.toNat ≤ 57) ∨ (97 ≤ c.toNat ∧ c.toNat ≤ 102)) ∨
    (65 ≤ c.toNat ∧ c.toNat ≤ 70) at h
  omega

theorem hexDigit_lt {c : Char} (h : isHexDigit c = true) : hexDigit c < 16 := by
  have hzero : '0'.toNat = 48 := by decide
  have ha : 'a'.toNat = 97 := by decide
  have hA : 'A'.toNat = 65 := by decide
  have hrange := toNat_of_isHexDigit h
  unfold hexDigit
  rw [hzero, ha, hA]
  split
  · next hdigit =>
    simp only [Char.isDigit, Bool.and_eq_true, decide_eq_true_eq, ge_iff_le,
      UInt32.le_iff_toNat_le] at hdigit
    change 48 ≤ c.toNat ∧ c.toNat ≤ 57 at hdigit
    omega
  · split
    · next hlower =>
      have : 97 ≤ c.toNat := UInt32.le_iff_toNat_le.1 (Char.le_def.1 hlower)
      omega
    · next hlower =>
      have : ¬ 97 ≤ c.toNat := fun hle => hlower (Char.le_def.2 (UInt32.le_iff_toNat_le.2 hle))
      omega

/-! ## White space -/

/-- `White_Space` of Unicode. -/
def isWhiteSpace (c : Char) : Bool :=
  (9 ≤ c.toNat && c.toNat ≤ 13) || (0x2000 ≤ c.toNat && c.toNat ≤ 0x200A) ||
    [0x20, 0x85, 0xA0, 0x1680, 0x2028, 0x2029, 0x202F, 0x205F, 0x3000].contains c.toNat

/-- `str::trim`. -/
def trim (s : List Char) : List Char :=
  ((s.dropWhile isWhiteSpace).reverse.dropWhile isWhiteSpace).reverse

/-- `split_whitespace().nth(1)`. -/
def secondWord (s : List Char) : Option (List Char) :=
  let behindFirst := (s.dropWhile isWhiteSpace).dropWhile fun c => !isWhiteSpace c
  let word := (behindFirst.dropWhile isWhiteSpace).takeWhile fun c => !isWhiteSpace c
  if word = [] then none else some word

/-- The line without a carriage return at its end. -/
def stripReturn (line : List Char) : List Char :=
  if line.getLast? = some '\r' then line.dropLast else line

/-- `str::lines`. -/
def lines (s : List Char) : List (List Char) :=
  let parts := s.splitOn '\n'
  parts.dropLast.map stripReturn ++ parts.getLast?.toList.filter (· ≠ [])

/-- What is between white space is left. -/
theorem trim_append {a s b : List Char} (ha : ∀ c ∈ a, isWhiteSpace c = true)
    (hs : ∀ c ∈ s, isWhiteSpace c = false) (hb : ∀ c ∈ b, isWhiteSpace c = true) :
    trim (a ++ s ++ b) = s := by
  have hdrop : ∀ {x y z : List Char}, (∀ c ∈ x, isWhiteSpace c = true) →
      (∀ c ∈ y, isWhiteSpace c = false) → y ≠ [] →
      (x ++ (y ++ z)).dropWhile isWhiteSpace = y ++ z := by
    intro x y z hx hy hne
    rw [List.dropWhile_append_of_pos hx]
    cases y with
    | nil => exact absurd rfl hne
    | cons c y => rw [List.cons_append, List.dropWhile_cons_of_neg (by simp [hy c])]
  unfold trim
  by_cases hne : s = []
  · have hall : (a ++ s ++ b).dropWhile isWhiteSpace = [] := by
      rw [hne, List.append_nil, List.dropWhile_eq_nil_iff]
      intro c hc
      exact (List.mem_append.1 hc).elim (ha c) (hb c)
    rw [hall, hne]
    rfl
  · rw [List.append_assoc, hdrop ha hs hne, List.reverse_append]
    have := hdrop (x := b.reverse) (y := s.reverse) (z := [])
      (fun c hc => hb c (List.mem_reverse.1 hc)) (fun c hc => hs c (List.mem_reverse.1 hc))
      (by simpa using hne)
    rw [List.append_nil] at this
    rw [this, List.reverse_reverse]

/-- What is no white space is left. -/
theorem mem_trim {c : Char} {s : List Char} (hc : c ∈ s) (hwhite : isWhiteSpace c = false) :
    c ∈ trim s := by
  have hdrop : ∀ {t : List Char}, c ∈ t → c ∈ t.dropWhile isWhiteSpace := by
    intro t ht
    rw [← List.takeWhile_append_dropWhile (p := isWhiteSpace) (l := t)] at ht
    refine (List.mem_append.1 ht).resolve_left fun h => ?_
    rw [List.mem_takeWhile_imp h] at hwhite
    cases hwhite
  exact List.mem_reverse.2 (hdrop (List.mem_reverse.2 (hdrop hc)))

theorem secondWord_append {first second : List Char} (hfirst : ∀ c ∈ first, isWhiteSpace c = false)
    (hne : first ≠ []) (hsecond : ∀ c ∈ second, isWhiteSpace c = false) (hne' : second ≠ [])
    (s : List Char) : secondWord (first ++ ' ' :: (second ++ ' ' :: s)) = some second := by
  have hspace : isWhiteSpace ' ' = true := by decide
  have hstart : ∀ {w rest : List Char}, (∀ c ∈ w, isWhiteSpace c = false) → w ≠ [] →
      (w ++ rest).dropWhile isWhiteSpace = w ++ rest := by
    intro w rest hw hne
    cases w with
    | nil => exact absurd rfl hne
    | cons c w => rw [List.cons_append, List.dropWhile_cons_of_neg (by simp [hw c])]
  have hbehind : ((first ++ ' ' :: (second ++ ' ' :: s)).dropWhile isWhiteSpace).dropWhile
      (fun c => !isWhiteSpace c) = ' ' :: (second ++ ' ' :: s) := by
    rw [hstart hfirst hne, List.dropWhile_append_of_pos (by simpa using hfirst),
      List.dropWhile_cons_of_neg (by simp [hspace])]
  unfold secondWord
  simp only [hbehind]
  rw [List.dropWhile_cons_of_pos hspace, hstart hsecond hne',
    List.takeWhile_append_of_pos (by simpa using hsecond),
    List.takeWhile_cons_of_neg (by simp [hspace]), List.append_nil, if_neg hne']

/-- A line is split off with its end. -/
theorem lines_append {line : List Char} (h : '\n' ∉ line) (s : List Char) :
    lines (line ++ '\r' :: '\n' :: s) = line :: lines s := by
  have hparts : (line ++ '\r' :: '\n' :: s).splitOn '\n' = (line ++ ['\r']) :: s.splitOn '\n' := by
    rw [← List.splitOn_append_cons_self_of_not_mem (by simp [h])]
    simp
  obtain ⟨part, parts, hs⟩ := List.exists_cons_of_ne_nil (List.splitOn_ne_nil '\n' s)
  unfold lines
  rw [hparts, hs]
  simp only [List.dropLast_cons_cons, List.map_cons, List.cons_append, List.getLast?_cons_cons]
  rw [stripReturn, List.getLast?_concat, if_pos rfl, List.dropLast_concat]

end Scan
