import LinkSense.Utf8

/-!
# Reading a stream

A stream has its bytes, and after them its end or an error.  It is read by lines, or by a number of
bytes.

    a line is read ↔ the stream begins with it, and it is whole        (readLine_eq_iff)
-/

namespace ByteReader

open Utf8

/-- Up to the first line feed, which is in the line, and what is after it. -/
def cutLine : List UInt8 → List UInt8 × List UInt8
  | [] => ([], [])
  | b :: s => if b = 10 then ([b], s) else (b :: (cutLine s).1, (cutLine s).2)

structure LineRead where
  /-- The bytes of the line, also when it is not a text. -/
  size : Nat
  text : Except String (List Char)
  rest : List UInt8

/-- `read_line`, where the stream ends after its bytes or `fails` then. -/
def readLine (fails : Option String) (s : List UInt8) : LineRead where
  size := (cutLine s).1.length
  text :=
    match if (cutLine s).1.getLast? = some 10 then none else fails with
    | some e => .error e
    | none =>
      match decode (cutLine s).1 with
      | some text => .ok text
      | none => .error "stream did not contain valid UTF-8"
  rest := (cutLine s).2

/-- `read_exact`. -/
def readExact (fails : Option String) (n : Nat) (s : List UInt8) : Except String (List UInt8) :=
  if n ≤ s.length then .ok (s.drop n) else .error (fails.getD "early eof")

def WholeLine (text : List Char) : Prop := ∃ init, text = init ++ ['\n'] ∧ '\n' ∉ init

/-- A line that ends here, or where the stream does. -/
def IsLine (fails : Option String) (text : List Char) (rest : List UInt8) : Prop :=
  WholeLine text ∨ '\n' ∉ text ∧ rest = [] ∧ fails = none

/-! ## Lines of bytes -/

theorem cutLine_append (s : List UInt8) : (cutLine s).1 ++ (cutLine s).2 = s := by
  induction s with
  | nil => rfl
  | cons b s ih =>
    rw [cutLine]
    split
    · rfl
    · rw [List.cons_append, ih]

theorem length_cutLine (s : List UInt8) :
    (cutLine s).1.length + (cutLine s).2.length = s.length := by
  rw [← List.length_append, cutLine_append]

theorem cutLine_of_not_mem {s : List UInt8} (h : 10 ∉ s) : cutLine s = (s, []) := by
  induction s with
  | nil => rfl
  | cons b s ih =>
    rw [List.mem_cons, not_or] at h
    rw [cutLine, if_neg (Ne.symm h.1), ih h.2]

theorem cutLine_of_mem {a : List UInt8} (h : 10 ∉ a) (b : List UInt8) :
    cutLine (a ++ 10 :: b) = (a ++ [10], b) := by
  induction a with
  | nil => rfl
  | cons d a ih =>
    rw [List.mem_cons, not_or] at h
    rw [List.cons_append, cutLine, if_neg (Ne.symm h.1), ih h.2]
    rfl

/-- A line is what is before the first line feed, or all there is. -/
theorem cutLine_cases (s : List UInt8) :
    (∃ init, (cutLine s).1 = init ++ [10] ∧ 10 ∉ init) ∨
      10 ∉ (cutLine s).1 ∧ (cutLine s).2 = [] := by
  induction s with
  | nil => exact .inr ⟨List.not_mem_nil, rfl⟩
  | cons b s ih =>
    rw [cutLine]
    split
    · next hb => exact .inl ⟨[], by rw [hb]; rfl, List.not_mem_nil⟩
    · next hb =>
      rcases ih with ⟨init, hline, hinit⟩ | ⟨hline, hrest⟩
      · refine .inl ⟨b :: init, by rw [hline]; rfl, ?_⟩
        simp [hinit, Ne.symm hb]
      · refine .inr ⟨?_, hrest⟩
        simp [hline, Ne.symm hb]

/-! ## Lines of text -/

theorem newline_mem_utf8 {s : List Char} : 10 ∈ toUtf8 s ↔ '\n' ∈ s :=
  mem_utf8_iff (a := '\n') (by decide)

theorem utf8_newline (init : List Char) : toUtf8 (init ++ ['\n']) = toUtf8 init ++ [10] :=
  utf8_append _ _

/-- A line in front of a stream is cut from it. -/
theorem cutLine_utf8 {fails : Option String} {text : List Char} {rest : List UInt8}
    (h : IsLine fails text rest) : cutLine (toUtf8 text ++ rest) = (toUtf8 text, rest) := by
  rcases h with ⟨init, rfl, hinit⟩ | ⟨htext, rfl, -⟩
  · rw [utf8_newline, List.append_assoc, List.singleton_append,
      cutLine_of_mem (newline_mem_utf8.not.2 hinit)]
  · rw [List.append_nil, cutLine_of_not_mem (newline_mem_utf8.not.2 htext)]

theorem utf8_inj {s t : List Char} : toUtf8 s = toUtf8 t ↔ s = t := by
  constructor
  · intro h
    rw [← decode_eq_some_iff, decode_utf8] at h
    exact (Option.some.inj h).symm
  · exact congrArg toUtf8

theorem utf8_nil : toUtf8 [] = [] := rfl

/-- A stream begins with one line. -/
theorem IsLine.unique {fails : Option String} {text text' : List Char} {rest rest' : List UInt8}
    (h : IsLine fails text rest) (h' : IsLine fails text' rest')
    (heq : toUtf8 text ++ rest = toUtf8 text' ++ rest') : text = text' ∧ rest = rest' := by
  have hcut := cutLine_utf8 h
  rw [heq, cutLine_utf8 h'] at hcut
  obtain ⟨htext, hrest⟩ := Prod.mk.inj hcut
  exact ⟨(utf8_inj.1 htext).symm, hrest.symm⟩

/-- **A line is read** where the stream begins with it. -/
theorem readLine_eq_iff {fails : Option String} {s rest : List UInt8} {text : List Char} :
    readLine fails s = ⟨(toUtf8 text).length, .ok text, rest⟩ ↔
      s = toUtf8 text ++ rest ∧ IsLine fails text rest := by
  constructor
  · intro h
    obtain ⟨-, htext, hrest⟩ := LineRead.mk.inj h
    split at htext
    · cases htext
    · next hend =>
      split at htext
      · next hdecode =>
        obtain rfl := Except.ok.inj htext
        have hline := decode_eq_some_iff.1 hdecode
        refine ⟨by rw [hline, ← hrest, cutLine_append], ?_⟩
        rcases cutLine_cases s with ⟨init, hcut, hinit⟩ | ⟨hcut, hnil⟩
        · rw [hcut] at hline
          obtain ⟨t, rfl, ht⟩ := utf8_eq_append_left (a := ['\n'])
            (List.forall_mem_singleton.2 (by decide)) hline
          refine .inl ⟨t, rfl, ?_⟩
          rwa [← newline_mem_utf8, ht]
        · refine .inr ⟨?_, hrest.symm.trans hnil, ?_⟩
          · rwa [← newline_mem_utf8, hline]
          · rwa [if_neg] at hend
            exact fun hlast => hcut (List.mem_of_getLast? hlast)
      · cases htext
  · rintro ⟨rfl, h⟩
    have hcut := cutLine_utf8 h
    have hend : (if (toUtf8 text).getLast? = some 10 then none else fails) = none := by
      rcases h with ⟨init, rfl, -⟩ | ⟨-, -, rfl⟩
      · rw [utf8_newline, List.getLast?_concat, if_pos rfl]
      · exact ite_self none
    unfold readLine
    rw [hcut]
    simp only [hend, decode_utf8]

/-- What is read as a line is one. -/
theorem readLine_of_text {fails : Option String} {s : List UInt8} {text : List Char}
    (h : (readLine fails s).text = .ok text) :
    s = toUtf8 text ++ (readLine fails s).rest ∧ IsLine fails text (readLine fails s).rest ∧
      (readLine fails s).size = (toUtf8 text).length := by
  have hsize : (readLine fails s).size = (toUtf8 text).length := by
    have h' := h
    unfold readLine at h' ⊢
    simp only at h' ⊢
    split at h'
    · cases h'
    · split at h'
      · next hdecode => rw [← decode_eq_some_iff.1 hdecode, Except.ok.inj h']
      · cases h'
  obtain ⟨hs, hline⟩ := readLine_eq_iff.1
    (show readLine fails s = ⟨(toUtf8 text).length, .ok text, (readLine fails s).rest⟩ by
      rw [← hsize, ← h])
  exact ⟨hs, hline, hsize⟩

/-- A line in front of a stream is what is read. -/
theorem IsLine.readLine_text {fails : Option String} {text : List Char} {rest : List UInt8}
    (h : IsLine fails text rest) :
    (readLine fails (toUtf8 text ++ rest)).text = .ok text ∧
      (readLine fails (toUtf8 text ++ rest)).rest = rest := by
  rw [readLine_eq_iff.2 ⟨rfl, h⟩]
  exact ⟨rfl, rfl⟩

theorem length_rest_readLine (fails : Option String) (s : List UInt8) :
    (readLine fails s).size + (readLine fails s).rest.length = s.length :=
  length_cutLine s

end ByteReader
