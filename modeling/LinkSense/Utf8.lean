import Mathlib.Data.List.Basic
import Mathlib.Data.List.Induction

/-!
# Texts as bytes

UTF-8 as a function on lists: the bytes of a text, and the text of bytes that are valid.

    decode b = some s ↔ toUtf8 s = b                                     (decode_eq_some_iff)
    what is before or after an ASCII text in a text is a text itself
                                                       (utf8_eq_append, utf8_eq_append_left)
-/

namespace Utf8

def toUtf8 (s : List Char) : List UInt8 := s.flatMap String.utf8EncodeChar

/-- The text, unless the bytes are not valid. -/
def decode (b : List UInt8) : Option (List Char) :=
  b.toByteArray.utf8Decode?.map Array.toList

theorem utf8_cons (c : Char) (s : List Char) :
    toUtf8 (c :: s) = String.utf8EncodeChar c ++ toUtf8 s :=
  rfl

theorem utf8_append (a b : List Char) : toUtf8 (a ++ b) = toUtf8 a ++ toUtf8 b :=
  List.flatMap_append

theorem length_encodeChar_pos (c : Char) : 0 < (String.utf8EncodeChar c).length := by
  rw [String.length_utf8EncodeChar]
  exact c.utf8Size_pos

theorem toByteArray_utf8 (s : List Char) : (toUtf8 s).toByteArray = s.utf8Encode := rfl

theorem decode_utf8 (s : List Char) : decode (toUtf8 s) = some s := by
  rw [decode, toByteArray_utf8, List.utf8Decode?_utf8Encode]
  rfl

/-- **Bytes that are valid** are those of one text. -/
theorem decode_eq_some_iff {b : List UInt8} {s : List Char} : decode b = some s ↔ toUtf8 s = b := by
  constructor
  · intro h
    obtain ⟨chars, hchars, rfl⟩ := Option.map_eq_some_iff.1 h
    have hsome : b.toByteArray.utf8Decode?.isSome = true := by
      rw [hchars]
      rfl
    obtain ⟨l, hl⟩ := ByteArray.isSome_utf8Decode?_iff.1 hsome
    rw [hl, List.utf8Decode?_utf8Encode] at hchars
    obtain rfl := Option.some.inj hchars
    have := congrArg (fun a => a.data.toList) (hl.trans (toByteArray_utf8 l).symm)
    simpa using this.symm
  · rintro rfl
    exact decode_utf8 s

/-! ## ASCII -/

theorem encodeChar_of_lt {c : Char} (h : c.toNat < 128) :
    String.utf8EncodeChar c = [c.toNat.toUInt8] := by
  have hval : c.val.toNat ≤ 127 := by
    show c.toNat ≤ 127
    omega
  unfold String.utf8EncodeChar
  simp only [hval, if_true]
  rfl

theorem le_of_mem_encodeChar {c : Char} (h : 128 ≤ c.toNat) :
    ∀ b ∈ String.utf8EncodeChar c, 128 ≤ b.toNat := by
  have hval : ¬ c.val.toNat ≤ 127 := by
    show ¬ c.toNat ≤ 127
    omega
  unfold String.utf8EncodeChar
  simp only [hval, if_false]
  split
  · simp
    omega
  · split
    · simp
      omega
    · simp
      omega

/-- A character of ASCII is read back from a byte of its own. -/
theorem mem_encodeChar_iff {a c : Char} (ha : a.toNat < 128) :
    a.toNat.toUInt8 ∈ String.utf8EncodeChar c ↔ c = a := by
  have hbyte : a.toNat.toUInt8.toNat = a.toNat := by
    show a.toNat % 256 = a.toNat
    omega
  constructor
  · intro h
    by_cases hc : c.toNat < 128
    · rw [encodeChar_of_lt hc, List.mem_singleton] at h
      have := congrArg UInt8.toNat h
      have hc' : c.toNat.toUInt8.toNat = c.toNat := by
        show c.toNat % 256 = c.toNat
        omega
      rw [hbyte, hc'] at this
      exact (Char.toNat_inj.1 this).symm
    · have := le_of_mem_encodeChar (by omega) _ h
      omega
  · rintro rfl
    rw [encodeChar_of_lt ha]
    exact List.mem_singleton_self _

theorem mem_utf8_iff {a : Char} (ha : a.toNat < 128) {s : List Char} :
    a.toNat.toUInt8 ∈ toUtf8 s ↔ a ∈ s := by
  unfold toUtf8
  simp [mem_encodeChar_iff ha]

/-- Bytes after a text are a text when the whole is. -/
theorem utf8_eq_append {a : List Char} (ha : ∀ c ∈ a, c.toNat < 128) {s : List Char}
    {b : List UInt8} (h : toUtf8 s = toUtf8 a ++ b) : ∃ t, s = a ++ t ∧ toUtf8 t = b := by
  induction a generalizing s with
  | nil => exact ⟨s, rfl, h⟩
  | cons c a ih =>
    obtain ⟨hc, hrest⟩ := List.forall_mem_cons.1 ha
    rw [utf8_cons, encodeChar_of_lt hc] at h
    cases s with
    | nil => cases h
    | cons d s =>
      rw [utf8_cons] at h
      have hmem : c.toNat.toUInt8 ∈ String.utf8EncodeChar d := by
        cases hd : String.utf8EncodeChar d with
        | nil => exact absurd hd String.utf8EncodeChar_ne_nil
        | cons x xs =>
          rw [hd] at h
          rw [(List.cons.inj h).1]
          exact List.mem_cons_self
      obtain rfl := (mem_encodeChar_iff hc).1 hmem
      rw [encodeChar_of_lt hc] at h
      obtain ⟨t, rfl, ht⟩ := ih hrest (List.cons.inj h).2
      exact ⟨t, rfl, ht⟩

/-- Bytes before a text are a text when the whole is. -/
theorem utf8_eq_append_left {a : List Char} (ha : ∀ c ∈ a, c.toNat < 128) {s : List Char}
    {b : List UInt8} (h : toUtf8 s = b ++ toUtf8 a) : ∃ t, s = t ++ a ∧ toUtf8 t = b := by
  induction a using List.reverseRecOn generalizing s with
  | nil => exact ⟨s, (List.append_nil s).symm, by simpa [toUtf8] using h⟩
  | append_singleton a c ih =>
    rw [List.forall_mem_append, List.forall_mem_singleton] at ha
    obtain ⟨hrest, hc⟩ := ha
    rw [utf8_append, ← List.append_assoc] at h
    have hsingle : toUtf8 [c] = [c.toNat.toUInt8] := by
      rw [utf8_cons, encodeChar_of_lt hc]
      rfl
    cases s using List.reverseRecOn with
    | nil => simp [toUtf8] at h
    | append_singleton s d =>
      rw [utf8_append, hsingle] at h
      have hd : toUtf8 [d] = String.utf8EncodeChar d := by simp [toUtf8]
      have hmem : c.toNat.toUInt8 ∈ String.utf8EncodeChar d := by
        rw [hd] at h
        cases hx : String.utf8EncodeChar d using List.reverseRecOn with
        | nil => exact absurd hx String.utf8EncodeChar_ne_nil
        | append_singleton xs x =>
          rw [hx] at h
          have hlast : x = c.toNat.toUInt8 := by simpa using congrArg List.getLast? h
          rw [hlast]
          exact List.mem_append_right _ (List.mem_singleton_self _)
      obtain rfl := (mem_encodeChar_iff hc).1 hmem
      rw [hsingle] at h
      obtain ⟨t, rfl, ht⟩ := ih hrest (List.append_cancel_right h)
      exact ⟨t, List.append_assoc _ _ _, ht⟩

end Utf8
