import LinkSense.Agent.HttpChunks
import LinkSense.Agent.HttpHeader

/-!
# The limits of the reader

What is buffered of a header and read of a body, and whether a sum is more than a `usize`, for any
bytes that a server sends.

    the limits hold ↔ no line runs over the limit of the header, no size of a chunk over `usize`,
      and what is read to its end is in the limit of the body               (withinLimits_iff)
-/

namespace LinkSense

open ByteReader Utf8 Scan

/-! ## What a stream must be like -/

structure WithinLimits (d : ContentDownload) : Prop where
  header : d.headerBuffered ≤ maxHeaderSize
  body : d.bodyConsumed ≤ maxBodySize
  sums : d.overflowed = false

/-! ## The body -/

theorem overflowed_readToEnd (c : Connection) (i total : Nat) (s : List UInt8) :
    (readToEnd c i total s).overflowed = false := by
  fun_induction readToEnd c i total s with
  | case1 i total hend => rfl
  | case2 i total e hend => rfl
  | case3 i total s hs n hexceeds => rfl
  | case4 i total s hs n hfit body ih => exact ih

/-- What is read to its end is in the limit when its length is. -/
theorem consumed_readToEnd_le_iff {c : Connection} {i total : Nat} {s : List UInt8}
    (htotal : total ≤ maxBodySize) :
    total + (readToEnd c i total s).consumed ≤ maxBodySize ↔ total + s.length ≤ maxBodySize := by
  fun_induction readToEnd c i total s with
  | case1 i total hend => exact Iff.rfl
  | case2 i total e hend => exact Iff.rfl
  | case3 i total s hs n hexceeds =>
    have hread : n ≤ s.length := (read_le c i hs).2.1
    show total + n ≤ maxBodySize ↔ _
    omega
  | case4 i total s hs n hfit body ih =>
    have hread : n ≤ s.length := (read_le c i hs).2.1
    have hrest := ih (by omega)
    rw [List.length_drop] at hrest
    show total + (n + body.consumed) ≤ maxBodySize ↔ _
    rw [show total + s.length = total + n + (s.length - n) by omega, ← hrest, Nat.add_assoc]

theorem drain_le (c : Connection) (i : Nat) {total : Nat} (s : List UInt8)
    (htotal : total ≤ maxDiscard + 8192) : drain c i total s ≤ maxDiscard + 8192 := by
  fun_induction drain c i total s with
  | case1 i total => exact htotal
  | case2 i total s hs hmore ih =>
    have hread := (read_le c i hs).2.2
    exact ih (by omega)
  | case3 i total s hs hmore => exact htotal

theorem headerBuffered_eq (c : Connection) (firstByte : UInt8) :
    (getContentDownloadTiming c firstByte).headerBuffered =
      (readHeader c.fails [Char.ofNat firstByte.toNat] c.bytes).buffered := by
  unfold getContentDownloadTiming
  simp only
  split
  · rfl
  · split
    · rfl
    · split <;> rfl

theorem readBody_within_iff {c : Connection} {n : Nat} {chunked : Bool} {s : List UInt8}
    (hn : n ≤ maxBodySize) :
    ((readBody c n chunked s).consumed ≤ maxBodySize ∧
        (readBody c n chunked s).overflowed = false) ↔
      (n = 0 → (chunked = true → ChunksFit c.fails 0 s) ∧
        (chunked = false → s.length ≤ maxBodySize)) := by
  unfold readBody
  by_cases hpos : n > 0
  · rw [if_pos hpos]
    refine ⟨fun _ h => by omega, fun _ => ⟨?_, rfl⟩⟩
    show min n s.length ≤ maxBodySize
    omega
  · rw [if_neg hpos]
    obtain rfl : n = 0 := by omega
    cases chunked with
    | true =>
      have hfit := overflowed_readChunks_iff c.fails s (Nat.zero_le maxBodySize)
      simp only [if_true, forall_const, Bool.true_eq_false, false_imp_iff, and_true]
      rw [← hfit]
      refine ⟨And.right, fun h => ⟨?_, h⟩⟩
      have := consumed_readChunks_le (Nat.zero_le maxBodySize) h
      rwa [Nat.zero_add] at this
    | false =>
      have hlength := consumed_readToEnd_le_iff (c := c) (i := 0) (s := s) (Nat.zero_le maxBodySize)
      rw [Nat.zero_add, Nat.zero_add] at hlength
      simp only [Bool.false_eq_true, if_false, forall_const, false_imp_iff, true_and]
      rw [← hlength]
      exact and_iff_left (overflowed_readToEnd c 0 0 s)

/-- The limits of the body, once there is a header. -/
theorem body_within_iff (c : Connection) (firstByte : UInt8) :
    ((getContentDownloadTiming c firstByte).bodyConsumed ≤ maxBodySize ∧
      (getContentDownloadTiming c firstByte).overflowed = false) ↔
    ∀ header rest,
      (readHeader c.fails [Char.ofNat firstByte.toNat] c.bytes).result = .ok (header, rest) →
      (statusCode header).isSome → (contentLength header).getD 0 = 0 →
      (isChunked header = true → ChunksFit c.fails 0 rest) ∧
      (isChunked header = false → rest.length ≤ maxBodySize) := by
  unfold getContentDownloadTiming
  simp only
  split
  · next e herror =>
    refine ⟨fun _ header rest h => ?_, fun _ => ⟨Nat.zero_le _, rfl⟩⟩
    rw [herror] at h
    cases h
  · next text rest hheader =>
    simp only [hheader, Except.ok.injEq, Prod.mk.injEq]
    split
    · next hstatus =>
      refine ⟨?_, fun _ => ⟨?_, rfl⟩⟩
      · rintro - header rest ⟨rfl, rfl⟩ hsome
        rw [hstatus] at hsome
        cases hsome
      · exact (drain_le c 0 rest (Nat.zero_le _)).trans (by decide)
    · next status hstatus =>
      split
      · next hlength =>
        refine ⟨?_, fun _ => ⟨Nat.zero_le _, rfl⟩⟩
        rintro - header rest ⟨rfl, rfl⟩ - hzero
        omega
      · next hlength =>
        refine (readBody_within_iff (by omega)).trans ⟨?_, ?_⟩
        · rintro h header rest ⟨rfl, rfl⟩ - hzero
          exact h hzero
        · exact fun h hzero => h text rest ⟨rfl, rfl⟩ (by rw [hstatus]; rfl) hzero

/-- **The limits hold** exactly when lines, sizes and the rest of the connection fit. -/
theorem withinLimits_iff (c : Connection) (firstByte : UInt8) :
    WithinLimits (getContentDownloadTiming c firstByte) ↔
      LinesFit [Char.ofNat firstByte.toNat] c.bytes ∧
      ∀ header rest, HeaderOf c.fails [Char.ofNat firstByte.toNat] c.bytes header rest →
        (statusCode header).isSome → (contentLength header).getD 0 = 0 →
        (isChunked header = true → ChunksFit c.fails 0 rest) ∧
        (isChunked header = false → rest.length ≤ maxBodySize) := by
  have hfirst : byteLen [Char.ofNat firstByte.toNat] ≤ maxHeaderSize := by
    have hsize : byteLen [Char.ofNat firstByte.toNat] = (Char.ofNat firstByte.toNat).utf8Size := by
      rw [← String.length_utf8EncodeChar, byteLen, utf8_cons]
      exact congrArg List.length (List.append_nil _)
    rw [hsize]
    exact (Char.utf8Size_le_four _).trans (by decide)
  have hheader := buffered_le_iff c.fails c.bytes hfirst
  rw [← headerBuffered_eq] at hheader
  have hbody := body_within_iff c firstByte
  simp only [readHeader_eq_ok_iff] at hbody
  rw [← hheader, ← hbody]
  exact ⟨fun ⟨h₁, h₂, h₃⟩ => ⟨h₁, h₂, h₃⟩, fun ⟨h₁, h₂, h₃⟩ => ⟨h₁, h₂, h₃⟩⟩

/-! ## A size and a line that pass -/

/-- One byte in a chunk, and a size to which it cannot be added. -/
def overflowingResponse : Connection where
  bytes := toUtf8
    "TTP/1.1 200 OK\r\nTransfer-Encoding: chunked\r\n\r\n1\r\nx\r\nffffffffffffffff\r\nmore".toList
  fails := none
  segment := fun _ => 8192

/-- A line that does not end. -/
def longLine (n : Nat) : Connection := ⟨List.replicate n 97, none, fun _ => 8192⟩

theorem not_withinLimits_longLine {n : Nat} (h : maxHeaderSize ≤ n) :
    ¬ WithinLimits (getContentDownloadTiming (longLine n) 72) := by
  intro hlimits
  have hheader := hlimits.header
  rw [headerBuffered_eq, buffered_le_iff _ _ (by decide)] at hheader
  have hline := hheader [] (longLine n).bytes (List.forall_mem_nil _) (List.nil_append _).symm
    (by decide)
  have hcut : cutLine (longLine n).bytes = (List.replicate n 97, []) := by
    refine cutLine_of_not_mem fun hmem => ?_
    exact absurd (List.eq_of_mem_replicate hmem) (by decide)
  rw [hcut, List.length_replicate] at hline
  have hfirst : byteLen ([Char.ofNat (72 : UInt8).toNat] ++ ([] : List (List Char)).flatten) = 1 :=
    by decide
  omega

/-- The sum of the sizes is 0 and passes the test; the line is buffered before it is tested. -/
theorem not_withinLimits : ¬ WithinLimits (getContentDownloadTiming overflowingResponse 72) ∧
    ¬ WithinLimits (getContentDownloadTiming (longLine 70000) 72) :=
  ⟨fun h => absurd h.sums (by decide +kernel), not_withinLimits_longLine (by decide)⟩

end LinkSense
