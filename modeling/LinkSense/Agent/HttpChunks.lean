import Mathlib.Algebra.GroupWithZero.Nat
import LinkSense.Agent.HttpReceive

/-!
# A body in chunks

`readChunks` on any stream: whether a sum of sizes overflows, how much is read, and what is left.

    no sum overflows ↔ the sizes fit                               (overflowed_readChunks_iff)
    no sum overflows → what is read is in the limit                (consumed_readChunks_le)
    the chunks are read to the end ↔ a last chunk ends them        (readChunks_eq_ok_iff)
-/

namespace LinkSense

open ByteReader Utf8 Scan

/-! ## Chunks in a stream -/

/-- A chunk as it is read, between two lines. -/
structure ReadChunk where
  sizeLine : List Char
  data : List UInt8
  endLine : List Char
  sizeLine_whole : WholeLine sizeLine
  endLine_whole : WholeLine endLine
  data_ne_nil : data ≠ []
  size_eq : fromStrRadix 16 (trim sizeLine) = .ok data.length

def ReadChunk.encode (chunk : ReadChunk) : List UInt8 :=
  toUtf8 chunk.sizeLine ++ (chunk.data ++ toUtf8 chunk.endLine)

def dataLength (chunks : List ReadChunk) : Nat := (chunks.map fun chunk => chunk.data.length).sum

/-- The next size can be added, when what is before it is in the limit. -/
def ChunksFit (fails : Option String) (total : Nat) (s : List UInt8) : Prop :=
  ∀ (chunks : List ReadChunk) (sizeLine : List Char) (rest : List UInt8) (size : Nat),
    s = chunks.flatMap ReadChunk.encode ++ (toUtf8 sizeLine ++ rest) →
    IsLine fails sizeLine rest → fromStrRadix 16 (trim sizeLine) = .ok size →
    total + dataLength chunks ≤ maxBodySize → total + dataLength chunks + size < 2 ^ 64

theorem ReadChunk.encode_append (chunk : ReadChunk) (s : List UInt8) :
    chunk.encode ++ s = toUtf8 chunk.sizeLine ++ (chunk.data ++ (toUtf8 chunk.endLine ++ s)) := by
  unfold ReadChunk.encode
  rw [List.append_assoc, List.append_assoc]

/-- Chunks are read from the first on. -/
theorem chunks_cases {fails : Option String} {chunks : List ReadChunk} {text line : List Char}
    {rest rest' : List UInt8} (htext : IsLine fails text rest) (hline : IsLine fails line rest')
    (h : toUtf8 text ++ rest = chunks.flatMap ReadChunk.encode ++ (toUtf8 line ++ rest')) :
    chunks = [] ∧ line = text ∨ ∃ chunk chunks', chunks = chunk :: chunks' ∧
      chunk.sizeLine = text ∧ rest = chunk.data ++ (toUtf8 chunk.endLine ++
        (chunks'.flatMap ReadChunk.encode ++ (toUtf8 line ++ rest'))) := by
  cases chunks with
  | nil => exact .inl ⟨rfl, (htext.unique hline h).1.symm⟩
  | cons chunk chunks =>
    rw [List.flatMap_cons, List.append_assoc, chunk.encode_append] at h
    obtain ⟨rfl, hrest⟩ := htext.unique (.inl chunk.sizeLine_whole) h
    exact .inr ⟨chunk, chunks, rfl, rfl, hrest⟩

/-- The first line of chunks, and of a size, is a size. -/
theorem firstLine_of_chunks {fails : Option String} (chunks : List ReadChunk) {line : List Char}
    {rest : List UInt8} {size : Nat} (hline : IsLine fails line rest)
    (hsize : fromStrRadix 16 (trim line) = .ok size) : ∃ text rest' n,
      chunks.flatMap ReadChunk.encode ++ (toUtf8 line ++ rest) = toUtf8 text ++ rest' ∧
        IsLine fails text rest' ∧ fromStrRadix 16 (trim text) = .ok n := by
  cases chunks with
  | nil => exact ⟨line, rest, size, rfl, hline, hsize⟩
  | cons chunk chunks =>
    rw [List.flatMap_cons, List.append_assoc, chunk.encode_append]
    exact ⟨chunk.sizeLine, _, _, rfl, .inl chunk.sizeLine_whole, chunk.size_eq⟩

theorem dataLength_cons (chunk : ReadChunk) (chunks : List ReadChunk) :
    dataLength (chunk :: chunks) = chunk.data.length + dataLength chunks := by
  unfold dataLength
  rw [List.map_cons, List.sum_cons]

/-- What fits behind a size that is not followed by its chunk. -/
theorem chunksFit_iff_first {fails : Option String} {total size : Nat} {text : List Char}
    {rest : List UInt8} (htext : IsLine fails text rest)
    (hsize : fromStrRadix 16 (trim text) = .ok size) (htotal : total ≤ maxBodySize)
    (h : ∀ (chunk : ReadChunk) (after : List UInt8), chunk.data.length = size →
      chunk.data.length + total ≤ maxBodySize →
      rest ≠ chunk.data ++ (toUtf8 chunk.endLine ++ after)) :
    ChunksFit fails total (toUtf8 text ++ rest) ↔ total + size < 2 ^ 64 := by
  constructor
  · intro hfit
    exact hfit [] text rest size rfl htext hsize htotal
  · intro hsum chunks line rest' n heq hline hn hroom
    rcases chunks_cases htext hline heq with ⟨rfl, rfl⟩ | ⟨chunk, chunks, rfl, rfl, hrest⟩
    · obtain rfl := Except.ok.inj (hsize.symm.trans hn)
      exact hsum
    · rw [dataLength_cons] at hroom
      exact absurd hrest (h chunk _ (Except.ok.inj (chunk.size_eq.symm.trans hsize)) (by omega))

/-- What fits behind a chunk. -/
theorem chunksFit_cons {fails : Option String} {total : Nat} (chunk : ReadChunk)
    {rest : List UInt8} (htotal : total + chunk.data.length ≤ maxBodySize) :
    ChunksFit fails total (chunk.encode ++ rest) ↔
      ChunksFit fails (total + chunk.data.length) rest := by
  constructor
  · intro h chunks line rest' n heq hline hn hroom
    have := h (chunk :: chunks) line rest' n
      (by rw [heq, List.flatMap_cons, List.append_assoc]) hline hn
    rw [dataLength_cons, ← Nat.add_assoc] at this
    exact this hroom
  · intro h chunks line rest' n heq hline hn hroom
    rw [chunk.encode_append] at heq
    rcases chunks_cases (.inl chunk.sizeLine_whole) hline heq with
      ⟨rfl, rfl⟩ | ⟨chunk', chunks, rfl, hsize, hrest⟩
    · obtain rfl := Except.ok.inj (chunk.size_eq.symm.trans hn)
      show total + 0 + _ < _
      have : maxBodySize < 2 ^ 64 := by decide
      omega
    · have hlength := chunk.size_eq
      rw [← hsize, chunk'.size_eq] at hlength
      obtain ⟨hdata, hrest⟩ := List.append_inj hrest (Except.ok.inj hlength).symm
      have hend : IsLine fails chunk.endLine rest := .inl chunk.endLine_whole
      obtain ⟨-, hrest⟩ := hend.unique (.inl chunk'.endLine_whole) hrest
      rw [dataLength_cons, ← hdata, ← Nat.add_assoc] at hroom ⊢
      exact h chunks line rest' n hrest hline hn hroom

/-! ## The sums -/

theorem chunksFit_nil (fails : Option String) (total : Nat) : ChunksFit fails total [] := by
  intro chunks line rest n heq hline hn
  obtain ⟨text, rest', m, htext, -, hm⟩ := firstLine_of_chunks chunks hline hn
  rw [← heq] at htext
  have hnil := (List.append_eq_nil_iff.1 htext.symm).1
  rw [← utf8_nil, utf8_inj] at hnil
  rw [hnil] at hm
  cases hm

theorem discard_append (fails : Option String) (data s : List UInt8) :
    discard fails data.length (data ++ s) = .ok s := by
  rw [discard_eq, readExact, if_pos (by rw [List.length_append]; omega), List.drop_left]

/-- What one turn of the loop reads, when it gets to the next. -/
theorem exists_readChunk {fails : Option String} {s data : List UInt8} {text endLine : List Char}
    {size : Nat} (htext : (readLine fails s).text = .ok text)
    (hsize : fromStrRadix 16 (trim text) = .ok size) (hne : size ≠ 0)
    (hdata : discard fails size (readLine fails s).rest = .ok data)
    (hend : (readLine fails data).text = .ok endLine) (hwhole : WholeLine endLine) :
    ∃ chunk : ReadChunk, chunk.data.length = size ∧
      s = chunk.encode ++ (readLine fails data).rest := by
  obtain ⟨hs, hline, -⟩ := readLine_of_text htext
  obtain ⟨hle, hdrop⟩ := length_of_discard hdata
  obtain ⟨hdata', -, -⟩ := readLine_of_text hend
  have hlength : ((readLine fails s).rest.take size).length = size := List.length_take_of_le hle
  have hsizeLine : WholeLine text := by
    rcases hline with hline | ⟨-, hnil, -⟩
    · exact hline
    · rw [hnil, List.length_nil] at hle
      omega
  refine ⟨⟨text, (readLine fails s).rest.take size, endLine, hsizeLine, hwhole,
    List.ne_nil_of_length_pos (by omega), by rw [hlength, hsize]⟩, hlength, ?_⟩
  rw [ReadChunk.encode_append]
  show s = toUtf8 text ++ ((readLine fails s).rest.take size ++
    (toUtf8 endLine ++ (readLine fails data).rest))
  rw [← hdata', hdrop, List.take_append_drop]
  exact hs

/-- What fits behind a turn of the loop that gets to the next. -/
theorem chunksFit_next {fails : Option String} {total size : Nat} {s data : List UInt8}
    {text endLine : List Char} (htext : (readLine fails s).text = .ok text)
    (hsize : fromStrRadix 16 (trim text) = .ok size) (hne : size ≠ 0)
    (hdata : discard fails size (readLine fails s).rest = .ok data)
    (hend : (readLine fails data).text = .ok endLine) (htotal : total ≤ maxBodySize)
    (hfit : (total + size) % 2 ^ 64 ≤ maxBodySize) :
    ChunksFit fails total s ↔ total + size < 2 ^ 64 ∧
      ChunksFit fails ((total + size) % 2 ^ 64) (readLine fails data).rest := by
  obtain ⟨hs, hline, -⟩ := readLine_of_text htext
  obtain ⟨hdata', hendLine, -⟩ := readLine_of_text hend
  rcases hendLine with hwhole | ⟨hpart, htail, hfails⟩
  · obtain ⟨chunk, hlength, hchunk⟩ := exists_readChunk htext hsize hne hdata hend hwhole
    by_cases hsum : total + size < 2 ^ 64
    · rw [Nat.mod_eq_of_lt hsum] at hfit ⊢
      rw [hchunk, chunksFit_cons chunk (by omega), hlength]
      exact (and_iff_right hsum).symm
    · refine iff_of_false (fun h => ?_) fun h => hsum h.1
      exact hsum (h [] text (readLine fails s).rest size hs hline hsize htotal)
  · rw [htail, hs, chunksFit_iff_first hline hsize htotal]
    · exact (and_iff_left (chunksFit_nil fails _)).symm
    · rintro chunk after rfl - hrest
      rw [hrest, discard_append] at hdata
      obtain rfl := Except.ok.inj hdata
      have hchunkEnd : IsLine fails chunk.endLine after := .inl chunk.endLine_whole
      obtain ⟨rfl, -⟩ := hchunkEnd.unique (.inr ⟨hpart, rfl, hfails⟩)
        (hdata'.trans (by rw [htail]))
      obtain ⟨init, hinit, -⟩ := chunk.endLine_whole
      rw [hinit] at hpart
      exact absurd (List.mem_append_right init (List.mem_singleton_self _)) hpart

/-- No sum overflows when the sizes fit. -/
theorem overflowed_readChunks_iff (fails : Option String) {total : Nat} (s : List UInt8)
    (htotal : total ≤ maxBodySize) :
    (readChunks fails total s).overflowed = false ↔ ChunksFit fails total s := by
  fun_induction readChunks fails total s with
  | case1 total s line e herror =>
    refine ⟨fun _ chunks sizeLine rest n heq hline hn => ?_, fun _ => rfl⟩
    obtain ⟨text, rest', -, hs, htext, -⟩ := firstLine_of_chunks chunks hline hn
    rw [← heq] at hs
    rw [show line.text = _ from hs ▸ htext.readLine_text.1] at herror
    cases herror
  | case2 total s line text htext e herror =>
    refine ⟨fun _ chunks sizeLine rest n heq hline hn => ?_, fun _ => rfl⟩
    obtain ⟨text', rest', m, hs, htext', hm⟩ := firstLine_of_chunks chunks hline hn
    rw [← heq] at hs
    obtain ⟨hs', hline', -⟩ := readLine_of_text htext
    obtain ⟨rfl, -⟩ := hline'.unique htext' (hs'.symm.trans hs)
    rw [herror] at hm
    cases hm
  | case3 total s line text htext hsize =>
    obtain ⟨hs, hline, -⟩ := readLine_of_text htext
    rw [hs, chunksFit_iff_first hline hsize htotal]
    · have : maxBodySize < 2 ^ 64 := by decide
      exact ⟨fun _ => by omega, fun _ => rfl⟩
    · intro chunk after hlength
      exact absurd (List.eq_nil_of_length_eq_zero hlength) chunk.data_ne_nil
  | case4 total s line text htext size hsize hne sum overflow hexceeds =>
    obtain ⟨hs, hline, -⟩ := readLine_of_text htext
    rw [hs, chunksFit_iff_first hline hsize htotal]
    · exact decide_eq_false_iff_not.trans Nat.not_le
    · intro chunk after hlength hroom
      have : sum ≤ total + size := Nat.mod_le _ _
      omega
  | case5 total s line text htext size hsize hne sum overflow hfit e hdata =>
    obtain ⟨hs, hline, -⟩ := readLine_of_text htext
    rw [hs, chunksFit_iff_first hline hsize htotal]
    · exact decide_eq_false_iff_not.trans Nat.not_le
    · rintro chunk after rfl - hrest
      rw [show line.rest = _ from hrest, discard_append] at hdata
      cases hdata
  | case6 total s line text htext size hsize hne sum overflow hfit data hdata e hend =>
    obtain ⟨hs, hline, -⟩ := readLine_of_text htext
    rw [hs, chunksFit_iff_first hline hsize htotal]
    · exact decide_eq_false_iff_not.trans Nat.not_le
    · rintro chunk after rfl - hrest
      rw [show line.rest = _ from hrest, discard_append] at hdata
      obtain rfl := Except.ok.inj hdata
      rw [(IsLine.readLine_text (.inl chunk.endLine_whole)).1] at hend
      cases hend
  | case7 total s line text htext size hsize hne sum overflow hfit data hdata endLine hend body
      ih =>
    rw [chunksFit_next htext hsize hne hdata hend htotal (Nat.not_lt.1 hfit), ← ih (by omega)]
    show (overflow || body.overflowed) = false ↔ _
    rw [Bool.or_eq_false_iff]
    exact and_congr_left' (decide_eq_false_iff_not.trans Nat.not_le)

/-- A body in chunks is in the limit when no sum overflows. -/
theorem consumed_readChunks_le {fails : Option String} {total : Nat} {s : List UInt8}
    (htotal : total ≤ maxBodySize) (h : (readChunks fails total s).overflowed = false) :
    total + (readChunks fails total s).consumed ≤ maxBodySize := by
  fun_induction readChunks fails total s with
  | case1 total s line e herror => exact htotal
  | case2 total s line text htext e herror => exact htotal
  | case3 total s line text htext hsize => exact htotal
  | case4 total s line text htext size hsize hne sum overflow hexceeds => exact htotal
  | case5 total s line text htext size hsize hne sum overflow hfit e hdata =>
    have hsum : total + size < 2 ^ 64 := Nat.not_le.1 (decide_eq_false_iff_not.1 h)
    have hmod : sum = total + size := Nat.mod_eq_of_lt hsum
    show total + min size line.rest.length ≤ maxBodySize
    omega
  | case6 total s line text htext size hsize hne sum overflow hfit data hdata e hend =>
    have hsum : total + size < 2 ^ 64 := Nat.not_le.1 (decide_eq_false_iff_not.1 h)
    have hmod : sum = total + size := Nat.mod_eq_of_lt hsum
    show total + size ≤ maxBodySize
    omega
  | case7 total s line text htext size hsize hne sum overflow hfit data hdata endLine hend body
      ih =>
    obtain ⟨hfirst, hrest⟩ := Bool.or_eq_false_iff.1 h
    have hsum : total + size < 2 ^ 64 := Nat.not_le.1 (decide_eq_false_iff_not.1 hfirst)
    have hmod : sum = total + size := Nat.mod_eq_of_lt hsum
    have hbody : sum + body.consumed ≤ maxBodySize := ih (by omega) hrest
    show total + (size + body.consumed) ≤ maxBodySize
    omega

/-! ## What is left -/

theorem readChunks_cons {fails : Option String} {total : Nat} (chunk : ReadChunk)
    {rest : List UInt8} (h : total + chunk.data.length ≤ maxBodySize) :
    (readChunks fails total (chunk.encode ++ rest)).result =
      (readChunks fails (total + chunk.data.length) rest).result := by
  have hsizeLine : IsLine fails chunk.sizeLine (chunk.data ++ (toUtf8 chunk.endLine ++ rest)) :=
    .inl chunk.sizeLine_whole
  have hendLine : IsLine fails chunk.endLine rest := .inl chunk.endLine_whole
  have hline := hsizeLine.readLine_text
  have hend := hendLine.readLine_text
  have hpos := List.length_pos_of_ne_nil chunk.data_ne_nil
  have hmod : (total + chunk.data.length) % 2 ^ 64 = total + chunk.data.length :=
    Nat.mod_eq_of_lt (h.trans_lt (by decide))
  rw [chunk.encode_append, readChunks]
  simp only [hline.1, hline.2, chunk.size_eq, hmod]
  rw [dif_neg (by omega), if_neg (by omega)]
  split
  · next e hdata =>
    rw [hline.2, discard_append] at hdata
    cases hdata
  · next data hdata =>
    rw [hline.2, discard_append] at hdata
    obtain rfl := Except.ok.inj hdata
    simp only [hend.1, hend.2]

theorem readChunks_last {fails : Option String} {total : Nat} {line : List Char}
    {rest : List UInt8} (hline : IsLine fails line rest)
    (hsize : fromStrRadix 16 (trim line) = .ok 0) :
    (readChunks fails total (toUtf8 line ++ rest)).result = .ok (cutLine rest).2 := by
  have hread := hline.readLine_text
  rw [readChunks]
  simp only [hread.1, hread.2, hsize]
  rw [dif_pos trivial]
  rfl

/-- What is read of chunks, as far as a size that is none. -/
theorem readChunks_ne_ok {fails : Option String} {total : Nat} {s r : List UInt8}
    (h : ∀ text, (readLine fails s).text = .ok text →
      ∃ e, fromStrRadix 16 (trim text) = .error e) : (readChunks fails total s).result ≠ .ok r := by
  rw [readChunks]
  cases htext : (readLine fails s).text with
  | error e => simp only [ne_eq, reduceCtorEq, not_false_eq_true]
  | ok text =>
    obtain ⟨e, he⟩ := h text htext
    simp only [he, ne_eq, reduceCtorEq, not_false_eq_true]

/-- What is left of chunks is shorter. -/
theorem length_lt_of_readChunks {fails : Option String} {total : Nat} {s r : List UInt8}
    (h : (readChunks fails total s).result = .ok r) : r.length < s.length := by
  have hsize : ∀ {s text n}, (readLine fails s).text = .ok text →
      fromStrRadix 16 (trim text) = .ok n → (readLine fails s).rest.length < s.length := by
    intro s text n htext hn
    refine length_rest_lt fun hzero => ?_
    obtain ⟨-, -, hlength⟩ := readLine_of_text htext
    have hnil : text = [] := utf8_inj.1 (List.eq_nil_of_length_eq_zero (hlength.symm.trans hzero))
    rw [hnil] at hn
    cases hn
  fun_induction readChunks fails total s with
  | case1 total s line e herror => cases h
  | case2 total s line text htext e herror => cases h
  | case3 total s line text htext hn =>
    obtain rfl := Except.ok.inj h
    have hfirst : line.rest.length < s.length := hsize htext hn
    have := length_rest_readLine fails line.rest
    omega
  | case4 total s line text htext size hn hne sum overflow hexceeds => cases h
  | case5 total s line text htext size hn hne sum overflow hfit e hdata => cases h
  | case6 total s line text htext size hn hne sum overflow hfit data hdata e hend => cases h
  | case7 total s line text htext size hn hne sum overflow hfit data hdata endLine hend body ih =>
    have hrest := ih h
    have hfirst : line.rest.length < s.length := hsize htext hn
    have hlast := length_rest_readLine fails data
    have hdrop := congrArg List.length (length_of_discard hdata).2
    rw [List.length_drop] at hdrop
    omega

/-- **Chunks are read to the end** exactly when a last chunk is what ends them. -/
theorem readChunks_eq_ok_iff {fails : Option String} {total : Nat} {s r : List UInt8}
    (htotal : total + s.length ≤ maxBodySize) :
    (readChunks fails total s).result = .ok r ↔
      ∃ (chunks : List ReadChunk) (line : List Char) (rest : List UInt8),
        s = chunks.flatMap ReadChunk.encode ++ (toUtf8 line ++ rest) ∧ IsLine fails line rest ∧
          fromStrRadix 16 (trim line) = .ok 0 ∧ (cutLine rest).2 = r := by
  constructor
  · intro h
    fun_induction readChunks fails total s with
    | case1 total s line e herror => cases h
    | case2 total s line text htext e herror => cases h
    | case3 total s line text htext hn =>
      obtain ⟨hs, hline, -⟩ := readLine_of_text htext
      exact ⟨[], text, line.rest, hs, hline, hn, Except.ok.inj h⟩
    | case4 total s line text htext size hn hne sum overflow hexceeds => cases h
    | case5 total s line text htext size hn hne sum overflow hfit e hdata => cases h
    | case6 total s line text htext size hn hne sum overflow hfit data hdata e hend => cases h
    | case7 total s line text htext size hn hne sum overflow hfit data hdata endLine hend body ih =>
      obtain ⟨-, hendLine, -⟩ := readLine_of_text hend
      have hwhole : WholeLine endLine := by
        rcases hendLine with hwhole | ⟨-, hnil, -⟩
        · exact hwhole
        · have := length_lt_of_readChunks h
          rw [hnil] at this
          exact absurd this (Nat.not_lt_zero _)
      obtain ⟨chunk, hlength, hchunk⟩ := exists_readChunk htext hn hne hdata hend hwhole
      have hencode := congrArg List.length hchunk
      rw [ReadChunk.encode, List.length_append, List.length_append, List.length_append] at hencode
      have hmax : maxBodySize < 2 ^ 64 := by decide
      have hmod : sum = total + size := Nat.mod_eq_of_lt (by omega)
      obtain ⟨chunks, last, rest, hrest, hlast, hzero, hr⟩ := ih (by omega) h
      refine ⟨chunk :: chunks, last, rest, ?_, hlast, hzero, hr⟩
      rw [hchunk, hrest, List.flatMap_cons, List.append_assoc]
  · rintro ⟨chunks, line, rest, rfl, hline, hn, rfl⟩
    induction chunks generalizing total with
    | nil => exact readChunks_last hline hn
    | cons chunk chunks ih =>
      rw [List.flatMap_cons, List.append_assoc] at htotal ⊢
      have hlength : chunk.data.length ≤ chunk.encode.length := by
        unfold ReadChunk.encode
        rw [List.length_append, List.length_append]
        omega
      rw [List.length_append] at htotal
      rw [readChunks_cons chunk (by omega)]
      exact ih (by omega)

end LinkSense
