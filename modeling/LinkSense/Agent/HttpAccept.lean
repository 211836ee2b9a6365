import LinkSense.Agent.HttpChunks
import LinkSense.Agent.HttpHead

/-!
# Which responses are accepted

`get_content_download_timing` on the responses of HTTP/1.1: when the status of the final head is
returned and the body is what was read after it.

    a body in chunks is read ↔ there are chunks and nothing else        (readChunks_body)
    a response is accepted ↔ it has no interim heads, its header is read, and what decides where the
      body ends is what the reader goes by                              (accepts_iff)
-/

namespace LinkSense

open ByteReader Utf8 Scan Http

/-! ## The chunks of a response -/

theorem fromStrRadix_sizeLine {size : List Char} (hdigits : ∀ c ∈ size, isHexDigit c = true)
    (hne : size ≠ []) (hfit : number 16 size < 2 ^ 64) :
    fromStrRadix 16 (trim (size ++ ['\r', '\n'])) = .ok (number 16 size) := by
  have hwhite : ∀ c ∈ size, isWhiteSpace c = false := by
    intro c hc
    have hrange := toNat_of_isHexDigit (hdigits c hc)
    unfold isWhiteSpace
    simp
    omega
  have htrim := trim_append (a := []) (List.forall_mem_nil _) hwhite
    (b := ['\r', '\n']) (List.all_iff_forall_prop.1 (by decide))
  rw [List.nil_append] at htrim
  rw [htrim, fromStrRadix_eq (by decide) hne fun c hc => ⟨hdigits c hc, hexDigit_lt (hdigits c hc)⟩,
    if_pos hfit]

theorem newline_not_mem_size {size : List Char} (hdigits : ∀ c ∈ size, isHexDigit c = true) :
    '\n' ∉ size := fun h => absurd (hdigits _ h) (by decide)

/-- A size is not read with extensions behind it. -/
theorem readChunks_extensions {fails : Option String} {total : Nat} {size : List Char}
    {extensions s r : List UInt8} (hdigits : ∀ c ∈ size, isHexDigit c = true)
    (hext : IsExtensions extensions) (hne : extensions ≠ []) :
    (readChunks fails total (toUtf8 size ++ extensions ++ crlf ++ s)).result ≠ .ok r := by
  have hline : 10 ∉ toUtf8 size ++ extensions := by
    rw [List.mem_append, not_or]
    exact ⟨newline_mem_utf8.not.2 (newline_not_mem_size hdigits), newline_not_mem_extensions hext⟩
  refine readChunks_ne_ok fun text htext => ?_
  obtain ⟨hs, htextLine, -⟩ := readLine_of_text htext
  have hcut := cutLine_utf8 htextLine
  rw [← hs, cutLine_crlf _ hline] at hcut
  have hmem : ';' ∈ text := by
    rw [← mem_utf8_iff (by decide), ← (Prod.mk.inj hcut).1]
    exact List.mem_append_left _ (List.mem_append_right _ (semicolon_mem_extensions hext hne))
  cases hread : fromStrRadix 16 (trim text) with
  | error e => exact ⟨e, rfl⟩
  | ok n =>
    have := toDigit_isSome_of_fromStrRadix hread ';' (mem_trim hmem (by decide)) (by decide)
    exact absurd this (by decide)

theorem readChunks_chunk {fails : Option String} {total : Nat} (chunk : Chunk) {s r : List UInt8}
    (h : total + chunk.data.length ≤ maxBodySize) :
    (readChunks fails total (chunk.encode ++ s)).result = .ok r ↔ chunk.extensions = [] ∧
      (readChunks fails (total + chunk.data.length) s).result = .ok r := by
  by_cases hext : chunk.extensions = []
  · have hne : chunk.size ≠ [] := by
      intro hnil
      have hpos := List.length_pos_of_ne_nil chunk.data_ne_nil
      rw [← chunk.size_eq, hnil] at hpos
      exact absurd hpos (by decide)
    have hmax : maxBodySize < 2 ^ 64 := by decide
    have hsize := fromStrRadix_sizeLine chunk.size_digits hne (by rw [chunk.size_eq]; omega)
    rw [chunk.size_eq] at hsize
    let read : ReadChunk := ⟨chunk.size ++ ['\r', '\n'], chunk.data, ['\r', '\n'],
      wholeLine_crlf _ (newline_not_mem_size chunk.size_digits),
      wholeLine_crlf [] List.not_mem_nil, chunk.data_ne_nil, hsize⟩
    have hread : chunk.encode = read.encode := by
      unfold Chunk.encode ReadChunk.encode
      rw [hext, List.append_nil, ← utf8_crlf, ← utf8_append]
    rw [hread, readChunks_cons read h]
    exact (and_iff_right hext).symm
  · refine ⟨fun hok => ?_, fun hok => absurd hok.1 hext⟩
    unfold Chunk.encode at hok
    rw [List.append_assoc] at hok
    exact absurd hok (readChunks_extensions chunk.size_digits chunk.extensions_bytes hext)

theorem readChunks_chunks {fails : Option String} {total : Nat} {chunks : List Chunk}
    {s r : List UInt8} (h : total + (chunks.flatMap Chunk.data).length ≤ maxBodySize) :
    (readChunks fails total (chunks.flatMap Chunk.encode ++ s)).result = .ok r ↔
      (∀ chunk ∈ chunks, chunk.extensions = []) ∧
        (readChunks fails (total + (chunks.flatMap Chunk.data).length) s).result = .ok r := by
  induction chunks generalizing total with
  | nil => simp
  | cons chunk chunks ih =>
    rw [List.flatMap_cons, List.length_append, ← Nat.add_assoc] at h
    rw [List.flatMap_cons, List.flatMap_cons, List.append_assoc, List.length_append,
      ← Nat.add_assoc, readChunks_chunk chunk (by omega), ih h, List.forall_mem_cons, and_assoc]

/-- Chunks alone, without extensions and trailers. -/
structure PlainChunks (body : ChunkedBody) : Prop where
  chunks : ∀ chunk ∈ body.chunks, chunk.extensions = []
  extensions : body.extensions = []
  trailers : body.trailers = []

/-- The line behind the last chunk is the end of the body, when there is no trailer. -/
theorem cutLine_trailers {trailers : List HeaderField} {after : List UInt8} :
    (cutLine (encodeLines (trailers.map HeaderField.line) ++ crlf ++ after)).2 = after ↔
      trailers = [] := by
  cases trailers with
  | nil =>
    have hcut := cutLine_crlf [] List.not_mem_nil after
    exact iff_of_true (congrArg Prod.snd hcut) rfl
  | cons f trailers =>
    refine iff_of_false (fun h => ?_) (List.cons_ne_nil _ _)
    rw [List.map_cons, encodeLines_cons, List.append_assoc, List.append_assoc,
      cutLine_crlf _ f.newline_not_mem_line] at h
    have hlength := congrArg List.length h
    rw [List.length_append, List.length_append, show crlf.length = 2 from rfl] at hlength
    omega

/-- **A body in chunks is read** when there are chunks and nothing else. -/
theorem readChunks_body {fails : Option String} {body : ChunkedBody} {after : List UInt8}
    (h : body.data.length ≤ maxBodySize) :
    (readChunks fails 0 (body.encode ++ after)).result = .ok after ↔ PlainChunks body := by
  have hzero : number 16 body.zeros = 0 := by
    have hfold : ∀ s : List Char, (∀ c ∈ s, c = '0') →
        s.foldl (fun n c => 16 * n + hexDigit c) 0 = 0 := by
      intro s hs
      induction s with
      | nil => rfl
      | cons c s ih =>
        rw [List.foldl_cons, hs c List.mem_cons_self]
        exact ih fun d hd => hs d (List.mem_cons_of_mem _ hd)
    exact hfold body.zeros body.zeros_digits
  have hdigits : ∀ c ∈ body.zeros, isHexDigit c = true := by
    intro c hc
    rw [body.zeros_digits c hc]
    decide
  have hshape : body.encode ++ after = body.chunks.flatMap Chunk.encode ++
      (toUtf8 body.zeros ++ body.extensions ++ crlf ++
        (encodeLines (body.trailers.map HeaderField.line) ++ crlf ++ after)) := by
    simp only [ChunkedBody.encode, List.append_assoc]
  rw [hshape, readChunks_chunks (by rw [Nat.zero_add]; exact h)]
  by_cases hext : body.extensions = []
  · have hsize := fromStrRadix_sizeLine hdigits body.zeros_ne_nil (by rw [hzero]; decide)
    rw [hzero] at hsize
    have hline : IsLine fails (body.zeros ++ ['\r', '\n'])
        (encodeLines (body.trailers.map HeaderField.line) ++ crlf ++ after) :=
      .inl (wholeLine_crlf _ (newline_not_mem_size hdigits))
    have hlast : toUtf8 body.zeros ++ body.extensions ++ crlf =
        toUtf8 (body.zeros ++ ['\r', '\n']) := by
      rw [hext, List.append_nil, utf8_append, utf8_crlf]
    rw [hlast, readChunks_last hline hsize, Except.ok.injEq, cutLine_trailers]
    exact ⟨fun ⟨hchunks, htrailers⟩ => ⟨hchunks, hext, htrailers⟩,
      fun hplain => ⟨hplain.chunks, hplain.trailers⟩⟩
  · refine ⟨fun hok => ?_, fun hplain => absurd hplain.extensions hext⟩
    exact absurd hok.2 (readChunks_extensions hdigits body.extensions_bytes hext)

/-! ## The end of the connection -/

theorem readToEnd_eq_ok {c : Connection} {i total : Nat} {s r : List UInt8}
    (h : (readToEnd c i total s).result = .ok r) : r = [] ∧ c.fails = none := by
  fun_induction readToEnd c i total s with
  | case1 i total hend => exact ⟨(Except.ok.inj h).symm, hend⟩
  | case2 i total e hend => cases h
  | case3 i total s hs n hexceeds => cases h
  | case4 i total s hs n hfit body ih => exact ih h

theorem readToEnd_of_end {c : Connection} {i total : Nat} {s : List UInt8} (hend : c.fails = none)
    (h : total + s.length ≤ maxBodySize) : (readToEnd c i total s).result = .ok [] := by
  fun_induction readToEnd c i total s with
  | case1 i total hnone => rfl
  | case2 i total e hsome =>
    rw [hend] at hsome
    cases hsome
  | case3 i total s hs n hexceeds =>
    have hread : n ≤ s.length := (read_le c i hs).2.1
    omega
  | case4 i total s hs n hfit body ih =>
    have hread : n ≤ s.length := (read_le c i hs).2.1
    refine ih ?_
    rw [List.length_drop]
    omega

/-! ## Responses -/

/-- The data is chunks itself, as the reader takes them. -/
def ReadsAsChunks (data : List UInt8) : Prop :=
  ∃ (chunks : List ReadChunk) (line : List Char) (rest : List UInt8),
    data = chunks.flatMap ReadChunk.encode ++ (toUtf8 line ++ rest) ∧ IsLine none line rest ∧
      fromStrRadix 16 (trim line) = .ok 0 ∧ (cutLine rest).2 = []

/-- One line has both words that the reader looks for. -/
def Mentions (h : Head) : Prop := ∃ text, toUtf8 text ∈ h.lines ∧ mentionsChunked text = true

/-- What tells the reader where the body ends is right. -/
structure Delimited (r : Http.Response) (fails : Option String) (after : List UInt8) : Prop where
  length : 0 < declaredLength r.length →
    declaredLength r.length = r.body.encode.length ∧ declaredLength r.length ≤ maxBodySize
  chunks : declaredLength r.length = 0 → Mentions r.head →
    (∃ body, r.body = .chunked body ∧ PlainChunks body) ∨
      ∃ data, r.body = .close data ∧ ReadsAsChunks data
  close : declaredLength r.length = 0 → ¬ Mentions r.head → after = [] ∧ fails = none

/-- What the reader needs of a response. -/
structure Readable (r : Http.Response) (fails : Option String) (after : List UInt8) : Prop where
  interims : r.interims = []
  texts : ∃ texts : List (List Char), r.head.lines = texts.map toUtf8
  /-- There are 1024 bytes left when the empty line is read. -/
  room : r.head.encode.length + 1022 ≤ maxHeaderSize
  delimited : Delimited r fails after

theorem mentions_iff {h : Head} {texts : List (List Char)} (htexts : h.lines = texts.map toUtf8) :
    Mentions h ↔ texts.any mentionsChunked = true := by
  unfold Mentions
  rw [htexts, List.any_eq_true]
  constructor
  · rintro ⟨text, hmem, hmention⟩
    obtain ⟨text', hmem', heq⟩ := List.mem_map.1 hmem
    exact ⟨text, utf8_inj.1 heq ▸ hmem', hmention⟩
  · rintro ⟨text, hmem, hmention⟩
    exact ⟨text, List.mem_map_of_mem hmem, hmention⟩

/-- What is returned, after a header and a body. -/
theorem result_eq_ok_iff {c : Connection} {firstByte : UInt8} {status : UInt16}
    {after : List UInt8} :
    (getContentDownloadTiming c firstByte).result = .ok (status, after) ↔
      ∃ header rest, HeaderOf c.fails [Char.ofNat firstByte.toNat] c.bytes header rest ∧
        statusCode header = some status ∧ (contentLength header).getD 0 ≤ maxBodySize ∧
        (readBody c ((contentLength header).getD 0) (isChunked header) rest).result =
          .ok after := by
  simp only [← readHeader_eq_ok_iff]
  unfold getContentDownloadTiming
  simp only
  split
  · next e herror => simp [herror]
  · next text rest hheader =>
    simp only [hheader, Except.ok.injEq, Prod.mk.injEq]
    constructor
    · intro h
      refine ⟨text, rest, ⟨rfl, rfl⟩, ?_⟩
      split at h
      · cases h
      · next status' hstatus =>
        split at h
        · cases h
        · next hlength =>
          have hpair : ∀ {x : Except String (List UInt8)},
              x.map (status', ·) = .ok (status, after) → status' = status ∧ x = .ok after := by
            intro x hx
            cases x with
            | error e => cases hx
            | ok rest =>
              obtain ⟨rfl, rfl⟩ := Prod.mk.inj (Except.ok.inj hx)
              exact ⟨rfl, rfl⟩
          obtain ⟨rfl, hbody⟩ := hpair h
          exact ⟨hstatus, by omega, hbody⟩
    · rintro ⟨header, rest', ⟨rfl, rfl⟩, hstatus, hlength, hbody⟩
      simp only [hstatus]
      rw [if_neg (by omega), hbody]
      rfl

/-- What is left when a number of bytes is read. -/
theorem discard_eq_ok_iff {fails : Option String} {n : Nat} {s after : List UInt8} :
    discard fails n (s ++ after) = .ok after ↔ n = s.length := by
  rw [discard_eq, readExact]
  constructor
  · intro h
    split_ifs at h with hle
    have hlength := congrArg List.length (Except.ok.inj h)
    rw [List.length_drop, List.length_append] at hlength
    rw [List.length_append] at hle
    omega
  · rintro rfl
    rw [if_pos (by rw [List.length_append]; omega), List.drop_left]

/-- A body of a length is empty, when the reader takes the length for nothing. -/
theorem data_eq_nil {digits : List Char} {data : List UInt8}
    (hlength : number 10 digits = data.length) (hsize : data.length ≤ maxBodySize)
    (hzero : declaredLength (some digits) = 0) : data = [] := by
  have hmax : maxBodySize < 2 ^ 64 := by decide
  rw [declaredLength, if_pos (by omega), hlength] at hzero
  exact List.eq_nil_of_length_eq_zero hzero

/-- What a body is when the reader has no length for it. -/
theorem body_cases {r : Http.Response} (hsize : r.body.data.length ≤ maxBodySize)
    (hzero : declaredLength r.length = 0) :
    (∃ body, r.body = .chunked body) ∨ (∃ data, r.body = .close data) ∨ r.body.encode = [] := by
  have hframed := r.framed
  cases hbody : r.body with
  | none => exact .inr (.inr rfl)
  | length data =>
    rw [hbody] at hframed hsize
    cases hframed with
    | length data digits _ _ _ hsome hnumber =>
      rw [hsome] at hzero
      exact .inr (.inr (data_eq_nil hnumber hsize hzero))
  | chunked body => exact .inl ⟨body, rfl⟩
  | close data => exact .inr (.inl ⟨data, rfl⟩)

/-- A body that is read as chunks. -/
theorem readChunks_eq_ok_after (r : Http.Response) {fails : Option String} {after : List UInt8}
    (hclose : ∀ data, r.body = .close data → after = [] ∧ fails = none)
    (hsize : r.body.data.length ≤ maxBodySize) (hzero : declaredLength r.length = 0) :
    (readChunks fails 0 (r.body.encode ++ after)).result = .ok after ↔
      (∃ body, r.body = .chunked body ∧ PlainChunks body) ∨
        ∃ data, r.body = .close data ∧ ReadsAsChunks data := by
  rcases body_cases hsize hzero with ⟨body, hbody⟩ | ⟨data, hbody⟩ | hnil
  · rw [hbody] at hsize ⊢
    rw [show (Body.chunked body).encode = body.encode from rfl, readChunks_body hsize]
    simp
  · obtain ⟨rfl, rfl⟩ := hclose data hbody
    rw [hbody] at hsize ⊢
    rw [show (Body.close data).encode = data from rfl, List.append_nil,
      readChunks_eq_ok_iff (by rw [Nat.zero_add]; exact hsize)]
    simp [ReadsAsChunks]
  · rw [hnil, List.nil_append]
    constructor
    · intro hread
      exact absurd (length_lt_of_readChunks hread) (Nat.lt_irrefl _)
    · rintro (⟨body, hbody, -⟩ | ⟨data, hbody, chunks, line, rest, hdata, -, hline, -⟩)
      · -- the last chunk alone is something on the wire
        rw [hbody] at hnil
        have hlast := List.append_eq_nil_iff.1 hnil
        exact absurd (List.append_eq_nil_iff.1 hlast.2).2 (List.cons_ne_nil _ _)
      · rw [hbody] at hnil
        rw [show data = [] from hnil] at hdata
        have hempty := (List.append_eq_nil_iff.1 (List.append_eq_nil_iff.1 hdata.symm).2).1
        rw [← utf8_nil, utf8_inj] at hempty
        rw [hempty] at hline
        cases hline

/-- A body that is read to the end of the connection. -/
theorem readToEnd_eq_ok_after (r : Http.Response) {c : Connection} {after : List UInt8}
    {texts : List (List Char)} (htexts : r.head.lines = texts.map toUtf8)
    (hmentions : texts.any mentionsChunked = false) (hsize : r.body.data.length ≤ maxBodySize)
    (hzero : declaredLength r.length = 0) :
    (readToEnd c 0 0 (r.body.encode ++ after)).result = .ok after ↔
      after = [] ∧ c.fails = none := by
  refine ⟨readToEnd_eq_ok, ?_⟩
  rintro ⟨rfl, hend⟩
  rw [List.append_nil]
  refine readToEnd_of_end hend ?_
  rcases body_cases hsize hzero with ⟨body, hbody⟩ | ⟨data, hbody⟩ | hnil
  · have hframed := r.framed
    rw [hbody] at hframed
    cases hframed with
    | chunked body _ _ hlast =>
      rw [any_mentionsChunked htexts hlast] at hmentions
      cases hmentions
  · rw [hbody] at hsize ⊢
    rw [Nat.zero_add]
    exact hsize
  · rw [hnil]
    exact Nat.zero_le _

/-- **The body is what is read** exactly when what tells the reader where it ends is right. -/
theorem readBody_eq_ok_iff (r : Http.Response) (c : Connection) {after : List UInt8}
    {texts : List (List Char)} (htexts : r.head.lines = texts.map toUtf8)
    (hclose : ∀ data, r.body = .close data → after = [] ∧ c.fails = none)
    (hsize : r.body.data.length ≤ maxBodySize) :
    declaredLength r.length ≤ maxBodySize ∧
      (readBody c (declaredLength r.length) (texts.any mentionsChunked)
        (r.body.encode ++ after)).result = .ok after ↔ Delimited r c.fails after := by
  unfold readBody
  by_cases hpos : 0 < declaredLength r.length
  · rw [if_pos hpos]
    constructor
    · rintro ⟨hle, hread⟩
      exact ⟨fun _ => ⟨discard_eq_ok_iff.1 hread, hle⟩, fun hzero => by omega,
        fun hzero => by omega⟩
    · intro h
      obtain ⟨hlength, hle⟩ := h.length hpos
      exact ⟨hle, discard_eq_ok_iff.2 hlength⟩
  · have hzero : declaredLength r.length = 0 := by omega
    have hmentions := mentions_iff htexts
    rw [if_neg hpos, hzero, and_iff_right (Nat.zero_le _)]
    cases hany : texts.any mentionsChunked with
    | true =>
      rw [hany, iff_true_right rfl] at hmentions
      rw [if_pos rfl, readChunks_eq_ok_after r hclose hsize hzero]
      exact ⟨fun h => ⟨fun h' => absurd h' hpos, fun _ _ => h, fun _ h' => absurd hmentions h'⟩,
        fun h => h.chunks hzero hmentions⟩
    | false =>
      have hnot : ¬ Mentions r.head := by
        rw [hmentions, hany]
        exact Bool.false_ne_true
      rw [if_neg Bool.false_ne_true, readToEnd_eq_ok_after r htexts hany hsize hzero]
      exact ⟨fun h => ⟨fun h' => absurd h' hpos, fun _ h' => absurd h' hnot, fun _ _ => h⟩,
        fun h => h.close hzero hnot⟩

/-- **A response is accepted** exactly when it is one that the reader can read. -/
theorem accepts_iff (r : Http.Response) (c : Connection) (firstByte : UInt8) (after : List UInt8)
    (hbytes : firstByte :: c.bytes = r.encode ++ after)
    (hclose : ∀ data, r.body = .close data → after = [] ∧ c.fails = none)
    (hsize : r.body.data.length ≤ maxBodySize) :
    (getContentDownloadTiming c firstByte).result = .ok (UInt16.ofNat r.head.status, after) ↔
      Readable r c.fails after := by
  rw [result_eq_ok_iff]
  cases hinterims : r.interims with
  | nil =>
    have hshape : firstByte :: c.bytes = r.head.encode ++ (r.body.encode ++ after) := by
      rw [hbytes, Http.Response.encode, hinterims, List.flatMap_nil, List.nil_append,
        List.append_assoc]
    simp only [headerOf_head hshape]
    constructor
    · rintro ⟨header, rest, ⟨texts, htexts, hroom, rfl, rfl⟩, -, hlength, hread⟩
      rw [contentLength_crlfLines htexts r.length_field] at hlength hread
      rw [isChunked_crlfLines htexts] at hread
      exact ⟨hinterims, ⟨texts, htexts⟩, hroom,
        (readBody_eq_ok_iff r c htexts hclose hsize).1 ⟨hlength, hread⟩⟩
    · rintro ⟨-, ⟨texts, htexts⟩, hroom, hdelimited⟩
      obtain ⟨hlength, hread⟩ := (readBody_eq_ok_iff r c htexts hclose hsize).2 hdelimited
      refine ⟨_, _, ⟨texts, htexts, hroom, rfl, rfl⟩, statusCode_crlfLines htexts, ?_, ?_⟩
      · rw [contentLength_crlfLines htexts r.length_field]
        exact hlength
      · rw [contentLength_crlfLines htexts r.length_field, isChunked_crlfLines htexts]
        exact hread
  | cons interim interims =>
    have hshape : firstByte :: c.bytes = interim.encode ++
        (interims.flatMap Head.encode ++ r.head.encode ++ r.body.encode ++ after) := by
      rw [hbytes, Http.Response.encode, hinterims, List.flatMap_cons]
      simp only [List.append_assoc]
    refine iff_of_false ?_ fun h => ?_
    · rintro ⟨header, rest, hof, hstatus, -⟩
      obtain ⟨texts, htexts, -, rfl, -⟩ := (headerOf_head hshape).1 hof
      rw [statusCode_crlfLines htexts, Option.some.injEq] at hstatus
      have hinterim := r.interims_status interim (by rw [hinterims]; exact List.mem_cons_self)
      have hfinal := r.head_status
      have heq := congrArg UInt16.toNat hstatus
      change interim.status % 2 ^ 16 = r.head.status % 2 ^ 16 at heq
      omega
    · rw [h.interims] at hinterims
      cases hinterims

/-! ## Healthy targets -/

def okHead (fields : List HeaderField) : Head where
  code := "200".toList
  reason := toUtf8 "OK".toList
  fields := fields
  code_digits := ⟨rfl, List.all_eq_true.1 (by decide)⟩
  reason_bytes := List.all_eq_true.1 (by decide)

def continueHead : Head where
  code := "100".toList
  reason := toUtf8 "Continue".toList
  fields := []
  code_digits := ⟨rfl, List.all_eq_true.1 (by decide)⟩
  reason_bytes := List.all_eq_true.1 (by decide)

def lengthField (digit : Fin 10) : HeaderField where
  name := "Content-Length".toList
  value := toUtf8 [' ', Char.ofNat (48 + digit)]
  name_ne_nil := by decide
  name_token := List.all_eq_true.1 (by decide)
  value_bytes := List.all_eq_true.1 (by revert digit; decide)

def chunkedField : HeaderField where
  name := "Transfer-Encoding".toList
  value := toUtf8 " chunked".toList
  name_ne_nil := by decide
  name_token := List.all_eq_true.1 (by decide)
  value_bytes := List.all_eq_true.1 (by decide)

/-- Five bytes of a length, behind interim heads. -/
def lengthResponse (interims : List Head)
    (h : ∀ head ∈ interims, 100 ≤ head.status ∧ head.status < 200) : Http.Response where
  interims := interims
  head := okHead [lengthField 5]
  length := some ['5']
  body := .length (toUtf8 "hello".toList)
  interims_status := h
  head_status := by decide
  length_field := ⟨by decide, List.forall_mem_singleton.2 (by decide), lengthField 5,
    toUtf8 [' '], [], rfl, rfl, List.all_eq_true.1 (by decide), List.forall_mem_nil _⟩
  framed := .length _ ['5'] (by decide) (by decide) rfl rfl rfl

/-- No bytes, of a length. -/
def emptyResponse : Http.Response where
  interims := []
  head := okHead [lengthField 0]
  length := some ['0']
  body := .length []
  interims_status := List.forall_mem_nil _
  head_status := by decide
  length_field := ⟨by decide, List.forall_mem_singleton.2 (by decide), lengthField 0,
    toUtf8 [' '], [], rfl, rfl, List.all_eq_true.1 (by decide), List.forall_mem_nil _⟩
  framed := .length _ ['0'] (by decide) (by decide) rfl rfl rfl

/-- Five bytes in a chunk, with a length as well. -/
def bothResponse : Http.Response where
  interims := []
  head := okHead [chunkedField, lengthField 5]
  length := some ['5']
  body := .chunked
    { chunks := [⟨['5'], [], toUtf8 "hello".toList, List.forall_mem_singleton.2 (by decide), rfl,
        .inl rfl, by decide⟩]
      zeros := ['0']
      extensions := []
      trailers := []
      zeros_ne_nil := by decide
      zeros_digits := List.forall_mem_singleton.2 rfl
      extensions_bytes := .inl rfl }
  interims_status := List.forall_mem_nil _
  head_status := by decide
  length_field := ⟨by decide, List.forall_mem_singleton.2 (by decide), lengthField 5,
    toUtf8 [' '], [], rfl, rfl, List.all_eq_true.1 (by decide), List.forall_mem_nil _⟩
  framed := .chunked _ (by decide) (by decide) ⟨chunkedField, rfl, toUtf8 [' '], "chunked".toList,
    [], rfl, by decide, List.forall_mem_nil _, [], toUtf8 [' '], rfl,
    List.all_eq_true.1 (by decide), .inl rfl⟩

/-- The connection that a response comes on. -/
def connectionOf (r : Http.Response) (fails : Option String) : Connection :=
  ⟨r.encode.tail, fails, fun _ => 8192⟩

/-- Five bytes behind their length are read, and nothing stands in their way. -/
theorem accepts_iff_length :
    (getContentDownloadTiming
        (connectionOf (lengthResponse [] (List.forall_mem_nil _)) none) 72).result = .ok (200, []) ∧
      Readable (lengthResponse [] (List.forall_mem_nil _)) none [] := by
  have hread : (getContentDownloadTiming
      (connectionOf (lengthResponse [] (List.forall_mem_nil _)) none) 72).result = .ok (200, []) := by
    decide +kernel
  exact ⟨hread, (accepts_iff (lengthResponse [] (List.forall_mem_nil _))
    (connectionOf (lengthResponse [] (List.forall_mem_nil _)) none) 72 [] (by decide)
    (fun _ h => nomatch h) (by decide)).1 hread⟩

/-- Behind an interim head, it is the interim status that is returned; a body without bytes is
waited for; a length is read where there are chunks. -/
theorem not_accepts :
    (getContentDownloadTiming
        (connectionOf (lengthResponse [continueHead] (by decide)) none) 72).result ≠
      .ok (UInt16.ofNat (okHead [lengthField 5]).status, []) ∧
    (getContentDownloadTiming (connectionOf emptyResponse (some "timed out")) 72).result ≠
      .ok (UInt16.ofNat emptyResponse.head.status, []) ∧
    (getContentDownloadTiming (connectionOf bothResponse none) 72).result ≠
      .ok (UInt16.ofNat bothResponse.head.status, []) := by
  refine ⟨?_, ?_, ?_⟩
  all_goals decide +kernel

end LinkSense
