import LinkSense.Agent.HttpReceive

/-!
# The header of a response

`readHeader` on any stream: what it buffers, and which header it reads.

    what is buffered is in the limit ↔ no line runs over it                  (buffered_le_iff)
    a header is read ↔ the stream begins with one that fits                  (readHeader_eq_ok_iff)
-/

namespace LinkSense

open ByteReader Utf8 Scan

/-! ## What a stream begins with -/

/-- A line that the header goes on after. -/
def GoesOn (text : List Char) : Prop := WholeLine text ∧ byteLen text ≠ 2

/-- The next line is in the limit, when 1024 bytes would be. -/
def LinesFit (header : List Char) (s : List UInt8) : Prop :=
  ∀ (texts : List (List Char)) (rest : List UInt8), (∀ text ∈ texts, GoesOn text) →
    s = toUtf8 texts.flatten ++ rest → byteLen (header ++ texts.flatten) + 1024 ≤ maxHeaderSize →
    byteLen (header ++ texts.flatten) + (cutLine rest).1.length ≤ maxHeaderSize

/-- A header with lines in front of it, and what comes after it. -/
inductive HeaderOf (fails : Option String) (header : List Char) (s : List UInt8) :
    List Char → List UInt8 → Prop
  /-- Up to a line of two bytes. -/
  | blank (texts : List (List Char)) (last : List Char) (rest : List UInt8) :
      (∀ text ∈ texts, GoesOn text) → WholeLine last → byteLen last = 2 →
      s = toUtf8 texts.flatten ++ (toUtf8 last ++ rest) →
      byteLen (header ++ texts.flatten) + 1024 ≤ maxHeaderSize →
      HeaderOf fails header s (header ++ texts.flatten ++ last) rest
  /-- Up to the end of the stream. -/
  | ended (texts : List (List Char)) (last : List Char) :
      (∀ text ∈ texts, GoesOn text) → '\n' ∉ last → fails = none →
      s = toUtf8 texts.flatten ++ toUtf8 last →
      byteLen (header ++ texts.flatten ++ last) + 1024 ≤ maxHeaderSize →
      HeaderOf fails header s (header ++ texts.flatten ++ last) []

/-! ## The lines -/

theorem byteLen_append (a b : List Char) : byteLen (a ++ b) = byteLen a + byteLen b := by
  unfold byteLen
  rw [utf8_append, List.length_append]

theorem flatten_lines {fails : Option String} {texts : List (List Char)} {text : List Char}
    {rest rest' : List UInt8} (htexts : ∀ text ∈ texts, GoesOn text)
    (hline : IsLine fails text rest)
    (h : toUtf8 text ++ rest = toUtf8 texts.flatten ++ rest') :
    texts = [] ∨ ∃ texts', texts = text :: texts' ∧ rest = toUtf8 texts'.flatten ++ rest' := by
  cases texts with
  | nil => exact .inl rfl
  | cons t texts =>
    rw [List.flatten_cons, utf8_append, List.append_assoc] at h
    have hfirst : IsLine fails t (toUtf8 texts.flatten ++ rest') :=
      .inl (htexts t List.mem_cons_self).1
    obtain ⟨rfl, hrest⟩ := hline.unique hfirst h
    exact .inr ⟨texts, rfl, hrest⟩

theorem linesFit_cons {fails : Option String} {header text : List Char} {s rest : List UInt8}
    (hs : s = toUtf8 text ++ rest) (hline : IsLine fails text rest)
    (hsize : WholeLine text → byteLen text ≠ 2)
    (hfit : byteLen (header ++ text) ≤ maxHeaderSize) :
    LinesFit header s ↔ LinesFit (header ++ text) rest := by
  constructor
  · intro h texts rest' htexts hrest hroom
    rcases hline with hwhole | ⟨-, rfl, -⟩
    · have := h (text :: texts) rest'
        (List.forall_mem_cons.2 ⟨⟨hwhole, hsize hwhole⟩, htexts⟩)
        (by rw [hs, hrest, List.flatten_cons, utf8_append, List.append_assoc])
      rw [List.flatten_cons, ← List.append_assoc] at this
      exact this hroom
    · obtain ⟨hnil, rfl⟩ := List.append_eq_nil_iff.1 hrest.symm
      show byteLen (header ++ text ++ texts.flatten) + 0 ≤ maxHeaderSize
      omega
  · intro h texts rest' htexts hrest hroom
    rcases flatten_lines htexts hline (hs.symm.trans hrest) with rfl | ⟨texts, rfl, hrest'⟩
    · have hcut := cutLine_utf8 hline
      rw [← hs, hrest,
        show toUtf8 ([] : List (List Char)).flatten ++ rest' = rest' from rfl] at hcut
      rw [List.flatten_nil, List.append_nil, hcut]
      rw [byteLen_append] at hfit
      exact hfit
    · rw [List.flatten_cons, ← List.append_assoc] at hroom ⊢
      exact h texts rest' (List.forall_mem_cons.1 htexts).2 hrest' hroom

theorem linesFit_iff_first {header : List Char} {s : List UInt8}
    (h : ∀ text rest, GoesOn text → s ≠ toUtf8 text ++ rest) :
    LinesFit header s ↔ (byteLen header + 1024 ≤ maxHeaderSize →
      byteLen header + (cutLine s).1.length ≤ maxHeaderSize) := by
  constructor
  · intro hfit hroom
    have := hfit [] s (List.forall_mem_nil _) rfl
    rw [List.flatten_nil, List.append_nil] at this
    exact this hroom
  · intro hfit texts rest htexts hs hroom
    cases texts with
    | nil =>
      rw [List.flatten_nil, List.append_nil] at hroom ⊢
      rw [show s = rest from hs] at hfit
      exact hfit hroom
    | cons text texts =>
      rw [List.flatten_cons, utf8_append, List.append_assoc] at hs
      exact absurd hs (h text _ (htexts text List.mem_cons_self))

/-- A header goes on after a line that is read, unless the line is its last. -/
theorem goesOn_of_readLine {fails : Option String} {header text : List Char} {s : List UInt8}
    (htext : (readLine fails s).text = .ok text)
    (hlast : ¬ ((readLine fails s).size = 2 ∧ (header ++ text).getLast? = some '\n')) :
    WholeLine text → byteLen text ≠ 2 := by
  obtain ⟨-, -, hsize⟩ := readLine_of_text htext
  rintro ⟨init, rfl, -⟩ htwo
  refine hlast ⟨hsize.trans htwo, ?_⟩
  rw [← List.append_assoc, List.getLast?_concat]

/-- Where the header does not go on after a line that fits, all lines fit. -/
theorem linesFit_of_not_goesOn {fails : Option String} {header text : List Char} {s : List UInt8}
    (htext : (readLine fails s).text = .ok text) (hstop : ¬ GoesOn text)
    (hfit : byteLen (header ++ text) ≤ maxHeaderSize) : LinesFit header s := by
  obtain ⟨hs, hline, hsize⟩ := readLine_of_text htext
  have hcut : (cutLine s).1.length = byteLen text := hsize
  rw [byteLen_append] at hfit
  refine (linesFit_iff_first fun text' rest' htext' hs' => ?_).2 fun _ => by omega
  obtain ⟨rfl, -⟩ := hline.unique (.inl htext'.1) (hs.symm.trans hs')
  exact hstop htext'

theorem byteLen_ne_zero_of_wholeLine {text : List Char} (h : WholeLine text) :
    byteLen text ≠ 0 := by
  obtain ⟨init, rfl, -⟩ := h
  have hend : byteLen ['\n'] = 1 := by decide
  rw [byteLen_append, hend]
  omega

/-- What is buffered is in the limit when the lines fit. -/
theorem buffered_le_iff (fails : Option String) {header : List Char} (s : List UInt8)
    (hheader : byteLen header ≤ maxHeaderSize) :
    (readHeader fails header s).buffered ≤ maxHeaderSize ↔ LinesFit header s := by
  fun_induction readHeader fails header s with
  | case1 header s hroom =>
    refine ⟨fun _ texts rest _ _ h => ?_, fun _ => hheader⟩
    rw [byteLen_append] at h
    omega
  | case2 header s hroom line e herror =>
    rw [linesFit_iff_first]
    · exact ⟨fun h _ => h, fun h => h (by omega)⟩
    · rintro text rest htext rfl
      have hline : IsLine fails text rest := .inl htext.1
      rw [show line.text = _ from hline.readLine_text.1] at herror
      cases herror
  | case3 header s hroom line text htext hexceeds =>
    obtain ⟨hs, hline, hsize⟩ := readLine_of_text htext
    refine ⟨fun h => absurd h (Nat.not_le.2 hexceeds), fun h => ?_⟩
    have := h [] s (List.forall_mem_nil _) rfl
    rw [List.flatten_nil, List.append_nil] at this
    have hcut : (cutLine s).1.length = byteLen text := hsize
    rw [byteLen_append] at hexceeds
    have := this (by omega)
    omega
  | case4 header s hroom line text htext hfit hblank =>
    obtain ⟨-, -, hsize⟩ := readLine_of_text htext
    refine iff_of_true (Nat.not_lt.1 hfit) (linesFit_of_not_goesOn htext (fun h => ?_) (by omega))
    exact h.2 (hsize.symm.trans hblank.1)
  | case5 header s hroom line text htext hfit hblank hzero =>
    obtain ⟨-, -, hsize⟩ := readLine_of_text htext
    refine iff_of_true (Nat.not_lt.1 hfit) (linesFit_of_not_goesOn htext (fun h => ?_) (by omega))
    exact byteLen_ne_zero_of_wholeLine h.1 (hsize.symm.trans hzero)
  | case6 header s hroom line text htext hfit hblank hsize ih =>
    obtain ⟨hs, hline, -⟩ := readLine_of_text htext
    rw [linesFit_cons hs hline (goesOn_of_readLine htext hblank) (by omega)]
    exact ih (by omega)

/-! ## The header -/

theorem headerOf_first {fails : Option String} {header h : List Char} {s r : List UInt8}
    (hof : HeaderOf fails header s h r) : ∃ text rest, s = toUtf8 text ++ rest ∧
      IsLine fails text rest ∧ byteLen header + 1024 ≤ maxHeaderSize ∧
      byteLen (header ++ text) ≤ maxHeaderSize := by
  rcases hof with ⟨texts, last, r, htexts, hlast, htwo, rfl, hfit⟩ |
    ⟨texts, last, htexts, hlast, hend, rfl, hfit⟩
  · cases texts with
    | nil =>
      rw [List.flatten_nil, List.append_nil] at hfit
      refine ⟨last, r, rfl, .inl hlast, hfit, ?_⟩
      rw [byteLen_append]
      omega
    | cons text texts =>
      rw [List.flatten_cons, ← List.append_assoc, byteLen_append, byteLen_append] at hfit
      refine ⟨text, toUtf8 texts.flatten ++ (toUtf8 last ++ r), ?_,
        .inl (htexts text List.mem_cons_self).1, by omega, ?_⟩
      · rw [List.flatten_cons, utf8_append, List.append_assoc]
      · rw [byteLen_append]
        omega
  · cases texts with
    | nil =>
      rw [List.flatten_nil, List.append_nil, byteLen_append] at hfit
      refine ⟨last, [], ?_, .inr ⟨hlast, rfl, hend⟩, by omega, ?_⟩
      · rw [List.append_nil]
        rfl
      · rw [byteLen_append]
        omega
    | cons text texts =>
      rw [List.flatten_cons, ← List.append_assoc, byteLen_append, byteLen_append,
        byteLen_append] at hfit
      refine ⟨text, toUtf8 texts.flatten ++ toUtf8 last, ?_,
        .inl (htexts text List.mem_cons_self).1, by omega, ?_⟩
      · rw [List.flatten_cons, utf8_append, List.append_assoc]
      · rw [byteLen_append]
        omega

theorem headerOf_partial {fails : Option String} {header text h : List Char} {r : List UInt8}
    (htext : '\n' ∉ text) : HeaderOf fails header (toUtf8 text) h r ↔ fails = none ∧
      byteLen (header ++ text) + 1024 ≤ maxHeaderSize ∧ h = header ++ text ∧ r = [] := by
  constructor
  · rintro (⟨texts, last, r, -, ⟨init, rfl, -⟩, -, heq, -⟩ | ⟨texts, last, -, -, hend, heq, hfit⟩)
    · have hmem : 10 ∈ toUtf8 texts.flatten ++ (toUtf8 (init ++ ['\n']) ++ r) := by
        rw [utf8_newline]
        simp
      rw [← heq] at hmem
      exact absurd (newline_mem_utf8.1 hmem) htext
    · rw [← utf8_append, utf8_inj] at heq
      rw [List.append_assoc, ← heq] at hfit
      exact ⟨hend, hfit, by rw [List.append_assoc, ← heq], rfl⟩
  · rintro ⟨hend, hfit, rfl, rfl⟩
    have hof : HeaderOf fails header (toUtf8 text)
        (header ++ ([] : List (List Char)).flatten ++ text) [] :=
      .ended [] text (List.forall_mem_nil _) htext hend rfl
        (by rwa [List.flatten_nil, List.append_nil])
    rwa [List.flatten_nil, List.append_nil] at hof

/-- What is left of a header, after its first line. -/
theorem headerOf_whole {fails : Option String} {header text h : List Char} {rest r : List UInt8}
    (htext : GoesOn text) :
    HeaderOf fails header (toUtf8 text ++ rest) h r ↔ HeaderOf fails (header ++ text) rest h r := by
  have hline : IsLine fails text rest := .inl htext.1
  constructor
  · rintro (⟨texts, last, r, htexts, hlast, htwo, heq, hfit⟩ |
      ⟨texts, last, htexts, hlast, hend, heq, hfit⟩)
    · rcases flatten_lines htexts hline heq with rfl | ⟨texts, rfl, hrest⟩
      · obtain ⟨rfl, -⟩ := hline.unique (.inl hlast) heq
        exact absurd htwo htext.2
      · rw [List.flatten_cons, ← List.append_assoc] at hfit ⊢
        exact .blank texts last r (List.forall_mem_cons.1 htexts).2 hlast htwo hrest hfit
    · rcases flatten_lines htexts hline heq with rfl | ⟨texts, rfl, hrest⟩
      · obtain ⟨rfl, -⟩ := hline.unique (.inr ⟨hlast, rfl, hend⟩)
          (heq.trans (List.append_nil (toUtf8 last)).symm)
        obtain ⟨⟨init, rfl, -⟩, -⟩ := htext
        exact absurd (List.mem_append_right init (List.mem_singleton_self _)) hlast
      · rw [List.flatten_cons, ← List.append_assoc] at hfit ⊢
        exact .ended texts last (List.forall_mem_cons.1 htexts).2 hlast hend hrest hfit
  · rintro (⟨texts, last, r, htexts, hlast, htwo, rfl, hfit⟩ |
      ⟨texts, last, htexts, hlast, hend, rfl, hfit⟩)
    · rw [List.append_assoc header, ← List.flatten_cons] at hfit ⊢
      refine .blank (text :: texts) last r (List.forall_mem_cons.2 ⟨htext, htexts⟩) hlast htwo ?_
        hfit
      rw [List.flatten_cons, utf8_append, List.append_assoc]
    · rw [List.append_assoc header, ← List.flatten_cons] at hfit ⊢
      refine .ended (text :: texts) last (List.forall_mem_cons.2 ⟨htext, htexts⟩) hlast hend ?_
        hfit
      rw [List.flatten_cons, utf8_append, List.append_assoc]

theorem headerOf_last {fails : Option String} {header text h : List Char} {rest r : List UInt8}
    (htext : WholeLine text) (htwo : byteLen text = 2)
    (hroom : byteLen header + 1024 ≤ maxHeaderSize) :
    HeaderOf fails header (toUtf8 text ++ rest) h r ↔ h = header ++ text ∧ r = rest := by
  have hline : IsLine fails text rest := .inl htext
  have hfirst : ∀ texts rest', (∀ text ∈ texts, GoesOn text) →
      toUtf8 text ++ rest = toUtf8 texts.flatten ++ rest' → texts = [] := by
    intro texts rest' htexts heq
    rcases flatten_lines htexts hline heq with hnil | ⟨texts, rfl, -⟩
    · exact hnil
    · exact absurd htwo (htexts text List.mem_cons_self).2
  constructor
  · rintro (⟨texts, last, r, htexts, hlast, -, heq, -⟩ | ⟨texts, last, htexts, hlast, hend, heq, -⟩)
    · obtain rfl := hfirst texts _ htexts heq
      obtain ⟨rfl, rfl⟩ := hline.unique (.inl hlast) heq
      exact ⟨by rw [List.flatten_nil, List.append_nil], rfl⟩
    · obtain rfl := hfirst texts _ htexts heq
      obtain ⟨rfl, -⟩ := hline.unique (.inr ⟨hlast, rfl, hend⟩)
        (heq.trans (List.append_nil (toUtf8 last)).symm)
      obtain ⟨init, rfl, -⟩ := htext
      exact absurd (List.mem_append_right init (List.mem_singleton_self _)) hlast
  · rintro ⟨rfl, rfl⟩
    have hof : HeaderOf fails header (toUtf8 text ++ r)
        (header ++ ([] : List (List Char)).flatten ++ text) r :=
      .blank [] text r (List.forall_mem_nil _) htext htwo rfl
        (by rwa [List.flatten_nil, List.append_nil])
    rwa [List.flatten_nil, List.append_nil] at hof

theorem wholeLine_of_getLast? {fails : Option String} {header text : List Char}
    {rest : List UInt8} (hline : IsLine fails text rest) (hne : text ≠ [])
    (hlast : (header ++ text).getLast? = some '\n') : WholeLine text := by
  rcases hline with hwhole | ⟨hpart, -⟩
  · exact hwhole
  · rw [List.getLast?_append_of_ne_nil _ hne] at hlast
    exact absurd (List.mem_of_getLast? hlast) hpart

theorem headerOf_nil {fails : Option String} {header h : List Char} {r : List UInt8} :
    HeaderOf fails header [] h r ↔
      fails = none ∧ byteLen header + 1024 ≤ maxHeaderSize ∧ h = header ∧ r = [] := by
  have hof : HeaderOf fails header (toUtf8 []) h r ↔ _ := headerOf_partial List.not_mem_nil
  rwa [utf8_nil, List.append_nil] at hof

/-- **A header is read** exactly when the stream begins with one that fits. -/
theorem readHeader_eq_ok_iff {fails : Option String} {header h : List Char} {s r : List UInt8} :
    (readHeader fails header s).result = .ok (h, r) ↔ HeaderOf fails header s h r := by
  fun_induction readHeader fails header s with
  | case1 header s hroom =>
    refine ⟨(nomatch ·), fun hof => ?_⟩
    obtain ⟨text, rest, -, -, hfirst, -⟩ := headerOf_first hof
    omega
  | case2 header s hroom line e herror =>
    refine ⟨(nomatch ·), fun hof => ?_⟩
    obtain ⟨text, rest, rfl, hline, -⟩ := headerOf_first hof
    rw [show line.text = _ from hline.readLine_text.1] at herror
    cases herror
  | case3 header s hroom line text htext hexceeds =>
    refine ⟨(nomatch ·), fun hof => ?_⟩
    obtain ⟨hs, hline, -⟩ := readLine_of_text htext
    obtain ⟨text', rest, hs', hline', -, hfit⟩ := headerOf_first hof
    obtain ⟨rfl, -⟩ := hline.unique hline' (hs.symm.trans hs')
    omega
  | case4 header s hroom line text htext hfit hblank =>
    obtain ⟨hs, hline, hsize⟩ := readLine_of_text htext
    have htwo : byteLen text = 2 := hsize.symm.trans hblank.1
    have hne : text ≠ [] := by
      rintro rfl
      cases htwo
    have hwhole := wholeLine_of_getLast? hline hne hblank.2
    have hof : HeaderOf fails header (toUtf8 text ++ line.rest) h r ↔ _ :=
      headerOf_last hwhole htwo (by omega)
    rw [← hs] at hof
    rw [hof, Except.ok.injEq, Prod.mk.injEq, eq_comm, @eq_comm _ r]
  | case5 header s hroom line text htext hfit hblank hsize =>
    obtain ⟨hs, hline, hlength⟩ := readLine_of_text htext
    obtain rfl : text = [] := by
      rw [← utf8_inj, utf8_nil]
      exact List.eq_nil_of_length_eq_zero (hlength.symm.trans hsize)
    rcases hline with ⟨init, hinit, -⟩ | ⟨-, hrest, hend⟩
    · exact absurd hinit.symm (List.append_ne_nil_of_right_ne_nil _ (List.cons_ne_nil _ _))
    · change line.rest = [] at hrest
      rw [List.append_nil, hs, show (readLine fails s).rest = [] from hrest, List.append_nil,
        utf8_nil, headerOf_nil, Except.ok.injEq, Prod.mk.injEq]
      refine ⟨?_, ?_⟩
      · rintro ⟨rfl, rfl⟩
        exact ⟨hend, by omega, rfl, rfl⟩
      · rintro ⟨-, -, rfl, rfl⟩
        exact ⟨rfl, rfl⟩
  | case6 header s hroom line text htext hfit hblank hsize ih =>
    obtain ⟨hs, hline, -⟩ := readLine_of_text htext
    rw [ih]
    rcases hline with hwhole | ⟨hpart, hrest, hend⟩
    · have hof : HeaderOf fails header (toUtf8 text ++ line.rest) h r ↔ _ := headerOf_whole
        ⟨hwhole, goesOn_of_readLine htext hblank hwhole⟩
      rw [← hs] at hof
      exact hof.symm
    · change line.rest = [] at hrest
      rw [hs, show (readLine fails s).rest = [] from hrest, List.append_nil,
        headerOf_partial hpart, headerOf_nil]

end LinkSense
