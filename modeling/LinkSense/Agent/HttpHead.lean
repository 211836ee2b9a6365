import LinkSense.Agent.HttpHeader
import LinkSense.HttpResponse

/-!
# The head of a response

What is read of the head of a response to HTTP/1.1, and what is found in it.

    a header is read from a head ↔ its lines are texts, and there is room for them (headerOf_head)
    the status, the length and the words of the head are found
                      (statusCode_crlfLines, contentLength_crlfLines, isChunked_crlfLines)
-/

namespace LinkSense

open ByteReader Utf8 Scan Http

/-! ## The lines -/

/-- Lines with their ends. -/
def crlfLines (texts : List (List Char)) : List Char :=
  texts.flatMap fun text => text ++ ['\r', '\n']

theorem utf8_crlf : toUtf8 ['\r', '\n'] = crlf := by decide

theorem byteLen_crlf : byteLen ['\r', '\n'] = 2 := by decide

theorem crlfLines_cons (text : List Char) (texts : List (List Char)) :
    crlfLines (text :: texts) = text ++ ['\r', '\n'] ++ crlfLines texts := rfl

theorem encodeLines_cons (line : List UInt8) (lines : List (List UInt8)) :
    encodeLines (line :: lines) = line ++ crlf ++ encodeLines lines := rfl

/-- A line with its end is one, when it is a text. -/
theorem wholeLine_crlf (text : List Char) (h : '\n' ∉ text) :
    WholeLine (text ++ ['\r', '\n']) :=
  ⟨text ++ ['\r'], by simp, by simp [h]⟩

theorem cutLine_crlf (line : List UInt8) (h : 10 ∉ line) (s : List UInt8) :
    cutLine (line ++ crlf ++ s) = (line ++ crlf, s) := by
  have hcut := cutLine_of_mem (a := line ++ [13]) (by simp [h]) s
  unfold crlf
  simpa using hcut

/-- **A header is read from a head** when its lines are texts, and there is room for them. -/
theorem headerOf_lines {fails : Option String} {header h : List Char} {ls : List (List UInt8)}
    {rest r : List UInt8} (hls : ∀ line ∈ ls, 10 ∉ line ∧ line ≠ []) :
    HeaderOf fails header (encodeLines ls ++ (crlf ++ rest)) h r ↔
      ∃ texts : List (List Char), ls = texts.map toUtf8 ∧
        byteLen (header ++ crlfLines texts) + 1024 ≤ maxHeaderSize ∧
        h = header ++ crlfLines texts ++ ['\r', '\n'] ∧ r = rest := by
  induction ls generalizing header with
  | nil =>
    have hblank : ∀ {text : List Char}, text = ['\r', '\n'] → WholeLine text := by
      rintro text rfl
      exact wholeLine_crlf [] List.not_mem_nil
    rw [show encodeLines [] ++ (crlf ++ rest) = toUtf8 ['\r', '\n'] ++ rest by rw [utf8_crlf]; rfl]
    constructor
    · intro hof
      obtain ⟨text, rest', -, -, hroom, -⟩ := headerOf_first hof
      obtain ⟨rfl, rfl⟩ := (headerOf_last (hblank rfl) byteLen_crlf hroom).1 hof
      refine ⟨[], rfl, ?_, ?_, rfl⟩
      · rwa [show crlfLines [] = [] from rfl, List.append_nil]
      · rw [show crlfLines [] = [] from rfl, List.append_nil]
    · rintro ⟨texts, htexts, hroom, rfl, rfl⟩
      obtain rfl := List.map_eq_nil_iff.1 htexts.symm
      rw [show crlfLines [] = [] from rfl, List.append_nil] at hroom ⊢
      exact (headerOf_last (hblank rfl) byteLen_crlf hroom).2 ⟨rfl, rfl⟩
  | cons line ls ih =>
    obtain ⟨⟨hline, hne⟩, hrest⟩ := List.forall_mem_cons.1 hls
    have hstep : ∀ {text : List Char}, toUtf8 text = line →
        (HeaderOf fails header (encodeLines (line :: ls) ++ (crlf ++ rest)) h r ↔
          HeaderOf fails (header ++ (text ++ ['\r', '\n'])) (encodeLines ls ++ (crlf ++ rest)) h
            r) := by
      rintro text rfl
      rw [encodeLines_cons, List.append_assoc, ← utf8_crlf, ← utf8_append, utf8_crlf]
      refine headerOf_whole ⟨wholeLine_crlf _ (newline_mem_utf8.not.1 hline), fun htwo => ?_⟩
      rw [byteLen_append, byteLen_crlf, byteLen] at htwo
      exact hne (List.eq_nil_of_length_eq_zero (by omega))
    constructor
    · intro hof
      obtain ⟨text, rest', heq, htext, -, -⟩ := headerOf_first hof
      have hcut := cutLine_crlf line hline (encodeLines ls ++ (crlf ++ rest))
      rw [← List.append_assoc, ← encodeLines_cons] at hcut
      rw [heq, cutLine_utf8 htext, ← utf8_crlf] at hcut
      obtain ⟨t, rfl, ht⟩ :=
        utf8_eq_append_left (List.all_iff_forall_prop.1 (by decide)) (Prod.mk.inj hcut).1
      obtain ⟨texts, rfl, hroom, rfl, rfl⟩ := (ih hrest).1 ((hstep ht).1 hof)
      rw [List.append_assoc header, ← crlfLines_cons] at hroom
      refine ⟨t :: texts, by rw [List.map_cons, ht], hroom, ?_, rfl⟩
      rw [List.append_assoc header, ← crlfLines_cons]
    · rintro ⟨texts, htexts, hroom, rfl, rfl⟩
      obtain ⟨t, texts, rfl, ht, rfl⟩ := List.map_eq_cons_iff.1 htexts.symm
      rw [crlfLines_cons, ← List.append_assoc] at hroom
      refine (hstep ht).2 ((ih hrest).2 ⟨texts, rfl, hroom, ?_, rfl⟩)
      rw [crlfLines_cons, ← List.append_assoc header]

theorem utf8_crlfLines (texts : List (List Char)) :
    toUtf8 (crlfLines texts) = encodeLines (texts.map toUtf8) := by
  induction texts with
  | nil => rfl
  | cons text texts ih =>
    rw [crlfLines_cons, utf8_append, utf8_append, utf8_crlf, ih, List.map_cons, encodeLines_cons]

theorem length_encode {h : Head} {texts : List (List Char)} (htexts : h.lines = texts.map toUtf8) :
    h.encode.length = byteLen (crlfLines texts) + 2 := by
  rw [Head.encode, List.length_append, htexts, ← utf8_crlfLines]
  rfl

/-- A header is read from a head, of which the first byte is read before. -/
theorem headerOf_head {h : Head} {fails : Option String} {b : UInt8} {bytes more r : List UInt8}
    {header : List Char} (hbytes : b :: bytes = h.encode ++ more) :
    HeaderOf fails [Char.ofNat b.toNat] bytes header r ↔
      ∃ texts : List (List Char), h.lines = texts.map toUtf8 ∧
        h.encode.length + 1022 ≤ maxHeaderSize ∧
        header = crlfLines texts ++ ['\r', '\n'] ∧ r = more := by
  obtain ⟨line, hline⟩ : ∃ line, h.statusLine = 72 :: line :=
    ⟨toUtf8 ("TTP/1.1 ".toList ++ h.code ++ [' ']) ++ h.reason, rfl⟩
  have hshape : h.encode ++ more =
      72 :: (encodeLines (line :: h.fields.map HeaderField.line) ++ (crlf ++ more)) := by
    rw [Head.encode, Head.lines, hline, encodeLines_cons, encodeLines_cons]
    simp only [List.cons_append, List.append_assoc]
  rw [hshape] at hbytes
  obtain ⟨rfl, rfl⟩ := List.cons.inj hbytes
  have hls : ∀ l ∈ line :: h.fields.map HeaderField.line, 10 ∉ l ∧ l ≠ [] := by
    rw [List.forall_mem_cons]
    refine ⟨⟨fun hmem => ?_, ?_⟩, fun l hl => ?_⟩
    · exact h.newline_not_mem_statusLine (hline ▸ List.mem_cons_of_mem _ hmem)
    · rintro rfl
      have hlength := congrArg List.length hline
      unfold Head.statusLine at hlength
      rw [List.append_assoc, utf8_append, List.length_append, List.length_append] at hlength
      have hversion : (toUtf8 "HTTP/1.1 ".toList).length = 9 := by decide
      rw [hversion, List.length_singleton] at hlength
      omega
    · obtain ⟨f, -, rfl⟩ := List.mem_map.1 hl
      refine ⟨f.newline_not_mem_line, fun hnil => ?_⟩
      unfold HeaderField.line at hnil
      have hname := (List.append_eq_nil_iff.1 hnil).1
      rw [← utf8_nil, utf8_inj] at hname
      exact List.append_ne_nil_of_right_ne_nil _ (List.cons_ne_nil _ _) hname
  rw [headerOf_lines hls]
  constructor
  · rintro ⟨texts, htexts, hroom, rfl, rfl⟩
    obtain ⟨text, texts, rfl, htext, hfields⟩ := List.map_eq_cons_iff.1 htexts.symm
    have hlines : h.lines = (('H' :: text) :: texts).map toUtf8 := by
      rw [Head.lines, hline, List.map_cons, hfields, ← htext]
      rfl
    refine ⟨('H' :: text) :: texts, hlines, ?_, rfl, rfl⟩
    rw [length_encode hlines]
    exact hroom
  · rintro ⟨texts, htexts, hroom, rfl, rfl⟩
    rw [length_encode htexts] at hroom
    obtain ⟨text, texts, rfl, htext, hfields⟩ := List.map_eq_cons_iff.1 htexts.symm
    obtain ⟨t, rfl, ht⟩ :=
      utf8_eq_append (a := ['H']) (List.forall_mem_singleton.2 (by decide)) (htext.trans hline)
    exact ⟨t :: texts, by rw [List.map_cons, ht, hfields], hroom, rfl, rfl⟩

/-! ## What is found in the header -/

theorem lines_crlfLines {texts : List (List Char)} (h : ∀ text ∈ texts, '\n' ∉ text) :
    lines (crlfLines texts ++ ['\r', '\n']) = texts ++ [[]] := by
  induction texts with
  | nil => decide
  | cons text texts ih =>
    obtain ⟨htext, hrest⟩ := List.forall_mem_cons.1 h
    rw [crlfLines_cons, List.append_assoc, List.append_assoc]
    show lines (text ++ '\r' :: '\n' :: (crlfLines texts ++ ['\r', '\n'])) = _
    rw [lines_append htext, ih hrest, List.cons_append]

theorem newline_not_mem_of_lines {h : Head} {texts : List (List Char)}
    (htexts : h.lines = texts.map toUtf8) : ∀ text ∈ texts, '\n' ∉ text := by
  intro text hmem
  have hline : toUtf8 text ∈ h.lines := by
    rw [htexts]
    exact List.mem_map_of_mem hmem
  rw [← newline_mem_utf8]
  rcases List.mem_cons.1 hline with hstatus | hfield
  · rw [hstatus]
    exact h.newline_not_mem_statusLine
  · obtain ⟨f, -, hf⟩ := List.mem_map.1 hfield
    rw [← hf]
    exact f.newline_not_mem_line

/-- The texts of a head: of the status line, and of the fields. -/
theorem exists_texts {h : Head} {texts : List (List Char)} (htexts : h.lines = texts.map toUtf8) :
    ∃ reason fieldTexts,
      texts = ("HTTP/1.1".toList ++ ' ' :: (h.code ++ ' ' :: reason)) :: fieldTexts ∧
      h.fields.map HeaderField.line = fieldTexts.map toUtf8 := by
  obtain ⟨text, fieldTexts, rfl, htext, hfields⟩ := List.map_eq_cons_iff.1 htexts.symm
  obtain ⟨reason, rfl, -⟩ := Head.exists_of_statusLine htext
  exact ⟨reason, fieldTexts, rfl, hfields.symm⟩

theorem status_lt (h : Head) : h.status < 1000 := by
  obtain ⟨hlength, hdigits⟩ := h.code_digits
  unfold Head.status
  match hcode : h.code, hlength with
  | [a, b, c], _ =>
    rw [hcode] at hdigits
    have ha := toNat_of_isDigit (hdigits a (by simp))
    have hb := toNat_of_isDigit (hdigits b (by simp))
    have hc := toNat_of_isDigit (hdigits c (by simp))
    have hzero : '0'.toNat = 48 := by decide
    simp only [decimal, List.foldl_cons, List.foldl_nil, hzero]
    omega

theorem isWhiteSpace_of_isDigit {c : Char} (h : c.isDigit = true) : isWhiteSpace c = false := by
  obtain ⟨hlow, hhigh⟩ := toNat_of_isDigit h
  unfold isWhiteSpace
  simp
  omega

theorem statusOfLine_statusLine (h : Head) (reason : List Char) :
    statusOfLine ("HTTP/1.1".toList ++ ' ' :: (h.code ++ ' ' :: reason)) =
      some (UInt16.ofNat h.status) := by
  obtain ⟨hlength, hdigits⟩ := h.code_digits
  have hne : h.code ≠ [] := List.ne_nil_of_length_pos (by omega)
  have hprefix : "http/".toList <+:
      ("HTTP/1.1".toList ++ ' ' :: (h.code ++ ' ' :: reason)).map Char.toLower := by
    rw [List.map_append]
    exact (show "http/".toList <+: "HTTP/1.1".toList.map Char.toLower by decide).trans
      (List.prefix_append _ _)
  have hplus : ∀ s, h.code ≠ '+' :: s := by
    intro s hs
    exact absurd (hdigits '+' (by rw [hs]; exact List.mem_cons_self)) (by decide)
  have hall : h.code ≠ [] ∧ h.code.all Char.isDigit ∧ decimal h.code < 2 ^ 16 :=
    ⟨hne, by simpa using hdigits, (status_lt h).trans (by decide)⟩
  unfold statusOfLine
  rw [if_pos hprefix, secondWord_append (List.all_iff_forall_prop.1 (by decide)) (by decide)
    (fun c hc => isWhiteSpace_of_isDigit (hdigits c hc)) hne, Option.bind_some]
  unfold Net.parseU16
  split
  · next s hs => exact absurd hs (hplus s)
  · rw [Net.parsePort, Net.parseBits, if_pos hall, Option.map_some]
    rfl

theorem statusCode_crlfLines {h : Head} {texts : List (List Char)}
    (htexts : h.lines = texts.map toUtf8) :
    statusCode (crlfLines texts ++ ['\r', '\n']) = some (UInt16.ofNat h.status) := by
  unfold statusCode
  rw [lines_crlfLines (newline_not_mem_of_lines htexts)]
  obtain ⟨reason, fieldTexts, rfl, -⟩ := exists_texts htexts
  rw [List.cons_append, List.findSome?_cons, statusOfLine_statusLine]

/-- What a field that is not of the name says about the length. -/
theorem lengthOfLine_eq_none {f : HeaderField} {text : List Char} (htext : toUtf8 text = f.line)
    (hname : sameName f.name "content-length".toList = false) : lengthOfLine text = none := by
  obtain ⟨value, rfl, -⟩ := HeaderField.exists_of_line htext
  unfold lengthOfLine
  rw [if_neg]
  intro hprefix
  have hlower := (prefix_iff_name f.colon_not_mem (s := "content-length".toList) (by decide)
    value).1 hprefix
  rw [sameName, hlower, show "content-length".toList.map Char.toLower = "content-length".toList by
    decide, beq_self_eq_true] at hname
  cases hname

theorem eq_of_isBlank {c : Char} (h : isBlank c = true) : c = ' ' ∨ c = '\t' :=
  (Bool.or_eq_true_iff.1 h).imp eq_of_beq eq_of_beq

/-- The length of a field, when it is one that fits. -/
theorem lengthOfLine_eq {f : HeaderField} {text digits : List Char} {before behind : List UInt8}
    (htext : toUtf8 text = f.line) (hname : sameName f.name "content-length".toList = true)
    (hvalue : f.value = before ++ toUtf8 digits ++ behind) (hne : digits ≠ [])
    (hdigits : ∀ c ∈ digits, c.isDigit = true) (hbefore : ∀ b ∈ before, isBlankByte b = true)
    (hbehind : ∀ b ∈ behind, isBlankByte b = true) :
    lengthOfLine text = if number 10 digits < 2 ^ 64 then some (number 10 digits) else none := by
  obtain ⟨value, rfl, hutf8⟩ := HeaderField.exists_of_line htext
  obtain ⟨blanks, rfl, hblanks⟩ := exists_text_of_blanks hbefore
  obtain ⟨blanks', rfl, hblanks'⟩ := exists_text_of_blanks hbehind
  rw [hvalue, ← utf8_append, ← utf8_append, utf8_inj] at hutf8
  subst hutf8
  have hlower : f.name.map Char.toLower = "content-length".toList := by
    rw [eq_of_beq hname]
    decide
  have hprefix := (prefix_iff_name f.colon_not_mem (s := "content-length".toList) (by decide)
    (blanks ++ digits ++ blanks')).2 hlower
  have hwhite : ∀ {c : Char}, isBlank c = true → isWhiteSpace c = true := by
    intro c hc
    rcases eq_of_isBlank hc with rfl | rfl <;> decide
  have hcolon : ':' ∉ blanks ++ digits ++ blanks' := by
    rw [List.mem_append, List.mem_append, not_or, not_or]
    refine ⟨⟨fun h => ?_, fun h => ?_⟩, fun h => ?_⟩
    · exact absurd (hblanks _ h) (by decide)
    · exact absurd (hdigits _ h) (by decide)
    · exact absurd (hblanks' _ h) (by decide)
  have hradix : ∀ c ∈ digits, isHexDigit c = true ∧ hexDigit c < 10 := by
    intro c hc
    have hdigit := hdigits c hc
    have hrange := toNat_of_isDigit hdigit
    have hzero : '0'.toNat = 48 := by decide
    refine ⟨by simp [isHexDigit, hdigit], ?_⟩
    rw [hexDigit, if_pos hdigit, hzero]
    omega
  unfold lengthOfLine
  rw [if_pos (show "content-length:".toList <+: _ from hprefix),
    List.splitOn_append_cons_self_of_not_mem f.colon_not_mem, List.splitOn_eq_singleton hcolon]
  show (fromStrRadix 10 (trim (blanks ++ digits ++ blanks'))).toOption = _
  rw [trim_append (fun c hc => hwhite (hblanks c hc))
    (fun c hc => isWhiteSpace_of_isDigit (hdigits c hc)) (fun c hc => hwhite (hblanks' c hc)),
    fromStrRadix_eq (by decide) hne hradix]
  split <;> rfl

theorem findSome?_lengthOfLine_none {fields : List HeaderField} {texts : List (List Char)}
    (htexts : fields.map HeaderField.line = texts.map toUtf8)
    (h : fields.filter (fun f => sameName f.name "content-length".toList) = []) :
    texts.findSome? lengthOfLine = none := by
  rw [List.findSome?_eq_none_iff]
  intro text hmem
  have hline : toUtf8 text ∈ fields.map HeaderField.line := by
    rw [htexts]
    exact List.mem_map_of_mem hmem
  obtain ⟨f, hf, hutf8⟩ := List.mem_map.1 hline
  refine lengthOfLine_eq_none hutf8.symm ?_
  simpa using List.filter_eq_nil_iff.1 h f hf

theorem findSome?_lengthOfLine_some {fields : List HeaderField} {texts : List (List Char)}
    {f : HeaderField} {length : Option Nat}
    (htexts : fields.map HeaderField.line = texts.map toUtf8)
    (hf : fields.filter (fun f => sameName f.name "content-length".toList) = [f])
    (hlength : ∀ text, toUtf8 text = f.line → lengthOfLine text = length) :
    texts.findSome? lengthOfLine = length := by
  induction fields generalizing texts with
  | nil => cases hf
  | cons g fields ih =>
    obtain ⟨text, texts, rfl, htext, hrest⟩ := List.map_eq_cons_iff.1 htexts.symm
    rw [List.filter_cons] at hf
    rw [List.findSome?_cons]
    split at hf
    · obtain ⟨rfl, hnone⟩ := List.cons.inj hf
      rw [hlength text htext, findSome?_lengthOfLine_none hrest.symm hnone]
      cases length <;> rfl
    · next hname => rw [lengthOfLine_eq_none htext (by simpa using hname), ih hrest.symm hf]

/-- What the reader takes digits for: nothing, when their number is too large. -/
def declaredLength : Option (List Char) → Nat
  | none => 0
  | some digits => if number 10 digits < 2 ^ 64 then number 10 digits else 0

theorem lengthOfLine_statusLine (line : List Char) :
    lengthOfLine ("HTTP/1.1".toList ++ line) = none := by
  unfold lengthOfLine
  rw [if_neg]
  rintro ⟨rest, hrest⟩
  rw [List.map_append] at hrest
  have := congrArg List.head? hrest
  revert this
  exact fun h => absurd (Option.some.inj h) (by decide)

theorem contentLength_crlfLines {h : Head} {length : Option (List Char)} {texts : List (List Char)}
    (htexts : h.lines = texts.map toUtf8) (hlength : h.HasLength length) :
    (contentLength (crlfLines texts ++ ['\r', '\n'])).getD 0 = declaredLength length := by
  unfold contentLength
  rw [lines_crlfLines (newline_not_mem_of_lines htexts), List.findSome?_append,
    show [[]].findSome? lengthOfLine = none by decide, Option.or_none]
  obtain ⟨reason, fieldTexts, rfl, hfields⟩ := exists_texts htexts
  rw [List.findSome?_cons, lengthOfLine_statusLine]
  show (fieldTexts.findSome? lengthOfLine).getD 0 = _
  cases length with
  | none =>
    rw [findSome?_lengthOfLine_none hfields hlength]
    rfl
  | some digits =>
    obtain ⟨hne, hdigits, f, before, behind, hf, hvalue, hbefore, hbehind⟩ := hlength
    have hname : sameName f.name "content-length".toList = true := by
      have hmem : f ∈ h.named "content-length" := by
        rw [hf]
        exact List.mem_singleton_self f
      exact (List.mem_filter.1 hmem).2
    rw [findSome?_lengthOfLine_some hfields hf fun text htext =>
      lengthOfLine_eq htext hname hvalue hne hdigits hbefore hbehind]
    by_cases hfit : number 10 digits < 2 ^ 64
    · simp only [declaredLength, if_pos hfit, Option.getD_some]
    · simp only [declaredLength, if_neg hfit, Option.getD_none]

theorem isChunked_crlfLines {h : Head} {texts : List (List Char)}
    (htexts : h.lines = texts.map toUtf8) :
    isChunked (crlfLines texts ++ ['\r', '\n']) = texts.any mentionsChunked := by
  unfold isChunked
  rw [lines_crlfLines (newline_not_mem_of_lines htexts), List.any_append,
    show [[]].any mentionsChunked = false by decide, Bool.or_false]

theorem mentionsChunked_of_endsChunked {f : HeaderField} {text : List Char}
    (htext : toUtf8 text = f.line) (hname : sameName f.name "transfer-encoding".toList = true)
    (h : EndsChunked f.value) : mentionsChunked text = true := by
  obtain ⟨value, rfl, hutf8⟩ := HeaderField.exists_of_line htext
  obtain ⟨front, word, blanks, hvalue, hword, hblanks, -⟩ := h
  obtain ⟨behind, rfl, hbehind⟩ := exists_text_of_blanks hblanks
  rw [hvalue, List.append_assoc, ← utf8_append] at hutf8
  have hascii : ∀ c ∈ word ++ behind, c.toNat < 128 := by
    rw [List.forall_mem_append]
    refine ⟨ascii_of_sameName hword (List.all_iff_forall_prop.1 (by decide)), fun c hc => ?_⟩
    rcases eq_of_isBlank (hbehind c hc) with rfl | rfl <;> decide
  obtain ⟨t, rfl, -⟩ := utf8_eq_append_left hascii hutf8
  have hlower : f.name.map Char.toLower = "transfer-encoding".toList := by
    rw [eq_of_beq hname]
    decide
  have hlower' : word.map Char.toLower = "chunked".toList := by
    rw [eq_of_beq hword]
    decide
  unfold mentionsChunked
  rw [Bool.and_eq_true, decide_eq_true_eq, decide_eq_true_eq]
  refine ⟨?_, ?_⟩
  · rw [List.map_append, hlower]
    exact (List.prefix_append _ _).isInfix
  · refine ⟨(f.name ++ ':' :: t).map Char.toLower, behind.map Char.toLower, ?_⟩
    rw [← hlower', ← List.map_append, ← List.map_append]
    simp

theorem any_mentionsChunked {h : Head} {texts : List (List Char)}
    (htexts : h.lines = texts.map toUtf8) (hchunked : h.ChunkedLast) :
    texts.any mentionsChunked = true := by
  obtain ⟨f, hlast, hends⟩ := hchunked
  obtain ⟨hf, hname⟩ := List.mem_filter.1 (List.mem_of_getLast? hlast)
  have hline : f.line ∈ texts.map toUtf8 := by
    rw [← htexts]
    exact List.mem_cons_of_mem _ (List.mem_map_of_mem hf)
  obtain ⟨text, hmem, htext⟩ := List.mem_map.1 hline
  rw [List.any_eq_true]
  exact ⟨text, hmem, mentionsChunked_of_endsChunked htext hname hends⟩

end LinkSense
