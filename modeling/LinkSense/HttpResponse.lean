import Mathlib.Data.Bool.AllAny
import LinkSense.HttpRequest
import LinkSense.Utf8

/-!
# Writing an HTTP response

A response to `GET` as HTTP/1.1 has it: interim heads, the final head, and a body that the final
head frames.

    there is no line end in a line of a head
                            (HeaderField.newline_not_mem_line, Head.newline_not_mem_statusLine)
-/

namespace Http

open Scan Utf8

/-! ## Heads -/

/-- A byte of a value or a reason: a blank, a visible character, or what is no ASCII. -/
def isFieldByte (b : UInt8) : Bool := b == 9 || (32 ≤ b && b != 127)

def isBlankByte (b : UInt8) : Bool := b == 9 || b == 32

def crlf : List UInt8 := [13, 10]

structure HeaderField where
  name : List Char
  /-- The value, and the blanks around it. -/
  value : List UInt8
  name_ne_nil : name ≠ []
  name_token : ∀ c ∈ name, isTokenChar c = true
  value_bytes : ∀ b ∈ value, isFieldByte b = true

def HeaderField.line (f : HeaderField) : List UInt8 := toUtf8 (f.name ++ [':']) ++ f.value

structure Head where
  code : List Char
  reason : List UInt8
  fields : List HeaderField
  code_digits : code.length = 3 ∧ ∀ c ∈ code, c.isDigit = true
  reason_bytes : ∀ b ∈ reason, isFieldByte b = true

def Head.status (h : Head) : Nat := decimal h.code

def Head.statusLine (h : Head) : List UInt8 :=
  toUtf8 ("HTTP/1.1 ".toList ++ h.code ++ [' ']) ++ h.reason

def Head.lines (h : Head) : List (List UInt8) := h.statusLine :: h.fields.map HeaderField.line

def encodeLines (lines : List (List UInt8)) : List UInt8 := lines.flatMap fun line => line ++ crlf

def Head.encode (h : Head) : List UInt8 := encodeLines h.lines ++ crlf

/-- The fields of a name. -/
def Head.named (h : Head) (name : String) : List HeaderField :=
  h.fields.filter fun f => sameName f.name name.toList

/-! ## Bodies -/

/-- Extensions of a chunk: none, or what begins with a semicolon, perhaps behind blanks. -/
def IsExtensions (s : List UInt8) : Prop :=
  s = [] ∨ ∃ blanks rest, s = blanks ++ 59 :: rest ∧ (∀ b ∈ blanks, isBlankByte b = true) ∧
    ∀ b ∈ rest, isFieldByte b = true

structure Chunk where
  size : List Char
  extensions : List UInt8
  data : List UInt8
  size_digits : ∀ c ∈ size, isHexDigit c = true
  size_eq : number 16 size = data.length
  extensions_bytes : IsExtensions extensions
  data_ne_nil : data ≠ []

def Chunk.encode (c : Chunk) : List UInt8 :=
  toUtf8 c.size ++ c.extensions ++ crlf ++ (c.data ++ crlf)

structure ChunkedBody where
  chunks : List Chunk
  /-- The size of the last chunk. -/
  zeros : List Char
  extensions : List UInt8
  trailers : List HeaderField
  zeros_ne_nil : zeros ≠ []
  zeros_digits : ∀ c ∈ zeros, c = '0'
  extensions_bytes : IsExtensions extensions

def ChunkedBody.encode (b : ChunkedBody) : List UInt8 :=
  b.chunks.flatMap Chunk.encode ++ (toUtf8 b.zeros ++ b.extensions ++ crlf) ++
    (encodeLines (b.trailers.map HeaderField.line) ++ crlf)

def ChunkedBody.data (b : ChunkedBody) : List UInt8 := b.chunks.flatMap Chunk.data

inductive Body where
  | none
  | length (data : List UInt8)
  | chunked (body : ChunkedBody)
  | close (data : List UInt8)

def Body.encode : Body → List UInt8
  | .none => []
  | .length data => data
  | .chunked body => body.encode
  | .close data => data

def Body.data : Body → List UInt8
  | .none => []
  | .length data => data
  | .chunked body => body.data
  | .close data => data

/-! ## Framing -/

/-- The last of the codings in a value is `chunked`. -/
def EndsChunked (value : List UInt8) : Prop :=
  ∃ front word blanks, value = front ++ toUtf8 word ++ blanks ∧
    sameName word "chunked".toList = true ∧ (∀ b ∈ blanks, isBlankByte b = true) ∧
    ∃ codings before, front = codings ++ before ∧ (∀ b ∈ before, isBlankByte b = true) ∧
      (codings = [] ∨ codings.getLast? = some 44)

def Head.ChunkedLast (h : Head) : Prop :=
  ∃ f, (h.named "transfer-encoding").getLast? = some f ∧ EndsChunked f.value

/-- One field has these digits as its value, if there are any, and no other field is of its name. -/
def Head.HasLength (h : Head) : Option (List Char) → Prop
  | none => h.named "content-length" = []
  | some digits => digits ≠ [] ∧ (∀ c ∈ digits, c.isDigit = true) ∧
      ∃ f before behind, h.named "content-length" = [f] ∧
        f.value = before ++ toUtf8 digits ++ behind ∧
        (∀ b ∈ before, isBlankByte b = true) ∧ ∀ b ∈ behind, isBlankByte b = true

/-- How a head frames its body, in the order of precedence. -/
inductive Framed (h : Head) (length : Option (List Char)) : Body → Prop
  | none : h.status = 204 ∨ h.status = 304 → Framed h length .none
  | chunked (body : ChunkedBody) : h.status ≠ 204 → h.status ≠ 304 → h.ChunkedLast →
      Framed h length (.chunked body)
  | length (data : List UInt8) (digits : List Char) : h.status ≠ 204 → h.status ≠ 304 →
      h.named "transfer-encoding" = [] → length = some digits → number 10 digits = data.length →
      Framed h length (.length data)
  | close (data : List UInt8) : h.status ≠ 204 → h.status ≠ 304 → ¬ h.ChunkedLast →
      (h.named "transfer-encoding" = [] → length = none) → Framed h length (.close data)

structure Response where
  interims : List Head
  head : Head
  /-- The digits of `Content-Length`. -/
  length : Option (List Char)
  body : Body
  interims_status : ∀ h ∈ interims, 100 ≤ h.status ∧ h.status < 200
  head_status : 200 ≤ head.status ∧ head.status < 600
  length_field : head.HasLength length
  framed : Framed head length body

def Response.encode (r : Response) : List UInt8 :=
  r.interims.flatMap Head.encode ++ r.head.encode ++ r.body.encode

/-! ## Lines -/

theorem toNat_of_isDigit {c : Char} (h : c.isDigit = true) : 48 ≤ c.toNat ∧ c.toNat ≤ 57 := by
  unfold Char.isDigit at h
  rw [Bool.and_eq_true, decide_eq_true_eq, decide_eq_true_eq] at h
  exact h

theorem toNat_of_isAlphanum {c : Char} (h : c.isAlphanum = true) :
    (65 ≤ c.toNat ∧ c.toNat ≤ 90) ∨ (97 ≤ c.toNat ∧ c.toNat ≤ 122) ∨
      (48 ≤ c.toNat ∧ c.toNat ≤ 57) := by
  rcases Bool.or_eq_true_iff.1 h with halpha | hdigit
  · rcases Bool.or_eq_true_iff.1 halpha with hupper | hlower
    · exact .inl (of_decide_eq_true hupper)
    · obtain ⟨hmin, hmax⟩ := Bool.and_eq_true_iff.1 hlower
      exact .inr (.inl ⟨of_decide_eq_true hmin, of_decide_eq_true hmax⟩)
  · exact .inr (.inr (toNat_of_isDigit hdigit))

theorem toNat_of_isTokenChar {c : Char} (h : isTokenChar c = true) :
    32 < c.toNat ∧ c.toNat < 128 ∧ c ≠ ':' := by
  unfold isTokenChar at h
  rcases Bool.or_eq_true_iff.1 h with hname | hmark
  · have hrange := toNat_of_isAlphanum hname
    refine ⟨by omega, by omega, ?_⟩
    rintro rfl
    exact absurd hname (by decide)
  · have hall : ∀ d ∈ "!#$%&'*+-.^_`|~".toList, 32 < d.toNat ∧ d.toNat < 128 ∧ d ≠ ':' :=
      List.all_iff_forall_prop.1 (by decide)
    exact hall c (List.contains_iff_mem.1 hmark)

theorem ne_of_isFieldByte {b : UInt8} (h : isFieldByte b = true) : b ≠ 10 := by
  rintro rfl
  exact absurd h (by decide)

theorem HeaderField.newline_not_mem_line (f : HeaderField) : 10 ∉ f.line := by
  unfold HeaderField.line
  rw [List.mem_append, not_or]
  refine ⟨?_, fun h => ne_of_isFieldByte (f.value_bytes 10 h) rfl⟩
  have hmem : 10 ∈ toUtf8 (f.name ++ [':']) ↔ '\n' ∈ f.name ++ [':'] :=
    mem_utf8_iff (a := '\n') (by decide)
  rw [hmem, List.mem_append, not_or]
  exact ⟨fun h => absurd (f.name_token _ h) (by decide), by decide⟩

theorem Head.newline_not_mem_statusLine (h : Head) : 10 ∉ h.statusLine := by
  unfold Head.statusLine
  rw [List.mem_append, not_or]
  refine ⟨?_, fun hmem => ne_of_isFieldByte (h.reason_bytes 10 hmem) rfl⟩
  have hmem : 10 ∈ toUtf8 ("HTTP/1.1 ".toList ++ h.code ++ [' ']) ↔
      '\n' ∈ "HTTP/1.1 ".toList ++ h.code ++ [' '] := mem_utf8_iff (a := '\n') (by decide)
  rw [hmem, List.mem_append, List.mem_append, not_or, not_or]
  exact ⟨⟨by decide, fun h' => absurd (h.code_digits.2 _ h') (by decide)⟩, by decide⟩

theorem toLower_eq_colon {c : Char} (h : c.toLower = ':') : c = ':' := by
  unfold Char.toLower at h
  split at h
  · next hupper =>
    have hval := congrArg (fun d : Char => d.val.toNat) h
    change (c.val.toNat + 32) % 2 ^ 32 = 58 at hval
    have hlow : 65 ≤ c.val.toNat := UInt32.le_iff_toNat_le.1 hupper.1
    have hhigh : c.val.toNat ≤ 90 := UInt32.le_iff_toNat_le.1 hupper.2
    omega
  · exact h

/-- A line begins with a name and a colon when the name is the field's. -/
theorem prefix_iff_name {name s : List Char} (hname : ':' ∉ name) (hs : ':' ∉ s)
    (value : List Char) :
    s ++ [':'] <+: (name ++ ':' :: value).map Char.toLower ↔ name.map Char.toLower = s := by
  have hlower : ':' ∉ name.map Char.toLower := by
    rw [List.mem_map]
    rintro ⟨c, hc, hcolon⟩
    exact hname (toLower_eq_colon hcolon ▸ hc)
  rw [List.map_append, List.map_cons, show Char.toLower ':' = ':' by decide]
  constructor
  · rintro ⟨rest, hrest⟩
    rw [List.append_assoc, List.singleton_append] at hrest
    have hcut := cutFirst_append hs rest
    rw [hrest, cutFirst_append hlower] at hcut
    exact (Prod.mk.inj (Option.some.inj hcut)).1
  · rintro rfl
    exact ⟨value.map Char.toLower, by rw [List.append_assoc, List.singleton_append]⟩

/-- What is read of a line of a field. -/
theorem HeaderField.exists_of_line {f : HeaderField} {text : List Char} (h : toUtf8 text = f.line) :
    ∃ value, text = f.name ++ ':' :: value ∧ toUtf8 value = f.value := by
  obtain ⟨value, rfl, hvalue⟩ := utf8_eq_append (a := f.name ++ [':']) (by
    rw [List.forall_mem_append]
    exact ⟨fun c hc => (toNat_of_isTokenChar (f.name_token c hc)).2.1,
      List.forall_mem_singleton.2 (by decide)⟩) h
  exact ⟨value, by simp, hvalue⟩

theorem HeaderField.colon_not_mem (f : HeaderField) : ':' ∉ f.name :=
  fun h => (toNat_of_isTokenChar (f.name_token ':' h)).2.2 rfl

/-- What is read of a status line. -/
theorem Head.exists_of_statusLine {h : Head} {text : List Char}
    (htext : toUtf8 text = h.statusLine) :
    ∃ reason, text = "HTTP/1.1".toList ++ ' ' :: (h.code ++ ' ' :: reason) ∧
      toUtf8 reason = h.reason := by
  obtain ⟨reason, rfl, hreason⟩ := utf8_eq_append (a := "HTTP/1.1 ".toList ++ h.code ++ [' ']) (by
    rw [List.forall_mem_append, List.forall_mem_append]
    refine ⟨⟨List.all_iff_forall_prop.1 (by decide), fun c hc => ?_⟩,
      List.forall_mem_singleton.2 (by decide)⟩
    have := toNat_of_isDigit (h.code_digits.2 c hc)
    omega) htext
  exact ⟨reason, by simp, hreason⟩

/-- Blanks are a text. -/
theorem exists_text_of_blanks {b : List UInt8} (h : ∀ x ∈ b, isBlankByte x = true) :
    ∃ s, toUtf8 s = b ∧ ∀ c ∈ s, isBlank c = true := by
  induction b with
  | nil => exact ⟨[], rfl, by simp⟩
  | cons x b ih =>
    obtain ⟨hx, hb⟩ := List.forall_mem_cons.1 h
    obtain ⟨s, rfl, hs⟩ := ih hb
    rcases Bool.or_eq_true_iff.1 hx with htab | hspace
    · exact ⟨'\t' :: s, by rw [utf8_cons, eq_of_beq htab]; rfl,
        List.forall_mem_cons.2 ⟨by decide, hs⟩⟩
    · exact ⟨' ' :: s, by rw [utf8_cons, eq_of_beq hspace]; rfl,
        List.forall_mem_cons.2 ⟨by decide, hs⟩⟩

theorem lt_of_toLower {c : Char} (h : c.toLower.toNat < 128) : c.toNat < 128 := by
  unfold Char.toLower at h
  split at h
  · next hupper =>
    have hhigh : c.toNat ≤ 90 := UInt32.le_iff_toNat_le.1 hupper.2
    omega
  · exact h

theorem ascii_of_sameName {word name : List Char} (h : sameName word name = true)
    (hname : ∀ c ∈ name.map Char.toLower, c.toNat < 128) : ∀ c ∈ word, c.toNat < 128 := by
  intro c hc
  have hmem := List.mem_map_of_mem (f := Char.toLower) hc
  rw [eq_of_beq h] at hmem
  exact lt_of_toLower (hname _ hmem)

theorem newline_not_mem_extensions {s : List UInt8} (h : IsExtensions s) : 10 ∉ s := by
  rcases h with rfl | ⟨blanks, rest, rfl, hblanks, hrest⟩
  · exact List.not_mem_nil
  · rw [List.mem_append, List.mem_cons, not_or, not_or]
    exact ⟨fun hmem => absurd (hblanks 10 hmem) (by decide), by decide,
      fun hmem => ne_of_isFieldByte (hrest 10 hmem) rfl⟩

theorem semicolon_mem_extensions {s : List UInt8} (h : IsExtensions s) (hne : s ≠ []) : 59 ∈ s := by
  rcases h with rfl | ⟨blanks, rest, rfl, -, -⟩
  · exact absurd rfl hne
  · exact List.mem_append_right _ List.mem_cons_self

end Http
