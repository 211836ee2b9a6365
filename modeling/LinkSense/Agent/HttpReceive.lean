import Mathlib.Data.List.Infix
import LinkSense.ByteReader
import LinkSense.NetAddr

/-!
# The response of an HTTP probe

`get_content_download_timing` of `agent/src/task_http.rs`: the header is read line by line into one
text, and the body is read and dropped, for a length, in chunks, or to the end of the connection.

    blocks that are dropped are as many bytes as one read would take            (discard_eq)
-/

namespace LinkSense

open ByteReader Utf8 Scan

/-! ## The connection -/

/-- A connection: what the server sends after the first byte. -/
structure Connection where
  bytes : List UInt8
  /-- The error that is read after the bytes, if they are not all there is. -/
  fails : Option String
  /-- How many bytes there are for each call of `read`, if that many are left. -/
  segment : Nat → Nat

def maxHeaderSize : Nat := 64 * 1024

def maxBodySize : Nat := 100 * 1024 * 1024

/-- Of what is drained after a status line that is none. -/
def maxDiscard : Nat := 1024 * 1024

/-- What `read` gets of bytes that are left, into a buffer of 8192. -/
def Connection.read (c : Connection) (i : Nat) (s : List UInt8) : Nat :=
  max 1 (min (c.segment i) (min 8192 s.length))

theorem read_le (c : Connection) (i : Nat) {s : List UInt8} (hs : s ≠ []) :
    1 ≤ c.read i s ∧ c.read i s ≤ s.length ∧ c.read i s ≤ 8192 := by
  have := List.length_pos_of_ne_nil hs
  unfold Connection.read
  omega

/-! ## The header -/

def byteLen (s : List Char) : Nat := (toUtf8 s).length

structure HeaderRead where
  /-- The header, and what is not read. -/
  result : Except String (List Char × List UInt8)
  /-- The most bytes there were in `header_buf`. -/
  buffered : Nat

def headersExceed : String := s!"HTTP headers exceed maximum size of {maxHeaderSize} bytes"

theorem length_rest_lt {fails : Option String} {s : List UInt8}
    (h : (readLine fails s).size ≠ 0) : (readLine fails s).rest.length < s.length := by
  have := length_rest_readLine fails s
  omega

def readHeader (fails : Option String) (header : List Char) (s : List UInt8) : HeaderRead :=
  if byteLen header + 1024 > maxHeaderSize then ⟨.error headersExceed, byteLen header⟩
  else
    let line := readLine fails s
    match line.text with
    | .error e => ⟨.error e, byteLen header + line.size⟩
    | .ok text =>
      if byteLen (header ++ text) > maxHeaderSize then
        ⟨.error headersExceed, byteLen (header ++ text)⟩
      else if line.size = 2 ∧ (header ++ text).getLast? = some '\n' then
        ⟨.ok (header ++ text, line.rest), byteLen (header ++ text)⟩
      else if hsize : line.size = 0 then ⟨.ok (header ++ text, line.rest), byteLen (header ++ text)⟩
      else readHeader fails (header ++ text) line.rest
termination_by s.length
decreasing_by exact length_rest_lt hsize

/-- The status of a line that begins with `HTTP/`. -/
def statusOfLine (line : List Char) : Option UInt16 :=
  if "http/".toList <+: line.map Char.toLower then (secondWord line).bind Net.parseU16 else none

def lengthOfLine (line : List Char) : Option Nat :=
  if "content-length:".toList <+: line.map Char.toLower then
    (line.splitOn ':')[1]?.bind fun value => (fromStrRadix 10 (trim value)).toOption
  else none

def mentionsChunked (line : List Char) : Bool :=
  decide ("transfer-encoding".toList <:+: line.map Char.toLower) &&
    decide ("chunked".toList <:+: line.map Char.toLower)

def statusCode (header : List Char) : Option UInt16 := (lines header).findSome? statusOfLine

def contentLength (header : List Char) : Option Nat := (lines header).findSome? lengthOfLine

def isChunked (header : List Char) : Bool := (lines header).any mentionsChunked

/-! ## The body -/

structure BodyRead where
  /-- What is not read. -/
  result : Except String (List UInt8)
  /-- The bytes of the body that are read. -/
  consumed : Nat
  /-- Whether a sum is more than a `usize` has. -/
  overflowed : Bool

/-- Bytes are read in blocks, and dropped. -/
def discard (fails : Option String) (remaining : Nat) (s : List UInt8) :
    Except String (List UInt8) :=
  if remaining = 0 then .ok s
  else
    match readExact fails (min remaining 8192) s with
    | .error e => .error e
    | .ok rest => discard fails (remaining - min remaining 8192) rest
termination_by remaining

theorem discard_eq (fails : Option String) (n : Nat) (s : List UInt8) :
    discard fails n s = readExact fails n s := by
  fun_induction discard fails n s with
  | case1 s => simp [readExact]
  | case2 n s hn e hread =>
    unfold readExact at hread ⊢
    split_ifs at hread with hle
    rw [if_neg (by omega), hread]
  | case3 n s hn rest hread ih =>
    rw [ih]
    unfold readExact at hread ⊢
    split_ifs at hread with hle
    obtain rfl := Except.ok.inj hread
    rw [List.length_drop, List.drop_drop]
    by_cases hall : n ≤ s.length
    · rw [if_pos hall, if_pos (by omega), show min n 8192 + (n - min n 8192) = n by omega]
    · rw [if_neg hall, if_neg (by omega)]

theorem length_of_discard {fails : Option String} {n : Nat} {s rest : List UInt8}
    (h : discard fails n s = .ok rest) : n ≤ s.length ∧ rest = s.drop n := by
  rw [discard_eq, readExact] at h
  split_ifs at h with hle
  exact ⟨hle, (Except.ok.inj h).symm⟩

/-- The loop over chunks.  Without overflow checks, sums are modulo `2 ^ 64`. -/
def readChunks (fails : Option String) (total : Nat) (s : List UInt8) : BodyRead :=
  let line := readLine fails s
  match line.text with
  | .error e => ⟨.error e, 0, false⟩
  | .ok text =>
    match fromStrRadix 16 (trim text) with
    | .error e => ⟨.error s!"Invalid chunk size in chunked encoding: {e}", 0, false⟩
    | .ok size =>
      if hsize : size = 0 then ⟨.ok (readLine fails line.rest).rest, 0, false⟩
      else
        let sum := (total + size) % 2 ^ 64
        let overflow := decide (2 ^ 64 ≤ total + size)
        if sum > maxBodySize then
          ⟨.error s!"Chunked response size ({sum} bytes) exceeds maximum size of {maxBodySize} bytes",
            0, overflow⟩
        else
          match hdata : discard fails size line.rest with
          | .error e => ⟨.error e, min size line.rest.length, overflow⟩
          | .ok data =>
            match (readLine fails data).text with
            | .error e => ⟨.error e, size, overflow⟩
            | .ok _ =>
              let body := readChunks fails sum (readLine fails data).rest
              ⟨body.result, size + body.consumed, overflow || body.overflowed⟩
termination_by s.length
decreasing_by
  obtain ⟨hle, hdrop⟩ := length_of_discard hdata
  have hlength := congrArg List.length hdrop
  rw [List.length_drop] at hlength
  have hfirst := length_rest_readLine fails s
  have hlast := length_rest_readLine fails data
  change size ≤ (readLine fails s).rest.length at hle
  change data.length = (readLine fails s).rest.length - size at hlength
  omega

/-- The loop to the end of the connection. -/
def readToEnd (c : Connection) (i total : Nat) (s : List UInt8) : BodyRead :=
  if hs : s = [] then
    match c.fails with
    | none => ⟨.ok [], 0, false⟩
    | some e => ⟨.error e, 0, false⟩
  else
    let n := c.read i s
    if total + n > maxBodySize then
      ⟨.error s!"Response size ({total + n} bytes) exceeds maximum size of {maxBodySize} bytes", n,
        false⟩
    else
      let body := readToEnd c (i + 1) (total + n) (s.drop n)
      ⟨body.result, n + body.consumed, body.overflowed⟩
termination_by s.length
decreasing_by
  rw [List.length_drop]
  have hread := read_le c i hs
  omega

/-- What is drained before an error is returned. -/
def drain (c : Connection) (i totalDiscarded : Nat) (s : List UInt8) : Nat :=
  if hs : s = [] then totalDiscarded
  else if totalDiscarded < maxDiscard then
    drain c (i + 1) (totalDiscarded + c.read i s) (s.drop (c.read i s))
  else totalDiscarded
termination_by s.length
decreasing_by
  rw [List.length_drop]
  have hread := read_le c i hs
  omega

def readBody (c : Connection) (contentLengthValue : Nat) (chunked : Bool) (s : List UInt8) :
    BodyRead :=
  if contentLengthValue > 0 then
    ⟨discard c.fails contentLengthValue s, min contentLengthValue s.length, false⟩
  else if chunked then readChunks c.fails 0 s
  else readToEnd c 0 0 s

/-! ## The response -/

structure ContentDownload where
  /-- The status, and what is not read. -/
  result : Except String (UInt16 × List UInt8)
  headerBuffered : Nat
  bodyConsumed : Nat
  overflowed : Bool

/-- `get_content_download_timing`, but for the time it takes. -/
def getContentDownloadTiming (c : Connection) (firstByte : UInt8) : ContentDownload :=
  let header := readHeader c.fails [Char.ofNat firstByte.toNat] c.bytes
  match header.result with
  | .error e => ⟨.error e, header.buffered, 0, false⟩
  | .ok (text, rest) =>
    match statusCode text with
    | none => ⟨.error "invalid http status line", header.buffered, drain c 0 0 rest, false⟩
    | some status =>
      let contentLengthValue := (contentLength text).getD 0
      if contentLengthValue > maxBodySize then
        ⟨.error s!"Content-Length ({contentLengthValue} bytes) exceeds maximum size of {maxBodySize} bytes",
          header.buffered, 0, false⟩
      else
        let body := readBody c contentLengthValue (isChunked text) rest
        ⟨body.result.map (status, ·), header.buffered, body.consumed, body.overflowed⟩

end LinkSense
