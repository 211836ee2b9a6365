import LinkSense.Scan
import LinkSense.Utf8

/-!
# Reading a URL

The generic grammar: a scheme, then the authority up to the next `/`, `?` or `#`; its userinfo goes
to the last `@`, and is a name and a password with a `:` between them.  Both are percent-encoded.

    no end of an authority in the userinfo, no `@` in the authority after it →
      it is found, and what follows it                            (splitAuthority_userinfo)
    percentDecode s = toUtf8 s ↔ there is no escape in s                 (percentDecode_eq_iff)
-/

namespace UrlGrammar

open Scan Utf8

/-! ## Percent-encoding -/

/-- A `%` without two digits after it stands for itself. -/
def percentDecode : List Char → List UInt8
  | '%' :: h :: l :: s =>
    if isHexDigit h && isHexDigit l then
      UInt8.ofNat (16 * hexDigit h + hexDigit l) :: percentDecode s
    else String.utf8EncodeChar '%' ++ percentDecode (h :: l :: s)
  | c :: s => String.utf8EncodeChar c ++ percentDecode s
  | [] => []

def hasEscape : List Char → Bool
  | '%' :: h :: l :: s => isHexDigit h && isHexDigit l || hasEscape (h :: l :: s)
  | _ :: s => hasEscape s
  | [] => false

theorem length_percentDecode_le (s : List Char) : (percentDecode s).length ≤ (toUtf8 s).length := by
  fun_induction percentDecode s with
  | case1 h l s hhex ih =>
    have hh := length_encodeChar_pos h
    simp only [utf8_cons, List.length_append, List.length_cons]
    omega
  | case2 h l s hhex ih =>
    rw [utf8_cons, List.length_append, List.length_append]
    omega
  | case3 c s hc ih =>
    rw [utf8_cons, List.length_append, List.length_append]
    omega
  | case4 => simp

/-- **What decoding leaves as it is**. -/
theorem percentDecode_eq_iff (s : List Char) :
    percentDecode s = toUtf8 s ↔ hasEscape s = false := by
  fun_induction percentDecode s with
  | case1 h l s hhex ih =>
    have hle := length_percentDecode_le s
    have hh := length_encodeChar_pos h
    have hl := length_encodeChar_pos l
    constructor
    · intro heq
      have := congrArg List.length heq
      simp only [utf8_cons, List.length_append, List.length_cons] at this
      omega
    · intro hno
      rw [hasEscape, hhex] at hno
      cases hno
  | case2 h l s hhex ih =>
    rw [Bool.not_eq_true] at hhex
    rw [utf8_cons, List.append_right_inj, ih, hasEscape, hhex, Bool.false_or]
  | case3 c s hc ih =>
    rw [utf8_cons, List.append_right_inj, ih, hasEscape]
    exact hc
  | case4 => simp [toUtf8, hasEscape]

/-! ## The grammar -/

def endsAuthority (c : Char) : Bool := c == '/' || c == '?' || c == '#'

structure Parts where
  scheme : List Char
  username : Option (List UInt8)
  password : Option (List UInt8)
  /-- The host, and what follows the authority. -/
  rest : List Char

def splitUserinfo (userinfo : List Char) : List Char × Option (List Char) :=
  match cutFirst ':' userinfo with
  | none => (userinfo, none)
  | some (username, password) => (username, some password)

/-- After `//`. -/
def splitAuthority (scheme s : List Char) : Parts :=
  match cutLast '@' (s.takeWhile (!endsAuthority ·)) with
  | none => ⟨scheme, none, none, s⟩
  | some (userinfo, host) =>
    ⟨scheme, some (percentDecode (splitUserinfo userinfo).1),
      (splitUserinfo userinfo).2.map percentDecode, host ++ s.dropWhile (!endsAuthority ·)⟩

def splitUrl (s : List Char) : Option Parts :=
  match cutFirst ':' s with
  | some (scheme, '/' :: '/' :: rest) => some (splitAuthority scheme rest)
  | _ => none

theorem splitUrl_eq_some {s : List Char} {parts : Parts} : splitUrl s = some parts ↔
    ∃ scheme rest, cutFirst ':' s = some (scheme, '/' :: '/' :: rest) ∧
      splitAuthority scheme rest = parts := by
  unfold splitUrl
  split
  · next scheme rest h => simp [h]
  · next hnone =>
    refine ⟨(nomatch ·), ?_⟩
    rintro ⟨scheme, rest, h, -⟩
    exact absurd h (hnone scheme rest)

theorem length_le_rest (scheme s : List Char) :
    (s.dropWhile (!endsAuthority ·)).length ≤ (splitAuthority scheme s).rest.length := by
  unfold splitAuthority
  split
  · exact (List.dropWhile_suffix _).length_le
  · rw [List.length_append]
    omega

/-- Nothing from the end of the authority on is lost. -/
theorem lt_length_rest (scheme : List Char) {c : Char} (hc : endsAuthority c = true)
    (a b : List Char) : b.length < (splitAuthority scheme (a ++ c :: b)).rest.length := by
  refine lt_of_lt_of_le ?_ (length_le_rest scheme _)
  induction a with
  | nil =>
    rw [List.nil_append, List.dropWhile_cons_of_neg (by simp [hc])]
    simp
  | cons d a ih =>
    rw [List.cons_append, List.dropWhile_cons]
    split
    · exact ih
    · simp only [List.length_cons, List.length_append]
      omega

/-- A URL without userinfo. -/
theorem splitAuthority_plain (scheme : List Char) {s : List Char}
    (h : '@' ∉ s.takeWhile (!endsAuthority ·)) :
    splitAuthority scheme s = ⟨scheme, none, none, s⟩ := by
  rw [splitAuthority, cutLast_eq_none.2 h]

theorem username_ne_none (scheme : List Char) {s : List Char}
    (h : '@' ∈ s.takeWhile (!endsAuthority ·)) : (splitAuthority scheme s).username ≠ none := by
  unfold splitAuthority
  split
  · next hnone => exact absurd h (cutLast_eq_none.1 hnone)
  · simp

section Userinfo

variable {userinfo : List Char} (hinfo : ∀ c ∈ userinfo, endsAuthority c = false) (url : List Char)

include hinfo

theorem takeWhile_userinfo : (userinfo ++ '@' :: url).takeWhile (!endsAuthority ·) =
    userinfo ++ '@' :: url.takeWhile (!endsAuthority ·) := by
  rw [List.takeWhile_append_of_pos fun c hc => by simp [hinfo c hc],
    List.takeWhile_cons_of_pos (by decide)]

theorem dropWhile_userinfo : (userinfo ++ '@' :: url).dropWhile (!endsAuthority ·) =
    url.dropWhile (!endsAuthority ·) := by
  rw [List.dropWhile_append_of_pos fun c hc => by simp [hinfo c hc],
    List.dropWhile_cons_of_pos (by decide)]

/-- **The userinfo is found**. -/
theorem splitAuthority_userinfo (scheme : List Char) (h : '@' ∉ url.takeWhile (!endsAuthority ·)) :
    splitAuthority scheme (userinfo ++ '@' :: url) =
      ⟨scheme, some (percentDecode (splitUserinfo userinfo).1),
        (splitUserinfo userinfo).2.map percentDecode, url⟩ := by
  unfold splitAuthority
  rw [takeWhile_userinfo hinfo, dropWhile_userinfo hinfo, cutLast_append _ h]
  simp only [List.takeWhile_append_dropWhile]

/-- The last `@` is another one. -/
theorem length_rest_lt (scheme : List Char) (h : '@' ∈ url.takeWhile (!endsAuthority ·)) :
    (splitAuthority scheme (userinfo ++ '@' :: url)).rest.length < url.length := by
  obtain ⟨x, y, hxy, hy⟩ := exists_cutLast_append h (userinfo ++ ['@'])
  rw [List.append_assoc, List.singleton_append] at hxy
  unfold splitAuthority
  rw [takeWhile_userinfo hinfo, dropWhile_userinfo hinfo, hxy]
  have hurl : url.length = (url.takeWhile (!endsAuthority ·)).length +
      (url.dropWhile (!endsAuthority ·)).length := by
    rw [← List.length_append, List.takeWhile_append_dropWhile]
  simp only [List.length_append]
  omega

end Userinfo

/-- The whole authority's userinfo is what was put there. -/
theorem rest_eq_iff (scheme : List Char) {userinfo url : List Char} :
    (splitAuthority scheme (userinfo ++ '@' :: url)).rest = url ↔
      (∀ c ∈ userinfo, endsAuthority c = false) ∧ '@' ∉ url.takeWhile (!endsAuthority ·) := by
  constructor
  · intro h
    have hinfo : ∀ c ∈ userinfo, endsAuthority c = false := by
      intro c hc
      by_contra hends
      rw [Bool.not_eq_false] at hends
      obtain ⟨a, b, rfl⟩ := List.append_of_mem hc
      have hlt := lt_length_rest scheme hends a (b ++ '@' :: url)
      rw [← List.cons_append, ← List.append_assoc, h] at hlt
      simp only [List.length_append, List.length_cons] at hlt
      omega
    refine ⟨hinfo, fun hat => ?_⟩
    have hlt := length_rest_lt hinfo url scheme hat
    rw [h] at hlt
    omega
  · rintro ⟨hinfo, hat⟩
    rw [splitAuthority_userinfo hinfo url scheme hat]

theorem splitUserinfo_plain {username : List Char} (h : ':' ∉ username) :
    splitUserinfo username = (username, none) := by
  rw [splitUserinfo, cutFirst_eq_none h]

theorem splitUserinfo_password {username : List Char} (h : ':' ∉ username)
    (password : List Char) :
    splitUserinfo (username ++ ':' :: password) = (username, some password) := by
  rw [splitUserinfo, cutFirst_append h]

/-- What is cut off a name is missing from it, decoded or not. -/
theorem percentDecode_fst_ne {username : List Char} (h : ':' ∈ username) (s : List Char) :
    percentDecode (splitUserinfo (username ++ s)).1 ≠ toUtf8 username := by
  obtain ⟨a, b, rfl, ha⟩ := exists_first h
  intro heq
  rw [List.append_assoc, List.cons_append, splitUserinfo_password ha] at heq
  have hle := length_percentDecode_le a
  have hpos := length_encodeChar_pos ':'
  rw [heq, utf8_append, utf8_cons, List.length_append, List.length_append] at hle
  omega

end UrlGrammar
