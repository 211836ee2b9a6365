import LinkSense.Json
import Mathlib.Data.List.Basic

/-!
# JSON as text

The text of a JSON value without blanks: strings with escapes, the items of an array between commas,
the fields of an object in the order they have.  How a fraction is written is a parameter.

    a.text ++ s = b.text ++ t, neither s nor t goes on with a number → a = b ∧ s = t   (text_unique)
-/

namespace Wire

/-- A character of a number. -/
def isNumberChar (c : Char) : Bool :=
  c.isDigit || c == '-' || c == '+' || c == '.' || c == 'e'

/-- How a number is written that is not an integer; it has a point or an exponent. -/
structure FloatText where
  digits : ℚ → List Char
  isNumber : ∀ q, ∀ c ∈ digits q, isNumberChar c = true
  fraction : ∀ q, ∃ c ∈ digits q, c = '.' ∨ c = 'e'
  injective : Function.Injective digits

def intText : Int → List Char
  | .ofNat n => Nat.toDigits 10 n
  | .negSucc n => '-' :: Nat.toDigits 10 (n + 1)

/-- The letter of a short escape. -/
def shortEscape (c : Char) : Option Char :=
  match c.toNat with
  | 8 => some 'b'
  | 9 => some 't'
  | 10 => some 'n'
  | 12 => some 'f'
  | 13 => some 'r'
  | 34 => some '"'
  | 92 => some '\\'
  | _ => none

def escapeChar (c : Char) : List Char :=
  match shortEscape c with
  | some letter => ['\\', letter]
  | none =>
    if c.toNat < 32 then
      ['\\', 'u', '0', '0', Nat.digitChar (c.toNat / 16), Nat.digitChar (c.toNat % 16)]
    else [c]

def quote (s : String) : List Char := '"' :: s.toList.flatMap escapeChar ++ ['"']

mutual

def Json.text (f : FloatText) : Json → List Char
  | .null => ['n', 'u', 'l', 'l']
  | .bool true => ['t', 'r', 'u', 'e']
  | .bool false => ['f', 'a', 'l', 's', 'e']
  | .int n => intText n
  | .float q => f.digits q
  | .str s => quote s
  | .arr [] => ['[', ']']
  | .arr (item :: items) => '[' :: item.text f ++ itemsText f items ++ [']']
  | .obj [] => ['{', '}']
  | .obj ((name, value) :: fields) =>
    '{' :: quote name ++ ':' :: value.text f ++ fieldsText f fields ++ ['}']

/-- The items after the first. -/
def itemsText (f : FloatText) : List Json → List Char
  | [] => []
  | item :: items => ',' :: item.text f ++ itemsText f items

/-- The fields after the first. -/
def fieldsText (f : FloatText) : List (String × Json) → List Char
  | [] => []
  | (name, value) :: fields => ',' :: quote name ++ ':' :: value.text f ++ fieldsText f fields

end

/-! ## Numbers -/

/-- What a number can be told from. -/
def Stops (s : List Char) : Prop := ∀ c ∈ s.head?, isNumberChar c = false

theorem stops_cons {c : Char} (h : isNumberChar c = false) (s : List Char) : Stops (c :: s) := by
  rintro d hd
  obtain rfl := Option.some.inj hd
  exact h

theorem append_unique_of_stops {x y s t : List Char} (hx : ∀ c ∈ x, isNumberChar c = true)
    (hy : ∀ c ∈ y, isNumberChar c = true) (hs : Stops s) (ht : Stops t)
    (h : x ++ s = y ++ t) : x = y ∧ s = t := by
  induction x generalizing y with
  | nil =>
    cases y with
    | nil => exact ⟨rfl, h⟩
    | cons d y =>
      rw [List.nil_append] at h
      have := hs d (by rw [h]; rfl)
      rw [hy d List.mem_cons_self] at this
      cases this
  | cons c x ih =>
    cases y with
    | nil =>
      rw [List.nil_append] at h
      have := ht c (by rw [← h]; rfl)
      rw [hx c List.mem_cons_self] at this
      cases this
    | cons d y =>
      obtain ⟨rfl, hrest⟩ := List.cons.inj h
      obtain ⟨rfl, hst⟩ := ih (fun e he => hx e (List.mem_cons_of_mem _ he))
        (fun e he => hy e (List.mem_cons_of_mem _ he)) hrest
      exact ⟨rfl, hst⟩

theorem toDigits_injective : Function.Injective (Nat.toDigits 10) := by
  intro n m h
  rw [← Nat.ofDigitChars_ten_toDigits (n := n), h, Nat.ofDigitChars_ten_toDigits]

theorem isDigit_of_mem_toDigits {n : Nat} {c : Char} (h : c ∈ Nat.toDigits 10 n) :
    c.isDigit = true :=
  Nat.isDigit_of_mem_toDigits (by omega) (by omega) h

theorem mem_intText {n : Int} {c : Char} (h : c ∈ intText n) : c.isDigit = true ∨ c = '-' := by
  cases n with
  | ofNat n => exact .inl (isDigit_of_mem_toDigits h)
  | negSucc n =>
    rcases List.mem_cons.1 h with rfl | h
    · exact .inr rfl
    · exact .inl (isDigit_of_mem_toDigits h)

theorem isNumber_intText (n : Int) : ∀ c ∈ intText n, isNumberChar c = true := by
  intro c hc
  unfold isNumberChar
  rcases mem_intText hc with h | rfl
  · rw [h]
    rfl
  · rfl

theorem intText_injective : Function.Injective intText := by
  have hsign : ∀ n k : Nat, Nat.toDigits 10 n ≠ '-' :: Nat.toDigits 10 (k + 1) := by
    intro n k h
    have := isDigit_of_mem_toDigits (n := n) (c := '-') (by rw [h]; exact List.mem_cons_self)
    cases this
  intro a b h
  cases a with
  | ofNat n =>
    cases b with
    | ofNat k => exact congrArg _ (toDigits_injective h)
    | negSucc k => exact absurd h (hsign n k)
  | negSucc n =>
    cases b with
    | ofNat k => exact absurd h.symm (hsign k n)
    | negSucc k =>
      have := toDigits_injective (List.cons.inj h).2
      exact congrArg _ (Nat.succ.inj this)

/-- An integer is not written as a fraction. -/
theorem intText_ne_digits (f : FloatText) (n : Int) (q : ℚ) : intText n ≠ f.digits q := by
  intro h
  obtain ⟨c, hc, he⟩ := f.fraction q
  rw [← h] at hc
  rcases mem_intText hc with hd | rfl
  · rcases he with rfl | rfl
    · cases hd
    · cases hd
  · rcases he with he | he
    · cases he
    · cases he

/-! ## Strings -/

/-- The character of a short escape. -/
def ofShortEscape (letter : Char) : Option Char :=
  match letter with
  | 'b' => some (.ofNat 8)
  | 't' => some (.ofNat 9)
  | 'n' => some (.ofNat 10)
  | 'f' => some (.ofNat 12)
  | 'r' => some (.ofNat 13)
  | '"' => some '"'
  | '\\' => some '\\'
  | _ => none

def hexValue (c : Char) : Nat :=
  if c.isDigit then c.toNat - '0'.toNat else c.toNat - 'a'.toNat + 10

/-- The first character of a string's text, and what is left. -/
def readChar : List Char → Option (Char × List Char)
  | '\\' :: 'u' :: _ :: _ :: high :: low :: rest =>
    some (.ofNat (16 * hexValue high + hexValue low), rest)
  | '\\' :: letter :: rest => (ofShortEscape letter).map (·, rest)
  | '"' :: _ => none
  | c :: rest => some (c, rest)
  | [] => none

theorem hexValue_digitChar : ∀ n, n < 16 → hexValue (Nat.digitChar n) = n := by decide

theorem ofShortEscape_shortEscape {c letter : Char} (h : shortEscape c = some letter) :
    ofShortEscape letter = some c ∧ letter ≠ 'u' := by
  have hc : Char.ofNat c.toNat = c := Char.ofNat_toNat c
  unfold shortEscape at h
  split at h
  all_goals
    cases h
  all_goals
    next hn =>
      rw [hn] at hc
      rw [← hc]
      decide

/-- A character that needs no escape. -/
theorem readChar_plain {c : Char} (hquote : c ≠ '"') (hslash : c ≠ '\\') (s : List Char) :
    readChar (c :: s) = some (c, s) := by
  unfold readChar
  split
  · next he => exact absurd (List.cons.inj he).1 hslash
  · next he => exact absurd (List.cons.inj he).1 hslash
  · next he => exact absurd (List.cons.inj he).1 hquote
  · next he =>
    obtain ⟨rfl, rfl⟩ := List.cons.inj he
    rfl
  · next he => cases he

theorem readChar_escapeChar (c : Char) (s : List Char) :
    readChar (escapeChar c ++ s) = some (c, s) := by
  unfold escapeChar
  cases hshort : shortEscape c with
  | some letter =>
    obtain ⟨hletter, hu⟩ := ofShortEscape_shortEscape hshort
    show readChar ('\\' :: letter :: s) = _
    unfold readChar
    split
    · next he => exact absurd (List.cons.inj (List.cons.inj he).2).1 hu
    · next he =>
      obtain ⟨rfl, rfl⟩ := List.cons.inj (List.cons.inj he).2
      rw [hletter]
      rfl
    · next he => exact absurd (List.cons.inj he).1 (by decide)
    · next hno _ he =>
      obtain ⟨rfl, rfl⟩ := List.cons.inj he
      exact absurd rfl (hno letter s rfl)
    · next he => cases he
  | none =>
    dsimp only
    split
    · next hlt =>
      show some (Char.ofNat (16 * hexValue (Nat.digitChar (c.toNat / 16)) +
        hexValue (Nat.digitChar (c.toNat % 16))), s) = _
      rw [hexValue_digitChar _ (by omega), hexValue_digitChar _ (by omega), Nat.div_add_mod,
        Char.ofNat_toNat]
    · apply readChar_plain
      · rintro rfl
        cases hshort
      · rintro rfl
        cases hshort

theorem quote_unique {x y : String} {s t : List Char} (h : quote x ++ s = quote y ++ t) :
    x = y ∧ s = t := by
  have hbody : ∀ cs ds : List Char, cs.flatMap escapeChar ++ '"' :: s =
      ds.flatMap escapeChar ++ '"' :: t → cs = ds ∧ s = t := by
    have hend : ∀ (d : Char) (ds rest rest' : List Char),
        '"' :: rest ≠ (d :: ds).flatMap escapeChar ++ rest' := by
      intro d ds rest rest' he
      rw [List.flatMap_cons, List.append_assoc] at he
      have := congrArg readChar he
      rw [readChar_escapeChar] at this
      cases this
    intro cs
    induction cs with
    | nil =>
      intro ds he
      cases ds with
      | nil => exact ⟨rfl, (List.cons.inj he).2⟩
      | cons d ds => exact absurd he (hend d ds s _)
    | cons c cs ih =>
      intro ds he
      cases ds with
      | nil => exact absurd he.symm (hend c cs t _)
      | cons d ds =>
        have hread := congrArg readChar he
        rw [List.flatMap_cons, List.flatMap_cons, List.append_assoc, List.append_assoc,
          readChar_escapeChar, readChar_escapeChar] at hread
        obtain ⟨rfl, hrest⟩ := Prod.mk.inj (Option.some.inj hread)
        obtain ⟨rfl, hst⟩ := ih ds hrest
        exact ⟨rfl, hst⟩
  unfold quote at h
  rw [List.append_assoc, List.append_assoc] at h
  obtain ⟨hxy, hst⟩ := hbody _ _ (List.cons.inj h).2
  exact ⟨String.toList_inj.1 hxy, hst⟩

/-! ## Values -/

/-- What the first character of a value tells. -/
def charShape (c : Char) : Nat :=
  if c = 'n' then 0 else if c = 't' then 1 else if c = 'f' then 2 else if c = '"' then 3
  else if c = '[' then 4 else if c = '{' then 5 else if isNumberChar c then 6 else 7

def Json.shape : Json → Nat
  | .null => 0
  | .bool true => 1
  | .bool false => 2
  | .str _ => 3
  | .arr _ => 4
  | .obj _ => 5
  | .int _ => 6
  | .float _ => 6

theorem charShape_number {c : Char} (h : isNumberChar c = true) : charShape c = 6 := by
  unfold charShape
  rw [if_pos h]
  repeat' split
  all_goals first
    | rfl
    | next hc =>
      subst hc
      cases h

theorem exists_charShape (f : FloatText) (j : Json) :
    ∃ c rest, j.text f = c :: rest ∧ charShape c = j.shape := by
  have hnumber : ∀ l : List Char, l ≠ [] → (∀ c ∈ l, isNumberChar c = true) →
      ∃ c rest, l = c :: rest ∧ charShape c = 6 := by
    intro l hne hl
    obtain ⟨c, rest, rfl⟩ := List.exists_cons_of_ne_nil hne
    exact ⟨c, rest, rfl, charShape_number (hl c List.mem_cons_self)⟩
  cases j with
  | null => exact ⟨_, _, rfl, rfl⟩
  | bool b =>
    cases b with
    | true => exact ⟨_, _, rfl, rfl⟩
    | false => exact ⟨_, _, rfl, rfl⟩
  | int n =>
    refine hnumber _ ?_ (isNumber_intText n)
    cases n with
    | ofNat n => exact Nat.toDigits_ne_nil
    | negSucc n => exact List.cons_ne_nil _ _
  | float q =>
    obtain ⟨c, hc, -⟩ := f.fraction q
    exact hnumber _ (List.ne_nil_of_mem hc) (f.isNumber q)
  | str s => exact ⟨_, _, rfl, rfl⟩
  | arr items =>
    cases items with
    | nil => exact ⟨_, _, rfl, rfl⟩
    | cons item items => exact ⟨_, _, rfl, rfl⟩
  | obj fields =>
    cases fields with
    | nil => exact ⟨_, _, rfl, rfl⟩
    | cons field fields => exact ⟨_, _, rfl, rfl⟩

theorem shape_eq_of_text {f : FloatText} {a b : Json} {s t : List Char}
    (h : a.text f ++ s = b.text f ++ t) : a.shape = b.shape := by
  obtain ⟨c, x, hx, hc⟩ := exists_charShape f a
  obtain ⟨d, y, hy, hd⟩ := exists_charShape f b
  rw [hx, hy] at h
  rw [← hc, ← hd, (List.cons.inj h).1]

/-- No value begins with the end of an array. -/
theorem text_ne_bracket (f : FloatText) (j : Json) (s t : List Char) :
    j.text f ++ s ≠ ']' :: t := by
  intro h
  obtain ⟨c, x, hx, hc⟩ := exists_charShape f j
  rw [hx] at h
  rw [(List.cons.inj h).1] at hc
  have hshape : j.shape ≠ 7 := by
    unfold Json.shape
    split
    all_goals decide
  exact hshape hc.symm

/-- Another item begins with a comma, the end of the array does not. -/
theorem itemsText_ne (f : FloatText) (item : Json) (items : List Json) (s t : List Char) :
    itemsText f (item :: items) ++ s ≠ ']' :: t := by
  intro h
  have := (List.cons.inj h).1
  cases this

theorem fieldsText_ne (f : FloatText) (field : String × Json) (fields : List (String × Json))
    (s t : List Char) : fieldsText f (field :: fields) ++ s ≠ '}' :: t := by
  intro h
  have := (List.cons.inj h).1
  cases this

theorem stops_itemsText (f : FloatText) (items : List Json) (s : List Char) :
    Stops (itemsText f items ++ ']' :: s) := by
  cases items with
  | nil => exact stops_cons rfl s
  | cons item items => exact stops_cons rfl _

theorem stops_fieldsText (f : FloatText) (fields : List (String × Json)) (s : List Char) :
    Stops (fieldsText f fields ++ '}' :: s) := by
  cases fields with
  | nil => exact stops_cons rfl s
  | cons field fields => exact stops_cons rfl _

mutual

/-- **A value is known by its text**, whatever comes after it. -/
theorem text_unique {f : FloatText} (a b : Json) {s t : List Char} (hs : Stops s) (ht : Stops t)
    (h : a.text f ++ s = b.text f ++ t) : a = b ∧ s = t := by
  have hshape := shape_eq_of_text h
  match a, b, hshape with
  | .null, .null, _ => exact ⟨rfl, List.append_cancel_left h⟩
  | .bool true, .bool true, _ => exact ⟨rfl, List.append_cancel_left h⟩
  | .bool false, .bool false, _ => exact ⟨rfl, List.append_cancel_left h⟩
  | .int n, .int k, _ =>
    obtain ⟨htext, hst⟩ :=
      append_unique_of_stops (isNumber_intText n) (isNumber_intText k) hs ht h
    exact ⟨congrArg _ (intText_injective htext), hst⟩
  | .float p, .float q, _ =>
    obtain ⟨htext, hst⟩ := append_unique_of_stops (f.isNumber p) (f.isNumber q) hs ht h
    exact ⟨congrArg _ (f.injective htext), hst⟩
  | .int n, .float q, _ =>
    have htext := append_unique_of_stops (isNumber_intText n) (f.isNumber q) hs ht h
    exact absurd htext.1 (intText_ne_digits f n q)
  | .float q, .int n, _ =>
    have htext := append_unique_of_stops (f.isNumber q) (isNumber_intText n) hs ht h
    exact absurd htext.1.symm (intText_ne_digits f n q)
  | .str x, .str y, _ =>
    obtain ⟨rfl, hst⟩ := quote_unique h
    exact ⟨rfl, hst⟩
  | .arr [], .arr [], _ => exact ⟨rfl, List.append_cancel_left h⟩
  | .arr [], .arr (item :: items), _ =>
    have h' : item.text f ++ (itemsText f items ++ ']' :: t) = ']' :: s := by
      simpa [Json.text] using h.symm
    exact absurd h' (text_ne_bracket f item _ _)
  | .arr (item :: items), .arr [], _ =>
    have h' : item.text f ++ (itemsText f items ++ ']' :: s) = ']' :: t := by
      simpa [Json.text] using h
    exact absurd h' (text_ne_bracket f item _ _)
  | .arr (item :: items), .arr (item' :: items'), _ =>
    have h' : item.text f ++ (itemsText f items ++ ']' :: s) =
        item'.text f ++ (itemsText f items' ++ ']' :: t) := by
      simpa [Json.text] using h
    obtain ⟨rfl, hrest⟩ := text_unique item item' (stops_itemsText f items s)
      (stops_itemsText f items' t) h'
    obtain ⟨rfl, hst⟩ := itemsText_unique items items' hrest
    exact ⟨rfl, hst⟩
  | .obj [], .obj [], _ => exact ⟨rfl, List.append_cancel_left h⟩
  | .obj [], .obj (_ :: _), _ =>
    have := (List.cons.inj (List.cons.inj h).2).1
    cases this
  | .obj (_ :: _), .obj [], _ =>
    have := (List.cons.inj (List.cons.inj h).2).1
    cases this
  | .obj ((name, value) :: fields), .obj ((name', value') :: fields'), _ =>
    have h' : quote name ++ (':' :: (value.text f ++ (fieldsText f fields ++ '}' :: s))) =
        quote name' ++ (':' :: (value'.text f ++ (fieldsText f fields' ++ '}' :: t))) := by
      simpa [Json.text] using h
    obtain ⟨rfl, hvalue⟩ := quote_unique h'
    obtain ⟨rfl, hrest⟩ := text_unique value value' (stops_fieldsText f fields s)
      (stops_fieldsText f fields' t) (List.cons.inj hvalue).2
    obtain ⟨rfl, hst⟩ := fieldsText_unique fields fields' hrest
    exact ⟨rfl, hst⟩

theorem itemsText_unique {f : FloatText} (l l' : List Json) {s t : List Char}
    (h : itemsText f l ++ ']' :: s = itemsText f l' ++ ']' :: t) : l = l' ∧ s = t := by
  match l, l' with
  | [], [] => exact ⟨rfl, (List.cons.inj h).2⟩
  | [], item :: items => exact absurd h.symm (itemsText_ne f item items _ _)
  | item :: items, [] => exact absurd h (itemsText_ne f item items _ _)
  | item :: items, item' :: items' =>
    have h' : item.text f ++ (itemsText f items ++ ']' :: s) =
        item'.text f ++ (itemsText f items' ++ ']' :: t) := by
      simpa [itemsText] using h
    obtain ⟨rfl, hrest⟩ := text_unique item item' (stops_itemsText f items s)
      (stops_itemsText f items' t) h'
    obtain ⟨rfl, hst⟩ := itemsText_unique items items' hrest
    exact ⟨rfl, hst⟩

theorem fieldsText_unique {f : FloatText} (l l' : List (String × Json)) {s t : List Char}
    (h : fieldsText f l ++ '}' :: s = fieldsText f l' ++ '}' :: t) : l = l' ∧ s = t := by
  match l, l' with
  | [], [] => exact ⟨rfl, (List.cons.inj h).2⟩
  | [], field :: fields => exact absurd h.symm (fieldsText_ne f field fields _ _)
  | field :: fields, [] => exact absurd h (fieldsText_ne f field fields _ _)
  | (name, value) :: fields, (name', value') :: fields' =>
    have h' : quote name ++ (':' :: (value.text f ++ (fieldsText f fields ++ '}' :: s))) =
        quote name' ++ (':' :: (value'.text f ++ (fieldsText f fields' ++ '}' :: t))) := by
      simpa [fieldsText] using h
    obtain ⟨rfl, hvalue⟩ := quote_unique h'
    obtain ⟨rfl, hrest⟩ := text_unique value value' (stops_fieldsText f fields s)
      (stops_fieldsText f fields' t) (List.cons.inj hvalue).2
    obtain ⟨rfl, hst⟩ := fieldsText_unique fields fields' hrest
    exact ⟨rfl, hst⟩

end

/-! ## Sizes -/

/-- How many bytes characters take in UTF-8. -/
def byteSize (l : List Char) : Nat := (String.ofList l).utf8ByteSize

theorem byteSize_append (l l' : List Char) : byteSize (l ++ l') = byteSize l + byteSize l' := by
  unfold byteSize
  rw [String.ofList_append, String.utf8ByteSize_append]

theorem byteSize_pos {l : List Char} (h : l ≠ []) : 0 < byteSize l := by
  rw [Nat.pos_iff_ne_zero]
  intro h0
  apply h
  rw [← String.toList_ofList (l := l), String.utf8ByteSize_eq_zero_iff.1 h0]
  rfl

theorem text_ne_nil (f : FloatText) (j : Json) : j.text f ≠ [] := by
  obtain ⟨c, rest, h, -⟩ := exists_charShape f j
  rw [h]
  exact List.cons_ne_nil c rest

theorem itemsText_append (f : FloatText) (l l' : List Json) :
    itemsText f (l ++ l') = itemsText f l ++ itemsText f l' := by
  induction l with
  | nil => rfl
  | cons item items ih => simp [itemsText, ih]

/-- An array grows with every item. -/
theorem byteSize_arr_concat (f : FloatText) (l : List Json) (item : Json) :
    byteSize ((Json.arr l).text f) < byteSize ((Json.arr (l ++ [item])).text f) := by
  have hitem := byteSize_pos (text_ne_nil f item)
  cases l with
  | nil =>
    have hnil : (Json.arr []).text f = ['['] ++ [']'] := rfl
    have hone : (Json.arr [item]).text f = ['['] ++ (item.text f ++ [']']) := by
      simp [Json.text, itemsText]
    show _ < byteSize ((Json.arr [item]).text f)
    rw [hnil, hone]
    simp only [byteSize_append]
    omega
  | cons first rest =>
    have hmore : (Json.arr (first :: rest ++ [item])).text f =
        ('[' :: first.text f ++ itemsText f rest) ++ (',' :: item.text f ++ [']']) := by
      simp [Json.text, itemsText_append, itemsText]
    have hold : (Json.arr (first :: rest)).text f =
        ('[' :: first.text f ++ itemsText f rest) ++ [']'] := by
      simp [Json.text]
    have hcomma : ',' :: item.text f ++ [']'] = [','] ++ item.text f ++ [']'] := rfl
    rw [hmore, hold, hcomma]
    simp only [byteSize_append]
    omega

/-- Longer prefixes of an array have longer texts. -/
theorem byteSize_arr_take_lt (f : FloatText) (l : List Json) {k : Nat} (h : k < l.length) :
    byteSize ((Json.arr (l.take k)).text f) < byteSize ((Json.arr (l.take (k + 1))).text f) := by
  rw [← List.take_append_getElem h]
  exact byteSize_arr_concat f _ _

end Wire
