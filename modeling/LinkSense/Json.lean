import Mathlib.Algebra.Group.Nat.Defs
import Mathlib.Data.List.Dedup
import Mathlib.Data.Rat.Defs
import Mathlib.Logic.Basic

/-!
# JSON values and their codecs

A codec writes values as JSON and reads them back.  It carries a proof of what the reader makes of
what the writer wrote: the value, when the reader knows all of it, else nothing.  A record is built
from its fields, which share no name.

    c.valid a → c.decode (c.encode a) = if c.accepts a then some a else none      (decode_encode)
    one element that is not accepted is enough for a list to be refused           (accepts_list)
    the fields of a record are found beside a tag of another name                  (read_tagged)
-/

namespace Wire

inductive Json where
  | null
  | bool (b : Bool)
  | int (n : Int)
  | float (q : ℚ)
  | str (s : String)
  | arr (items : List Json)
  | obj (fields : List (String × Json))

variable {α β κ : Type}

/-! ## Codecs -/

/-- A writer and a reader; `valid` are the values of the type, `accepts` those the reader knows. -/
structure Codec (α : Type) where
  encode : α → Json
  decode : Json → Option α
  valid : α → Prop
  accepts : α → Bool
  encode_ne_null : ∀ a, encode a ≠ .null
  decode_encode : ∀ a, valid a → decode (encode a) = if accepts a then some a else none

namespace Codec

def string : Codec String where
  encode := .str
  decode
    | .str s => some s
    | _ => none
  valid _ := True
  accepts _ := true
  encode_ne_null := by simp
  decode_encode := by simp

def bool : Codec Bool where
  encode := .bool
  decode
    | .bool b => some b
    | _ => none
  valid _ := True
  accepts _ := true
  encode_ne_null := by simp
  decode_encode := by simp

/-- The variants of an enumeration, each by its name. -/
def variants (all : List α) (name : α → String)
    (h : ∀ a, all.find? (fun b => name b == name a) = some a) : Codec α where
  encode a := .str (name a)
  decode
    | .str s => all.find? fun b => name b == s
    | _ => none
  valid _ := True
  accepts _ := true
  encode_ne_null := by simp
  decode_encode := by
    intro a _
    exact h a

/-- A number, which may have been written without a fraction. -/
def float : Codec ℚ where
  encode := .float
  decode
    | .float q => some q
    | .int n => some n
    | _ => none
  valid _ := True
  accepts _ := true
  encode_ne_null := by simp
  decode_encode := by simp

def natBelow (bound : Nat) : Codec Nat where
  encode n := .int n
  decode
    | .int n => if 0 ≤ n ∧ n < bound then some n.toNat else none
    | _ => none
  valid n := n < bound
  accepts _ := true
  encode_ne_null := by simp
  decode_encode := by
    intro n hn
    have hbound : (0 : Int) ≤ n ∧ (n : Int) < bound := by omega
    simp [hbound]

/-- The same values under another name. -/
def iso (c : Codec α) (f : α → β) (g : β → α) (h : ∀ b, f (g b) = b) : Codec β where
  encode b := c.encode (g b)
  decode j := (c.decode j).map f
  valid b := c.valid (g b)
  accepts b := c.accepts (g b)
  encode_ne_null b := c.encode_ne_null (g b)
  decode_encode := by
    intro b hb
    rw [c.decode_encode _ hb]
    split
    · rw [Option.map_some, h]
    · rfl

def uint16 : Codec UInt16 :=
  (natBelow (2 ^ 16)).iso UInt16.ofNat UInt16.toNat (by simp)

def uint32 : Codec UInt32 :=
  (natBelow (2 ^ 32)).iso UInt32.ofNat UInt32.toNat (by simp)

def uint64 : Codec UInt64 :=
  (natBelow (2 ^ 64)).iso UInt64.ofNat UInt64.toNat (by simp)

def pair (c : Codec α) (d : Codec β) : Codec (α × β) where
  encode p := .arr [c.encode p.1, d.encode p.2]
  decode
    | .arr [i, j] => do return (← c.decode i, ← d.decode j)
    | _ => none
  valid p := c.valid p.1 ∧ d.valid p.2
  accepts p := c.accepts p.1 && d.accepts p.2
  encode_ne_null := by simp
  decode_encode := by
    rintro ⟨a, b⟩ ⟨ha, hb⟩
    dsimp only
    rw [c.decode_encode a ha, d.decode_encode b hb]
    cases c.accepts a <;> cases d.accepts b <;> rfl

theorem mapM_decode (c : Codec α) {l : List α} (h : ∀ a ∈ l, c.valid a) :
    (l.map c.encode).mapM c.decode = if l.all c.accepts then some l else none := by
  induction l with
  | nil => rfl
  | cons a l ih =>
    have ha := c.decode_encode a (h a List.mem_cons_self)
    have htail := ih fun b hb => h b (List.mem_cons_of_mem _ hb)
    rw [List.map_cons, List.mapM_cons, ha, htail, List.all_cons]
    cases c.accepts a <;> cases l.all c.accepts <;> rfl

def list (c : Codec α) : Codec (List α) where
  encode l := .arr (l.map c.encode)
  decode
    | .arr items => items.mapM c.decode
    | _ => none
  valid l := ∀ a ∈ l, c.valid a
  accepts l := l.all c.accepts
  encode_ne_null := by simp
  decode_encode l h := c.mapM_decode h

/-- Elements are collected into a set, of which the list names each once. -/
def set [DecidableEq α] (c : Codec α) : Codec (List α) where
  encode l := c.list.encode l
  decode j := (c.list.decode j).map List.dedup
  valid l := l.Nodup ∧ c.list.valid l
  accepts l := c.list.accepts l
  encode_ne_null := c.list.encode_ne_null
  decode_encode := by
    rintro l ⟨hnodup, hl⟩
    rw [c.list.decode_encode l hl]
    split
    · rw [Option.map_some, hnodup.dedup]
    · rfl

/-- Pairs are collected into a map: the last one counts. -/
def collect [DecidableEq κ] : List (κ × β) → List (κ × β)
  | [] => []
  | p :: l => if p.1 ∈ l.map Prod.fst then collect l else p :: collect l

theorem collect_of_nodup [DecidableEq κ] {l : List (κ × β)} (h : (l.map Prod.fst).Nodup) :
    collect l = l := by
  induction l with
  | nil => rfl
  | cons p l ih =>
    rw [List.map_cons, List.nodup_cons] at h
    rw [collect, if_neg h.1, ih h.2]

def map [DecidableEq κ] (c : Codec κ) (d : Codec β) : Codec (List (κ × β)) where
  encode l := (c.pair d).list.encode l
  decode j := ((c.pair d).list.decode j).map collect
  valid l := (l.map Prod.fst).Nodup ∧ (c.pair d).list.valid l
  accepts l := (c.pair d).list.accepts l
  encode_ne_null := (c.pair d).list.encode_ne_null
  decode_encode := by
    rintro l ⟨hnodup, hl⟩
    rw [(c.pair d).list.decode_encode l hl]
    split
    · rw [Option.map_some, collect_of_nodup hnodup]
    · rfl

/-- An object of any names. -/
def entries (c : Codec α) : Codec (List (String × α)) where
  encode l := .obj (l.map fun p => (p.1, c.encode p.2))
  decode
    | .obj l => l.mapM fun p => (c.decode p.2).map (Prod.mk p.1)
    | _ => none
  valid l := ∀ p ∈ l, c.valid p.2
  accepts l := l.all fun p => c.accepts p.2
  encode_ne_null := by simp
  decode_encode l h := by
    dsimp only
    induction l with
    | nil => rfl
    | cons p l ih =>
      have hp := c.decode_encode p.2 (h p List.mem_cons_self)
      have htail := ih fun q hq => h q (List.mem_cons_of_mem _ hq)
      rw [List.map_cons, List.mapM_cons, hp, htail, List.all_cons]
      cases c.accepts p.2 <;> cases l.all fun p => c.accepts p.2 <;> rfl

@[simp] theorem valid_string (s : String) : string.valid s := trivial

@[simp] theorem valid_float (q : ℚ) : float.valid q := trivial

@[simp] theorem valid_natBelow (bound n : Nat) : (natBelow bound).valid n ↔ n < bound := Iff.rfl

@[simp] theorem valid_uint16 (n : UInt16) : uint16.valid n := n.toNat_lt

@[simp] theorem valid_uint32 (n : UInt32) : uint32.valid n := n.toNat_lt

@[simp] theorem valid_uint64 (n : UInt64) : uint64.valid n := n.toNat_lt

@[simp] theorem valid_pair (c : Codec α) (d : Codec β) (p : α × β) :
    (c.pair d).valid p ↔ c.valid p.1 ∧ d.valid p.2 := Iff.rfl

@[simp] theorem valid_list (c : Codec α) (l : List α) : c.list.valid l ↔ ∀ a ∈ l, c.valid a :=
  Iff.rfl

@[simp] theorem valid_set [DecidableEq α] (c : Codec α) (l : List α) :
    c.set.valid l ↔ l.Nodup ∧ ∀ a ∈ l, c.valid a := Iff.rfl

@[simp] theorem valid_map [DecidableEq κ] (c : Codec κ) (d : Codec β) (l : List (κ × β)) :
    (c.map d).valid l ↔ (l.map Prod.fst).Nodup ∧ ∀ p ∈ l, c.valid p.1 ∧ d.valid p.2 := Iff.rfl

@[simp] theorem valid_bool (b : Bool) : bool.valid b := trivial

@[simp] theorem valid_variants (all : List α) (name : α → String) (h) (a : α) :
    (variants all name h).valid a := trivial

@[simp] theorem valid_entries (c : Codec α) (l : List (String × α)) :
    c.entries.valid l ↔ ∀ p ∈ l, c.valid p.2 := Iff.rfl

@[simp] theorem accepts_bool : bool.accepts = fun _ => true := rfl

@[simp] theorem accepts_variants (all : List α) (name : α → String) (h) :
    (variants all name h).accepts = fun _ => true := rfl

@[simp] theorem accepts_entries (c : Codec α) (l : List (String × α)) :
    c.entries.accepts l = l.all fun p => c.accepts p.2 := rfl

@[simp] theorem accepts_string : string.accepts = fun _ => true := rfl

@[simp] theorem accepts_float : float.accepts = fun _ => true := rfl

@[simp] theorem accepts_natBelow (bound : Nat) : (natBelow bound).accepts = fun _ => true := rfl

@[simp] theorem accepts_uint16 : uint16.accepts = fun _ => true := rfl

@[simp] theorem accepts_uint32 : uint32.accepts = fun _ => true := rfl

@[simp] theorem accepts_uint64 : uint64.accepts = fun _ => true := rfl

@[simp] theorem accepts_pair (c : Codec α) (d : Codec β) (p : α × β) :
    (c.pair d).accepts p = (c.accepts p.1 && d.accepts p.2) := rfl

/-- One element that is not accepted is enough for the list to be refused. -/
@[simp] theorem accepts_list (c : Codec α) (l : List α) : c.list.accepts l = l.all c.accepts := rfl

@[simp] theorem accepts_set [DecidableEq α] (c : Codec α) (l : List α) :
    c.set.accepts l = l.all c.accepts := rfl

@[simp] theorem accepts_map [DecidableEq κ] (c : Codec κ) (d : Codec β) (l : List (κ × β)) :
    (c.map d).accepts l = l.all fun p => c.accepts p.1 && d.accepts p.2 := rfl

/-- What a codec has written is read back when no part of it is refused. -/
theorem decode_encode_of_accepts (c : Codec α) {a : α} (hvalid : c.valid a)
    (haccepts : c.accepts a = true) : c.decode (c.encode a) = some a := by
  rw [c.decode_encode a hvalid, if_pos haccepts]

end Codec

/-! ## Records -/

/-- Some fields of a record.  The reader finds a field by its name. -/
structure Fields (α : Type) where
  names : List String
  encode : α → List (String × Json)
  decode : (String → Option Json) → Option α
  valid : α → Prop
  accepts : α → Bool
  encode_names : ∀ a, ((encode a).map Prod.fst).Sublist names
  decode_encode : ∀ a find, valid a → (∀ name ∈ names, find name = (encode a).lookup name) →
    decode find = if accepts a then some a else none

namespace Fields

/-- A field that has to be there. -/
def field (name : String) (c : Codec α) : Fields α where
  names := [name]
  encode a := [(name, c.encode a)]
  decode find := (find name).bind c.decode
  valid := c.valid
  accepts := c.accepts
  encode_names _ := .refl _
  decode_encode := by
    intro a find ha hfind
    rw [hfind name List.mem_cons_self, List.lookup_cons_self, Option.bind_some, c.decode_encode a ha]

/-- A field that is `null`, or not there, when there is no value. -/
def nullable (name : String) (c : Codec α) : Fields (Option α) where
  names := [name]
  encode a := [(name, (a.map c.encode).getD .null)]
  decode find :=
    match find name with
    | none => some none
    | some .null => some none
    | some j => (c.decode j).map some
  valid a := ∀ b, a = some b → c.valid b
  accepts a := a.all c.accepts
  encode_names _ := .refl _
  decode_encode := by
    intro a find ha hfind
    rw [hfind name List.mem_cons_self, List.lookup_cons_self]
    cases a with
    | none => rfl
    | some b =>
      have hb := c.decode_encode b (ha b rfl)
      have hnull := c.encode_ne_null b
      dsimp only [Option.map_some, Option.getD_some, Option.all_some]
      split
      · contradiction
      · next h => exact absurd (Option.some.inj h) hnull
      · next j _ h =>
        rw [← Option.some.inj h, hb]
        split
        · rfl
        · rfl

/-- A field that is left out when there is no value. -/
def skipped (name : String) (c : Codec α) : Fields (Option α) where
  names := [name]
  encode
    | none => []
    | some a => [(name, c.encode a)]
  decode := (nullable name c).decode
  valid := (nullable name c).valid
  accepts := (nullable name c).accepts
  encode_names
    | none => List.nil_sublist _
    | some _ => .refl _
  decode_encode := by
    intro a find ha hfind
    cases a with
    | none =>
      have hnone : find name = none := hfind name List.mem_cons_self
      show (match find name with
        | none => some none
        | some .null => some none
        | some j => (c.decode j).map some) = _
      rw [hnone]
      rfl
    | some b => exact (nullable name c).decode_encode (some b) find ha hfind

/-- A field with a value for when it is not there. -/
def defaulted (name : String) (c : Codec α) (default : α) : Fields α where
  names := [name]
  encode a := [(name, c.encode a)]
  decode find := ((find name).map c.decode).getD (some default)
  valid := c.valid
  accepts := c.accepts
  encode_names _ := .refl _
  decode_encode := by
    intro a find ha hfind
    rw [hfind name List.mem_cons_self, List.lookup_cons_self, Option.map_some, Option.getD_some,
      c.decode_encode a ha]

theorem lookup_eq_none {l : List (String × Json)} {name : String} (h : name ∉ l.map Prod.fst) :
    l.lookup name = none := by
  rw [List.lookup_eq_none_iff]
  intro p hp
  rw [bne_iff_ne]
  rintro rfl
  exact h (List.mem_map_of_mem hp)

theorem lookup_eq_some_iff {l : List (String × Json)} (h : (l.map Prod.fst).Nodup) {name : String}
    {v : Json} : l.lookup name = some v ↔ (name, v) ∈ l := by
  induction l with
  | nil => simp
  | cons p l ih =>
    rw [List.map_cons, List.nodup_cons] at h
    rw [List.lookup_cons, List.mem_cons]
    by_cases hp : name = p.1
    · subst hp
      have hnot : (p.1, v) ∉ l := fun hm => h.1 (List.mem_map.2 ⟨_, hm, rfl⟩)
      simp [hnot, Prod.ext_iff, eq_comm]
    · simp [hp, ih h.2, Prod.ext_iff, beq_eq_false_iff_ne.2 hp]

/-- The order of the fields of an object does not matter. -/
theorem lookup_perm {l l' : List (String × Json)} (hp : l.Perm l') (h : (l.map Prod.fst).Nodup)
    (name : String) : l.lookup name = l'.lookup name := by
  have h' : (l'.map Prod.fst).Nodup := (hp.map Prod.fst).nodup_iff.1 h
  refine Option.ext fun v => ?_
  rw [lookup_eq_some_iff h, lookup_eq_some_iff h', hp.mem_iff]

/-- Two parts share no name. -/
structure Apart (f : Fields α) (g : Fields β) : Prop where
  disjoint : (f.names.all fun name => !g.names.contains name) = true

/-- The fields of two parts. -/
def and (f : Fields α) (g : Fields β) (h : f.Apart g := by exact ⟨rfl⟩) : Fields (α × β) where
  names := f.names ++ g.names
  encode p := f.encode p.1 ++ g.encode p.2
  decode find := do return (← f.decode find, ← g.decode find)
  valid p := f.valid p.1 ∧ g.valid p.2
  accepts p := f.accepts p.1 && g.accepts p.2
  encode_names p := by
    rw [List.map_append]
    exact (f.encode_names p.1).append (g.encode_names p.2)
  decode_encode := by
    rintro ⟨a, b⟩ find ⟨ha, hb⟩ hfind
    have h : ∀ name ∈ f.names, name ∉ g.names := by simpa using h.disjoint
    have hf := f.decode_encode a find ha ?_
    have hg := g.decode_encode b find hb ?_
    · rw [hf, hg]
      cases f.accepts a <;> cases g.accepts b <;> rfl
    · intro name hname
      have hother : name ∉ (f.encode a).map Prod.fst := fun hm =>
        h name ((f.encode_names a).subset hm) hname
      rw [hfind name (List.mem_append_right _ hname), List.lookup_append, lookup_eq_none hother,
        Option.none_or]
    · intro name hname
      have hother : name ∉ (g.encode b).map Prod.fst := fun hm =>
        h name hname ((g.encode_names b).subset hm)
      rw [hfind name (List.mem_append_left _ hname), List.lookup_append, lookup_eq_none hother,
        Option.or_none]

def iso (f : Fields α) (build : α → β) (parts : β → α) (h : ∀ b, build (parts b) = b) :
    Fields β where
  names := f.names
  encode b := f.encode (parts b)
  decode find := (f.decode find).map build
  valid b := f.valid (parts b)
  accepts b := f.accepts (parts b)
  encode_names b := f.encode_names (parts b)
  decode_encode := by
    intro b find hb hfind
    rw [f.decode_encode _ find hb hfind]
    split
    · rw [Option.map_some, h]
    · rfl

section Valid

variable (name : String) (c : Codec α)

@[simp] theorem valid_field (a : α) : (field name c).valid a ↔ c.valid a := Iff.rfl

@[simp] theorem valid_defaulted (a d : α) : (defaulted name c d).valid a ↔ c.valid a := Iff.rfl

@[simp] theorem valid_nullable (a : Option α) :
    (nullable name c).valid a ↔ ∀ b, a = some b → c.valid b := Iff.rfl

@[simp] theorem valid_skipped (a : Option α) :
    (skipped name c).valid a ↔ ∀ b, a = some b → c.valid b := Iff.rfl

@[simp] theorem valid_and (f : Fields α) (g : Fields β) (h) (p : α × β) :
    (f.and g h).valid p ↔ f.valid p.1 ∧ g.valid p.2 := Iff.rfl

@[simp] theorem valid_iso (f : Fields α) (build : α → β) (parts : β → α) (h) (b : β) :
    (f.iso build parts h).valid b ↔ f.valid (parts b) := Iff.rfl

@[simp] theorem accepts_field (a : α) : (field name c).accepts a = c.accepts a := rfl

@[simp] theorem accepts_defaulted (a d : α) : (defaulted name c d).accepts a = c.accepts a := rfl

@[simp] theorem accepts_nullable (a : Option α) :
    (nullable name c).accepts a = a.all c.accepts := rfl

@[simp] theorem accepts_skipped (a : Option α) :
    (skipped name c).accepts a = a.all c.accepts := rfl

@[simp] theorem accepts_and (f : Fields α) (g : Fields β) (h) (p : α × β) :
    (f.and g h).accepts p = (f.accepts p.1 && g.accepts p.2) := rfl

@[simp] theorem accepts_iso (f : Fields α) (build : α → β) (parts : β → α) (h) (b : β) :
    (f.iso build parts h).accepts b = f.accepts (parts b) := rfl

end Valid

/-- A field that is known to the reader occurs once at most. -/
def unrepeated (names : List String) (l : List (String × Json)) : Bool :=
  names.all fun name => l.countP (·.1 == name) ≤ 1

theorem unrepeated_of_nodup (names : List String) {l : List (String × Json)}
    (h : (l.map Prod.fst).Nodup) : unrepeated names l = true := by
  unfold unrepeated
  rw [List.all_eq_true]
  intro name _
  have hcount := List.nodup_iff_count_le_one.1 h name
  rw [List.count, List.countP_map] at hcount
  exact decide_eq_true hcount

/-- Read the fields of an object; those with other names do not matter. -/
def read (f : Fields α) (l : List (String × Json)) : Option α :=
  if unrepeated f.names l then f.decode fun name => l.lookup name else none

/-- No name is used twice. -/
structure Distinct (f : Fields α) : Prop where
  nodup : decide f.names.Nodup = true

/-- The whole record. -/
def record (f : Fields α) (h : f.Distinct := by exact ⟨rfl⟩) : Codec α where
  encode a := .obj (f.encode a)
  decode
    | .obj l => f.read l
    | _ => none
  valid := f.valid
  accepts := f.accepts
  encode_ne_null := by simp
  decode_encode := by
    intro a ha
    dsimp only [read]
    rw [if_pos (unrepeated_of_nodup _ ((f.encode_names a).nodup (of_decide_eq_true h.nodup)))]
    exact f.decode_encode a _ ha fun _ _ => rfl

@[simp] theorem valid_record (f : Fields α) (h) (a : α) : (f.record h).valid a ↔ f.valid a := Iff.rfl

@[simp] theorem accepts_record (f : Fields α) (h) : (f.record h).accepts = f.accepts := rfl

/-- The fields of an object with a tag. -/
def tagged (f : Fields α) (tag value : String) (a : α) : List (String × Json) :=
  (tag, .str value) :: f.encode a

/-- The tag of an object. -/
def tagOf (tag : String) (l : List (String × Json)) : Option String :=
  match l.filter fun p => p.1 == tag with
  | [(_, .str value)] => some value
  | _ => none

section Tagged

variable (f : Fields α) {tag : String} (value : String) {a : α}

theorem tagOf_tagged (htag : tag ∉ f.names) : tagOf tag (f.tagged tag value a) = some value := by
  have hnone : (f.encode a).filter (fun p => p.1 == tag) = [] := by
    rw [List.filter_eq_nil_iff]
    intro p hp he
    rw [beq_iff_eq] at he
    apply htag
    rw [← he]
    exact (f.encode_names a).subset (List.mem_map_of_mem hp)
  unfold tagOf tagged
  rw [List.filter_cons_of_pos (by simp), hnone]

theorem read_tagged (htag : tag ∉ f.names) (hnames : f.names.Nodup) (ha : f.valid a) :
    f.read (f.tagged tag value a) = if f.accepts a then some a else none := by
  have hnodup : ((f.tagged tag value a).map Prod.fst).Nodup := by
    unfold tagged
    rw [List.map_cons, List.nodup_cons]
    exact ⟨fun hm => htag ((f.encode_names a).subset hm), (f.encode_names a).nodup hnames⟩
  unfold read
  rw [if_pos (unrepeated_of_nodup _ hnodup)]
  apply f.decode_encode a _ ha
  intro name hname
  have hne : (name == tag) = false := by
    rw [beq_eq_false_iff_ne]
    rintro rfl
    exact htag hname
  unfold tagged
  rw [List.lookup_cons, hne]

end Tagged

end Fields

end Wire
