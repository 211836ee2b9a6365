import LinkSense.Table
import Mathlib.Algebra.Group.Nat.Defs
import Mathlib.Data.List.Forall2
import Mathlib.Data.Rat.Defs

/-!
# Rows of named columns

`INSERT` and `SELECT` with their lists of columns.  A row has its values in the order of the
schema; a statement names the columns in an order of its own, and its parameters and results are
matched to them by position.

    parameters that suit their columns are the row                                   (rowOf_names)
    a row is selected in the order of the columns that are asked for           (selectById_of_get)
    a parameter is stored as it is and read as what it was bound from
                                                                        (suits_toSql, column_toSql)
-/

namespace Sql

/-! ## Values -/

inductive Value where
  | null
  | integer (n : Int)
  | real (q : ℚ)
  | text (s : String)
deriving DecidableEq, Repr

inductive Affinity where
  | integer
  | real
  | text
deriving DecidableEq, Repr

structure Column where
  name : String
  affinity : Affinity
  notNull : Bool
  default : Value
deriving DecidableEq, Repr

inductive SqlError where
  | noSuchColumn (name : String)
  | wrongCount (values columns : Nat)
  | notNull (name : String)
  | mismatch (name : String)
  | invalidColumnIndex (i : Nat)
  | invalidColumnType (i : Nat)
  | integralValueOutOfRange (i : Nat) (n : Int)
deriving DecidableEq, Repr

/-- What a column keeps of a value.  Conversions between storage classes are left out, but for an
integer in a `REAL` column. -/
def Column.store (c : Column) (v : Value) : Except SqlError Value :=
  match v, c.affinity with
  | .null, _ => if c.notNull then .error (.notNull c.name) else .ok .null
  | .integer n, .integer => .ok (.integer n)
  | .integer n, .real => .ok (.real n)
  | .real q, .real => .ok (.real q)
  | .text s, .text => .ok (.text s)
  | _, _ => .error (.mismatch c.name)

/-- A `NOT NULL` column. -/
def Column.required (name : String) (affinity : Affinity) : Column := ⟨name, affinity, true, .null⟩

def Column.optional (name : String) (affinity : Affinity) : Column := ⟨name, affinity, false, .null⟩

/-- A `NOT NULL` column with a `DEFAULT`. -/
def Column.defaulted (name : String) (affinity : Affinity) (default : Value) : Column :=
  ⟨name, affinity, true, default⟩

/-- The column keeps the value as it is. -/
def Column.Suits (c : Column) (v : Value) : Prop := c.store v = .ok v

/-! ## Binding and reading -/

class ToSql (α : Type) where
  toSql : α → Value

inductive FromSqlError where
  | invalidType
  | outOfRange (n : Int)
deriving DecidableEq, Repr

class FromSql (α : Type) where
  fromSql : Value → Except FromSqlError α

export ToSql (toSql)
export FromSql (fromSql)

/-- A type whose values are read back, from the columns of one affinity. -/
class LawfulSql (α : Type) [ToSql α] [FromSql α] where
  affinity : Affinity
  store_toSql : ∀ (c : Column) (a : α), c.affinity = affinity → c.store (toSql a) = .ok (toSql a)
  fromSql_toSql : ∀ a : α, fromSql (toSql a) = .ok a
  fromSql_null : (fromSql .null : Except FromSqlError α) = .error .invalidType

/-- A missing value is `NULL`. -/
instance {α : Type} [ToSql α] : ToSql (Option α) := ⟨fun a => (a.map toSql).getD .null⟩

instance : ToSql ℚ := ⟨.real⟩

instance : FromSql ℚ where
  fromSql
    | .real q => .ok q
    | .integer n => .ok n
    | _ => .error .invalidType

instance : ToSql Int := ⟨.integer⟩

instance : FromSql Int where
  fromSql
    | .integer n => .ok n
    | _ => .error .invalidType

instance : ToSql String := ⟨.text⟩

instance : FromSql String where
  fromSql
    | .text s => .ok s
    | _ => .error .invalidType

instance : ToSql UInt32 := ⟨fun n => .integer n.toNat⟩

/-- An integer that has to be a natural number below a bound. -/
def natOfSql (bound : Nat) : Value → Except FromSqlError Nat
  | .integer n => if 0 ≤ n ∧ n < bound then .ok n.toNat else .error (.outOfRange n)
  | _ => .error .invalidType

instance : FromSql UInt32 := ⟨fun v => (natOfSql (2 ^ 32) v).map UInt32.ofNat⟩

instance : FromSql UInt64 := ⟨fun v => (natOfSql (2 ^ 64) v).map UInt64.ofNat⟩

theorem natOfSql_of_lt {bound n : Nat} (h : n < bound) : natOfSql bound (.integer n) = .ok n := by
  have hbound : (0 : Int) ≤ n ∧ (n : Int) < bound := by omega
  dsimp only [natOfSql]
  rw [if_pos hbound, Int.toNat_natCast]

instance : LawfulSql ℚ where
  affinity := .real
  store_toSql c q h := by
    show c.store (.real q) = _
    unfold Column.store
    rw [h]
    rfl
  fromSql_toSql _ := rfl
  fromSql_null := rfl

instance : LawfulSql Int where
  affinity := .integer
  store_toSql c n h := by
    show c.store (.integer n) = _
    unfold Column.store
    rw [h]
    rfl
  fromSql_toSql _ := rfl
  fromSql_null := rfl

instance : LawfulSql String where
  affinity := .text
  store_toSql c s h := by
    show c.store (.text s) = _
    unfold Column.store
    rw [h]
    rfl
  fromSql_toSql _ := rfl
  fromSql_null := rfl

instance : LawfulSql UInt32 where
  affinity := .integer
  store_toSql c n h := LawfulSql.store_toSql c (n.toNat : Int) h
  fromSql_toSql n := by
    show (natOfSql (2 ^ 32) (.integer n.toNat)).map UInt32.ofNat = _
    rw [natOfSql_of_lt n.toNat_lt]
    show Except.ok (UInt32.ofNat n.toNat) = _
    rw [UInt32.ofNat_toNat]
  fromSql_null := rfl

/-- What is read from the column of an index. -/
def column {α : Type} [FromSql α] (i : Nat) : Option Value → Except SqlError α
  | none => .error (.invalidColumnIndex i)
  | some v =>
    match fromSql v with
    | .ok a => .ok a
    | .error .invalidType => .error (.invalidColumnType i)
    | .error (.outOfRange n) => .error (.integralValueOutOfRange i n)

/-- `row.get(i)`. -/
def getAt {α : Type} [FromSql α] (row : List Value) (i : Nat) : Except SqlError α :=
  column i row[i]?

/-! ## Statements -/

/-- The positions of the named columns in a schema. -/
def order (schema : List Column) (columns : List String) : List Nat :=
  columns.map (schema.map Column.name).idxOf

/-- The first column that the schema does not have. -/
def unknownColumn (schema : List Column) (columns : List String) : Option String :=
  columns.find? fun name => !(schema.map Column.name).contains name

/-- The row of an `INSERT`; a column that it does not name has its default. -/
def rowOf (schema : List Column) (columns : List String) (params : List Value) :
    Except SqlError (List Value) :=
  match unknownColumn schema columns with
  | some name => .error (.noSuchColumn name)
  | none =>
    if params.length ≠ columns.length then .error (.wrongCount params.length columns.length)
    else schema.mapM fun c => c.store ((params[columns.idxOf c.name]?).getD c.default)

/-- The columns of a `UNIQUE` clause, in which `NULL` is never in conflict. -/
def uniqueKey (schema : List Column) (unique : List String) (row : List Value) :
    Option (List Value) :=
  ((order schema unique).mapM (row[·]?)).filter fun values => !values.contains .null

section Statements

variable {schema : List Column} {unique : List String}

/-- `INSERT OR REPLACE INTO … (columns) VALUES (params)`, with `last_insert_rowid`. -/
def insertOrReplaceInto (t : Table (uniqueKey schema unique)) (columns : List String)
    (params : List Value) : Except SqlError (Table (uniqueKey schema unique) × Nat) :=
  match rowOf schema columns params with
  | .error e => .error e
  | .ok row => .ok (t.insertOrReplace row)

/-- `SELECT columns FROM … WHERE id = …`; the columns are looked up before there is a row. -/
def selectById (t : Table (uniqueKey schema unique)) (columns : List String) (id : Nat) :
    Except SqlError (Option (List Value)) :=
  match unknownColumn schema columns with
  | some name => .error (.noSuchColumn name)
  | none => .ok ((t.get id).map fun row => (order schema columns).map fun i => row.getD i .null)

end Statements

/-! ## Lemmas -/

theorem column_of_fromSql {α : Type} [FromSql α] (i : Nat) {v : Value} {a : α}
    (h : fromSql v = .ok a) : column i (some v) = .ok a := by
  unfold column
  dsimp only
  rw [h]

/-- A `u64` is read from an integer that is not negative. -/
theorem fromSql_uint64 (n : UInt64) : fromSql (.integer n.toNat) = .ok n := by
  show (natOfSql (2 ^ 64) (.integer n.toNat)).map UInt64.ofNat = _
  rw [natOfSql_of_lt n.toNat_lt]
  show Except.ok (UInt64.ofNat n.toNat) = _
  rw [UInt64.ofNat_toNat]

section Lawful

variable {α : Type} [ToSql α] [FromSql α] [LawfulSql α]

/-- **A bound value stays what it is** in a column of its type. -/
theorem suits_toSql {c : Column} (h : c.affinity = LawfulSql.affinity α) (a : α) :
    c.Suits (toSql a) := LawfulSql.store_toSql c a h

theorem suits_toSql_option {c : Column} (h : c.affinity = LawfulSql.affinity α)
    (hnull : c.notNull = false) (a : Option α) : c.Suits (toSql a) := by
  cases a with
  | none =>
    show c.store .null = .ok .null
    unfold Column.store
    rw [hnull]
    rfl
  | some a => exact LawfulSql.store_toSql c a h

/-- **A bound value is read back**. -/
@[simp] theorem column_toSql (i : Nat) (a : α) : column i (some (toSql a)) = .ok a :=
  column_of_fromSql i (LawfulSql.fromSql_toSql a)

/-- `row.get(i).ok()`, of a column that may be `NULL`. -/
@[simp] theorem toOption_column_toSql (i : Nat) (a : Option α) :
    (column i (some (toSql a)) : Except SqlError α).toOption = a := by
  cases a with
  | none =>
    show (column i (some .null) : Except SqlError α).toOption = none
    unfold column
    dsimp only
    rw [LawfulSql.fromSql_null]
    rfl
  | some a =>
    show (column i (some (toSql a)) : Except SqlError α).toOption = some a
    rw [column_toSql]
    rfl

end Lawful

section Suits

variable (name : String)

@[simp] theorem suits_real (q : ℚ) : (Column.required name .real).Suits (toSql q) :=
  suits_toSql rfl q

@[simp] theorem suits_int (n : Int) : (Column.required name .integer).Suits (toSql n) :=
  suits_toSql rfl n

@[simp] theorem suits_uint32 (n : UInt32) : (Column.required name .integer).Suits (toSql n) :=
  suits_toSql rfl n

@[simp] theorem suits_string (s : String) : (Column.required name .text).Suits (toSql s) :=
  suits_toSql rfl s

@[simp] theorem suits_optional_real (q : ℚ) : (Column.optional name .real).Suits (toSql q) :=
  suits_toSql rfl q

@[simp] theorem suits_optional_string (s : String) :
    (Column.optional name .text).Suits (toSql s) := suits_toSql rfl s

@[simp] theorem suits_option_real (q : Option ℚ) : (Column.optional name .real).Suits (toSql q) :=
  suits_toSql_option rfl rfl q

@[simp] theorem suits_option_string (s : Option String) :
    (Column.optional name .text).Suits (toSql s) := suits_toSql_option rfl rfl s

@[simp] theorem suits_defaulted (affinity : Affinity) (default v : Value) :
    (Column.defaulted name affinity default).Suits v ↔ (Column.required name affinity).Suits v :=
  Iff.rfl

end Suits

theorem ok_bind {ε α β : Type} (a : α) (f : α → Except ε β) : (Except.ok a >>= f) = f a := rfl

theorem pure_eq_ok {ε α : Type} (a : α) : (pure a : Except ε α) = .ok a := rfl

theorem toOption_ok {ε α : Type} (a : α) : (Except.ok a : Except ε α).toOption = some a := rfl

theorem mapM_eq_ok {ε α β : Type} {f : α → Except ε β} {l : List α} {bs : List β}
    (h : List.Forall₂ (fun a b => f a = .ok b) l bs) : l.mapM f = .ok bs := by
  induction h with
  | nil => rfl
  | cons hab _ ih =>
    rw [List.mapM_cons, hab, ih]
    rfl

theorem unknownColumn_eq_none {schema : List Column} {columns : List String}
    (h : ∀ name ∈ columns, name ∈ schema.map Column.name) :
    unknownColumn schema columns = none := by
  unfold unknownColumn
  rw [List.find?_eq_none]
  intro name hname
  simpa using h name hname

/-- **Parameters that suit their columns** are the row, when all columns are named in order. -/
theorem rowOf_names {schema : List Column} (hnodup : (schema.map Column.name).Nodup)
    {params : List Value} (hsuits : List.Forall₂ Column.Suits schema params) :
    rowOf schema (schema.map Column.name) params = .ok params := by
  unfold rowOf
  rw [unknownColumn_eq_none fun _ h => h]
  dsimp only
  have hlength := hsuits.length_eq
  rw [if_neg (by simp [hlength])]
  apply mapM_eq_ok
  rw [List.forall₂_iff_get] at hsuits ⊢
  refine ⟨hlength, fun i hi hi' => ?_⟩
  have hpos : (schema.map Column.name).idxOf (schema.get ⟨i, hi⟩).name = i := by
    have := hnodup.idxOf_getElem i (by simpa using hi)
    simpa using this
  rw [hpos, List.getElem?_eq_getElem hi', Option.getD_some]
  exact hsuits.2 i hi hi'

section Statements

variable {schema : List Column} {unique : List String} (t : Table (uniqueKey schema unique))

theorem insertOrReplaceInto_names (hnodup : (schema.map Column.name).Nodup) {params : List Value}
    (hsuits : List.Forall₂ Column.Suits schema params) :
    insertOrReplaceInto t (schema.map Column.name) params = .ok (t.insertOrReplace params) := by
  unfold insertOrReplaceInto
  rw [rowOf_names hnodup hsuits]

/-- **A row is selected in the order of the columns that are asked for**. -/
theorem selectById_of_get {columns : List String}
    (hcolumns : ∀ name ∈ columns, name ∈ schema.map Column.name) {id : Nat} {row : List Value}
    (h : t.get id = some row) :
    selectById t columns id = .ok (some ((order schema columns).map fun i => row.getD i .null)) := by
  unfold selectById
  rw [unknownColumn_eq_none hcolumns, h]
  rfl

end Statements

end Sql
