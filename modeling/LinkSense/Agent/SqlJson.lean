import LinkSense.Agent.Tasks
import LinkSense.Bisection
import LinkSense.JsonText

/-!
# Query results as JSON

JSON mode of `agent/src/task_sql.rs`: the rows of a query become an array of objects, which is cut
to the largest number of rows that fits.  What other crates print is a parameter (`ValueText`).

    the text of all rows is too long → truncate_json_result gives that of the longest prefix
      that fits                                                        (truncateJsonResult_longest)
    the metric has the first `max_rows` rows, unless it says that it is truncated, and of each row
      every cell when no two columns have one name                             (jsonMetric_shows)
-/

namespace LinkSense

open Wire

/-! ## Values -/

/-- `rsql_drivers::Value`.  A float that is infinite or no number is `none`; dates, times, UUIDs and
decimals are what they print as. -/
inductive SqlCell where
  | null
  | bool (b : Bool)
  | i8 (v : Int8)
  | i16 (v : Int16)
  | i32 (v : Int32)
  | i64 (v : Int64)
  | i128 (v : Int)
  | u8 (v : UInt8)
  | u16 (v : UInt16)
  | u32 (v : UInt32)
  | u64 (v : UInt64)
  | u128 (v : Nat)
  | f32 (v : Option ℚ)
  | f64 (v : Option ℚ)
  | string (s : String)
  | bytes (b : List UInt8)
  | date (text : String)
  | time (text : String)
  | dateTime (text : String)
  | uuid (text : String)
  | decimal (text : String)
  | array (items : List SqlCell)
  | map (entries : List (SqlCell × SqlCell))

/-- Base64, and the `Debug` of a value. -/
structure ValueText where
  base64 : List UInt8 → String
  debug : SqlCell → String

/-- `serde_json::Map::insert`; the map is in the order of insertion (`preserve_order`). -/
def insertKey (key : String) (value : Json) : List (String × Json) → List (String × Json)
  | [] => [(key, value)]
  | (k, v) :: rest =>
    if key = k then (k, value) :: rest
    else (k, v) :: insertKey key value rest

/-- `collect` into a `serde_json::Map`. -/
def collectMap (entries : List (String × Json)) : List (String × Json) :=
  entries.foldl (fun map entry => insertKey entry.1 entry.2 map) []

/-- `json!` of a float. -/
def floatToJson : Option ℚ → Json
  | none => .null
  | some q => .float q

def keyToString (t : ValueText) : SqlCell → String
  | .string s => s
  | other => t.debug other

mutual

def valueToJson (t : ValueText) : SqlCell → Json
  | .null => .null
  | .bool b => .bool b
  | .i8 v => .int v.toInt
  | .i16 v => .int v.toInt
  | .i32 v => .int v.toInt
  | .i64 v => .int v.toInt
  | .i128 v => .str (toString v)
  | .u8 v => .int v.toNat
  | .u16 v => .int v.toNat
  | .u32 v => .int v.toNat
  | .u64 v => .int v.toNat
  | .u128 v => .str (toString v)
  | .f32 v => floatToJson v
  | .f64 v => floatToJson v
  | .string s => .str s
  | .bytes b => .str (t.base64 b)
  | .date text => .str text
  | .time text => .str text
  | .dateTime text => .str text
  | .uuid text => .str text
  | .decimal text => .str text
  | .array items => .arr (itemsToJson t items)
  | .map entries => .obj (collectMap (entriesToJson t entries))

def itemsToJson (t : ValueText) : List SqlCell → List Json
  | [] => []
  | item :: items => valueToJson t item :: itemsToJson t items

def entriesToJson (t : ValueText) : List (SqlCell × SqlCell) → List (String × Json)
  | [] => []
  | (key, value) :: entries => (keyToString t key, valueToJson t value) :: entriesToJson t entries

end

/-! ## JSON mode -/

/-- What a query gives; a row has a cell for each column. -/
structure QueryResult where
  columns : List String
  rows : List (List SqlCell)
  width : ∀ row ∈ rows, row.length = columns.length

structure JsonModeResult where
  rowCount : UInt64
  columnCount : UInt32
  jsonResult : String
  truncated : Bool

/-- `serde_json::to_string`. -/
def toJsonString (f : FloatText) (j : Json) : String := .ofList (j.text f)

def prefixFits (f : FloatText) (rows : List Json) (maxSize k : Nat) : Bool :=
  (toJsonString f (.arr (rows.take k))).utf8ByteSize ≤ maxSize

/-- `truncate_json_result`; no sum overflows, the bounds are lengths of a `Vec`. -/
def truncateJsonResult (f : FloatText) (rows : List Json) (maxSize : Nat) : String × Bool :=
  let low := Bisection.lastTrue (prefixFits f rows maxSize) 0 rows.length
  if low = 0 then ("[]", true)
  else (toJsonString f (.arr (rows.take low)), decide (low < rows.length))

/-- A row as an object. -/
def rowToJson (t : ValueText) (columns : List String) (row : List SqlCell) : Json :=
  .obj (collectMap ((columns.zip row).map fun cell => (cell.1, valueToJson t cell.2)))

/-- `execute_json_mode`, once the query has been answered. -/
def executeJsonMode (t : ValueText) (f : FloatText) (q : QueryResult)
    (maxRows maxJsonSizeBytes : Nat) : JsonModeResult :=
  let jsonRows := (q.rows.take maxRows).map (rowToJson t q.columns)
  let jsonString := toJsonString f (.arr jsonRows)
  let (finalJson, truncated) :=
    if jsonString.utf8ByteSize > maxJsonSizeBytes then truncateJsonResult f jsonRows maxJsonSizeBytes
    else (jsonString, false)
  ⟨.ofNat q.rows.length, .ofNat q.columns.length, finalJson, truncated⟩

/-- The metric of a query in JSON mode that has been answered in time. -/
def jsonMetric (t : ValueText) (f : FloatText) (q : QueryResult) (params : SqlQueryParams)
    (totalTimeMs : ℚ) : RawSqlQueryMetric :=
  let r := executeJsonMode t f q params.maxRows.toNat params.maxJsonSizeBytes.toNat
  buildMetric (.ok ⟨r.rowCount, r.columnCount, none, r.jsonResult, r.truncated⟩) totalTimeMs params

/-! ## Truncation -/

variable {t : ValueText} {f : FloatText}

theorem toJsonString_injective : Function.Injective (toJsonString f) := by
  intro a b h
  have htext : a.text f ++ [] = b.text f ++ [] := by
    rw [List.append_nil, List.append_nil]
    exact String.ofList_injective h
  exact (text_unique a b (by rintro c hc; cases hc) (by rintro c hc; cases hc) htext).1

theorem size_take_lt (rows : List Json) {i j : Nat} (hij : i < j) (hj : j ≤ rows.length) :
    (toJsonString f (.arr (rows.take i))).utf8ByteSize <
      (toJsonString f (.arr (rows.take j))).utf8ByteSize := by
  induction j, hij using Nat.le_induction with
  | base => exact byteSize_arr_take_lt f rows hj
  | succ j hij ih => exact (ih (by omega)).trans (byteSize_arr_take_lt f rows hj)

theorem size_nil : (toJsonString f (.arr [])).utf8ByteSize = 2 := by
  show ("[]" : String).utf8ByteSize = 2
  decide

/-- The number of rows that bisection finds is the greatest that fits. -/
theorem isGreatest_fits (f : FloatText) (rows : List Json) {maxSize : Nat} (hmax : 2 ≤ maxSize) :
    IsGreatest {k | k ≤ rows.length ∧
        (toJsonString f (.arr (rows.take k))).utf8ByteSize ≤ maxSize}
      (Bisection.lastTrue (prefixFits f rows maxSize) 0 rows.length) := by
  have hmono : ∀ i j, 0 ≤ i → i ≤ j → j ≤ rows.length → prefixFits f rows maxSize j = true →
      prefixFits f rows maxSize i = true := by
    intro i j _ hij hj hfits
    rcases hij.eq_or_lt with rfl | hlt
    · exact hfits
    · exact decide_eq_true ((size_take_lt rows hlt hj).le.trans (of_decide_eq_true hfits))
  have hzero : prefixFits f rows maxSize 0 = true := by
    refine decide_eq_true ?_
    rw [List.take_zero, size_nil]
    exact hmax
  obtain ⟨⟨⟨-, hle⟩, hfits⟩, hub⟩ :=
    Bisection.isGreatest_lastTrue (Nat.zero_le rows.length) hzero hmono
  refine ⟨⟨hle, of_decide_eq_true hfits⟩, ?_⟩
  rintro k ⟨hk, hsize⟩
  exact hub ⟨⟨Nat.zero_le k, hk⟩, decide_eq_true hsize⟩

/-- Not all rows fit, so some are left out. -/
theorem lt_of_isGreatest_fits {rows : List Json} {maxSize k : Nat}
    (hlarge : maxSize < (toJsonString f (.arr rows)).utf8ByteSize)
    (hk : IsGreatest {k | k ≤ rows.length ∧
        (toJsonString f (.arr (rows.take k))).utf8ByteSize ≤ maxSize} k) : k < rows.length := by
  obtain ⟨⟨hle, hfits⟩, -⟩ := hk
  refine hle.lt_of_ne ?_
  rintro rfl
  rw [List.take_length] at hfits
  omega

theorem truncateJsonResult_eq {rows : List Json} {maxSize : Nat} (hmax : 2 ≤ maxSize)
    (hlarge : maxSize < (toJsonString f (.arr rows)).utf8ByteSize) :
    truncateJsonResult f rows maxSize =
      (toJsonString f (.arr (rows.take
        (Bisection.lastTrue (prefixFits f rows maxSize) 0 rows.length))), true) := by
  have hlt := lt_of_isGreatest_fits hlarge (isGreatest_fits f rows hmax)
  unfold truncateJsonResult
  dsimp only
  split
  · next h0 =>
    rw [h0]
    rfl
  · rw [decide_eq_true hlt]

/-- **Truncation is maximal**: the longest prefix that fits, and its text. -/
theorem truncateJsonResult_longest (f : FloatText) (rows : List Json) (maxSize : Nat)
    (hmax : 2 ≤ maxSize) (hlarge : maxSize < (toJsonString f (.arr rows)).utf8ByteSize) :
    ∃ k, IsGreatest {k | k ≤ rows.length ∧
        (toJsonString f (.arr (rows.take k))).utf8ByteSize ≤ maxSize} k ∧
      truncateJsonResult f rows maxSize = (toJsonString f (.arr (rows.take k)), true) :=
  ⟨_, isGreatest_fits f rows hmax, truncateJsonResult_eq hmax hlarge⟩

/-- A way to write a fraction. -/
def ratioText : FloatText where
  digits q := intText q.num ++ '.' :: Nat.toDigits 10 q.den
  isNumber q c hc := by
    rcases List.mem_append.1 hc with h | h
    · exact isNumber_intText q.num c h
    · rcases List.mem_cons.1 h with rfl | h
      · rfl
      · exact isNumber_intText q.den c h
  fraction q := ⟨'.', List.mem_append_right _ List.mem_cons_self, .inl rfl⟩
  injective p q h := by
    have hpoint : ∀ n : Int, ∀ c ∈ intText n, (c != '.') = true := by
      intro n c hc
      refine bne_iff_ne.2 ?_
      rintro rfl
      rcases mem_intText hc with h | h
      · cases h
      · cases h
    have hnum := congrArg (List.takeWhile (· != '.')) h
    rw [List.takeWhile_append_of_pos (hpoint _), List.takeWhile_append_of_pos (hpoint _),
      List.takeWhile_cons_of_neg (by decide), List.takeWhile_cons_of_neg (by decide),
      List.append_nil, List.append_nil] at hnum
    dsimp only at h
    rw [hnum] at h
    have hden := List.append_cancel_left h
    exact Rat.ext (intText_injective hnum) (toDigits_injective (List.cons.inj hden).2)

/-- Two rows of one digit, and room for one. -/
theorem truncateJsonResult_longest_two :
    ∃ k, IsGreatest {k | k ≤ 2 ∧
        (toJsonString ratioText (.arr ([.int 1, .int 2].take k))).utf8ByteSize ≤ 4} k ∧
      truncateJsonResult ratioText [.int 1, .int 2] 4 =
        (toJsonString ratioText (.arr ([.int 1, .int 2].take k)), true) :=
  truncateJsonResult_longest ratioText [.int 1, .int 2] 4 (by decide) (by decide +kernel)

/-! ## Rows -/

theorem insertKey_of_not_mem {key : String} (value : Json) {map : List (String × Json)}
    (h : key ∉ map.map Prod.fst) : insertKey key value map = map ++ [(key, value)] := by
  induction map with
  | nil => rfl
  | cons entry rest ih =>
    rw [List.map_cons, List.mem_cons, not_or] at h
    rw [insertKey, if_neg h.1, ih h.2, List.cons_append]

/-- No entry is lost when the keys are distinct. -/
theorem collectMap_of_nodup {entries : List (String × Json)} (h : (entries.map Prod.fst).Nodup) :
    collectMap entries = entries := by
  have hfold : ∀ (entries map : List (String × Json)),
      ((map ++ entries).map Prod.fst).Nodup →
      entries.foldl (fun map entry => insertKey entry.1 entry.2 map) map = map ++ entries := by
    intro entries
    induction entries with
    | nil =>
      intro map _
      rw [List.foldl_nil, List.append_nil]
    | cons entry entries ih =>
      intro map hnodup
      have hnew : entry.1 ∉ map.map Prod.fst := by
        rw [List.map_append, List.nodup_append] at hnodup
        exact fun hmem => hnodup.2.2 _ hmem _ List.mem_cons_self rfl
      rw [List.foldl_cons, insertKey_of_not_mem entry.2 hnew, ih, List.append_assoc,
        List.singleton_append]
      rwa [List.append_assoc, List.singleton_append]
  exact hfold entries [] h

theorem mem_insertKey {key : String} {value : Json} {map : List (String × Json)}
    {entry : String × Json} (h : entry ∈ insertKey key value map) :
    entry ∈ map ∨ entry = (key, value) := by
  induction map with
  | nil => exact .inr (List.mem_singleton.1 h)
  | cons first rest ih =>
    unfold insertKey at h
    split at h
    · next hkey =>
      rcases List.mem_cons.1 h with rfl | h
      · exact .inr (by rw [← hkey])
      · exact .inl (List.mem_cons_of_mem _ h)
    · rcases List.mem_cons.1 h with rfl | h
      · exact .inl List.mem_cons_self
      · exact (ih h).imp_left (List.mem_cons_of_mem _)

/-- No entry is made up. -/
theorem collectMap_subset (entries : List (String × Json)) : collectMap entries ⊆ entries := by
  have hfold : ∀ (entries map : List (String × Json)),
      entries.foldl (fun map entry => insertKey entry.1 entry.2 map) map ⊆ map ++ entries := by
    intro entries
    induction entries with
    | nil => exact fun map => (List.append_nil map).symm ▸ List.Subset.refl _
    | cons entry entries ih =>
      intro map e he
      rw [List.foldl_cons] at he
      rcases List.mem_append.1 (ih _ he) with he | he
      · rcases mem_insertKey he with he | rfl
        · exact List.mem_append_left _ he
        · exact List.mem_append_right _ List.mem_cons_self
      · exact List.mem_append_right _ (List.mem_cons_of_mem _ he)
  exact hfold entries []

/-- The cells of a row under the names of their columns. -/
def cellsOf (t : ValueText) (columns : List String) (row : List SqlCell) : List (String × Json) :=
  columns.zip (row.map (valueToJson t))

/-- The object has every cell of the row, and nothing else. -/
def ShowsRow (t : ValueText) (columns : List String) (row : List SqlCell) (object : Json) : Prop :=
  ∃ fields, object = .obj fields ∧ fields.Perm (cellsOf t columns row)

/-- The object has cells of the row, and nothing else. -/
def IsOfRow (t : ValueText) (columns : List String) (row : List SqlCell) (object : Json) : Prop :=
  ∃ fields, object = .obj fields ∧ fields ⊆ cellsOf t columns row

theorem rowToJson_eq (columns : List String) (row : List SqlCell) :
    rowToJson t columns row = .obj (collectMap (cellsOf t columns row)) := by
  unfold rowToJson cellsOf
  rw [List.zip_map_right]
  rfl

theorem isOfRow_rowToJson (columns : List String) (row : List SqlCell) :
    IsOfRow t columns row (rowToJson t columns row) :=
  ⟨_, rowToJson_eq columns row, collectMap_subset _⟩

theorem showsRow_rowToJson {columns : List String} (h : columns.Nodup) {row : List SqlCell}
    (hw : row.length = columns.length) : ShowsRow t columns row (rowToJson t columns row) := by
  have hnames : (cellsOf t columns row).map Prod.fst = columns := by
    refine List.map_fst_zip ?_
    rw [List.length_map, hw]
  refine ⟨_, rowToJson_eq columns row, ?_⟩
  rw [collectMap_of_nodup (by rwa [hnames])]

/-- The text that truncation gives, whatever the limit. -/
theorem truncateJsonResult_take (f : FloatText) (rows : List Json) (maxSize : Nat) :
    ∃ k ≤ rows.length, (truncateJsonResult f rows maxSize).1 = toJsonString f (.arr (rows.take k)) ∧
      ((truncateJsonResult f rows maxSize).2 = false → k = rows.length) := by
  have hle := Bisection.lastTrue_le (prefixFits f rows maxSize) (Nat.zero_le rows.length)
  refine ⟨_, hle, ?_⟩
  unfold truncateJsonResult
  dsimp only
  split
  · next h0 =>
    rw [h0]
    exact ⟨rfl, nofun⟩
  · refine ⟨rfl, fun h => ?_⟩
    have := of_decide_eq_false h
    omega

/-- JSON mode shows the first rows, and all of them up to the limit unless it says otherwise. -/
theorem executeJsonMode_take (t : ValueText) (f : FloatText) (q : QueryResult)
    (maxRows maxJsonSizeBytes : Nat) :
    ∃ k ≤ min maxRows q.rows.length,
      (executeJsonMode t f q maxRows maxJsonSizeBytes).jsonResult =
        toJsonString f (.arr ((q.rows.take k).map (rowToJson t q.columns))) ∧
      ((executeJsonMode t f q maxRows maxJsonSizeBytes).truncated = false →
        k = min maxRows q.rows.length) := by
  have hlen : ((q.rows.take maxRows).map (rowToJson t q.columns)).length =
      min maxRows q.rows.length := by
    rw [List.length_map, List.length_take]
  unfold executeJsonMode
  dsimp only
  split_ifs with hlarge
  · obtain ⟨k, hk, htext, htrunc⟩ := truncateJsonResult_take f
      ((q.rows.take maxRows).map (rowToJson t q.columns)) maxJsonSizeBytes
    rw [hlen] at hk htrunc
    refine ⟨k, hk, ?_, htrunc⟩
    rw [htext, ← List.map_take, List.take_take, Nat.min_eq_left (by omega)]
  · refine ⟨_, le_refl _, ?_, fun _ => rfl⟩
    rw [← List.take_eq_take_min]

/-- With room for an empty array, what is shown fits, and what is said to be truncated is. -/
theorem executeJsonMode_fits (t : ValueText) (f : FloatText) (q : QueryResult) (maxRows : Nat)
    {maxJsonSizeBytes : Nat} (hsize : 2 ≤ maxJsonSizeBytes) :
    (executeJsonMode t f q maxRows maxJsonSizeBytes).jsonResult.utf8ByteSize ≤ maxJsonSizeBytes ∧
      ((executeJsonMode t f q maxRows maxJsonSizeBytes).truncated = true →
        (executeJsonMode t f q maxRows maxJsonSizeBytes).jsonResult ≠
          toJsonString f (.arr ((q.rows.take maxRows).map (rowToJson t q.columns)))) := by
  unfold executeJsonMode
  dsimp only
  split_ifs with hlarge
  · rw [truncateJsonResult_eq hsize hlarge]
    have hfits :=
      (isGreatest_fits f ((q.rows.take maxRows).map (rowToJson t q.columns)) hsize).1.2
    refine ⟨hfits, fun _ heq => ?_⟩
    dsimp only at heq
    rw [heq] at hfits
    omega
  · exact ⟨not_lt.1 hlarge, nofun⟩

/-- The metric shows these objects, and says whether they are all rows up to the limit. -/
structure MetricShows (t : ValueText) (f : FloatText) (q : QueryResult) (params : SqlQueryParams)
    (metric : RawSqlQueryMetric) (objects : List Json) : Prop where
  text : metric.jsonResult = some (toJsonString f (.arr objects))
  only : ∀ j, metric.jsonResult = some (toJsonString f j) → j = .arr objects
  rowCount : metric.rowCount = some (.ofNat q.rows.length)
  maxRows : objects.length ≤ params.maxRows.toNat
  rows : List.Forall₂ (IsOfRow t q.columns) (q.rows.take objects.length) objects
  cells : q.columns.Nodup →
    List.Forall₂ (ShowsRow t q.columns) (q.rows.take objects.length) objects
  complete : metric.jsonTruncated = false → objects.length = min params.maxRows.toNat q.rows.length
  size : 2 ≤ params.maxJsonSizeBytes.toNat →
    (toJsonString f (.arr objects)).utf8ByteSize ≤ params.maxJsonSizeBytes.toNat
  truncated : 2 ≤ params.maxJsonSizeBytes.toNat → metric.jsonTruncated = true →
    objects.length < min params.maxRows.toNat q.rows.length

/-- **No silent loss below the row limit**. -/
theorem jsonMetric_shows (t : ValueText) (f : FloatText) (q : QueryResult)
    (params : SqlQueryParams) (totalTimeMs : ℚ) (hmode : params.mode = .json) :
    ∃ objects, MetricShows t f q params (jsonMetric t f q params totalTimeMs) objects := by
  obtain ⟨k, hk, htext, hcomplete⟩ :=
    executeJsonMode_take t f q params.maxRows.toNat params.maxJsonSizeBytes.toNat
  have hlen : ((q.rows.take k).map (rowToJson t q.columns)).length = k := by
    rw [List.length_map, List.length_take]
    omega
  have hresult : (jsonMetric t f q params totalTimeMs).jsonResult =
      some (toJsonString f (.arr ((q.rows.take k).map (rowToJson t q.columns)))) := by
    rw [← htext]
    unfold jsonMetric buildMetric
    rw [hmode]
  have hflag : (jsonMetric t f q params totalTimeMs).jsonTruncated =
      (executeJsonMode t f q params.maxRows.toNat params.maxJsonSizeBytes.toNat).truncated := by
    unfold jsonMetric buildMetric
    rw [hmode]
  refine ⟨(q.rows.take k).map (rowToJson t q.columns),
    { text := hresult, only := ?_, rowCount := ?_, maxRows := by omega, rows := ?_, cells := ?_,
      complete := ?_, size := ?_, truncated := ?_ }⟩
  · intro j hj
    exact toJsonString_injective (Option.some.inj (hj.symm.trans hresult))
  · unfold jsonMetric buildMetric
    rw [hmode]
    rfl
  · rw [hlen, List.forall₂_map_right_iff, List.forall₂_same]
    exact fun row _ => isOfRow_rowToJson q.columns row
  · intro hcolumns
    rw [hlen, List.forall₂_map_right_iff, List.forall₂_same]
    exact fun row hrow => showsRow_rowToJson hcolumns (q.width row (List.mem_of_mem_take hrow))
  · rwa [hlen, hflag]
  · intro hsize
    rw [← htext]
    exact (executeJsonMode_fits t f q params.maxRows.toNat hsize).1
  · intro hsize htrunc
    rw [hflag] at htrunc
    rw [hlen]
    refine hk.lt_of_ne ?_
    rintro rfl
    refine (executeJsonMode_fits t f q params.maxRows.toNat hsize).2 htrunc ?_
    rw [htext, ← List.take_eq_take_min]

def numbersQuery : SqlQueryParams :=
  ⟨"SELECT n FROM t", "localhost/db", "postgresql", none, none, 10, none, .json, 65536, 1⟩

def numbersResult : QueryResult where
  columns := ["n"]
  rows := [[.i8 1], [.i8 2]]
  width := by decide

/-- Two columns of one name. -/
def pairsResult : QueryResult where
  columns := ["n", "n"]
  rows := [[.i8 1, .i8 2]]
  width := by decide

def noText : ValueText := ⟨fun _ => "", fun _ => ""⟩

/-- A row more than the limit, and the metric does not say that it is truncated; two columns of one
name, of which one is shown; and a limit that an empty array exceeds. -/
theorem jsonMetric_rowLost :
    (validateSqlQuery numbersQuery = .ok () ∧
      (jsonMetric noText ratioText numbersResult numbersQuery 0).jsonTruncated = false ∧
      ∀ objects, (jsonMetric noText ratioText numbersResult numbersQuery 0).jsonResult =
          some (toJsonString ratioText (.arr objects)) →
        ¬ List.Forall₂ (ShowsRow noText numbersResult.columns) numbersResult.rows objects) ∧
    ((jsonMetric noText ratioText pairsResult numbersQuery 0).jsonTruncated = false ∧
      ∀ objects, (jsonMetric noText ratioText pairsResult numbersQuery 0).jsonResult =
          some (toJsonString ratioText (.arr objects)) →
        ¬ List.Forall₂ (ShowsRow noText pairsResult.columns) pairsResult.rows objects) ∧
    validateSqlQuery { numbersQuery with maxJsonSizeBytes := 1 } = .ok () ∧
      (jsonMetric noText ratioText numbersResult { numbersQuery with maxJsonSizeBytes := 1 }
        0).jsonResult.map String.utf8ByteSize = some 2 := by
  refine ⟨⟨by decide, by decide +kernel, ?_⟩, ⟨by decide +kernel, ?_⟩, by decide,
    by decide +kernel⟩
  · intro objects h hrows
    have hone : (jsonMetric noText ratioText numbersResult numbersQuery 0).jsonResult =
        some (toJsonString ratioText (.arr [.obj [("n", .int 1)]])) := by decide +kernel
    have := Json.arr.inj (toJsonString_injective (Option.some.inj (h.symm.trans hone)))
    rw [this] at hrows
    cases hrows with
    | cons hfirst hrest => cases hrest
  · intro objects h hrows
    have hone : (jsonMetric noText ratioText pairsResult numbersQuery 0).jsonResult =
        some (toJsonString ratioText (.arr [.obj [("n", .int 2)]])) := by decide +kernel
    have := Json.arr.inj (toJsonString_injective (Option.some.inj (h.symm.trans hone)))
    rw [this] at hrows
    cases hrows with
    | cons hfirst hrest =>
      obtain ⟨fields, hfields, hperm⟩ := hfirst
      rw [← Json.obj.inj hfields] at hperm
      cases hperm.length_eq

/-- Of two rows the limit of one is shown, with its cell. -/
theorem jsonMetric_shows_numbers :
    ∃ objects, MetricShows noText ratioText numbersResult numbersQuery
        (jsonMetric noText ratioText numbersResult numbersQuery 0) objects ∧
      objects.length = 1 ∧
      List.Forall₂ (ShowsRow noText ["n"]) [[.i8 1]] objects := by
  obtain ⟨objects, hshows⟩ :=
    jsonMetric_shows noText ratioText numbersResult numbersQuery 0 rfl
  have hone : objects.length = 1 := hshows.complete (by decide +kernel)
  have hcells := hshows.cells (by decide)
  rw [hone] at hcells
  exact ⟨objects, hshows, hone, hcells⟩

end LinkSense
