import Mathlib.Data.Finset.Card
import Mathlib.Data.List.AList
import Mathlib.Data.List.Sort

/-!
# Folders of files

A folder is a finite map from names to contents.  A write is done, or fails and leaves what it
leaves; a removal is done, or the file is stuck; a folder is listed in any order.

    a write or a removal changes the files it names only       (lookup_write_ne, lookup_removeEach)
    at most `k` elements are in `p`, and they are newer than the others →
      none of them is removed when the `k` newest are kept                        (not_mem_oldest)
    what rotation leaves are the `k` newest, also of what earlier rotations removed
                                                      (isNewest_oldest, HasNewest.isNewest)
-/

namespace Files

variable {ν γ α : Type*}

/-! ## Folders -/

abbrev Folder (ν γ : Type*) := AList fun _ : ν => γ

/-- How a write ends; when it fails, the file is as before, or has the content `left`. -/
inductive Outcome (γ : Type*) where
  | done
  | failed (left : Option γ)

def Outcome.isDone : Outcome γ → Bool
  | .done => true
  | .failed _ => false

/-- The order in which a folder is listed. -/
structure Listing (ν : Type*) where
  order : List ν → List ν
  perm : ∀ names, (order names).Perm names

def Listing.plain : Listing ν := ⟨id, fun _ => .refl _⟩

variable [DecidableEq ν]

def write (outcome : Outcome γ) (name : ν) (content : γ) (d : Folder ν γ) : Folder ν γ :=
  match outcome with
  | .done => d.insert name content
  | .failed (some left) => d.insert name left
  | .failed none => d

/-- Remove the files that are not stuck. -/
def removeEach (stuck : ν → Bool) (names : List ν) (d : Folder ν γ) : Folder ν γ :=
  names.foldl (fun d name => if stuck name then d else d.erase name) d

/-! ## Lemmas -/

theorem lookup_write_ne (outcome : Outcome γ) {name other : ν} (content : γ) (d : Folder ν γ)
    (h : other ≠ name) : (write outcome name content d).lookup other = d.lookup other := by
  unfold write
  split
  · exact AList.lookup_insert_ne h
  · exact AList.lookup_insert_ne h
  · rfl

theorem lookup_removeEach (stuck : ν → Bool) {names : List ν} (d : Folder ν γ) {name : ν}
    (h : name ∉ names) : (removeEach stuck names d).lookup name = d.lookup name := by
  induction names generalizing d with
  | nil => rfl
  | cons first rest ih =>
    rw [List.mem_cons, not_or] at h
    have htail := ih (if stuck first then d else d.erase first) h.2
    rw [removeEach, List.foldl_cons]
    refine htail.trans ?_
    split
    · rfl
    · exact AList.lookup_erase_ne h.1

theorem mem_of_mem_removeEach {stuck : ν → Bool} {names : List ν} {d : Folder ν γ} {name : ν}
    (h : name ∈ removeEach stuck names d) : name ∈ d := by
  induction names generalizing d with
  | nil => exact h
  | cons first rest ih =>
    rw [removeEach, List.foldl_cons] at h
    have hd := ih h
    split at hd
    · exact hd
    · exact (AList.mem_erase.1 hd).2

/-- When no file is stuck, all of them go. -/
theorem mem_removeEach_iff {stuck : ν → Bool} (hstuck : ∀ name, stuck name = false)
    {names : List ν} {d : Folder ν γ} {name : ν} :
    name ∈ removeEach stuck names d ↔ name ∈ d ∧ name ∉ names := by
  induction names generalizing d with
  | nil => simp [removeEach]
  | cons first rest ih =>
    rw [removeEach, List.foldl_cons, hstuck, if_neg Bool.false_ne_true]
    refine (ih (d := d.erase first)).trans ?_
    rw [AList.mem_erase, List.mem_cons, not_or]
    tauto

theorem lookup_of_mem_removeEach {stuck : ν → Bool} (hstuck : ∀ name, stuck name = false)
    {names : List ν} {d : Folder ν γ} {name : ν} (h : name ∈ removeEach stuck names d) :
    (removeEach stuck names d).lookup name = d.lookup name :=
  lookup_removeEach stuck d ((mem_removeEach_iff hstuck).1 h).2

/-- What is the case for a name is so in any folder with the same file under it. -/
theorem mem_iff_of_lookup {d d' : Folder ν γ} {name : ν} (h : d'.lookup name = d.lookup name) :
    name ∈ d' ↔ name ∈ d := by
  rw [← AList.lookup_isSome, h, AList.lookup_isSome]

/-! ## Rotation -/

/-- The elements that go when the `k` newest are kept. -/
def oldest (time : α → Nat) (k : Nat) (l : List α) : List α :=
  (l.insertionSort fun x y => time x ≤ time y).take (l.length - k)

theorem mem_of_mem_oldest {time : α → Nat} {k : Nat} {l : List α} {x : α}
    (h : x ∈ oldest time k l) : x ∈ l :=
  (List.mem_insertionSort _).1 (List.mem_of_mem_take h)

/-- **Rotation keeps the newest**: at most `k` elements are in `p`, and they are newer than the
others. -/
theorem not_mem_oldest {time : α → Nat} {k : Nat} {l : List α} {p : α → Bool}
    (hcount : l.countP p ≤ k)
    (hnewer : ∀ x ∈ l, ∀ y ∈ l, p x = true → p y = false → time y < time x) {x : α}
    (hp : p x = true) : x ∉ oldest time k l := by
  intro hx
  let r : α → α → Prop := fun x y => time x ≤ time y
  have hperm : (l.insertionSort r).Perm l := List.perm_insertionSort r l
  have hsorted : (l.insertionSort r).Pairwise r := by
    have : Std.Total r := ⟨fun x y => Nat.le_total (time x) (time y)⟩
    have : IsTrans α r := ⟨fun x y z => Nat.le_trans⟩
    exact List.pairwise_insertionSort r l
  have hlength : (l.insertionSort r).length = l.length := hperm.length_eq
  have hsplit := List.take_append_drop (l.length - k) (l.insertionSort r)
  -- what is kept is at least as new as `x`, so it is in `p` too
  have hkept : ∀ y ∈ (l.insertionSort r).drop (l.length - k), p y = true := by
    intro y hy
    by_contra hpy
    rw [← hsplit, List.pairwise_append] at hsorted
    have hle : time x ≤ time y := hsorted.2.2 x hx y hy
    have hlt := hnewer x (mem_of_mem_oldest hx) y
      (hperm.mem_iff.1 (List.mem_of_mem_drop hy)) hp (by simpa using hpy)
    omega
  have hone : 1 ≤ (oldest time k l).countP p := List.countP_pos_iff.2 ⟨x, hx, hp⟩
  have hpos : 0 < (oldest time k l).length := List.length_pos_of_mem hx
  have hsum : l.countP p =
      (oldest time k l).countP p + ((l.insertionSort r).drop (l.length - k)).countP p := by
    calc l.countP p = (l.insertionSort r).countP p := (hperm.countP_eq p).symm
      _ = _ := by rw [← List.countP_append]; exact congrArg _ hsplit.symm
  rw [List.countP_eq_length.2 hkept, List.length_drop, hlength] at hsum
  have hmin : (oldest time k l).length = min (l.length - k) l.length := by
    unfold oldest
    rw [List.length_take, hlength]
  omega

theorem length_oldest (time : α → Nat) (k : Nat) (l : List α) :
    (oldest time k l).length = l.length - k := by
  unfold oldest
  rw [List.length_take, List.length_insertionSort]
  omega

/-- What goes is no newer than what stays. -/
theorem le_of_mem_oldest {time : α → Nat} {k : Nat} {l : List α} {x y : α}
    (hx : x ∈ oldest time k l) (hy : y ∈ l) (hstay : y ∉ oldest time k l) : time x ≤ time y := by
  let r : α → α → Prop := fun x y => time x ≤ time y
  have hsorted : (l.insertionSort r).Pairwise r := by
    have : Std.Total r := ⟨fun x y => Nat.le_total (time x) (time y)⟩
    have : IsTrans α r := ⟨fun x y z => Nat.le_trans⟩
    exact List.pairwise_insertionSort r l
  have hmem : y ∈ l.insertionSort r := (List.mem_insertionSort _).2 hy
  rw [← List.take_append_drop (l.length - k) (l.insertionSort r)] at hsorted hmem
  rw [List.pairwise_append] at hsorted
  rcases List.mem_append.1 hmem with hy' | hy'
  · exact absurd hy' hstay
  · exact hsorted.2.2 x hx y hy'

/-! ### The newest of a set -/

/-- The `k` most recent of `all`, or all of them. -/
structure IsNewest (time : α → Nat) (k : Nat) (all kept : Finset α) : Prop where
  subset : kept ⊆ all
  recent : ∀ x ∈ kept, ∀ y ∈ all, y ∉ kept → time y ≤ time x
  card : kept.card = min k all.card

/-- The `k` most recent of `all` at least, and nothing that is older than what is missing. -/
structure HasNewest (time : α → Nat) (k : Nat) (all kept : Finset α) : Prop where
  subset : kept ⊆ all
  recent : ∀ x ∈ kept, ∀ y ∈ all, y ∉ kept → time y ≤ time x
  enough : min k all.card ≤ kept.card

variable {time : α → Nat} {k : Nat} {all kept kept' : Finset α}

theorem IsNewest.hasNewest (h : IsNewest time k all kept) : HasNewest time k all kept :=
  ⟨h.subset, h.recent, h.card.ge⟩

theorem HasNewest.refl (all : Finset α) : HasNewest time k all all where
  subset := subset_rfl
  recent := fun _ _ _ hy hn => absurd hy hn
  enough := min_le_right _ _

variable [DecidableEq α]

/-- One more, which is the most recent. -/
theorem HasNewest.insert (h : HasNewest time k all kept) {x : α}
    (hx : ∀ y ∈ all, time y ≤ time x) :
    HasNewest time k (insert x all) (insert x kept) where
  subset := Finset.insert_subset_insert x h.subset
  recent := by
    intro z hz y hy hn
    rw [Finset.mem_insert, not_or] at hn
    have hall : y ∈ all := (Finset.mem_insert.1 hy).resolve_left hn.1
    rcases Finset.mem_insert.1 hz with rfl | hz
    · exact hx y hall
    · exact h.recent z hz y hall hn.2
  enough := by
    have henough := h.enough
    by_cases hall : x ∈ all
    · rw [Finset.insert_eq_of_mem hall]
      exact henough.trans (Finset.card_le_card (Finset.subset_insert x kept))
    · rw [Finset.card_insert_of_notMem hall,
        Finset.card_insert_of_notMem fun hk => hall (h.subset hk)]
      omega

/-- **The newest of what was left are the newest of all.** -/
theorem HasNewest.isNewest (h : HasNewest time k all kept) (h' : IsNewest time k kept kept') :
    IsNewest time k all kept' where
  subset := h'.subset.trans h.subset
  recent := by
    intro x hx y hy hn
    by_cases hk : y ∈ kept
    · exact h'.recent x hx y hk hn
    · exact h.recent x (h'.subset hx) y hy hk
  card := by
    have hle := Finset.card_le_card h.subset
    have henough := h.enough
    rw [h'.card]
    omega

/-- **Rotation leaves the `k` newest.** -/
theorem isNewest_oldest {l : List α} (hnodup : l.Nodup) :
    IsNewest time k l.toFinset (l.toFinset \ (oldest time k l).toFinset) where
  subset := Finset.sdiff_subset
  recent := by
    intro x hx y hy hn
    rw [Finset.mem_sdiff, List.mem_toFinset, List.mem_toFinset] at hx hn
    rw [not_and, not_not] at hn
    have hy := List.mem_toFinset.1 hy
    exact le_of_mem_oldest (hn hy) hx.1 hx.2
  card := by
    have hsub : (oldest time k l).toFinset ⊆ l.toFinset := by
      intro x hx
      rw [List.mem_toFinset] at hx ⊢
      exact mem_of_mem_oldest hx
    have hgone : (oldest time k l).Nodup :=
      ((List.perm_insertionSort _ l).nodup_iff.2 hnodup).sublist (List.take_sublist _ _)
    rw [Finset.card_sdiff_of_subset hsub, List.toFinset_card_of_nodup hnodup,
      List.toFinset_card_of_nodup hgone, length_oldest]
    omega

end Files
